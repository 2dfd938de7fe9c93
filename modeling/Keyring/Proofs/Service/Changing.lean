import Keyring.Proofs.Config.Options
import Keyring.Proofs.Quiet
import Keyring.Proofs.Service.Operation
import Keyring.Proofs.Service.Trace

/-!
# What the errors of a configuration tell

Collaborators may fail with errors of any kind.  The service puts each into the kind that belongs to
the call that failed, so that the kind of the error that a change of the configuration ends in tells
how far the change got.

* `Late` : the kinds of the errors that may come after something was written, with what each tells of
  the calls before it;
* `Tells` : these, and the kinds of the errors before anything is written;
* `Fails` : an act fails only with errors that tell such things;
* `putBack_fails` : putting a container back does not take from what its cause tells;
* `load_tells`, `change_tells` : what the errors of loading and of changing tell.
-/

namespace Keyring

/-- An error is of the kind that it was put into. -/
theorem Error.kind_classify (wrap : String → Error) {kind : Kind}
    (h : ∀ text, (wrap text).kind = kind) (e : Error) : (e.classify wrap).kind = kind := by
  unfold classify
  split
  · rename_i he
    rw [he, h]
  · exact h _

namespace Service

open Operation

variable {W α β : Type} {c : Collaborators W}

/-- No call writes. -/
def NoWrite (steps : List Step) : Prop := ∀ x ∈ steps, x.call.writes = false

theorem NoWrite.nil : NoWrite [] := fun _ hx => by cases hx

theorem NoWrite.single {x : Step} (h : x.call.writes = false) : NoWrite [x] :=
  List.forall_mem_singleton.2 h

theorem NoWrite.append {steps new : List Step} (h : NoWrite steps) (hnew : NoWrite new) :
    NoWrite (steps ++ new) :=
  List.forall_mem_append.2 ⟨h, hnew⟩

/-- What an error of some kind tells of the calls before it, if something may have been written. -/
inductive Late : Error.Kind → List Step → Prop where
  | load {steps : List Step} : Late .storeLoad steps
  | encrypt {steps : List Step} : Late .secretEncryption steps
  | persist {steps : List Step} : Late .storePersist steps
  /-- The configuration was refused, and whatever was stored from there on was taken. -/
  | configure {serviceId : Option String} {properties : Config.Properties} {refusal : Error}
    (before : List Step) {after : List Step}
    (h : ∀ x ∈ after, ∃ path password aliases, x = ⟨.store path password aliases, none⟩) :
    Late .configurationStore
      (before ++ ⟨.updateConfiguration serviceId properties, some refusal⟩ :: after)

namespace Late

variable {kind : Error.Kind} {steps : List Step}

/-- Calls before those that an error tells of. -/
theorem prepend (h : Late kind steps) (earlier : List Step) : Late kind (earlier ++ steps) := by
  cases h with
  | load => exact .load
  | encrypt => exact .encrypt
  | persist => exact .persist
  | configure before h =>
    rw [← List.append_assoc]
    exact .configure (earlier ++ before) h

/-- Storing a container behind the calls that an error tells of. -/
theorem append_stored (h : Late kind steps) (path : Files.Path) (password : Password)
    (aliases : List String) : Late kind (steps ++ [⟨.store path password aliases, none⟩]) := by
  cases h with
  | load => exact .load
  | encrypt => exact .encrypt
  | persist => exact .persist
  | configure before h =>
    rw [List.append_assoc, List.cons_append]
    exact .configure before
      (List.forall_mem_append.2 ⟨h, List.forall_mem_singleton.2 ⟨path, password, aliases, rfl⟩⟩)

end Late

/-- What an error of some kind tells of the calls before it. -/
inductive Tells : Error.Kind → List Step → Prop where
  | early {kind : Error.Kind} {steps : List Step}
    (hkind : kind ∈ [.invalidConfiguration, .notInitialized, .secretDecryption])
    (h : NoWrite steps) : Tells kind steps
  | late {kind : Error.Kind} {steps : List Step} (h : Late kind steps) : Tells kind steps

namespace Tells

variable {kind : Error.Kind} {steps earlier : List Step}

theorem prepend (h : Tells kind steps) (hearlier : NoWrite earlier) :
    Tells kind (earlier ++ steps) := by
  cases h with
  | early hkind h => exact .early hkind (hearlier.append h)
  | late h => exact .late (h.prepend earlier)

theorem kind_mem (h : Tells kind steps) :
    kind ∈ [.invalidConfiguration, .notInitialized, .secretDecryption, .storeLoad,
      .secretEncryption, .storePersist, .configurationStore] := by
  cases h with
  | early hkind _ => exact List.mem_append_left _ hkind
  | late h => cases h <;> decide

theorem noWrite (h : Tells kind steps)
    (hkind : kind ∈ [.invalidConfiguration, .invalidArgument, .notInitialized, .secretDecryption]) :
    NoWrite steps := by
  cases h with
  | early _ h => exact h
  | late h => cases h <;> exact absurd hkind (by decide)

theorem refused (h : Tells .configurationStore steps) :
    ∃ before serviceId properties refusal after,
      steps = before ++ ⟨.updateConfiguration serviceId properties, some refusal⟩ :: after ∧
      ∀ x ∈ after, ∃ path password aliases, x = ⟨.store path password aliases, none⟩ := by
  cases h with
  | early hkind _ => exact absurd hkind (by decide)
  | late h =>
    cases h with
    | configure before h => exact ⟨before, _, _, _, _, rfl, h⟩

end Tells

/-! ### Acts that fail with errors that tell -/

/-- If a result is an error, its kind and the calls made satisfy `p`. -/
def IfError (p : Error.Kind → List Step → Prop) (r : Except Error α) (steps : List Step) : Prop :=
  match r with
  | .ok _ => True
  | .error e => p e.kind steps

theorem IfError.classify {p : Error.Kind → List Step → Prop} {wrap : String → Error}
    {kind : Error.Kind} {steps : List Step} (hwrap : ∀ text, (wrap text).kind = kind) (e : Error)
    (h : p kind steps) : IfError p (.error (e.classify wrap) : Except Error α) steps := by
  rw [IfError, Error.kind_classify wrap hwrap]
  exact h

/-- The errors that an act fails with tell of the calls that it made. -/
def Fails (p : Error.Kind → List Step → Prop) (act : Act (Traced W) α) : Prop :=
  act.Traces (IfError p)

namespace Fails

variable {p : Error.Kind → List Step → Prop}

theorem pure (a : α) : Fails p (Pure.pure a : Act (Traced W) α) := Act.Traces.pure trivial

theorem report (level : Level) (message : String) (fields : List (String × String)) :
    Fails p (Act.report level message fields : Act (Traced W) Unit) := Act.Traces.report trivial

/-- An act behind calls that the errors of the act do not contradict. -/
theorem behind {act : Act (Traced W) α} {earlier : List Step}
    {p' : Error.Kind → List Step → Prop} (h : Fails p act)
    (hp : ∀ kind steps, p kind steps → p' kind (earlier ++ steps)) :
    act.Traces fun r new => IfError p' r (earlier ++ new) :=
  h.imp fun r steps hr => match r with
    | .ok _ => trivial
    | .error _ => hp _ steps hr

theorem tells {act : Act (Traced W) α} (h : Fails Late act) : Fails Tells act :=
  Act.Traces.imp h fun r _ hr => match r with
    | .ok _ => trivial
    | .error _ => .late hr

/-- What may follow an act whose errors tell something must fail late. -/
theorem bind_late {act : Act (Traced W) α} {f : α → Act (Traced W) β} (h : Fails Tells act)
    (hf : ∀ a, Fails Late (f a)) : Fails Tells (act >>= f) :=
  Act.Traces.bind h (fun a steps _ => (hf a).behind fun _ _ h => .late (h.prepend steps))
    fun _ _ h => h

theorem bind {act : Act (Traced W) α} {f : α → Act (Traced W) β} (h : Fails Late act)
    (hf : ∀ a, Fails Late (f a)) : Fails Late (act >>= f) :=
  Act.Traces.bind h (fun a steps _ => (hf a).behind fun _ _ h => h.prepend steps) fun _ _ h => h

theorem freshPassword : Fails p (Sealing.freshPassword : Act (Traced W) Password) := fun _ =>
  ⟨[], (List.append_nil _).symm, trivial⟩

/-- An act whose errors are all put into one kind. -/
theorem classified {q : Except Error α → List Step → Prop} {act : Act (Traced W) α}
    {wrap : String → Error} {kind : Error.Kind} (hact : act.Traces q)
    (hwrap : ∀ text, (wrap text).kind = kind) (h : ∀ steps, p kind steps) :
    Fails p (Act.mapError (.classify wrap) act) :=
  Act.Traces.mapError hact (fun _ _ _ => trivial) fun e steps _ => .classify hwrap e (h steps)

end Fails

/-! ### Going over to a configuration -/

/-- Decrypting a password is one call, which does not write. -/
theorem plainPassword_traces (o : Config.Options) :
    (plainPassword c.traced o).Traces fun r steps =>
      NoWrite steps ∧ ∀ e, r = .error e → e.kind = .secretDecryption := by
  refine .mapError (.make (.decrypt o.password) (c.cipher.decrypt o.password)) ?_ ?_
  · rintro password _ rfl
    exact ⟨.single rfl, fun _ h => by cases h⟩
  · rintro e _ rfl
    refine ⟨.single rfl, fun e' he => ?_⟩
    obtain rfl := Except.error.inj he
    exact Error.kind_classify .secretDecryption (fun _ => rfl) e

/-- Nothing is written when a password does not decrypt. -/
theorem Fails.bind_plainPassword {o : Config.Options} {f : Password → Act (Traced W) α}
    (hf : ∀ password, Fails Tells (f password)) : Fails Tells (plainPassword c.traced o >>= f) :=
  Act.Traces.bind (plainPassword_traces o)
    (fun password _ h => (hf password).behind fun _ _ htells => htells.prepend h.1)
    fun e _ h => .early (by simp [h.2 e rfl]) h.1

theorem reprotect_fails (container : Container) (o : Config.Options) (old new : Password) :
    Fails Late (reprotect c.traced container o old new) := by
  have hquiet : ((Container.reprotect old new).onCopy container :
      Act (Traced W) Container).Traces fun _ _ => True :=
    .of_quiet (container.quiet_reprotect old new) fun _ => trivial
  exact .bind (.classified hquiet (fun _ => rfl) fun _ => .persist) fun k =>
    .bind (.classified (.make _ _) (fun _ => rfl) fun _ => .persist) fun _ => .pure k

/-- Putting a container back answers with the cause if the container is stored, and otherwise with
an error of its own. -/
theorem putBack_traces (container : Container) (path : Files.Path) (password : Password)
    (cause : Error) :
    (putBack c.traced container path password cause).Traces fun r steps =>
      ∃ e, r = .ok e ∧
        (e = cause ∧ steps = [⟨.store path password container.aliases, none⟩] ∨
          e.kind = .storePersist) := by
  unfold putBack
  refine .tryCatch (p := fun r steps => match r with
    | .ok e => e = cause ∧ steps = [⟨.store path password container.aliases, none⟩]
    | .error _ => True) (.bind (.make _ _) (fun _ steps h => ?_) fun _ _ _ => trivial) ?_ ?_
  · exact Act.Traces.pure ⟨rfl, (List.append_nil steps).trans h⟩
  · exact fun e _ h => ⟨e, rfl, .inl h⟩
  · exact fun e _ _ => .bind_report (.pure ⟨_, rfl, .inr rfl⟩)

/-- Putting a container back does not change what the error tells that it was put back for: the
container is stored behind the calls so far, or the error becomes one of its own. -/
theorem putBack_fails {container : Container} {path : Files.Path} {password : Password}
    {cause : Error} {steps : List Step} (h : Late cause.kind steps) :
    (do throw (← putBack c.traced container path password cause) : Act (Traced W) α).Traces
      fun r new => IfError Late r (steps ++ new) := by
  refine .bind (putBack_traces container path password cause) ?_ fun _ _ ⟨_, he, _⟩ => by cases he
  rintro _ _ ⟨e, he, hcause⟩
  obtain rfl := Except.ok.inj he
  refine .throw ?_
  rw [IfError, List.append_nil]
  rcases hcause with ⟨rfl, rfl⟩ | hkind
  · exact h.append_stored ..
  · rw [hkind]
    exact .persist

/-- A change that fails late is undone by putting a container back. -/
theorem Fails.tryCatch_putBack {act : Act (Traced W) α} (h : Fails Late act)
    (container : Container) (path : Files.Path) (password : Password) :
    Fails Late (tryCatch act fun e => do
      throw (← putBack c.traced container path password e)) :=
  Act.Traces.tryCatch h (fun _ _ h => h) fun _ _ h => putBack_fails h

theorem randomize_fails {p : Config.Properties} {o : Config.Options}
    (ho : Config.Options.ofProperties p = .ok o) (container : Container) (password : Password) :
    Fails Late (randomize c.traced o container password) := by
  unfold randomize
  split
  · refine .bind .freshPassword fun new => ?_
    refine .bind (.classified (.make _ _) (fun _ => rfl) fun _ => .encrypt) fun secret =>
      .bind (reprotect_fails container o password new) fun reprotected => .bind ?_ fun _ =>
        .bind (.report _ _ _) fun _ => ?_
    · refine Act.Traces.tryCatch (.make _ _) (fun _ _ _ => trivial) ?_
      rintro e _ rfl
      refine .bind_report (putBack_fails ?_)
      -- the refused configuration is the only call of its kind, and nothing is stored behind it yet
      have hkind : (e.classify .configurationStore).kind = .configurationStore :=
        Error.kind_classify .configurationStore (fun _ => rfl) e
      rw [hkind]
      exact .configure [] fun _ h => by cases h
    · -- an error here would be one of an invalid configuration, behind everything that was written
      rw [Config.Options.ofProperties_withPassword ho]
      exact .bind (Act.Traces.pure trivial) fun _ => .pure _
  · exact .pure _

/-! ### Before anything is asked of the collaborators -/

theorem Made.early {s : Session (Traced W)} {e : Error}
    (h : e.kind ∈ [.invalidConfiguration, .notInitialized, .secretDecryption]) :
    Made s (IfError Tells) (.error e : Except Error α) s :=
  .of_continues (.refl s) (.early h .nil)

/-- A configuration that does not resolve is refused before any call. -/
theorem bind_resolve_tells {properties : Option Config.Properties}
    {f : Config.Options → Operation (Traced W) α} {st : State} {s : Session (Traced W)}
    (hf : ∀ p o, Config.Options.ofProperties p = .ok o →
      (f o).Ensures st s fun r _ t => Made s (IfError Tells) r t) :
    Ensures (liftM (Config.Options.resolve properties) >>= f) st s
      fun r _ t => Made s (IfError Tells) r t := by
  refine .bind_lift (fun o ho => ?_) fun e he => .early ?_
  · obtain ⟨p, -, hp⟩ := Config.Options.resolve_eq_ok_iff.1 ho
    exact hf p o hp
  · rw [Config.Options.kind_of_resolve he]
    decide

section

variable (hcontains : ∀ path s, ∃ there, (c.backend.contains path s).1 = .ok there)

include hcontains

theorem openContainer_fails (o : Config.Options) (password : Password) :
    Fails Late (openContainer c.traced o password) := by
  unfold openContainer
  -- this call is the only one whose errors are not put into a kind, so it must not fail
  refine Act.Traces.bind (p := fun r _ => ∃ there, r = .ok there)
    (fun s => ⟨_, rfl, hcontains o.path _⟩) (fun there steps _ => ?_) fun e _ he => by
      cases he.choose_spec
  refine Fails.behind (p := Late) ?_ fun _ _ h => h.prepend steps
  split
  · exact .classified (.make _ _) (fun _ => rfl) fun _ => .load
  · exact .bind (.report _ _ _) fun _ =>
      .bind (.classified (.make _ _) (fun _ => rfl) fun _ => .load) fun _ => .pure _

/-- **What an error of loading tells.** -/
theorem load_tells {p : Config.Properties} {o : Config.Options}
    (ho : Config.Options.ofProperties p = .ok o) : Fails Tells (load c.traced o) :=
  .bind_plainPassword fun password => .tells <|
    .bind (openContainer_fails hcontains o password) fun container =>
      .bind (randomize_fails ho container password) fun store =>
        .bind (.report _ _ _) fun _ => .pure store

theorem moveContainer_tells (current : LoadedStore) (o : Config.Options) (password : Password) :
    Fails Tells (moveContainer c.traced current o password) := by
  unfold moveContainer
  split
  · exact .tells <| .bind (.report _ _ _) fun _ =>
      .bind (openContainer_fails hcontains o password) fun _ => .pure _
  · split
    · refine .bind_plainPassword fun old => .tells ?_
      split
      · exact .pure _
      · exact .bind (.report _ _ _) fun _ => .bind (reprotect_fails _ _ _ _) fun _ => .pure _
    · exact .pure _

/-- **What an error of going over to another configuration tells.** -/
theorem change_tells {p : Config.Properties} {o : Config.Options}
    (ho : Config.Options.ofProperties p = .ok o) (current : LoadedStore) :
    Fails Tells (change c.traced current o) := by
  refine .bind_plainPassword fun password =>
    .bind_late (moveContainer_tells hcontains current o password) fun ⟨container, old⟩ => ?_
  -- the container in force was stored under another password if there is an old one, and is put back
  cases old with
  | none => exact randomize_fails ho container password
  | some old => exact .tryCatch_putBack (randomize_fails ho container password) _ _ old

/-! ### Starting and changing -/

theorem changeTo_tells {p : Config.Properties} {o : Config.Options}
    (ho : Config.Options.ofProperties p = .ok o) (st : State) (s : Session (Traced W)) :
    (changeTo c.traced o).Ensures st s fun r _ t => Made s (IfError Tells) r t := by
  unfold changeTo
  refine .bind_loadedStore (fun current _ => ?_) fun _ => .early (by decide)
  split
  · exact .perform (.report fun t ht => .of_continues ht trivial)
  · exact .bind_perform (change_tells hcontains ho current s)
      (fun _ _ ⟨steps, ht, _⟩ => .setState ⟨steps, ht, trivial⟩) fun _ _ ht => ht

theorem reconfigure_tells (properties : Option Config.Properties) (st : State)
    (s : Session (Traced W)) :
    (reconfigure c.traced properties).Ensures st s fun r _ t => Made s (IfError Tells) r t :=
  bind_resolve_tells fun _ _ hp => changeTo_tells hcontains hp st s

theorem activate_tells (properties : Option Config.Properties) (st : State)
    (s : Session (Traced W)) :
    (activate c.traced properties).Ensures st s fun r _ t => Made s (IfError Tells) r t := by
  refine bind_resolve_tells fun p o hp => .bind_state ?_
  cases st with
  | closed => exact .early (by decide)
  | loaded _ => exact changeTo_tells hcontains hp _ s
  | uninitialized =>
    exact .bind_perform (load_tells hcontains hp s)
      (fun _ _ ⟨steps, ht, _⟩ => .setState ⟨steps, ht, trivial⟩) fun _ _ ht => ht

end

end Service

end Keyring

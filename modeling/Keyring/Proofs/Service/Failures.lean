import Keyring.Proofs.Service.Atomicity
import Keyring.Proofs.Service.Changing
import Keyring.Proofs.Service.Ledger

/-!
# How far a failed command got

* `Filed` : how putting and removing an entry ends, by the calls that were made;
* `storeEntry_files`, `deleteEntry_files` : each of them ends so;
* `Command.failure_tells` : the kind of an error tells how far a command got.
-/

namespace Keyring.Service

open Operation

variable {W α β : Type} {c : Collaborators W}

/-! ### Putting and removing an entry -/

/-- How putting and removing an entry ends: before anything is written, with everything that is
written taken, or with the error of a container that is not stored. -/
inductive Filed : Except Error α → List Step → Prop where
  | unwritten {r : Except Error α} {steps : List Step} (h : NoWrite steps) : Filed r steps
  | stored {a : α} {steps : List Step} (h : ∀ x ∈ steps, x.call.writes = true → x.refusal = none) :
    Filed (.ok a) steps
  | refused {e : Error} {steps : List Step} (h : e.kind = .storePersist) : Filed (.error e) steps

namespace Filed

theorem map {r : Except Error α} {steps : List Step} (h : Filed r steps) (f : α → β) :
    Filed (r.map f) steps := by
  cases h with
  | unwritten h => exact .unwritten h
  | stored h => exact .stored h
  | refused h => exact .refused h

theorem prepend {r : Except Error α} {steps earlier : List Step} (h : Filed r steps)
    (hearlier : NoWrite earlier) : Filed r (earlier ++ steps) := by
  cases h with
  | unwritten h => exact .unwritten (hearlier.append h)
  | refused h => exact .refused h
  | stored h =>
    refine .stored (List.forall_mem_append.2 ⟨fun x hx hwrites => ?_, h⟩)
    rw [hearlier x hx] at hwrites
    cases hwrites

theorem noWrite {e : Error} {steps : List Step} (h : Filed (.error e : Except Error α) steps)
    (hkind : e.kind ∈ [.invalidConfiguration, .invalidArgument, .notInitialized, .secretDecryption]) :
    NoWrite steps := by
  cases h with
  | unwritten h => exact h
  | refused h =>
    rw [h] at hkind
    exact absurd hkind (by decide)

theorem of_refusal {r : Except Error α} {steps : List Step} {x : Step} (h : Filed r steps)
    (hx : x ∈ steps) (hwrites : x.call.writes = true) (hrefusal : x.refusal ≠ none) :
    ∃ e, r = .error e ∧ e.kind = .storePersist := by
  cases h with
  | unwritten h =>
    rw [h x hx] at hwrites
    cases hwrites
  | stored h => exact absurd (h x hx hwrites) hrefusal
  | refused h => exact ⟨_, rfl, h⟩

end Filed

/-- Calls were made, none of which writes. -/
def Looked (s t : Session (Traced W)) : Prop :=
  ∃ steps, t.world.steps = s.world.steps ++ steps ∧ NoWrite steps

instance : Course (Looked : Session (Traced W) → Session (Traced W) → Prop) where
  of_continues h := ⟨[], by rw [h.world, List.append_nil], .nil⟩
  trans := by
    rintro s t u ⟨steps, ht, hsteps⟩ ⟨new, hu, hnew⟩
    exact ⟨steps ++ new, by rw [hu, ht, List.append_assoc], hsteps.append hnew⟩

theorem Looked.made {s t : Session (Traced W)} (h : Looked s t) (r : Except Error α) :
    Made s Filed r t := by
  obtain ⟨steps, ht, hsteps⟩ := h
  exact ⟨steps, ht, .unwritten hsteps⟩

theorem Looked.made_after {s t u : Session (Traced W)} {r : Except Error α} (h : Looked s t)
    (hmade : Made t Filed r u) : Made s Filed r u := by
  obtain ⟨steps, ht, hsteps⟩ := h
  exact .after ht (hmade.imp fun _ hfiled => hfiled.prepend hsteps)

/-- An operation that ends as putting and removing an entry does. -/
def Files (op : Operation (Traced W) α) : Prop :=
  ∀ st s, op.Ensures st s fun r _ t => Made s Filed r t

theorem Files.of_readOnly {op : Operation (Traced W) α} (h : op.ReadOnly Looked) : Files op :=
  fun st s => (h st s).imp fun r _ _ ⟨_, ht⟩ => ht.made r

/-- Looking before an operation does not matter to how it ends. -/
theorem Files.look {op : Operation (Traced W) α} {f : α → Operation (Traced W) β}
    (h : op.ReadOnly Looked) (hf : ∀ a, Files (f a)) : Files (op >>= f) := fun st s =>
  .bind (h st s) (fun a st' t ⟨_, ht⟩ => (hf a st' t).imp fun _ _ _ hu => ht.made_after hu)
    fun _ _ _ ⟨_, ht⟩ => ht.made _

theorem Files.bind_pure {op : Operation (Traced W) α} (h : Files op) (f : α → β) :
    Files (op >>= fun a => Pure.pure (f a)) := fun st s =>
  .bind_pure ((h st s).imp fun _ _ _ ⟨steps, ht, hfiled⟩ => ⟨steps, ht, hfiled.map f⟩)

theorem looked_plainPassword (o : Config.Options) (s : Session (Traced W)) :
    (plainPassword c.traced o).Ensures s fun _ t => Looked s t :=
  (plainPassword_traces o s).imp fun _ _ ⟨steps, ht, hsteps, _⟩ => ⟨steps, ht, hsteps⟩

/-- A changed container is stored, or refused. -/
theorem commits_filed (store : LoadedStore) (container : Container) (password : Password)
    {s t : Session (Traced W)} (ht : Looked s t) :
    Commits c.traced store container password t fun r _ u => Made s Filed r u := by
  refine (Act.Traces.make (.store store.options.path password container.aliases)
    (c.backend.store container store.options.path password) t).imp ?_
  -- what is reported behind the call is no call
  rintro r u ⟨_, hu, rfl⟩ v hv
  rw [← hv.world] at hu
  cases r with
  | error e =>
    exact ht.made_after ⟨_, hu, .refused (Error.kind_classify .storePersist (fun _ => rfl) e)⟩
  | ok _ => exact ht.made_after ⟨_, hu, .stored (List.forall_mem_singleton.2 fun _ => rfl)⟩

theorem storeEntry_files (name : String) (entry : Entry) : Files (storeEntry c.traced name entry) := by
  intro st s
  cases st with
  | uninitialized | closed => exact (Course.refl Looked s).made _
  | loaded store =>
    refine storeEntry_ensures c.traced ((looked_plainPassword store.options s).imp fun r t ht => ?_)
    cases r with
    | error e => exact ht.made _
    | ok password =>
      intro stored u hu _
      exact commits_filed store _ password (Course.trans ht (Course.of_continues hu))

theorem setEntry_files (name : Option String) (entry : Option Entry) :
    Files (setEntry c.traced name entry) := by
  unfold setEntry
  refine .look (.required _ _) fun name => ?_
  split
  · exact fun _ s => (Course.refl Looked s).made _
  · exact .look (.required _ _) fun entry => storeEntry_files name entry

theorem deleteEntry_files (name : Option String) : Files (deleteEntry c.traced name) := by
  intro st s
  match name, st with
  | none, _ | some _, .uninitialized | some _, .closed => exact (Course.refl Looked s).made _
  | some name, .loaded store =>
    refine deleteEntry_ensures c.traced (fun _ _ ht => (Course.of_continues ht : Looked s _).made _)
      fun _ => (looked_plainPassword store.options s).imp fun r t ht => ?_
    cases r with
    | error e => exact ht.made _
    | ok password => exact commits_filed store _ password ht

theorem createKeyPair_files (name : String) (algorithm : Keys.KeyAlgorithm) (subject : String)
    (days : Nat) : Files (createKeyPair c.traced name algorithm subject days) := by
  unfold createKeyPair
  split
  · exact fun _ s => (Course.refl Looked s).made _
  · refine .look (.map _ .loadedStore) fun _ => ?_
    exact .look (.quiet (Keys.quiet_keyPair algorithm subject days)) fun e =>
      (storeEntry_files name _).bind_pure fun _ => e

/-! ### Every command -/

namespace Command

/-- The commands that start to serve a container or go over to another configuration. -/
def configures : Command → Bool
  | activate _ | reconfigure _ => true
  | _ => false

/-- The commands that put or remove an entry. -/
def edits : Command → Bool
  | setEntry .. | deleteEntry _ | createKeyPair .. => true
  | _ => false

theorem tells_run {command : Command} (h : command.configures)
    (hcontains : ∀ path s, ∃ there, (c.backend.contains path s).1 = .ok there) (st : State)
    (s : Session (Traced W)) :
    (command.run c.traced).Ensures st s fun r _ t => Made s (IfError Tells) r t := by
  cases command with
  | activate properties =>
    exact .bind_pure ((activate_tells hcontains properties st s).imp fun r _ _ hr => by
      cases r <;> exact hr)
  | reconfigure properties =>
    exact .bind_pure ((reconfigure_tells hcontains properties st s).imp fun r _ _ hr => by
      cases r <;> exact hr)
  | _ => cases h

/-- Every other command looks, or ends as putting and removing an entry does. -/
theorem files_run {command : Command} (h : command.configures = false) :
    Files (command.run c.traced) := by
  cases command with
  | activate | reconfigure => cases h
  | close =>
    refine .bind_pure ?_ _
    intro st s
    cases st <;> exact (Course.of_continues ⟨rfl, by simp⟩ : Looked s _).made _
  | setEntry name entry => exact (setEntry_files name entry).bind_pure _
  | deleteEntry name => exact (deleteEntry_files name).bind_pure _
  | createKeyPair name algorithm subject days =>
    exact (createKeyPair_files name algorithm subject days).bind_pure _
  | isActive | store | aliases | entry | entries | keyManagers | request =>
    refine .of_readOnly (readOnly_run c.traced (fun secret s => ?_) rfl)
    exact (Act.Traces.make (.decrypt secret) (c.cipher.decrypt secret) s).imp
      fun r t ⟨_, ht, hsteps⟩ => ⟨_, ht, hsteps ▸ .single rfl⟩

/-- **The kind of an error tells how far a command got**, whatever the errors of the collaborators,
as long as the backend answers whether there is a container.  `steps` are the calls that the command
made, each with the error that it was refused with. -/
theorem failure_tells
    (hcontains : ∀ path s, ∃ there, (c.backend.contains path s).1 = .ok there) {command : Command}
    {st st' : State} {s t : Session W} {r : Except Error Answer}
    (hrun : command.run c st s = ((r, st'), t)) :
    ∃ steps,
      command.run c.traced st (Traced.session s []) = ((r, st'), Traced.session t steps) ∧
      (command.configures → ∀ e, r = .error e →
        e.kind ∈ [.invalidConfiguration, .notInitialized, .secretDecryption, .storeLoad,
          .secretEncryption, .storePersist, .configurationStore]) ∧
      (∀ e, r = .error e →
        e.kind ∈ [.invalidConfiguration, .invalidArgument, .notInitialized, .secretDecryption] →
        ∀ x ∈ steps, x.call.writes = false) ∧
      (command.edits → ∀ x ∈ steps, x.call.stores = true → x.refusal ≠ none →
        ∃ e, r = .error e ∧ e.kind = .storePersist) ∧
      (command.configures → ∀ e, r = .error e → e.kind = .configurationStore →
        ∃ before serviceId properties refusal after,
          steps = before ++ ⟨.updateConfiguration serviceId properties, some refusal⟩ :: after ∧
          ∀ x ∈ after, ∃ path password aliases, x = ⟨.store path password aliases, none⟩) := by
  obtain ⟨steps, htraced⟩ := run_traced hrun
  refine ⟨steps, htraced, ?_⟩
  cases hconfigures : command.configures with
  | true =>
    have htells := tells_run hconfigures hcontains st (Traced.session s [])
    rw [Ensures, htraced] at htells
    obtain ⟨_, rfl, htells⟩ := htells
    have herror (e : Error) (he : r = .error e) : Tells e.kind steps := by
      subst he
      exact htells
    refine ⟨fun _ e he => (herror e he).kind_mem, fun e he => (herror e he).noWrite, ?_,
      fun _ e he hkind => (hkind ▸ herror e he).refused⟩
    -- no command does both
    cases command <;> simp [configures, edits] at hconfigures ⊢
  | false =>
    have hfiles := files_run (c := c) hconfigures st (Traced.session s [])
    rw [Ensures, htraced] at hfiles
    obtain ⟨_, rfl, hfiled⟩ := hfiles
    refine ⟨fun h => (Bool.false_ne_true h).elim, fun e he hkind => ?_,
      fun _ x hx hstores => hfiled.of_refusal hx (Call.writes_of_stores hstores),
      fun h => (Bool.false_ne_true h).elim⟩
    subst he
    exact hfiled.noWrite hkind

end Command

/-! ### A configuration that is refused -/

/-- A ledger with configurations that cannot be changed. -/
def Collaborators.unconfigurable : Collaborators Records :=
  { Collaborators.ledger with
    updateConfiguration := fun _ _ => throw (.invalidArgument "no such service") }

namespace Unconfigurable

def session : Session Records := ⟨fun _ => none, ⟨fun _ => 0, 0⟩, 0, []⟩

/-- An activation that creates a container and is to put it under a random password. -/
def command : Command := .activate (some (Ledger.properties "t|one" true))

def refused : (Except Error Answer × State) × Session Records :=
  command.run .unconfigurable .uninitialized session

theorem outcome_refused :
    refused.1 =
      (.error (.configurationStore "Invalid argument: no such service"), .uninitialized) := by
  decide +kernel

end Unconfigurable

/-- The refused configuration comes behind two containers that were stored, and the container that
was put back was taken. -/
theorem Command.failure_tells_refused :
    ∃ steps before serviceId properties refusal after,
      Unconfigurable.command.run Collaborators.unconfigurable.traced .uninitialized
          (Traced.session Unconfigurable.session []) =
        ((.error (.configurationStore "Invalid argument: no such service"), .uninitialized),
          Traced.session Unconfigurable.refused.2 steps) ∧
      steps = before ++ ⟨.updateConfiguration serviceId properties, some refusal⟩ :: after ∧
      ∀ x ∈ after, ∃ path password aliases, x = ⟨.store path password aliases, none⟩ := by
  have hrun : Unconfigurable.command.run .unconfigurable .uninitialized Unconfigurable.session =
      ((.error (.configurationStore "Invalid argument: no such service"), .uninitialized),
        Unconfigurable.refused.2) := by
    rw [← Unconfigurable.outcome_refused]
    rfl
  obtain ⟨steps, htraced, -, -, -, hrefused⟩ :=
    Command.failure_tells (fun _ _ => ⟨_, rfl⟩) hrun
  obtain ⟨before, serviceId, properties, refusal, after, hsteps, hafter⟩ :=
    hrefused rfl _ rfl rfl
  exact ⟨steps, before, serviceId, properties, refusal, after, htraced, hsteps, hafter⟩

end Keyring.Service

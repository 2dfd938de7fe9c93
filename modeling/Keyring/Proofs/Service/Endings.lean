import Keyring.Proofs.Config.Options
import Keyring.Proofs.Service.Atomicity

/-!
# How commands end

A command that fails leaves the state as it was, so two things say how it ends (`Ending`): what
holds after a success, and what holds after a failure.  Every command looks, closes, goes over to
other options or stores a changed container, and looks in between; `Endings` lists what has to be
known of these steps, and `Endings.run_ends` is the one rule for all commands.
-/

namespace Keyring.Service

open Operation

variable {W α β : Type} {c : Collaborators W}

/-- A call from `st` ends in `good` if it succeeds; if it fails, the state is as it was and `bad`
holds. -/
def Ending (st : State) (good : State → Session W → Prop) (bad : Session W → Prop)
    (r : Except Error α) (st' : State) (t : Session W) : Prop :=
  match r with
  | .ok _ => good st' t
  | .error _ => st' = st ∧ bad t

namespace Ending

variable {st st' : State} {s t : Session W} {good : State → Session W → Prop}
  {bad : Session W → Prop}

theorem of_look {r : Except Error α} (h : good st t ∧ bad t) : Ending st good bad r st t := by
  cases r with
  | ok _ => exact h.1
  | error _ => exact ⟨rfl, h.2⟩

/-- A call whose answer is changed. -/
theorem answer {op : Operation W α} (h : op.Ensures st s (Ending st good bad)) (f : α → β) :
    Ensures (op >>= fun a => Pure.pure (f a)) st s (Ending st good bad) :=
  .bind_pure (h.imp fun r _ _ hr => by cases r <;> exact hr)

end Ending

/-- After a call, `good` holds, or the call has failed and the state is as it was. -/
theorem Operation.Ensures.good_or_bad {op : Operation W α} {st : State} {s : Session W}
    {good : State → Session W → Prop} {bad : Session W → Prop}
    (h : op.Ensures st s (Ending st good bad)) :
    good (op st s).1.2 (op st s).2 ∨
      (∃ e, (op st s).1.1 = .error e) ∧ (op st s).1.2 = st ∧ bad (op st s).2 := by
  rw [Ensures] at h
  cases hr : (op st s).1.1 with
  | ok a =>
    rw [hr] at h
    exact .inl h
  | error e =>
    rw [hr] at h
    exact .inr ⟨⟨e, rfl⟩, h⟩

/-- Options that mean the same as those in force change nothing. -/
theorem changeTo_same {store : LoadedStore} {o : Config.Options} (h : store.options.same o = true)
    (s : Session W) :
    changeTo c o (.loaded store) s =
      ((.ok (), .loaded store),
        { s with journal := s.journal ++ [⟨.debug, "keystore configuration unchanged", []⟩] }) := by
  rw [changeTo, Edit.bind_apply]
  change (if store.options.same o = true then
    perform (Act.report .debug "keystore configuration unchanged" [])
    else _ : Operation W Unit) _ _ = _
  rw [if_pos h]
  rfl

/-- Other options are gone over to, and served if that succeeds. -/
theorem changeTo_other {store : LoadedStore} {o : Config.Options} (h : store.options.same o = false)
    (s : Session W) :
    changeTo c o (.loaded store) s = match change c store o s with
      | (.ok store', t) => ((.ok (), .loaded store'), t)
      | (.error e, t) => ((.error e, .loaded store), t) := by
  rw [changeTo, Edit.bind_apply]
  change (if store.options.same o = true then _ else
    (do setState (.loaded (← perform (change c store o))) : Operation W Unit)) _ _ = _
  rw [if_neg (by simp [h]), Edit.bind_apply, perform_apply]
  rcases change c store o s with ⟨_ | _, t⟩ <;> rfl

/-- Activating a new service loads the container of the options. -/
theorem Command.activate_ensures {p : Config.Properties} {o : Config.Options}
    (ho : Config.Options.ofProperties p = .ok o) {s : Session W}
    {good : LoadedStore → Session W → Prop} {bad : Session W → Prop}
    (h : (load c o).Ends s good bad) :
    ((Command.activate (some p)).run c).Ensures .uninitialized s fun r st t =>
      (∃ store, r = .ok .done ∧ st = .loaded store ∧ good store t) ∨
        ((∃ e, r = .error e) ∧ bad t) := by
  refine .bind_pure (.bind_lift (fun o' ho' => .bind_state ?_) fun e he => ?_)
  · obtain rfl : o = o' := Except.ok.inj (ho.symm.trans ho')
    exact .bind_perform h (fun store t ht => .setState (.inl ⟨store, rfl, rfl, ht⟩))
      fun e t ht => .inr ⟨⟨e, rfl⟩, ht⟩
  · cases ho.symm.trans he

/-- Reconfiguring a service goes over to the options. -/
theorem Command.reconfigure_ensures {p : Config.Properties} {o : Config.Options}
    (ho : Config.Options.ofProperties p = .ok o) {st : State} {s : Session W}
    {post : Except Error Answer → State → Session W → Prop}
    (h : (changeTo c o).Ensures st s fun r st' t => post (r.map fun _ => .done) st' t) :
    ((Command.reconfigure (some p)).run c).Ensures st s post := by
  refine .bind_pure (.bind_lift (fun o' ho' => ?_) fun e he => ?_)
  · obtain rfl : o = o' := Except.ok.inj (ho.symm.trans ho')
    exact h
  · cases ho.symm.trans he

/-- A command asks the service to go over to some options. -/
def Command.AsksFor (command : Command) (o : Config.Options) : Prop :=
  ∃ p, (command = .activate (some p) ∨ command = .reconfigure (some p)) ∧
    Config.Options.ofProperties p = .ok o

/-- What commands make of a container: an entry is put under an alias that is not empty, or removed. -/
inductive Edits (container : Container) : Container → Prop where
  | put {name : String} (hname : name ≠ "") (stored : StoredEntry) :
      Edits container (container.insert name stored)
  | removed (name : String) : Edits container (container.erase name)

/-- What has to be known of the steps of a command that is called in `st` and `s`.  Looking takes
the session along the course `R`, and what a secret decrypts to is told by `plain`. -/
structure Endings (c : Collaborators W) (R : Session W → Session W → Prop)
    (plain : Password → Password → Prop) (command : Command) (st : State) (s : Session W)
    (good : State → Session W → Prop) (bad : Session W → Prop) : Prop where
  look (t : Session W) (ht : R s t) : good st t ∧ bad t
  closed (t : Session W) (ht : R s t) : good .closed t
  decrypt (secret : Password) (t : Session W) : (c.cipher.decrypt secret).Ends t
    (fun password u => R t u ∧ plain secret password) (R t)
  load (o : Config.Options) (ho : command.AsksFor o) (hst : st = .uninitialized) :
    (load c o).Ends s (fun store t => good (.loaded store) t) bad
  change (current : LoadedStore) (o : Config.Options) (ho : command.AsksFor o)
    (hst : st = .loaded current) :
    (change c current o).Ends s (fun store t => good (.loaded store) t) bad
  commits (store : LoadedStore) (container : Container) (password : Password) (t : Session W)
    (hst : st = .loaded store) (hcontainer : Edits store.container container) (ht : R s t)
    (hpassword : plain store.options.password password) :
    Commits c store container password t (Ending st good bad)

namespace Endings

variable {R : Session W → Session W → Prop} [Course R] {plain : Password → Password → Prop}
  {command : Command} {st : State} {s : Session W} {good : State → Session W → Prop}
  {bad : Session W → Prop} (H : Endings c R plain command st s good bad)

include H

theorem here : good st s ∧ bad s := H.look s (Course.refl R s)

/-! ### Going over to other options -/

theorem changeTo_ends {o : Config.Options} (ho : command.AsksFor o) :
    (changeTo c o).Ensures st s (Ending st good bad) := by
  unfold changeTo
  refine .bind_loadedStore (fun current hcurrent => ?_) fun _ => .of_look H.here
  split
  · exact .perform (.report fun t ht => (H.look t (Course.of_continues ht)).1)
  · exact .bind_perform (H.change current o ho hcurrent) (fun _ _ ht => .setState ht)
      fun _ _ ht => ⟨rfl, ht⟩

theorem reconfigure_ends {properties : Option Config.Properties}
    (hcommand : command = .reconfigure properties) :
    (reconfigure c properties).Ensures st s (Ending st good bad) := by
  refine .bind_lift (fun o ho => ?_) fun _ _ => .of_look H.here
  obtain ⟨p, rfl, hp⟩ := Config.Options.resolve_eq_ok_iff.1 ho
  exact H.changeTo_ends ⟨p, .inr hcommand, hp⟩

theorem activate_ends {properties : Option Config.Properties}
    (hcommand : command = .activate properties) :
    (activate c properties).Ensures st s (Ending st good bad) := by
  refine .bind_lift (fun o ho => .bind_state ?_) fun _ _ => .of_look H.here
  obtain ⟨p, rfl, hp⟩ := Config.Options.resolve_eq_ok_iff.1 ho
  have hasks : command.AsksFor o := ⟨p, .inl hcommand, hp⟩
  cases st with
  | closed => exact .of_look H.here
  | loaded _ => exact H.changeTo_ends hasks
  | uninitialized =>
    exact .bind_perform (H.load o hasks rfl) (fun _ _ ht => .setState ht) fun _ _ ht => ⟨rfl, ht⟩

/-! ### Changing an entry -/

omit [Course R] in
theorem plainPassword_ends (o : Config.Options) (t : Session W) :
    (plainPassword c o).Ends t (fun password u => R t u ∧ plain o.password password) (R t) :=
  .mapError (H.decrypt o.password t)

theorem storeEntry_ends {name : String} (hname : name ≠ "") (entry : Entry) {t : Session W}
    (ht : R s t) : (storeEntry c name entry).Ensures st t (Ending st good bad) := by
  cases st with
  | uninitialized | closed => exact ⟨rfl, (H.look t ht).2⟩
  | loaded store =>
    refine storeEntry_ensures c (Act.Ensures.imp (H.plainPassword_ends store.options t) ?_)
    intro r u hu
    cases r with
    | error _ => exact .of_look (H.look u (Course.trans ht hu))
    | ok password =>
      obtain ⟨hu, hpassword⟩ := hu
      intro stored v hv _
      replace hv := Course.trans (Course.trans ht hu) (Course.of_continues hv)
      exact H.commits store _ password v rfl (.put hname stored) hv hpassword

theorem setEntry_ends (name : Option String) (entry : Option Entry) :
    (setEntry c name entry).Ensures st s (Ending st good bad) := by
  refine .bind_required (fun name _ => ?_) fun _ => .of_look H.here
  split
  · exact .of_look H.here
  · rename_i hempty
    have hname : name ≠ "" := mt String.isEmpty_iff.2 hempty
    exact .bind_required (fun entry _ => H.storeEntry_ends hname entry (Course.refl R s)) fun _ =>
      .of_look H.here

theorem deleteEntry_ends (name : Option String) :
    (deleteEntry c name).Ensures st s (Ending st good bad) := by
  match name, st with
  | none, _ => exact ⟨rfl, H.here.2⟩
  | some _, .uninitialized | some _, .closed => exact ⟨rfl, H.here.2⟩
  | some name, .loaded store =>
    refine deleteEntry_ensures c (fun _ t ht => (H.look t (Course.of_continues ht)).1) fun _ => ?_
    refine Act.Ensures.imp (H.plainPassword_ends store.options s) fun r t ht => ?_
    cases r with
    | error _ => exact .of_look (H.look t ht)
    | ok password => exact H.commits store _ password t rfl (.removed name) ht.1 ht.2

theorem createKeyPair_ends (name : String) (algorithm : Keys.KeyAlgorithm) (subject : String)
    (days : Nat) :
    (createKeyPair c name algorithm subject days).Ensures st s (Ending st good bad) := by
  unfold createKeyPair
  split
  · exact .of_look H.here
  · rename_i hempty
    have hname : name ≠ "" := mt String.isEmpty_iff.2 hempty
    refine .bind (ReadOnly.map (R := R) _ .loadedStore st s) ?_ ?_
    · rintro _ _ t ⟨rfl, ht⟩
      refine .bind_perform (Keys.quiet_keyPair algorithm subject days t) (fun e u hu => ?_)
        fun e u hu => .of_look (H.look u (Course.trans ht (Course.of_continues hu)))
      exact Ending.answer (H.storeEntry_ends hname _ (Course.trans ht (Course.of_continues hu))) _
    · rintro e _ t ⟨rfl, ht⟩
      exact .of_look (H.look t ht)

/-! ### Every command -/

/-- **One rule for all commands**: a command whose steps end as they should ends as it should. -/
theorem run_ends : (command.run c).Ensures st s (Ending st good bad) := by
  cases hcommand : command with
  | activate properties => exact Ending.answer (H.activate_ends hcommand) _
  | reconfigure properties => exact Ending.answer (H.reconfigure_ends hcommand) _
  | setEntry name entry => exact Ending.answer (H.setEntry_ends name entry) _
  | deleteEntry name => exact Ending.answer (H.deleteEntry_ends name) _
  | createKeyPair name algorithm subject days =>
    exact Ending.answer (H.createKeyPair_ends name algorithm subject days) _
  | close =>
    refine Ending.answer ?_ _
    unfold Service.close
    refine .bind_state ?_
    split
    · exact .bind_report fun t ht => .setState (H.closed t (Course.of_continues ht))
    · exact H.closed s (Course.refl R s)
  | isActive | store | aliases | entry | entries | keyManagers | request =>
    -- these only look, so the state is the same and the session is further along the course
    refine (Command.readOnly_run (R := R) c (fun secret t => ?_) rfl st s).imp ?_
    · exact Act.Ensures.imp (H.decrypt secret t) fun r u hu => match r with
        | .ok _ => hu.1
        | .error _ => hu
    · rintro r _ t ⟨rfl, ht⟩
      exact .of_look (H.look t ht)

end Endings

end Keyring.Service

import Keyring.Proofs.Service.Endings
import Keyring.Proofs.Service.Ledger

/-!
# What is served is what is kept

With faithful collaborators (`Faithful`) and no other writer, the backend keeps what the service
serves, through every run of commands and every pattern of failures:

* `Command.sound_run` : a command that succeeds ends with the served container kept, and one that fails
  leaves the state as it was and damages nothing that was kept;
* `Reachable` : the states and sessions of a run in which every container that had to be put back was;
* `Reachable.backed` : in all of them the served container is the kept one;
* `Reachable.keeps_of_error` : from all of them a command that fails damages nothing that was kept.
-/

namespace Keyring.Service

open Operation

variable {W : Type} {c : Collaborators W} {record : W → Records} {plain : Password → Password}

instance : Course (Untouched record : Session W → Session W → Prop) := ⟨.of_continues, .trans⟩

/-- What is served, if anything is, is what is kept. -/
def InStep (record : W → Records) (plain : Password → Password) (st : State) (w : W) : Prop :=
  ∀ store, st = .loaded store → Backed record plain store w

theorem InStep.of_backed {store : LoadedStore} {w : W} (h : Backed record plain store w) :
    InStep record plain (.loaded store) w :=
  State.forall_loaded h

theorem InStep.of_keeps {st : State} {w w' : W} (h : InStep record plain st w)
    (hkeeps : (record w).Keeps (record w')) : InStep record plain st w' :=
  fun store hst => hkeeps _ _ (h store hst)

section

variable (H : Faithful c record plain) {st : State} {s : Session W}

include H

/-- A container that is stored in the place of the served one is kept, or nothing has changed. -/
theorem inStep_commits {store : LoadedStore} {container : Container} {t : Session W}
    (h : Untouched record s t) :
    Commits c store container (plain store.options.password) t
      (Ending (.loaded store) (fun st' t => InStep record plain st' t.world) fun t =>
        PutBacksHeld s t → (record s.world).Keeps (record t.world)) := by
  refine Act.Ensures.imp (H.store container store.options.path _ t) fun r u hr v hv => ?_
  cases r with
  | ok _ =>
    refine .of_backed ?_
    rw [Backed, hv.world, hr.2, Function.update_self]
  | error e =>
    have hsv := h.trans (hr.trans (.of_continues hv))
    exact ⟨rfl, fun _ => hsv.records ▸ .refl _⟩

/-- The steps of a command keep the service in step, or damage nothing. -/
theorem sound_endings (command : Command) (hst : InStep record plain st s.world) :
    Endings c (Untouched record) (fun secret password => password = plain secret) command st s
      (fun st' t => InStep record plain st' t.world)
      fun t => PutBacksHeld s t → (record s.world).Keeps (record t.world) where
  look t ht := ⟨hst.of_keeps (ht.records ▸ .refl _), fun _ => ht.records ▸ .refl _⟩
  closed _ _ _ hstore := by cases hstore
  decrypt := H.decrypt
  load o := fun ⟨p, _, ho⟩ _ =>
    (load_ends H s ho).imp (fun _ _ ht => .of_backed ht.2) fun _ ht => ht.2
  change current o := fun ⟨p, _, ho⟩ hcurrent =>
    (change_ends H ho (hst current hcurrent)).imp (fun _ _ ht => .of_backed ht.2) fun _ ht => ht.2
  commits store container password t hstore _ ht hpassword := by
    subst hstore hpassword
    exact inStep_commits H ht

/-- **A command that succeeds keeps the service in step, one that fails damages nothing**, unless a
container could not be put back. -/
theorem Command.sound_run (command : Command) (hst : InStep record plain st s.world) :
    (command.run c).Ensures st s (Ending st (fun st' t => InStep record plain st' t.world) fun t =>
      PutBacksHeld s t → (record s.world).Keeps (record t.world)) :=
  (sound_endings H command hst).run_ends

end

/-! ### Runs -/

/-- The states and sessions of a run that starts uninitialized: commands are called in any order, and
between them anything may happen that changes nothing that is kept.  Every container that a call had to
put back was. -/
inductive Reachable (c : Collaborators W) (record : W → Records) : State → Session W → Prop where
  | start (s : Session W) : Reachable c record .uninitialized s
  | idle {st : State} {s t : Session W} (h : Reachable c record st s)
      (hrecords : record t.world = record s.world) : Reachable c record st t
  | call {st : State} {s : Session W} (command : Command) (h : Reachable c record st s)
      (hheld : PutBacksHeld s (command.run c st s).2) :
      Reachable c record (command.run c st s).1.2 (command.run c st s).2

namespace Reachable

/-- A call that succeeds leaves the service in step, and so does one that fails. -/
theorem inStep (H : Faithful c record plain) {st : State} {s : Session W}
    (h : Reachable c record st s) : InStep record plain st s.world := by
  induction h with
  | start s => exact fun _ hstore => by cases hstore
  | idle _ hrecords ih => exact ih.of_keeps (hrecords ▸ .refl _)
  | @call st s command _ hheld ih =>
    rcases (command.sound_run H ih).good_or_bad with h | ⟨-, hsame, hkeeps⟩
    · exact h
    · -- the state is the one before the call, and its record is among those that are not damaged
      rw [hsame]
      exact ih.of_keeps (hkeeps hheld)

/-- **What is served is what is kept.**  In every state that is reached, whatever was called and
whatever failed, the record under the path of the options is the served container under their
password. -/
theorem backed (H : Faithful c record plain) {store : LoadedStore} {s : Session W}
    (h : Reachable c record (.loaded store) s) :
    record s.world store.options.path.components =
      some (store.container, plain store.options.password) :=
  h.inStep H store rfl

end Reachable

/-! ### A run that is rolled back

A container is kept under the password `one`.  It is activated, and then to be put under the password
`two` and from there under a random one; but no configuration can be stored, so that the container is
put back under `two`, and from there under `one`. -/

namespace Rollback

/-- A container with one certificate. -/
def container : Container := Table.empty.insert "root" (.trusted [0x30] 7)

/-- What is served once the container is activated. -/
def store : LoadedStore where
  options := Ledger.options "t|one" false
  container := container

def session : Session (Observed Records) where
  world :=
    { world := Function.update (fun _ => none) Ledger.path.components (some (container, ⟨"one"⟩))
      calls := []
      plans := fun target =>
        if target = .updateConfiguration then some ⟨0, .storage (.other "disk full")⟩ else none
      written := none }
  entropy := ⟨fun _ => 0, 0⟩
  now := 0
  journal := []

def activated : (Except Error Answer × State) × Session (Observed Records) :=
  (Command.activate (some (Ledger.properties "t|one" false))).run Collaborators.ledger.observed
    .uninitialized session

def rolledBack : (Except Error Answer × State) × Session (Observed Records) :=
  (Command.reconfigure (some (Ledger.properties "t|two" true))).run Collaborators.ledger.observed
    (.loaded store) activated.2

theorem state_activated : activated.1.2 = .loaded store := by decide +kernel

theorem held_activated : PutBacksHeld session activated.2 := by decide +kernel

theorem outcome_rolledBack :
    rolledBack.1 = (.error (.configurationStore "Storage I/O error: disk full"), .loaded store) := by
  decide +kernel

theorem held_rolledBack : PutBacksHeld activated.2 rolledBack.2 := by decide +kernel

theorem reachable_activated :
    Reachable Collaborators.ledger.observed (fun o => o.world) (.loaded store) activated.2 := by
  rw [← state_activated]
  exact .call _ (.start session) held_activated

theorem reachable_rolledBack :
    Reachable Collaborators.ledger.observed (fun o => o.world) (.loaded store) rolledBack.2 := by
  have h := Reachable.call (.reconfigure (some (Ledger.properties "t|two" true))) reachable_activated
    held_rolledBack
  rw [← rolledBack, outcome_rolledBack] at h
  exact h

end Rollback

/-- After the rollback the container is still kept under the password that its options name. -/
theorem Reachable.backed_rolledBack :
    Rollback.rolledBack.2.world.world Rollback.store.options.path.components =
      some (Rollback.store.container, untag Rollback.store.options.password) :=
  Rollback.reachable_rolledBack.backed faithful_ledger.observed

/-- **A command that fails damages nothing that was kept**, an activation or a reconfiguration like any
other: if every container that it had to put back was put back, each record is there as before. -/
theorem Reachable.keeps_of_error (H : Faithful c record plain) {st st' : State} {s t : Session W}
    (h : Reachable c record st s) {command : Command} {e : Error}
    (hrun : command.run c st s = ((.error e, st'), t)) (hheld : PutBacksHeld s t)
    {key : List Files.Component} {r : Record} (hkept : record s.world key = some r) :
    record t.world key = some r := by
  have hsound := command.sound_run H (h.inStep H)
  rw [Ensures, hrun] at hsound
  exact hsound.2 hheld key r hkept

/-- The rollback restores the record that was there when the container was activated. -/
theorem Reachable.keeps_of_error_rolledBack :
    Rollback.rolledBack.2.world.world Ledger.path.components =
      some (Rollback.container, ⟨"one"⟩) := by
  have hkept : Rollback.activated.2.world.world Ledger.path.components =
      some (Rollback.container, ⟨"one"⟩) := by decide +kernel
  have hrun : (Command.reconfigure (some (Ledger.properties "t|two" true))).run
      Collaborators.ledger.observed (.loaded Rollback.store) Rollback.activated.2 =
        ((.error (.configurationStore "Storage I/O error: disk full"), .loaded Rollback.store),
          Rollback.rolledBack.2) := by
    rw [← Rollback.rolledBack, ← Rollback.outcome_rolledBack]
  exact Rollback.reachable_activated.keeps_of_error faithful_ledger.observed hrun
    Rollback.held_rolledBack hkept

end Keyring.Service

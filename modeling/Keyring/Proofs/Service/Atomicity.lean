import Keyring.Proofs.Container
import Keyring.Proofs.Quiet
import Keyring.Proofs.Service.Reading

/-!
# Operations fail without a trace in memory

An operation that fails leaves the state as it was (`Command.state_of_error`), whatever the
collaborators answer.  Most operations set the state last, or not at all.  The two that put and remove
an entry change the container first and store it then; if that fails, `persist` restores the alias
(`persist_ensures`), which undoes an insertion, an overwriting and a removal alike
(`Table.restore_insert`, `Table.restore_erase`).
-/

namespace Keyring.Service

open Operation

variable {W : Type} (c : Collaborators W)

/-! ### Going over to other options -/

theorem atomic_changeTo (o : Config.Options) : (changeTo c o).Atomic := by
  unfold changeTo
  refine ReadOnly.bind_atomic .loadedStore fun current => ?_
  split
  · exact (ReadOnly.quiet (R := Anyhow) (.report _ _ _)).atomic
  · exact ReadOnly.bind_atomic (.perform fun _ => trivial) fun store => .setState _

theorem atomic_activate (properties : Option Config.Properties) :
    (activate c properties).Atomic := by
  unfold activate
  refine ReadOnly.bind_atomic (.lift _) fun o => ReadOnly.bind_atomic .state fun st => ?_
  cases st with
  | closed => exact (ReadOnly.throw (R := Anyhow) _).atomic
  | loaded _ => exact atomic_changeTo c o
  | uninitialized =>
    exact ReadOnly.bind_atomic (.perform fun _ => trivial) fun store => .setState _

theorem atomic_reconfigure (properties : Option Config.Properties) :
    (reconfigure c properties).Atomic := by
  unfold reconfigure
  exact ReadOnly.bind_atomic (.lift _) fun o => atomic_changeTo c o

/-! ### Changes that are undone -/

/-- Storing after a change of one alias keeps the change, or fails and restores the alias. -/
theorem persist_ensures {password : Password} {name : String} {previous : Option StoredEntry}
    {store : LoadedStore} {s : Session W} {post : Except Error Unit → State → Session W → Prop}
    (h : (c.backend.store store.container store.options.path password).Ensures s fun r t =>
      match r with
      | .ok _ => post (.ok ()) (.loaded store) t
      | .error e => ∀ u, Act.Continues t u → post (.error (e.classify .storePersist))
          (.loaded { store with container := store.container.restore name previous }) u) :
    (persist c password name previous).Ensures (.loaded store) s post := by
  unfold persist
  refine .bind_loaded ?_
  refine Ensures.tryCatch (p := fun r st t => st = .loaded store ∧ match r with
    | .ok _ => post (.ok ()) (.loaded store) t
    | .error e => ∀ u, Act.Continues t u → post (.error (e.classify .storePersist))
        (.loaded { store with container := store.container.restore name previous }) u)
    (.perform (h.imp fun r t hr => ⟨rfl, hr⟩)) ?_ ?_
  · rintro _ _ t ⟨rfl, hr⟩
    exact hr
  · rintro e _ t ⟨rfl, hr⟩
    exact .bind_report fun u hu => hr u hu

/-- Storing `container` in the place of the one that is served leads to `post`, if on failure the
latter is served as before. -/
def Commits (store : LoadedStore) (container : Container) (password : Password) (s : Session W)
    (post : Except Error Unit → State → Session W → Prop) : Prop :=
  (c.backend.store container store.options.path password).Ensures s fun r t =>
    ∀ u, Act.Continues t u →
      match r with
      | .ok _ => post (.ok ()) (.loaded { store with container }) u
      | .error e => post (.error (e.classify .storePersist)) (.loaded store) u

/-- **A change is stored or undone.**  A container that restoring one alias turns back into the
present one is set and stored: it stays if the backend takes it, and if not, the present one is back. -/
theorem commit_ensures {container : Container} {password : Password} {name : String}
    {previous : Option StoredEntry} {store : LoadedStore} {s : Session W} {level : Level}
    {message : String} {fields : List (String × String)}
    {post : Except Error Unit → State → Session W → Prop}
    (hundo : container.restore name previous = store.container)
    (h : Commits c store container password s post) :
    Ensures (do
        setContainer container
        persist c password name previous
        perform (Act.report level message fields)) (.loaded store) s post := by
  -- the change is made before it is stored, so a backend that refuses meets a changed state
  refine Ensures.bind (p := fun r st t => r = .ok () ∧ st = .loaded { store with container } ∧ t = s)
    ⟨rfl, rfl, rfl⟩ ?_ fun e _ _ he => by cases he.1
  rintro _ _ _ ⟨-, rfl, rfl⟩
  refine Ensures.bind (p := fun r st t => match r with
    | .ok _ => st = .loaded { store with container } ∧ ∀ u, Act.Continues t u → post (.ok ()) st u
    | .error e => post (.error e) st t) (persist_ensures c (h.imp fun r t hr => ?_)) ?_ ?_
  · cases r with
    | ok _ => exact ⟨rfl, hr⟩
    | error e => exact fun u hu => by simpa only [hundo] using hr u hu
  · rintro _ _ t ⟨rfl, hpost⟩
    exact .perform (.report hpost)
  · exact fun e st t hpost => hpost

/-- Putting an entry: the password is decrypted, and the container stored with the entry in it.  In
between the entry is sealed, which does not fail. -/
theorem storeEntry_ensures {name : String} {entry : Entry} {store : LoadedStore} {s : Session W}
    {post : Except Error Unit → State → Session W → Prop}
    (h : (plainPassword c store.options).Ensures s fun r t =>
      match r with
      | .error e => post (.error e) (.loaded store) t
      | .ok password => ∀ stored u, Act.Continues t u →
          (entry.WellFormed → stored.toEntry password = .ok entry) →
            Commits c store (store.container.insert name stored) password u post) :
    (storeEntry c name entry).Ensures (.loaded store) s post := by
  unfold storeEntry
  refine .bind_loaded ?_
  refine .bind_perform h (fun password t hr => ?_) fun e t hr => hr
  have hsealed := (StoredEntry.ofEntry_succeeds entry password t).and
    (StoredEntry.quiet_ofEntry entry password t)
  refine .bind_perform (p := fun r u => match r with
    | .error _ => False
    | .ok x => x.1.restore name x.2 = store.container ∧ Commits c store x.1 password u post)
    (Act.Ensures.bind hsealed (fun stored u hu => ?_) fun _ _ hu => hu.1) ?_ fun _ _ hu => hu.elim
  · exact .pure ⟨store.container.restore_insert name stored, hr stored u hu.2 hu.1⟩
  · rintro ⟨container, previous⟩ u ⟨hundo, hu⟩
    exact commit_ensures c hundo hu

/-- Removing an entry: nothing happens if there is none; otherwise the password is decrypted and the
container stored without it. -/
theorem deleteEntry_ensures {name : String} {store : LoadedStore} {s : Session W}
    {post : Except Error Unit → State → Session W → Prop}
    (habsent : store.container.contains name = false → ∀ t, Act.Continues s t →
      post (.ok ()) (.loaded store) t)
    (hpresent : store.container.contains name = true → (plainPassword c store.options).Ensures s
      fun r t =>
        match r with
        | .error e => post (.error e) (.loaded store) t
        | .ok password => Commits c store (store.container.erase name) password t post) :
    (deleteEntry c (some name)).Ensures (.loaded store) s post := by
  unfold deleteEntry
  refine .bind_given ?_
  refine .bind_loaded ?_
  split
  · rename_i hc
    refine .bind_perform (hpresent hc) (fun password t ht => ?_) fun e t ht => ht
    exact commit_ensures c (store.container.restore_erase _) ht
  · rename_i hc
    exact .perform (.report (habsent (by simpa using hc)))

theorem Commits.atomic (store : LoadedStore) (container : Container) (password : Password)
    (s : Session W) :
    Commits c store container password s fun r st _ => ∀ e, r = .error e → st = .loaded store :=
  .of_forall fun r t u _ => by cases r <;> simp

theorem atomic_storeEntry (name : String) (entry : Entry) : (storeEntry c name entry).Atomic := by
  intro st s
  cases st with
  | loaded store =>
    -- nothing is known of the results of the collaborators, so every one is considered
    refine storeEntry_ensures c (.of_forall fun r t => ?_)
    match r with
    | .error e => exact fun _ _ => rfl
    | .ok password => exact fun stored u _ _ => .atomic c store _ password u
  | uninitialized => exact fun _ _ => rfl
  | closed => exact fun _ _ => rfl

theorem atomic_setEntry (name : Option String) (entry : Option Entry) :
    (setEntry c name entry).Atomic := by
  unfold setEntry
  refine ReadOnly.bind_atomic (.required _ _) fun name => ?_
  split
  · exact Atomic.throw_bind _ _
  · exact ReadOnly.bind_atomic (.required _ _) fun entry => atomic_storeEntry c name entry

theorem atomic_deleteEntry (name : Option String) : (deleteEntry c name).Atomic := by
  intro st s
  match name, st with
  | none, _ => exact fun _ _ => rfl
  | some name, .loaded store =>
    refine deleteEntry_ensures c (fun _ t _ e he => by cases he) fun _ => .of_forall fun r t => ?_
    match r with
    | .error e => exact fun _ _ => rfl
    | .ok password => exact .atomic c store _ password t
  | some name, .uninitialized => exact fun _ _ => rfl
  | some name, .closed => exact fun _ _ => rfl

theorem atomic_createKeyPair (name : String) (algorithm : Keys.KeyAlgorithm) (subject : String)
    (days : Nat) : (createKeyPair c name algorithm subject days).Atomic := by
  unfold createKeyPair
  split
  · exact Atomic.throw_bind _ _
  · refine ReadOnly.bind_atomic (.map _ .loadedStore) fun _ => ?_
    exact ReadOnly.bind_atomic (.perform fun _ => trivial) fun e =>
      (atomic_storeEntry c name _).bind_pure fun _ => e

/-! ### Every command -/

theorem atomic_run (command : Command) : (command.run c).Atomic := by
  cases command with
  | activate properties => exact (atomic_activate c properties).bind_pure _
  | reconfigure properties => exact (atomic_reconfigure c properties).bind_pure _
  | close =>
    intro st s e he
    cases st <;> cases he
  | setEntry name entry => exact (atomic_setEntry c name entry).bind_pure _
  | deleteEntry name => exact (atomic_deleteEntry c name).bind_pure _
  | createKeyPair name algorithm subject days =>
    exact (atomic_createKeyPair c name algorithm subject days).bind_pure _
  | isActive | store | aliases | entry | entries | keyManagers | request =>
    exact (Command.readOnly_run (R := Anyhow) c (fun _ _ => trivial) rfl).atomic

/-- **A failed operation leaves the state as it was**, whatever state that is and whatever the
collaborators answer. -/
theorem Command.state_of_error (command : Command) {st st' : State} {s t : Session W} {e : Error}
    (h : command.run c st s = ((.error e, st'), t)) : st' = st := by
  have hatomic := atomic_run c command st s
  rw [Ensures, h] at hatomic
  exact hatomic e rfl

/-- Collaborators that store nothing. -/
def Collaborators.refusing : Collaborators Unit where
  backend :=
    { contains := fun _ => return false
      load := fun _ _ => throw .invalidPassword
      store := fun _ _ _ => throw (.storage (.other "disk full")) }
  cipher := .plain
  updateConfiguration _ _ := return ()

/-- A container with one certificate, and the session in which it is to be removed. -/
def oneEntry : LoadedStore where
  options := ⟨Table.empty, none, ⟨"/keys"⟩, ⟨"secret"⟩, false⟩
  container := Table.empty.insert "root" (.trusted [0x30] 7)

def refusingSession : Session Unit := ⟨(), ⟨fun _ => 0, 0⟩, 0, []⟩

/-- A removal that the backend refuses. -/
theorem Command.state_of_refused_removal :
    ((deleteEntry (some "root")).run .refusing (.loaded oneEntry) refusingSession).1.1 =
        .error (.storePersist "Storage I/O error: disk full") ∧
      ((deleteEntry (some "root")).run .refusing (.loaded oneEntry) refusingSession).1.2 =
        .loaded oneEntry :=
  ⟨rfl, state_of_error .refusing (deleteEntry (some "root"))
    (s := refusingSession) (e := .storePersist "Storage I/O error: disk full") rfl⟩

end Keyring.Service

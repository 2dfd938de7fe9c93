import Keyring.Proofs.Config.Options
import Keyring.Proofs.Service.Ledger
import Keyring.Proofs.Service.Trace

/-!
# Nothing is served unless a container is loaded

A service that was not activated yet, or that was closed, refuses every command that needs a container,
and nothing opens a service again that was closed.

* `Command.refusal` : the error that a command is refused with, which depends on its arguments alone;
* `Operation.Idle` : where nothing is served, an operation fails with an error and does nothing else;
* `Command.idle_run` : that is so of the commands that need a container, with their refusals;
* `Leads` : the states that commands lead to from a state, called one after the other;
* `Leads.closed` : a closed service stays closed;
* `closing_final` : both together, with what is wrong with the arguments in words.

Each operation checks its arguments in an order of its own, some before it looks at the state and some
behind that.  What is checked before makes up the refusal; the rest does not matter, since nothing is
read where nothing is served.
-/

namespace Keyring.Service

open Operation

variable {W α β : Type} {c : Collaborators W}

/-! ### What commands are refused with -/

namespace Command

/-- An alias, an entry or an algorithm is missing, or an entry is to be put under the empty alias. -/
def Incomplete : Command → Prop
  | .entry name | .deleteEntry name => name = none
  | .keyManagers algorithm => algorithm = none
  | .setEntry name e => name = none ∨ name = some "" ∨ e = none
  | .createKeyPair name .. => name = ""
  | _ => False

/-- A configuration is to be applied that does not resolve. -/
def Unresolvable : Command → Prop
  | .activate properties | .reconfigure properties =>
    ∃ e, Config.Options.resolve properties = .error e
  | _ => False

/-- The error that a command is refused with where nothing is served. -/
def refusal : Command → Error
  | .activate properties | .reconfigure properties =>
    match Config.Options.resolve properties with
    | .error e => e
    | .ok _ => .notInitialized
  | .entry none | .deleteEntry none | .setEntry none _ => .invalidArgument noAlias
  | .keyManagers none => .invalidArgument noAlgorithm
  | .setEntry (some name) e =>
    if name.isEmpty then .invalidArgument emptyAlias
    else if e.isNone then .invalidArgument noEntry
    else .notInitialized
  | .createKeyPair name .. =>
    if name.isEmpty then .invalidArgument emptyAlias else .notInitialized
  | _ => .notInitialized

theorem kind_refusal_of_incomplete {command : Command} (h : command.Incomplete) :
    command.refusal.kind = .invalidArgument := by
  cases command with
  | entry name | deleteEntry name =>
    obtain rfl := h
    rfl
  | keyManagers algorithm =>
    obtain rfl := h
    rfl
  | createKeyPair name =>
    obtain rfl := h
    rfl
  | setEntry name entry =>
    match name, entry with
    | none, _ => rfl
    | some name, none =>
      simp only [refusal]
      split <;> rfl
    | some name, some entry =>
      obtain rfl : name = "" := by simpa [Incomplete] using h
      rfl
  | activate | reconfigure | close | isActive | store | aliases | entries | request => cases h

theorem kind_refusal_of_unresolvable {command : Command} (h : command.Unresolvable) :
    command.refusal.kind = .invalidConfiguration := by
  cases command with
  | activate properties | reconfigure properties =>
    obtain ⟨e, he⟩ := h
    rw [refusal, he]
    exact Config.Options.kind_of_resolve he
  | _ => cases h

theorem refusal_of_sound {command : Command} (hcomplete : ¬ command.Incomplete)
    (hresolvable : ¬ command.Unresolvable) : command.refusal = .notInitialized := by
  cases command with
  | activate properties | reconfigure properties =>
    rw [refusal]
    split
    · rename_i e he
      exact absurd ⟨e, he⟩ hresolvable
    · rfl
  | entry name | deleteEntry name =>
    cases name with
    | none => exact absurd rfl hcomplete
    | some name => rfl
  | keyManagers algorithm =>
    cases algorithm with
    | none => exact absurd rfl hcomplete
    | some algorithm => rfl
  | setEntry name entry =>
    simp only [Incomplete, not_or] at hcomplete
    obtain ⟨hname, hempty, hentry⟩ := hcomplete
    obtain ⟨name, rfl⟩ := Option.ne_none_iff_exists'.1 hname
    obtain ⟨entry, rfl⟩ := Option.ne_none_iff_exists'.1 hentry
    have hname : ¬ name.isEmpty = true := by simpa using hempty
    simp [refusal, hname]
  | createKeyPair name =>
    have hname : ¬ name.isEmpty = true := by simpa [Incomplete] using hcomplete
    simp [refusal, hname]
  | close | isActive | store | aliases | entries | request => rfl

end Command

/-! ### Operations where nothing is served -/

namespace Operation

/-- Where nothing is served, an operation fails with an error, and leaves the state and the session as
they are. -/
def Idle (op : Operation W α) (e : Error) : Prop :=
  ∀ st s, st.isActive = false → op st s = ((.error e, st), s)

namespace Idle

variable {e : Error}

theorem throw (e : Error) : Idle (MonadExcept.throw e : Operation W α) e := fun _ _ _ => rfl

theorem loadedStore : Idle (Service.loadedStore : Operation W LoadedStore) .notInitialized := by
  intro st s h
  cases st with
  | loaded store => cases h
  | uninitialized | closed => rfl

/-- Nothing behind an operation that fails matters. -/
theorem bind {op : Operation W α} (h : Idle op e) (f : α → Operation W β) : Idle (op >>= f) e := by
  intro st s hst
  rw [Edit.bind_apply, h st s hst]

theorem required_none (text : String) :
    Idle (Service.required (none : Option α) text : Operation W α) (.invalidArgument text) :=
  fun _ _ _ => rfl

/-- An argument that is there, and then an operation that gets it. -/
theorem bind_given {a : α} {text : String} {f : α → Operation W β} (h : Idle (f a) e) :
    Idle (Service.required (some a) text >>= f) e := h

/-- A check, and then an operation. -/
theorem bind_lift {x : Except Error α} {f : α → Operation W β} (herr : ∀ e', x = .error e' → e' = e)
    (hok : ∀ a, x = .ok a → Idle (f a) e) : Idle (liftM x >>= f) e := by
  intro st s hst
  rw [Edit.bind_apply, liftM_apply]
  cases x with
  | error e' => rw [herr e' rfl]
  | ok a => exact hok a rfl st s hst

end Idle

end Operation

theorem idle_changeTo (o : Config.Options) : Idle (changeTo c o) .notInitialized :=
  Idle.loadedStore.bind _

theorem idle_reconfigure (properties : Option Config.Properties) :
    Idle (reconfigure c properties) (Command.refusal (.reconfigure properties)) := by
  refine .bind_lift (fun e he => ?_) fun o ho => ?_
  · rw [Command.refusal, he]
  · rw [Command.refusal, ho]
    exact idle_changeTo o

theorem idle_entry (name : Option String) :
    Idle ( entry? c name) (Command.refusal (.entry name)) := by
  cases name with
  | none => exact (Idle.required_none noAlias).bind _
  | some name => exact .bind_given (Idle.loadedStore.bind _)

theorem idle_keyManagers (algorithm : Option String) :
    Idle (keyManagers c algorithm) (Command.refusal (.keyManagers algorithm)) := by
  cases algorithm with
  | none => exact (Idle.required_none noAlgorithm).bind _
  | some algorithm => exact .bind_given (Idle.loadedStore.bind _)

theorem idle_setEntry (name : Option String) (entry : Option Entry) :
    Idle (setEntry c name entry) (Command.refusal (.setEntry name entry)) := by
  cases name with
  | none => exact (Idle.required_none noAlias).bind _
  | some name =>
    -- the alias is checked before the entry, and both before the state
    refine .bind_given ?_
    simp only [Command.refusal]
    split
    · exact (Idle.throw _).bind _
    · cases entry with
      | none => exact (Idle.required_none noEntry).bind _
      | some entry => exact .bind_given (Idle.loadedStore.bind _)

theorem idle_deleteEntry (name : Option String) :
    Idle (deleteEntry c name) (Command.refusal (.deleteEntry name)) := by
  cases name with
  | none => exact (Idle.required_none noAlias).bind _
  | some name => exact .bind_given (Idle.loadedStore.bind _)

theorem idle_createKeyPair (name : String) (algorithm : Keys.KeyAlgorithm) (subject : String)
    (days : Nat) :
    Idle (createKeyPair c name algorithm subject days)
      (Command.refusal (.createKeyPair name algorithm subject days)) := by
  simp only [createKeyPair, Command.refusal]
  split
  · exact (Idle.throw _).bind _
  · -- the subject is read and the key drawn behind the look at the state
    exact (Idle.loadedStore.bind _).bind _

/-! ### Commands -/

theorem Command.idle_run {command : Command} (hactivate : ∀ properties, command ≠ .activate properties)
    (hclose : command ≠ .close) (hactive : command ≠ .isActive) :
    Idle (command.run c) command.refusal := by
  cases command with
  | activate properties => exact absurd rfl (hactivate properties)
  | close => exact absurd rfl hclose
  | isActive => exact absurd rfl hactive
  | reconfigure properties => exact (idle_reconfigure properties).bind _
  | store | aliases => exact (Idle.loadedStore.bind _).bind _
  | entry name => exact (idle_entry name).bind _
  | entries => exact (Idle.loadedStore.bind _).bind _
  | keyManagers algorithm => exact (idle_keyManagers algorithm).bind _
  | request name subject => exact ((idle_entry (some name)).bind _).bind _
  | setEntry name entry => exact (idle_setEntry name entry).bind _
  | deleteEntry name => exact (idle_deleteEntry name).bind _
  | createKeyPair name algorithm subject days =>
    exact (idle_createKeyPair name algorithm subject days).bind _

/-- A closed service cannot be activated. -/
theorem Command.activate_closed (properties : Option Config.Properties) (s : Session W) :
    (activate properties).run c .closed s =
      ((.error (activate properties).refusal, .closed), s) := by
  rw [run, Edit.bind_apply, Service.activate, Edit.bind_apply, liftM_apply, refusal]
  cases Config.Options.resolve properties <;> rfl

/-- Every command leaves a closed service closed. -/
theorem Command.run_closed (command : Command) (s : Session W) :
    (command.run c .closed s).1.2 = .closed := by
  cases command with
  | close | isActive => rfl
  | activate properties => rw [activate_closed]
  | _ => rw [idle_run (by simp) (by simp) (by simp) _ _ rfl]

/-! ### Runs -/

/-- The states that commands lead to from a state, called one after the other in any sessions. -/
inductive Leads (c : Collaborators W) : State → List Command → State → Prop where
  | done {st : State} : Leads c st [] st
  | call {st st' : State} {commands : List Command} (command : Command) (s : Session W)
      (h : Leads c (command.run c st s).1.2 commands st') : Leads c st (command :: commands) st'

namespace Leads

variable {st st' : State} {commands : List Command}

/-- A closed service stays closed. -/
theorem closed (h : Leads c st commands st') (hst : st = .closed) : st' = .closed := by
  induction h with
  | done => exact hst
  | call command s _ ih =>
    subst hst
    exact ih (command.run_closed s)

/-- Once it was closed, a service is closed. -/
theorem closed_of_mem (h : Leads c st commands st') (hclose : .close ∈ commands) :
    st' = .closed := by
  induction h with
  | done => cases hclose
  | @call st st' commands command s h ih =>
    rcases List.mem_cons.1 hclose with rfl | hclose
    · have hclosed : (Command.close.run c st s).1.2 = .closed := by cases st <;> rfl
      exact h.closed hclosed
    · exact ih hclose

end Leads

/-! ### Refusals -/

/-- A command ends in its refusal and does nothing else: the state and the session stay as they are,
and nobody is called. -/
def Refuses (c : Collaborators W) (command : Command) (st : State) (s : Session W) : Prop :=
  command.run c st s = ((.error command.refusal, st), s) ∧
    command.run c.traced st (Traced.session s []) =
      ((.error command.refusal, st), Traced.session s [])

/-- **Closing is final, and nothing is served outside of serving.**

Once a service was closed, it is closed, whatever is called.  A service that was not activated, or that
was closed, refuses every command that is not to activate it, to close it or to ask whether it is
active; and one that was closed refuses to be activated.  Nobody is called then, and no key is drawn,
which takes random bytes.  The refusal names an argument that is missing, or else a configuration that
does not resolve; all else is refused because nothing is served. -/
theorem closing_final (c : Collaborators W) :
    (∀ st commands st', Leads c st commands st' → .close ∈ commands → st' = .closed) ∧
    (∀ st, st.isActive = false → ∀ command, command ≠ .close → command ≠ .isActive →
      (∀ properties, command ≠ .activate properties) → ∀ s, Refuses c command st s) ∧
    (∀ properties s, Refuses c (.activate properties) .closed s) ∧
    (∀ command : Command,
      (command.Incomplete → command.refusal.kind = .invalidArgument) ∧
      (command.Unresolvable → command.refusal.kind = .invalidConfiguration) ∧
      (¬ command.Incomplete → ¬ command.Unresolvable → command.refusal = .notInitialized)) ∧
    ∀ algorithm (s : Session W),
      s.entropy.used < (Keys.PrivateKey.fresh algorithm s).2.entropy.used := by
  refine ⟨fun st commands st' h => h.closed_of_mem, ?_, ?_, fun command => ?_, ?_⟩
  · intro st hst command hclose hactive hactivate s
    exact ⟨Command.idle_run hactivate hclose hactive st s hst,
      Command.idle_run hactivate hclose hactive st _ hst⟩
  · exact fun properties s =>
      ⟨Command.activate_closed properties s, Command.activate_closed properties _⟩
  · exact ⟨Command.kind_refusal_of_incomplete, Command.kind_refusal_of_unresolvable,
      Command.refusal_of_sound⟩
  · exact fun algorithm s => Keys.PrivateKey.fresh_used algorithm s

/-- A service that was loaded and closed is not activated again, refuses an entry without an alias for
the missing alias, and a key pair with an unusable subject because it serves nothing. -/
theorem closing_final_ledger :
    let session : Session Records := ⟨fun _ => none, ⟨fun _ => 0, 0⟩, 0, []⟩
    let activate : Command := .activate (some (Ledger.properties "t|one" false))
    let createKeyPair : Command := .createKeyPair "device" .ed25519 "no subject" 1
    (activate.run .ledger .uninitialized session).1 =
        (.ok .done, .loaded ⟨Ledger.options "t|one" false, Table.empty⟩) ∧
      (∀ st, Leads .ledger .uninitialized [activate, .close, activate] st → st = .closed) ∧
      Refuses .ledger activate .closed session ∧
      Refuses .ledger (.setEntry none none) .closed session ∧
      (Command.setEntry none none).refusal.kind = .invalidArgument ∧
      Refuses .ledger createKeyPair .closed session ∧
      createKeyPair.refusal = .notInitialized := by
  intro session activate createKeyPair
  obtain ⟨hclosed, hrefuses, hactivate, hrefusal, -⟩ := closing_final Collaborators.ledger
  have hloaded : (activate.run .ledger .uninitialized session).1 =
      (.ok .done, .loaded ⟨Ledger.options "t|one" false, Table.empty⟩) := by
    decide +kernel
  have hmem : Command.close ∈ [activate, .close, activate] := by simp
  refine ⟨hloaded, fun st h => hclosed _ _ st h hmem, hactivate _ session, ?_, ?_, ?_, ?_⟩
  · exact hrefuses .closed rfl _ (by simp) (by simp) (by simp) session
  · exact (hrefusal _).1 (.inl rfl)
  · exact hrefuses .closed rfl _ (by simp [createKeyPair]) (by simp [createKeyPair])
      (by simp [createKeyPair]) session
  · have hcomplete : ¬ createKeyPair.Incomplete := by simp [createKeyPair, Command.Incomplete]
    exact (hrefusal _).2.2 hcomplete id

end Keyring.Service

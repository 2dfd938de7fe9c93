import Keyring.Service.Operations

/-!
# Commands

What callers may ask of the service, as data: a run of the service is a sequence of commands, and a
statement about every operation is a statement about `Command.run`.

* `Command` : an operation with its arguments;
* `Answer` : what an operation returns;
* `Command.run` : the operation that a command stands for.
-/

namespace Keyring.Service

/-- An operation with its arguments. -/
inductive Command where
  | activate (properties : Option Config.Properties)
  | reconfigure (properties : Option Config.Properties)
  | close
  | isActive
  | store
  | aliases
  | entry (name : Option String)
  | entries
  | keyManagers (algorithm : Option String)
  | request (name subject : String)
  | setEntry (name : Option String) (entry : Option Entry)
  | deleteEntry (name : Option String)
  | createKeyPair (name : String) (algorithm : Keys.KeyAlgorithm) (subject : String) (days : Nat)

/-- What an operation returns. -/
inductive Answer where
  | done
  | flag (value : Bool)
  | container (container : Container)
  | names (names : List String)
  | found (entry : Option Entry)
  | all (entries : Table Entry)
  | managers (managers : List Tls.KeyManager)
  | request (request : Keys.Request)
  | created (entry : KeyEntry)
  deriving DecidableEq

instance instDecidableEqExcept {ε α : Type} [DecidableEq ε] [DecidableEq α] :
    DecidableEq (Except ε α)
  | .ok a, .ok b => decidable_of_iff (a = b) ⟨congrArg Except.ok, Except.ok.inj⟩
  | .error d, .error e => decidable_of_iff (d = e) ⟨congrArg Except.error, Except.error.inj⟩
  | .ok _, .error _ | .error _, .ok _ => isFalse nofun

namespace Command

variable {W : Type} (c : Collaborators W)

/-- The operation that a command stands for. -/
def run : Command → Operation W Answer
  | .activate properties => do
    Service.activate c properties
    return .done
  | .reconfigure properties => do
    Service.reconfigure c properties
    return .done
  | .close => do
    Service.close
    return .done
  | .isActive => do return .flag (← state).isActive
  | .store => do return .container (← Service.store)
  | .aliases => do return .names (← Service.aliases)
  | .entry name => do return .found (← entry? c name)
  | .entries => do return .all (← Service.entries c)
  | .keyManagers algorithm => do return .managers (← Service.keyManagers c algorithm)
  | .request name subject => do return .request (← Service.request c name subject)
  | .setEntry name e => do
    Service.setEntry c name e
    return .done
  | .deleteEntry name => do
    Service.deleteEntry c name
    return .done
  | .createKeyPair name algorithm subject days => do
    return .created (← Service.createKeyPair c name algorithm subject days)

end Command

end Keyring.Service

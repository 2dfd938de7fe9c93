import Keyring.Service.Basic

/-!
# Observed collaborators

Collaborators that write down every call and fail as planned (`Collaborators.observed`), so that one
can see what the service asks of them and what it does when they refuse.
-/

namespace Keyring.Service

/-- A call of a collaborator. -/
inductive Call where
  | contains (path : Files.Path)
  | load (path : Files.Path) (password : Password)
  | store (path : Files.Path) (password : Password) (aliases : List String)
  | decrypt (secret : Password)
  | encrypt (secret : Password)
  | updateConfiguration (serviceId : Option String) (properties : Config.Properties)
  deriving DecidableEq

namespace Call

/-- A call in words; `shown` says how secrets are shown. -/
def text (shown : String → String) : Call → String
  | .contains path => "exists " ++ path.text
  | .load path password => "load " ++ path.text ++ " with " ++ shown password.text
  | .store path password aliases =>
    "store " ++ path.text ++ " with " ++ shown password.text ++ " [" ++ ",".intercalate aliases ++ "]"
  | .decrypt secret => "decrypt " ++ shown secret.text
  | .encrypt secret => "encrypt " ++ shown secret.text
  | .updateConfiguration serviceId properties =>
    "update_configuration " ++ serviceId.getD "-" ++ " " ++
      shown ((Bytes.toString? properties.toJson).getD "")

end Call

/-- The calls that can be made to fail. -/
inductive Target where
  | load
  | store
  | decrypt
  | encrypt
  | updateConfiguration
  deriving DecidableEq, Repr

/-- How a target fails: some calls pass, all later ones end in an error. -/
structure Plan where
  passing : Nat
  error : Error
  deriving DecidableEq

/-- A world with the calls made on it and the failures planned. -/
structure Observed (W : Type) where
  world : W
  /-- The calls so far, in order. -/
  calls : List Call
  plans : Target → Option Plan
  /-- The last configuration that was handed back. -/
  written : Option Config.Properties

namespace Observed

variable {W α : Type}

/-- The world that is observed. -/
def inner : Focus (Observed W) W := ⟨world, fun world o => { o with world }⟩

/-- Puts a plan, or none, in the place of the one for a target. -/
def plan (o : Observed W) (target : Target) (p : Option Plan) : Observed W :=
  { o with plans := fun t => if t = target then p else o.plans t }

/-- Writes down a call. -/
def note (call : Call) : Act (Observed W) Unit :=
  Act.onWorld fun o => (.ok (), { o with calls := o.calls ++ [call] })

/-- Fails if that is planned for a target. -/
def obey (target : Target) : Act (Observed W) Unit :=
  Act.onWorld fun o =>
    match o.plans target with
    | none => (.ok (), o)
    | some ⟨0, error⟩ => (.error error, o)
    | some ⟨passing + 1, error⟩ => (.ok (), o.plan target (some ⟨passing, error⟩))

/-- Notes a call, fails if that is planned, and otherwise makes it. -/
def make (call : Call) (target : Target) (act : Act W α) : Act (Observed W) α := do
  note call
  obey target
  Act.within inner act

end Observed

/-- Collaborators that write down every call and fail as planned. -/
def Collaborators.observed {W : Type} (c : Collaborators W) : Collaborators (Observed W) where
  backend :=
    { contains := fun path => do
        Observed.note (.contains path)
        Act.within Observed.inner (c.backend.contains path)
      load := fun path password =>
        Observed.make (.load path password) .load (c.backend.load path password)
      store := fun container path password =>
        Observed.make (.store path password container.aliases) .store
          (c.backend.store container path password) }
  cipher :=
    { decrypt := fun secret =>
        Observed.make (.decrypt secret) .decrypt (c.cipher.decrypt secret)
      encrypt := fun secret => Observed.make (.encrypt secret) .encrypt (c.cipher.encrypt secret) }
  updateConfiguration serviceId properties := do
    Observed.make (.updateConfiguration serviceId properties) .updateConfiguration
      (c.updateConfiguration serviceId properties)
    Act.onWorld fun o => (.ok (), { o with written := some properties })

end Keyring.Service

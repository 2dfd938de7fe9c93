import Keyring.Backend
import Keyring.Config.Store
import Keyring.Keys.Issuance
import Keyring.Secret
import Keyring.Tls.KeyManager

/-!
# The keystore service

The service owns one container and keeps it in step with the backend that it was loaded from. It
starts uninitialized, serves a container once activated, and ends closed (`State`). Its operations run
on collaborators that may be anything (`Collaborators`).

A change is written through to the backend before it counts: if the write fails, the change is undone.
-/

namespace Keyring.Service

/-- What the service works with. -/
structure Collaborators (W : Type) where
  backend : Backend W
  cipher : Cipher W
  /-- Takes the configuration of a service after the service changed it. -/
  updateConfiguration : Option String → Config.Properties → Act W Unit

/-- The container being served, with the options it was loaded by. -/
structure LoadedStore where
  options : Config.Options
  container : Container
  deriving DecidableEq

/-- Where the service stands. -/
inductive State where
  | uninitialized
  | loaded (store : LoadedStore)
  | closed
  deriving DecidableEq

namespace State

/-- Whether a container is served. -/
def isActive : State → Bool
  | .loaded _ => true
  | _ => false

/-- The name of a state. -/
def name : State → String
  | .uninitialized => "uninitialized"
  | .loaded _ => "loaded"
  | .closed => "closed"

/-- The service in a state, for diagnostics. -/
def debug (s : State) : String :=
  Text.Quoted.fields "KeystoreService" [("state", Text.Quoted.text s.name)] true

end State

/-- An operation of the service: it may fail, and changes the state and the session either way. -/
abbrev Operation (W : Type) := Edit State W

variable {W α : Type}

/-- An act as an operation, which leaves the state alone. -/
def perform (act : Act W α) : Operation W α := Edit.perform act

/-- Where the service stands. -/
def state : Operation W State := Edit.value

/-- Puts the service into a state. -/
def setState (new : State) : Operation W Unit := Edit.replace new

/-- The container being served, without which an operation fails. -/
def loadedStore : Operation W LoadedStore := do
  match ← state with
  | .loaded store => return store
  | _ => throw .notInitialized

/-- An argument that has to be there. -/
def required (argument : Option α) (text : String) : Operation W α :=
  match argument with
  | some a => return a
  | none => throw (.invalidArgument text)

/-- The error text over a missing alias. -/
def noAlias : String := "Key Pair alias cannot be null!"

/-- The error text over an empty alias. -/
def emptyAlias : String := "Key Pair alias cannot be empty!"

/-- The error text over a missing entry. -/
def noEntry : String := "Input entry cannot be null!"

/-- The error text over a missing algorithm. -/
def noAlgorithm : String := "Algorithm cannot be null!"

/-! ### Steps that do not concern the state -/

section

variable (c : Collaborators W)

/-- The plain password of some options. -/
def plainPassword (o : Config.Options) : Act W Password :=
  Act.mapError (.classify .secretDecryption) (c.cipher.decrypt o.password)

/-- Loads the container of some options, or creates an empty one. -/
def openContainer (o : Config.Options) (password : Password) : Act W Container := do
  if ← c.backend.contains o.path then
    Act.mapError (.classify .storeLoad) (c.backend.load o.path password)
  else
    Act.report .info "creating empty keystore" [("path", o.path.text)]
    Act.mapError (.classify .storeLoad) (c.backend.store Table.empty o.path password)
    return Table.empty

/-- Puts a copy of a container under another password and stores it. -/
def reprotect (container : Container) (o : Config.Options) (old new : Password) :
    Act W Container := do
  let reprotected ←
    Act.mapError (.classify .storePersist) ((Container.reprotect old new).onCopy container)
  Act.mapError (.classify .storePersist) (c.backend.store reprotected o.path new)
  return reprotected

/-- Stores a container again as it was before a change that failed for `cause`; the error to report,
which names both faults if this one fails too. -/
def putBack (container : Container) (path : Files.Path) (password : Password) (cause : Error) :
    Act W Error :=
  tryCatch
    (do
      c.backend.store container path password
      return cause)
    fun e => do
      Act.report .warn "failed to restore keystore under previous password" [("error", e.text)]
      return .storePersist
        (cause.text ++ "; restoring the keystore under its previous password failed: " ++ e.text)

/-- Replaces the password by a random one if the options ask for it, and hands the changed
configuration back. -/
def randomize (o : Config.Options) (container : Container) (password : Password) :
    Act W LoadedStore := do
  if o.randomize then
    let new ← Sealing.freshPassword
    let secret ← Act.mapError (.classify .secretEncryption) (c.cipher.encrypt new)
    let reprotected ← reprotect c container o password new
    let properties := o.withPassword secret
    tryCatch (c.updateConfiguration o.serviceId properties) fun e => do
      Act.report .warn "failed to save regenerated password; restoring keystore"
        [("error", e.text)]
      throw (← putBack c container o.path password (e.classify .configurationStore))
    Act.report .info "keystore password randomized" [("path", o.path.text)]
    return ⟨← Config.Options.ofProperties properties, reprotected⟩
  else return ⟨o, container⟩

/-- Starts to serve the container of some options. -/
def load (o : Config.Options) : Act W LoadedStore := do
  let password ← plainPassword c o
  let container ← openContainer c o password
  let store ← randomize c o container password
  Act.report .info "keystore service activated"
    [("path", store.options.path.text), ("entries", toString store.container.size)]
  return store

/-- The container to serve under new options, and the password that the stored container had before
if it has another one now. -/
def moveContainer (current : LoadedStore) (o : Config.Options) (password : Password) :
    Act W (Container × Option Password) := do
  if !current.options.path.same o.path then
    Act.report .info "keystore path changed"
      [("from", current.options.path.text), ("to", o.path.text)]
    return (← openContainer c o password, none)
  else if current.options.password ≠ o.password then
    let old ← plainPassword c current.options
    if old = password then return (current.container, none)
    else
      Act.report .info "keystore password changed; re-protecting entries" []
      return (← reprotect c current.container o old password, some old)
  else return (current.container, none)

/-- Goes over from one configuration to another. -/
def change (current : LoadedStore) (o : Config.Options) : Act W LoadedStore := do
  let password ← plainPassword c o
  let (container, old) ← moveContainer c current o password
  match old with
  | none => randomize c o container password
  | some old =>
    tryCatch (randomize c o container password) fun e => do
      throw (← putBack c current.container current.options.path old e)

end

end Keyring.Service

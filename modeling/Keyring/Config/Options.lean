import Keyring.Config.Value
import Keyring.Files.Path
import Keyring.Password

/-!
# Keystore options

`Options.resolve` checks a configuration and fills in defaults. The password leaves the kept
properties (`Options.properties`); `Options.withPassword` puts another one back for the next
activation.
-/

namespace Keyring.Config

/-- The keys of a configuration that the keystore reads. -/
inductive Key where
  | serviceId
  | path
  | password
  | randomize
  deriving DecidableEq, Repr

/-- The name of a key in the configuration. -/
def Key.name : Key → String
  | .serviceId => "kura.service.pid"
  | .path => "keystore.path"
  | .password => "keystore.password"
  | .randomize => "randomize.password"

/-- What the service needs to know of its configuration. -/
structure Options where
  /-- The configuration without the password. -/
  properties : Properties
  serviceId : Option String
  /-- Where the container is stored. -/
  path : Files.Path
  /-- The password as configured, that is, encrypted. -/
  password : Password
  /-- Whether the password is to be replaced by a random one. -/
  randomize : Bool
  deriving DecidableEq

namespace Options

/-- The path of a configuration that names none. -/
def defaultPath : String := "/tmp"

/-- The password of a configuration that has none. -/
def defaultPassword : String := "changeit"

/-- The value under a key as `read` takes it, or the default if nothing is there. -/
def setting {α : Type} (p : Properties) (key : Key) (read : String → Value → Except Error α)
    (default : α) : Except Error α :=
  match p.find? key.name with
  | some value => read key.name value
  | none => .ok default

/-- The options of a configuration. Its values are checked in the order service id, path,
password, randomization. -/
def ofProperties (p : Properties) : Except Error Options := do
  let serviceId ← setting p .serviceId (fun key value => some <$> value.asString key) none
  let path ← setting p .path Value.asString defaultPath
  if Text.isBlankText path then
    throw (.invalidConfiguration ("Property '" ++ Key.path.name ++ "' cannot be empty"))
  let password ← setting p .password Value.asString defaultPassword
  let randomize ← setting p .randomize Value.asBoolean false
  return ⟨p.erase Key.password.name, serviceId, ⟨path⟩, ⟨password⟩, randomize⟩

/-- The options of a configuration that may be absent, which is an error. -/
def resolve : Option Properties → Except Error Options
  | none => .error (.invalidConfiguration "Input parameters cannot be null!")
  | some p => ofProperties p

/-- The configuration for the next activation, after the password was replaced: it holds the new
encrypted password, which is not to be replaced again. -/
def withPassword (o : Options) (password : Password) : Properties :=
  (o.properties.insert Key.password.name (.string password.text)).insert Key.randomize.name
    (.boolean false)

/-- Whether two options mean the same to the service: all but the kept properties agree. -/
def same (o o' : Options) : Bool :=
  o.serviceId == o'.serviceId && o.path.same o'.path && o.password == o'.password &&
    o.randomize == o'.randomize

/-- The options for diagnostics, without the password. -/
def debug (o : Options) : String :=
  Text.Quoted.fields "KeystoreOptions"
    [("service_id",
        match o.serviceId with
        | none => "None"
        | some id => "Some(" ++ Text.Quoted.text id ++ ")"),
      ("storage_path", Text.Quoted.text o.path.text),
      ("store_password", o.password.debug),
      ("randomize_password", if o.randomize then "true" else "false")]
    true

end Options

end Keyring.Config

import Keyring.Bytes

/-!
# Journal

The events that operations report, with their level, message and named values.
-/

namespace Keyring

/-- How much an event matters. -/
inductive Level where
  | debug
  | info
  | warn
  deriving DecidableEq, Repr

/-- The name of a level. -/
def Level.name : Level → String
  | .debug => "DEBUG"
  | .info => "INFO"
  | .warn => "WARN"

/-- Something that happened. -/
structure Event where
  level : Level
  message : String
  /-- Names and values, in the order they are shown. -/
  fields : List (String × String)
  deriving DecidableEq, Repr

/-- An event on one line. -/
def Event.text (e : Event) : String :=
  e.level.name ++ " " ++ e.message ++
    String.join (e.fields.map fun (name, value) => " " ++ name ++ "=" ++ value)

end Keyring

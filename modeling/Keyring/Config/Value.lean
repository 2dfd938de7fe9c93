import Keyring.Error
import Keyring.Json.Document
import Keyring.Json.Writer
import Keyring.Table
import Keyring.Text.Blank

/-!
# Configuration values

A configuration assigns booleans, integers and strings to keys (`Properties`). `asString`,
`asBoolean` and `asInteger` read a value as one of these and name the key in the error if it is
another.
-/

namespace Keyring.Config

/-- The integers that a configuration may hold: those of 64 bits with sign. -/
abbrev Integer := { n : Int // -0x8000000000000000 ≤ n ∧ n < 0x8000000000000000 }

/-- A configured value. -/
inductive Value where
  | boolean (value : Bool)
  | integer (value : Integer)
  | string (value : String)
  deriving DecidableEq, Repr

namespace Value

/-- The kind of a value, as errors name it. -/
def kind : Value → String
  | .boolean _ => "boolean"
  | .integer _ => "integer"
  | .string _ => "string"

/-- The value in words. -/
def text : Value → String
  | .boolean b => if b then "true" else "false"
  | .integer n => toString n.val
  | .string s => s

/-- The value with its kind, for diagnostics. -/
def debug : Value → String
  | .boolean b => "Bool(" ++ (if b then "true" else "false") ++ ")"
  | .integer n => "Integer(" ++ toString n.val ++ ")"
  | .string s => "String(" ++ Text.Quoted.text s ++ ")"

/-- The error over a value of the wrong kind. -/
def wrongKind (key expected : String) (found : Value) : Error :=
  .invalidConfiguration
    ("Property '" ++ key ++ "' must be a " ++ expected ++ ", found " ++ found.kind)

/-- Reads a value as a string. -/
def asString (key : String) : Value → Except Error String
  | .string s => .ok s
  | other => .error (wrongKind key "string" other)

/-- Reads a value as a boolean; a string may spell one, in any case and between blanks. -/
def asBoolean (key : String) : Value → Except Error Bool
  | .boolean b => .ok b
  | .string s =>
    if Text.sameIgnoringCase (Text.trim s) "true" then .ok true
    else if Text.sameIgnoringCase (Text.trim s) "false" then .ok false
    else .error (wrongKind key "boolean" (.string s))
  | other => .error (wrongKind key "boolean" other)

/-- Reads a value as an integer. -/
def asInteger (key : String) : Value → Except Error Integer
  | .integer n => .ok n
  | other => .error (wrongKind key "integer" other)

/-! ### JSON -/

/-- The value of a JSON document, if it is a scalar of one of the three kinds. -/
def ofJson? : Json.Value → Option Value
  | .bool b => some (.boolean b)
  | .number (.natural n) =>
    if h : (n : Int) < 0x8000000000000000 then some (.integer ⟨n, by omega, h⟩) else none
  | .number (.negative n) =>
    if h : -0x8000000000000000 ≤ -(n : Int) then some (.integer ⟨-n, h, by omega⟩) else none
  | .string s => some (.string s)
  | _ => none

/-- Reads a value from JSON. -/
def reader (depth : Nat) : Json.Reader Value := do
  match ofJson? (← Json.Reader.located (Json.Reader.value depth)) with
  | some v => return v
  | none => Json.Reader.mismatch (.noVariant "ConfigValue")

/-- The value of a JSON text. -/
def parse (text : Bytes) : Except Json.Error Value :=
  Json.Reader.readAll (reader Json.depthLimit) text

/-- A value in JSON. -/
def toJson : Value → Bytes
  | .boolean b => Json.Writer.ascii (if b then "true" else "false")
  | .integer n => Json.Writer.integer n.val
  | .string s => Json.Writer.string s

end Value

/-- Values by key. -/
abbrev Properties := Table Value

namespace Properties

/-- Reads the members of a JSON object; the last one under a key counts. -/
def reader (depth : Nat) : Json.Reader Properties := Json.Reader.located do
  match ← Json.Reader.peekPastSpace with
  | none => Json.Reader.failAhead .endInValue
  | some 0x7b =>
    Json.Reader.nested depth
      (fun depth => do
        let member (found : Properties) (key : String) : Json.Reader Properties := do
          Json.Reader.colon
          return found.insert key (← Value.reader depth)
        Json.Reader.members member (← Json.Reader.fuel) true Table.empty)
      Json.Reader.endObject
  | some _ => Json.Reader.wrongType depth "a map"

/-- The properties of a JSON text. -/
def parse (text : Bytes) : Except Json.Error Properties :=
  Json.Reader.readAll (reader Json.depthLimit) text

/-- The properties as a JSON object. -/
def toJson (p : Properties) : Bytes :=
  Json.Writer.object (p.toList.map fun (key, value) => (key, value.toJson))

/-- The properties as a JSON object with a member on each line. -/
def toPrettyJson (p : Properties) : Bytes :=
  Json.Writer.prettyObject (p.toList.map fun (key, value) => (key, value.toJson))

end Properties

end Keyring.Config

import Keyring.Number.Binary64
import Keyring.Text.Quoted

/-!
# JSON values and reading errors

`Value` is a document as read, with object members in written order. `Error` says why a text is not
the JSON that was expected: `Cause` is either a fault of the syntax or a value of the wrong shape,
and the position is that of the byte where it shows.
-/

namespace Keyring.Json

/-- A number as written: a natural number below `2 ^ 64`, a negative integer from `-2 ^ 63` on, or
anything else as a floating-point number. -/
inductive Number where
  | natural (value : Nat)
  | negative (magnitude : Nat)
  | float (negative : Bool) (magnitude : Number.Binary64)
  deriving DecidableEq, Repr

/-- A JSON document. -/
inductive Value where
  | null
  | bool (value : Bool)
  | number (value : Number)
  | string (value : String)
  | list (items : List Value)
  | object (members : List (String × Value))
  deriving Repr

/-- A value met where another was expected, as an error names it. -/
def Value.found : Value → String
  | .null => "null"
  | .bool b => "boolean " ++ tick (if b then "true" else "false")
  | .number (.natural n) => "integer " ++ tick (toString n)
  | .number (.negative n) => "integer " ++ tick ("-" ++ toString n)
  | .number (.float negative x) =>
    "floating point " ++ tick ((if negative then "-" else "") ++ x.text)
  | .string s => "string " ++ Text.Quoted.text s
  | .list _ => "sequence"
  | .object _ => "map"
where
  /-- A text between the marks that set off code. -/
  tick (s : String) : String := "\x60" ++ s ++ "\x60"

/-- Line, from one, and column, in bytes from zero. -/
structure Position where
  line : Nat
  column : Nat
  deriving DecidableEq, Repr

/-- The position behind a byte. -/
def Position.after (p : Position) (byte : UInt8) : Position :=
  if byte = 0x0a then ⟨p.line + 1, 0⟩ else ⟨p.line, p.column + 1⟩

/-- Why reading failed. -/
inductive Cause where
  | endInValue
  | endInString
  | endInList
  | endInObject
  | expectedColon
  | expectedCommaOrBracket
  | expectedCommaOrBrace
  | expectedWord
  | expectedValue
  | invalidEscape
  | invalidNumber
  | numberOutOfRange
  | invalidCodePoint
  | controlCharacter
  | keyNotString
  | loneSurrogate
  | endInEscape
  | trailingComma
  | trailingCharacters
  | tooDeep
  /-- A value of another type than expected. -/
  | wrongType (found expected : String)
  /-- A value of the right type that lies outside its range. -/
  | wrongValue (found expected : String)
  /-- A list of the wrong length. -/
  | wrongLength (length : Nat) (expected : String)
  | missingField (name : String)
  | duplicateField (name : String)
  /-- A tag that names none of the alternatives. -/
  | unknownVariant (name : String) (alternatives : List String)
  /-- A value that fits none of the alternatives of a type. -/
  | noVariant (type : String)
  /-- A fault that another source of documents reports in its own words. -/
  | other (text : String)
  deriving DecidableEq, Repr

/-- A cause in words. -/
def Cause.text : Cause → String
  | .endInValue => "EOF while parsing a value"
  | .endInString => "EOF while parsing a string"
  | .endInList => "EOF while parsing a list"
  | .endInObject => "EOF while parsing an object"
  | .expectedColon => "expected " ++ tick ":"
  | .expectedCommaOrBracket => "expected " ++ tick "," ++ " or " ++ tick "]"
  | .expectedCommaOrBrace => "expected " ++ tick "," ++ " or " ++ tick "\x7d"
  | .expectedWord => "expected ident"
  | .expectedValue => "expected value"
  | .invalidEscape => "invalid escape"
  | .invalidNumber => "invalid number"
  | .numberOutOfRange => "number out of range"
  | .invalidCodePoint => "invalid unicode code point"
  | .controlCharacter => "control character (\\u0000-\\u001F) found while parsing a string"
  | .keyNotString => "key must be a string"
  | .loneSurrogate => "lone leading surrogate in hex escape"
  | .endInEscape => "unexpected end of hex escape"
  | .trailingComma => "trailing comma"
  | .trailingCharacters => "trailing characters"
  | .tooDeep => "recursion limit exceeded"
  | .wrongType found expected => "invalid type: " ++ found ++ ", expected " ++ expected
  | .wrongValue found expected => "invalid value: " ++ found ++ ", expected " ++ expected
  | .wrongLength length expected =>
    "invalid length " ++ toString length ++ ", expected " ++ expected
  | .missingField name => "missing field " ++ tick name
  | .duplicateField name => "duplicate field " ++ tick name
  | .unknownVariant name alternatives =>
    "unknown variant " ++ tick name ++ ", expected " ++
      " or ".intercalate (alternatives.map tick)
  | .noVariant type => "data did not match any variant of untagged enum " ++ type
  | .other text => text
where
  /-- A text between the marks that set off code. -/
  tick (s : String) : String := "\x60" ++ s ++ "\x60"

/-- Why a text is not the JSON that was expected, and where that showed. -/
structure Error where
  cause : Cause
  position : Option Position
  deriving DecidableEq, Repr

/-- The error in words. -/
def Error.text (e : Error) : String :=
  e.cause.text ++
    match e.position with
    | none => ""
    | some p => " at line " ++ toString p.line ++ " column " ++ toString p.column

end Keyring.Json

import Keyring.Error
import Keyring.Text.Blank
import Keyring.Text.Split
import Keyring.X509.Name

/-!
# Subjects

Subjects of certificates as people write them: `CN=gateway,O=Edge`. `Subject.parse` reads the
attributes in order; one of a type that was there before replaces the value and keeps the place
(`Subject.push`).
-/

namespace Keyring.X509

/-- The types of attributes that a subject may have. -/
inductive SubjectType where
  | commonName
  | country
  | organization
  | organizationalUnit
  | state
  | locality
  | serialNumber
  | domainComponent
  deriving DecidableEq, Repr

namespace SubjectType

/-- The type of a name, in any case. -/
def ofName? (name : List Char) : Option SubjectType :=
  [("CN", commonName), ("C", country), ("O", organization), ("OU", organizationalUnit),
    ("ST", state), ("S", state), ("L", locality), ("SERIALNUMBER", serialNumber),
    ("DC", domainComponent)].lookup (String.ofList (name.map Char.toUpper))

/-- The identifier of a type. -/
def oid : SubjectType → Der.Oid
  | commonName => .ofArcs [2, 5, 4, 3]
  | country => .ofArcs [2, 5, 4, 6]
  | organization => .ofArcs [2, 5, 4, 10]
  | organizationalUnit => .ofArcs [2, 5, 4, 11]
  | state => .ofArcs [2, 5, 4, 8]
  | locality => .ofArcs [2, 5, 4, 7]
  | serialNumber => .ofArcs [2, 5, 4, 5]
  | domainComponent => .ofArcs [0, 9, 2342, 19200300, 100, 1, 25]

end SubjectType

/-- Types with values, each type at most once. -/
abbrev Subject := List (SubjectType × String)

/-- Why a text is no subject. -/
inductive SubjectFault where
  | empty
  /-- An attribute has no equals sign. -/
  | noEquals (piece : String)
  | unknownType (name : String)
  | noValue (name : String)
  deriving DecidableEq, Repr

/-- A fault in words. -/
def SubjectFault.text : SubjectFault → String
  | .empty => "Subject cannot be empty"
  | .noEquals piece => "Invalid subject attribute: " ++ piece
  | .unknownType name => "Unknown DN type: " ++ name
  | .noValue name => "Subject attribute " ++ name ++ " has no value"

namespace Subject

/-- Adds an attribute at the end, or in place of one of the same type. -/
def push (s : Subject) (type : SubjectType) (value : String) : Subject :=
  match s with
  | [] => [(type, value)]
  | (t, v) :: rest => if t = type then (t, value) :: rest else (t, v) :: push rest type value

/-- The type and the value of one attribute. -/
def ofPiece (piece : List Char) : Except SubjectFault (SubjectType × String) :=
  match Text.splitFirst? '=' (Text.trimList piece) with
  | none => .error (.noEquals (String.ofList (Text.trimList piece)))
  | some (name, value) =>
    let name := Text.trimList name
    match SubjectType.ofName? name with
    | none => .error (.unknownType (String.ofList name))
    | some type =>
      if (Text.trimList value).isEmpty then .error (.noValue (String.ofList name))
      else .ok (type, String.ofList (Text.trimList value))

/-- The attributes of a text between commas. -/
def attributes (text : String) : Except SubjectFault (List (SubjectType × String)) :=
  if Text.isBlankText text then .error .empty else (Text.split ',' text.toList).mapM ofPiece

/-- The subject of a text. -/
def parse (text : String) : Except SubjectFault Subject := do
  return (← attributes text).foldl (fun s (type, value) => push s type value) []

/-- The subject of a text that an argument gives. -/
def ofArgument (text : String) : Except Error Subject :=
  (parse text).mapError fun fault => .invalidArgument fault.text

/-- A subject as a name with an attribute in each set. -/
def toName (s : Subject) : Name :=
  s.map fun (type, value) => [⟨type.oid, ⟨Der.Tag.utf8String, Bytes.ofString value⟩⟩]

end Subject

end Keyring.X509

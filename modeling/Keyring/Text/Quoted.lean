import Keyring.Bytes
import Keyring.Text.Invisible

/-!
# Quoted texts

How a text or a character is shown in a diagnostic: between quotes, with a backslash before the
quote and the backslash, short names for common controls, and the number of every other character
that has no visible form. `list`, `fields` and `entries` lay out shown values in brackets.
-/

namespace Keyring.Text.Quoted

/-- The digits of a code point in lower-case hexadecimal. -/
def codePoint (c : Char) : List Char := (Nat.toDigits 16 c.toNat)

/-- A character as it stands between quotes of the kind `quote`. -/
def escape (quote : Char) (c : Char) : List Char :=
  if c = '\x00' then ['\\', '0']
  else if c = '\t' then ['\\', 't']
  else if c = '\n' then ['\\', 'n']
  else if c = '\r' then ['\\', 'r']
  else if c = '\\' || c = quote then ['\\', c]
  else if isInvisible c then ['\\', 'u', '\x7b'] ++ codePoint c ++ ['\x7d']
  else [c]

/-- A text between double quotes. -/
def text (s : String) : String :=
  String.ofList ('"' :: s.toList.flatMap (escape '"') ++ ['"'])

/-- A character between single quotes. -/
def char (c : Char) : String := String.ofList ('\'' :: escape '\'' c ++ ['\''])

/-- Shown values in square brackets. -/
def list (shown : List String) : String := "[" ++ ", ".intercalate shown ++ "]"

/-- A byte string as a list of numbers. -/
def bytes (bs : Bytes) : String := list (bs.map fun b => toString b.toNat)

/-- A record by name with its shown fields; `more` says that it has more than it shows. -/
def fields (name : String) (shown : List (String × String)) (more : Bool) : String :=
  let items := shown.map (fun (field, value) => field ++ ": " ++ value) ++ if more then [".."] else []
  name ++ " \x7b " ++ ", ".intercalate items ++ " \x7d"

/-- Shown keys and values in braces. -/
def entries (shown : List (String × String)) : String :=
  "\x7b" ++ ", ".intercalate (shown.map fun (key, value) => key ++ ": " ++ value) ++ "\x7d"

/-- The lines of a text, each but the first indented by four more spaces. -/
def indent (s : String) : String :=
  String.ofList (s.toList.flatMap fun c => if c = '\n' then "\n    ".toList else [c])

/-- Shown keys and values in braces, each on lines of its own. -/
def prettyEntries (shown : List (String × String)) : String :=
  if shown.isEmpty then "\x7b\x7d"
  else
    "\x7b" ++ String.join (shown.map fun (key, value) => indent ("\n" ++ key ++ ": " ++ value ++ ",")) ++
      "\n\x7d"

/-- A record by name with its shown fields, each on lines of its own. -/
def prettyFields (name : String) (shown : List (String × String)) : String :=
  name ++ " " ++ prettyEntries shown

end Keyring.Text.Quoted

import Keyring.Bytes

/-!
# Writing JSON

The written forms of strings, numbers, lists and objects, as bytes. Objects have a compact form
and one with a member on each line.
-/

namespace Keyring.Json.Writer

/-- The bytes of a text of ASCII characters. -/
def ascii (s : String) : Bytes := s.toList.map fun c => UInt8.ofNat c.toNat

/-- The lower-case hexadecimal digit of a number below sixteen. -/
def hexDigit (n : UInt8) : UInt8 := if n < 10 then 0x30 + n else 0x57 + n

/-- A byte of a string as it is written: quotes, backslashes and controls as escapes. -/
def escape (b : UInt8) : Bytes :=
  if b = 0x22 then [0x5c, 0x22]
  else if b = 0x5c then [0x5c, 0x5c]
  else if b = 0x08 then [0x5c, 0x62]
  else if b = 0x0c then [0x5c, 0x66]
  else if b = 0x0a then [0x5c, 0x6e]
  else if b = 0x0d then [0x5c, 0x72]
  else if b = 0x09 then [0x5c, 0x74]
  else if b < 0x20 then [0x5c, 0x75, 0x30, 0x30, hexDigit (b >>> 4), hexDigit (b &&& 0xf)]
  else [b]

/-- A string in quotes. -/
def string (s : String) : Bytes := 0x22 :: (Bytes.ofString s).flatMap escape ++ [0x22]

/-- The decimal digits of a natural number. -/
def natural (n : Nat) : Bytes := (Nat.toDigits 10 n).map fun c => UInt8.ofNat c.toNat

/-- An integer with its sign. -/
def integer : Int → Bytes
  | .ofNat n => natural n
  | .negSucc n => 0x2d :: natural (n + 1)

/-- Written items with a separator between them. -/
def separated (separator : Bytes) : List Bytes → Bytes
  | [] => []
  | [item] => item
  | item :: items => item ++ separator ++ separated separator items

/-- A list of written items. -/
def list (items : List Bytes) : Bytes := 0x5b :: separated [0x2c] items ++ [0x5d]

/-- An object of keys and written values. -/
def object (members : List (String × Bytes)) : Bytes :=
  0x7b :: separated [0x2c] (members.map fun (key, value) => string key ++ 0x3a :: value) ++ [0x7d]

/-- An object with a member on each line, indented by two spaces. -/
def prettyObject (members : List (String × Bytes)) : Bytes :=
  match members with
  | [] => [0x7b, 0x7d]
  | members =>
    [0x7b, 0x0a] ++
      separated [0x2c, 0x0a]
        (members.map fun (key, value) => [0x20, 0x20] ++ string key ++ [0x3a, 0x20] ++ value) ++
      [0x0a, 0x7d]

end Keyring.Json.Writer

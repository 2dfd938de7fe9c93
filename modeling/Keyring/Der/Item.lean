import Keyring.Bytes

/-!
# DER items

An `Item` is a tag with its content. `Item.encode` writes it with a length of the fewest bytes;
a `Decoder` reads items from the front of a byte string and accepts only that form.
-/

namespace Keyring.Der

/-- A tagged content. -/
structure Item where
  tag : UInt8
  content : Bytes
  deriving DecidableEq, Repr

/-! ### Tags -/

namespace Tag

/-- A truth value. -/
def boolean : UInt8 := 0x01

/-- A whole number. -/
def integer : UInt8 := 0x02

/-- A string of bits. -/
def bitString : UInt8 := 0x03

/-- A string of bytes. -/
def octetString : UInt8 := 0x04

/-- No value. -/
def null : UInt8 := 0x05

/-- An object identifier. -/
def oid : UInt8 := 0x06

/-- A text of any characters. -/
def utf8String : UInt8 := 0x0c

/-- A text of letters, digits and a few marks. -/
def printableString : UInt8 := 0x13

/-- A text in an older alphabet, of which ASCII is in use. -/
def teletexString : UInt8 := 0x14

/-- A text in ASCII. -/
def ia5String : UInt8 := 0x16

/-- A time with two digits for the year. -/
def utcTime : UInt8 := 0x17

/-- A time with four digits for the year. -/
def generalizedTime : UInt8 := 0x18

/-- Items in a fixed order. -/
def sequence : UInt8 := 0x30

/-- Items in the order of their encodings. -/
def set : UInt8 := 0x31

/-- The tag whose meaning the type around it fixes, over a content that is itself an item. -/
def explicit (number : UInt8) : UInt8 := 0xa0 + number

/-- The tag whose meaning the type around it fixes, in place of the tag of a simple content. -/
def implicit (number : UInt8) : UInt8 := 0x80 + number

/-- Whether a tag is of the class whose meaning the type around it fixes. -/
def isContextual (tag : UInt8) : Bool := tag &&& 0xc0 == 0x80

/-- The number of a tag within its class. -/
def number (tag : UInt8) : UInt8 := tag &&& 0x1f

/-- Tags of one byte. -/
def isShort (tag : UInt8) : Bool := number tag != 0x1f

/-- Tags of one byte that are either outside the universal class or in common use there. -/
def isKnown (tag : UInt8) : Bool :=
  isShort tag &&
    (0x40 ≤ tag ||
      [0x01, 0x02, 0x03, 0x04, 0x05, 0x06, 0x09, 0x0a, 0x0c, 0x12, 0x13, 0x14, 0x15, 0x16, 0x17,
        0x18, 0x1a, 0x1e, 0x30, 0x31].contains tag)

end Tag

/-! ### Writing -/

/-- The big-endian bytes of a number, without leading zeros but at least one. -/
def naturalBytes (n : Nat) : Bytes := Bytes.ofNatBE (Nat.log2 n / 8 + 1) n

/-- A length in its shortest form. -/
def encodeLength (n : Nat) : Bytes :=
  if n < 0x80 then [UInt8.ofNat n]
  else UInt8.ofNat (0x80 + (naturalBytes n).length) :: naturalBytes n

/-- An item as bytes. -/
def Item.encode (i : Item) : Bytes := i.tag :: encodeLength i.content.length ++ i.content

/-- A content under a tag. -/
def tagged (tag : UInt8) (content : Bytes) : Bytes := Item.encode ⟨tag, content⟩

/-- Encoded items in order. -/
def sequence (items : List Bytes) : Bytes := tagged Tag.sequence items.flatten

/-- The bytes of a natural number, of which the first is below 128. -/
def naturalContent (n : Nat) : Bytes :=
  let bytes := naturalBytes n
  if 0x80 ≤ bytes.headD 0 then 0 :: bytes else bytes

/-- A natural number. -/
def natural (n : Nat) : Bytes := tagged Tag.integer (naturalContent n)

/-- A string of bits whose count is a multiple of eight. -/
def bitString (content : Bytes) : Bytes := tagged Tag.bitString (0 :: content)

/-- A string of bytes. -/
def octetString (content : Bytes) : Bytes := tagged Tag.octetString content

/-- No value. -/
def null : Bytes := tagged Tag.null []

/-! ### Reading -/

/-- Which items a decoder takes. -/
structure Rules where
  tag : UInt8 → Bool
  maxLength : Nat

/-- A length in its shortest form, and what follows. -/
def readLength (r : Rules) : Bytes → Option (Nat × Bytes)
  | [] => none
  | b :: rest =>
    if b < 0x80 then if b.toNat ≤ r.maxLength then some (b.toNat, rest) else none
    else
      let digits := rest.take (b.toNat - 0x80)
      let n := Bytes.toNatBE digits
      if n ≤ r.maxLength ∧ encodeLength n = b :: digits then some (n, rest.drop digits.length)
      else none

/-- The first item, and what follows. -/
def readItem (r : Rules) : Bytes → Option (Item × Bytes)
  | [] => none
  | tag :: rest =>
    if r.tag tag then
      match readLength r rest with
      | none => none
      | some (n, rest) =>
        if n ≤ rest.length then some (⟨tag, rest.take n⟩, rest.drop n) else none
    else none

/-- A step of reading. -/
abbrev Decoder := StateT Bytes Option

namespace Decoder

variable {α : Type} (r : Rules)

/-- The next item. -/
def item : Decoder Item := readItem r

/-- The tag of the next item, if there is one. -/
def peek : Decoder (Option UInt8) := do return (← get).head?

/-- The content of the next item, which has the given tag. -/
def content (tag : UInt8) : Decoder Bytes := do
  let i ← item r
  if i.tag = tag then return i.content else failure

/-- The content of the next item if that has the given tag. -/
def content? (tag : UInt8) : Decoder (Option Bytes) := do
  if (← peek) = some tag then some <$> content r tag else return none

/-- Runs a decoder over a whole byte string. -/
def whole (d : Decoder α) (bs : Bytes) : Option α :=
  match d bs with
  | some (a, []) => some a
  | _ => none

/-- Runs a decoder over the content of the next item, which has the given tag. -/
def within (tag : UInt8) (d : Decoder α) : Decoder α := do
  match whole d (← content r tag) with
  | some a => return a
  | none => failure

/-- Repeats a decoder up to the end; each round takes at least one byte. -/
def many (d : Decoder α) : Decoder (List α) := fun bs => go bs.length bs
where
  /-- At most `fuel` rounds. -/
  go : (fuel : Nat) → Bytes → Option (List α × Bytes)
    | _, [] => some ([], [])
    | 0, _ => none
    | fuel + 1, bs =>
      match d bs with
      | none => none
      | some (a, rest) => (go fuel rest).map fun (as, rest) => (a :: as, rest)

/-- A natural number in the fewest bytes. -/
def natural : Decoder Nat := do
  let bytes ← content r Tag.integer
  if naturalContent (Bytes.toNatBE bytes) = bytes then return Bytes.toNatBE bytes else failure

/-- A string of bits whose count is a multiple of eight, under the given tag. -/
def octetBits (tag : UInt8) : Decoder Bytes := do
  match ← content r tag with
  | 0 :: bytes => return bytes
  | _ => failure

end Decoder

end Keyring.Der

import Keyring.X509.TypeName

/-!
# Distinguished names

A `Name` is a sequence of sets of attributes. `Name.text` is its string form of RFC 4514: the sets in
reverse order, known attribute types by name, all else by number and as hexadecimal digits.
-/

namespace Keyring.X509

open Der

/-- The rules of certificates: any known tag, and lengths below `2 ^ 28`. -/
def rules : Rules := ⟨Tag.isKnown, 0xfffffff⟩

/-- A type with a value. -/
structure Attribute where
  type : Oid
  value : Item
  deriving DecidableEq, Repr

/-- The attributes of a set. -/
abbrev NameSet := List Attribute

/-- A distinguished name. -/
abbrev Name := List NameSet

namespace Attribute

/-- An attribute as bytes. -/
def encode (a : Attribute) : Bytes := sequence [a.type.encode, a.value.encode]

/-- Reads an attribute. -/
def decoder : Decoder Attribute :=
  Decoder.within rules Tag.sequence do return ⟨← Decoder.oid rules, ← Decoder.item rules⟩

/-- A character of a printable string. -/
def isPrintable (b : UInt8) : Bool :=
  (0x41 ≤ b && b ≤ 0x5a) || (0x61 ≤ b && b ≤ 0x7a) || (0x30 ≤ b && b ≤ 0x39) ||
    " '()+,-./:=?".toList.any fun c => c.toNat == b.toNat

/-- The text of a value of one of the string types, if it is valid there. -/
def valueText? (value : Item) : Option String :=
  if value.tag = Tag.utf8String then Bytes.toString? value.content
  else if value.tag = Tag.printableString then
    if value.content.all isPrintable then Bytes.toString? value.content else none
  else if value.tag = Tag.ia5String ∨ value.tag = Tag.teletexString then
    if value.content.all (· < 0x80) then Bytes.toString? value.content else none
  else none

/-- A character of a value, which is the first or the last one or neither. -/
def escape (first last : Bool) (c : Char) : List Char :=
  if c = '#' ∧ first ∨ c = ' ' ∧ (first ∨ last) ∨ c ∈ "\"+,;<>\\".toList then ['\\', c]
  else if c.toNat < 0x20 ∨ c.toNat = 0x7f then
    ['\\', Nat.digitChar (c.toNat / 16), Nat.digitChar (c.toNat % 16)]
  else [c]

/-- The characters of a value; `first` says whether none went before. -/
def escapeAll (first : Bool) : List Char → List Char
  | [] => []
  | c :: cs => escape first cs.isEmpty c ++ escapeAll false cs

/-- The lower-case hexadecimal digits of a byte string. -/
def hexDigits (bs : Bytes) : List Char :=
  bs.flatMap fun b => [Nat.digitChar (b.toNat / 16), Nat.digitChar (b.toNat % 16)]

/-- An attribute as text. -/
def text (a : Attribute) : String :=
  match typeName? a.type, valueText? a.value with
  | some name, some value => name ++ "=" ++ String.ofList (escapeAll true value.toList)
  | _, _ => a.type.text ++ "=#" ++ String.ofList (hexDigits a.value.encode)

end Attribute

namespace Name

/-- A name as bytes. -/
def encode (n : Name) : Bytes :=
  sequence (n.map fun set => tagged Tag.set (set.map Attribute.encode).flatten)

/-- Attributes in the order of their bytes; none may stand there twice. -/
def sorted? (set : NameSet) : Option NameSet :=
  let ordered := set.mergeSort fun a b => !decide (b.encode < a.encode)
  if (ordered.zip ordered.tail).any fun (a, b) => a.encode == b.encode then none else some ordered

/-- Reads a name, whose sets are put in order. -/
def decoder : Decoder Name :=
  Decoder.within rules Tag.sequence <| Decoder.many setDecoder
where
  /-- Reads one set. -/
  setDecoder : Decoder NameSet := do
    let set ← Decoder.within rules Tag.set (Decoder.many Attribute.decoder)
    match sorted? set with
    | some set => return set
    | none => failure

/-- A name as text. -/
def text (n : Name) : String :=
  ",".intercalate (n.reverse.map fun set => "+".intercalate (set.map Attribute.text))

end Name

end Keyring.X509

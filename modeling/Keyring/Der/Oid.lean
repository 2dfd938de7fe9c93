import Keyring.Der.Item

/-!
# Object identifiers

An `Oid` is a path of numbers, its arcs, kept in encoded form: the first two arcs share a byte, each
later one takes seven bits a byte.
-/

namespace Keyring.Der

/-- An object identifier by its encoded content. -/
structure Oid where
  content : Bytes
  deriving DecidableEq, Repr

namespace Oid

/-- The seven-bit groups of an arc, the highest first; all but the last carry the top bit. -/
def arcBytes (arc : Nat) : Bytes :=
  let last := Nat.log2 arc / 7
  (List.range (last + 1)).map fun i =>
    let group := UInt8.ofNat ((arc >>> (7 * (last - i))) % 128)
    if i = last then group else group ||| 0x80

/-- The identifier with the given arcs. -/
def ofArcs : List Nat → Oid
  | first :: second :: rest => ⟨UInt8.ofNat (first * 40 + second) :: rest.flatMap arcBytes⟩
  | _ => ⟨[]⟩

/-- The arcs of groups of seven bits, of which `taken` are already in `value`. An arc has at most
five groups, the fifth below sixteen. -/
def readArcs (taken : Nat) (value : UInt32) : Bytes → Option (List UInt32)
  | [] => if taken = 0 then some [] else none
  | b :: rest =>
    if 4 ≤ taken ∧ b &&& 0xf0 ≠ 0 then none
    else
      let value := (value <<< 7) ||| (b &&& 0x7f).toUInt32
      if b &&& 0x80 = 0 then (value :: ·) <$> readArcs 0 0 rest else readArcs (taken + 1) value rest

/-- The most bytes of an identifier. -/
def maxLength : Nat := 39

/-- The arcs of an identifier with three to 39 bytes and well-formed arcs. -/
def arcs? (oid : Oid) : Option (List UInt32) :=
  match oid.content with
  | first :: rest =>
    if first < 120 ∧ 2 ≤ rest.length ∧ rest.length < maxLength then
      (fun arcs => first.toUInt32 / 40 :: first.toUInt32 % 40 :: arcs) <$> readArcs 0 0 rest
    else none
  | [] => none

/-- The arcs with dots between them. -/
def text (oid : Oid) : String :=
  ".".intercalate ((oid.arcs?.getD []).map fun arc => toString arc.toNat)

/-- An identifier as bytes. -/
def encode (oid : Oid) : Bytes := tagged Tag.oid oid.content

end Oid

/-- Reads an identifier. -/
def Decoder.oid (r : Rules) : Decoder Oid := do
  let oid : Oid := ⟨← content r Tag.oid⟩
  if oid.arcs?.isSome then return oid else failure

end Keyring.Der

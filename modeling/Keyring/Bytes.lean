/-!
# Byte strings

`Bytes` is a list of bytes. The module holds the conversions between byte strings, words and
natural numbers that keys, digests and encodings share, and the bytewise exclusive or with its two
laws: it is its own inverse (`Bytes.xor_xor`) and keeps the length (`Bytes.length_xor`).
-/

namespace Keyring

/-- A byte string. -/
abbrev Bytes := List UInt8

namespace Bytes

/-- The bytes of a text in UTF-8. -/
def ofString (s : String) : Bytes := s.toUTF8.data.toList

/-- The text that a byte string encodes, if it is UTF-8. -/
def toString? (bs : Bytes) : Option String := String.fromUTF8? ⟨bs.toArray⟩

@[simp] theorem toString?_ofString (s : String) : toString? (ofString s) = some s := by
  have h : (⟨s.toUTF8.data.toList.toArray⟩ : ByteArray) = s.toUTF8 := by simp
  rw [toString?, ofString, h, String.fromUTF8?]
  exact dif_pos s.isValidUTF8

theorem ofString_injective {s t : String} (h : ofString s = ofString t) : s = t := by
  have := toString?_ofString s
  rw [h, toString?_ofString] at this
  exact (Option.some.inj this).symm

/-- `count` zero bytes. -/
def zeros (count : Nat) : Bytes := List.replicate count 0

/-- Pads on the right with zeros to at least `width` bytes. -/
def padRight (width : Nat) (bs : Bytes) : Bytes := bs ++ zeros (width - bs.length)

/-- Exclusive or, byte by byte, as long as the shorter operand. -/
def xor (xs ys : Bytes) : Bytes := List.zipWith (· ^^^ ·) xs ys

@[simp] theorem length_xor (xs ys : Bytes) : (xor xs ys).length = min xs.length ys.length := by
  simp [xor]

/-- A mask at least as long as the text undoes itself. -/
theorem xor_xor (xs ys : Bytes) (h : xs.length ≤ ys.length) : xor (xor xs ys) ys = xs := by
  induction xs generalizing ys with
  | nil => simp [xor]
  | cons x xs ih =>
    cases ys with
    | nil => simp at h
    | cons y ys =>
      have := ih ys (by simpa using h)
      simp only [xor] at this
      simp only [xor, List.zipWith_cons_cons, this, UInt8.xor_assoc, UInt8.xor_self, UInt8.xor_zero]

/-! ### Numbers -/

/-- The number whose big-endian digits are the bytes. -/
def toNatBE (bs : Bytes) : Nat := bs.foldl (fun n b => n * 256 + b.toNat) 0

/-- The number whose little-endian digits are the bytes. -/
def toNatLE (bs : Bytes) : Nat := bs.foldr (fun b n => b.toNat + 256 * n) 0

/-- The low `width` bytes of a number, the lowest first. -/
def ofNatLE : (width : Nat) → Nat → Bytes
  | 0, _ => []
  | width + 1, n => UInt8.ofNat n :: ofNatLE width (n / 256)

/-- The low `width` bytes of a number, the highest first. -/
def ofNatBE (width n : Nat) : Bytes := (ofNatLE width n).reverse

@[simp] theorem length_ofNatLE (width n : Nat) : (ofNatLE width n).length = width := by
  induction width generalizing n with
  | zero => rfl
  | succ w ih => simp [ofNatLE, ih]

@[simp] theorem length_ofNatBE (width n : Nat) : (ofNatBE width n).length = width := by
  simp [ofNatBE]

/-- The 64-bit word whose little-endian bytes start the string; missing bytes count as zero. -/
def toWordLE (bs : Bytes) : UInt64 :=
  (bs.take 8).foldr (fun b w => (w <<< 8) ||| b.toUInt64) 0

/-- The eight bytes of a word, the lowest first. -/
def ofWordLE (w : UInt64) : Bytes :=
  [w, w >>> 8, w >>> 16, w >>> 24, w >>> 32, w >>> 40, w >>> 48, w >>> 56].map UInt64.toUInt8

/-- Pieces of `size` bytes; the last one may be shorter. -/
def chunks (size : Nat) (bs : Bytes) : List Bytes :=
  if _h : size = 0 ∨ bs = [] then [] else bs.take size :: chunks size (bs.drop size)
termination_by bs.length
decreasing_by
  have : bs.length ≠ 0 := fun e => _h (.inr (List.length_eq_zero_iff.mp e))
  simp only [List.length_drop]
  omega

end Bytes

end Keyring

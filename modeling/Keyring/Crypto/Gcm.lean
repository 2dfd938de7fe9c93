import Keyring.Crypto.Aes

/-!
# AES-256-GCM

Authenticated encryption (NIST SP 800-38D) with 12-byte nonces, 16-byte tags and no associated data.
`Gcm.encrypt` appends the tag to the text added to a keystream, and `Gcm.decrypt?` accepts exactly a
text whose full tag matches. The two are inverse: `decrypt?_encrypt`, `eq_encrypt_of_decrypt?`.
-/

namespace Keyring.Crypto.Gcm

/-- An element of the field of 2^128 elements, the lowest power in the highest bit. -/
structure Element where
  (high low : UInt64)
  deriving DecidableEq, Inhabited

namespace Element

/-- The element whose bits are the sixteen bytes, missing ones zero. -/
def ofBytes (bs : Bytes) : Element :=
  let bs := bs.padRight 16
  ⟨UInt64.ofNat (Bytes.toNatBE (bs.take 8)), UInt64.ofNat (Bytes.toNatBE ((bs.drop 8).take 8))⟩

/-- The sixteen bytes of an element. -/
def toBytes (x : Element) : Bytes := Bytes.ofNatBE 8 x.high.toNat ++ Bytes.ofNatBE 8 x.low.toNat

/-- Sum of two elements. -/
def add (x y : Element) : Element := ⟨x.high ^^^ y.high, x.low ^^^ y.low⟩

/-- Adds to `z` the product of `v` with the polynomial of the topmost `count` bits, and hands on
`v` advanced by as many powers. -/
def mulBits : (count : Nat) → (bits : UInt64) → (z v : Element) → Element × Element
  | 0, _, z, v => (z, v)
  | count + 1, bits, z, v =>
    let z := if bits >>> 63 = 1 then z.add v else z
    let reduce : UInt64 := if v.low &&& 1 = 1 then 0xe100000000000000 else 0
    let v := ⟨(v.high >>> 1) ^^^ reduce, (v.low >>> 1) ||| (v.high <<< 63)⟩
    mulBits count (bits <<< 1) z v

/-- Product of two elements. -/
def mul (x y : Element) : Element :=
  let half := mulBits 64 x.high ⟨0, 0⟩ y
  (mulBits 64 x.low half.1 half.2).1

end Element

/-- The polynomial hash of a byte string, read in blocks. -/
def ghash (h : Element) (bs : Bytes) : Element :=
  (Bytes.chunks 16 bs).foldl (fun y block => (y.add (Element.ofBytes block)).mul h) ⟨0, 0⟩

/-- The `count`-th counter block after the one that masks the tag. -/
def counterBlock (nonce : Bytes) (count : Nat) : Bytes := nonce ++ Bytes.ofNatBE 4 (count + 1)

/-- The first `blocks` blocks of the keystream. -/
def keystream (roundKeys : List Bytes) (nonce : Bytes) (blocks : Nat) : Bytes :=
  (List.range blocks).flatMap fun i => Aes.encryptBlock roundKeys (counterBlock nonce (i + 1))

/-- The text added to the keystream. -/
def mask (key nonce text : Bytes) : Bytes :=
  let stream := keystream (Aes.expandKey key) nonce ((text.length + 15) / 16)
  Bytes.xor text (stream.padRight text.length)

/-- The tag of a masked text. -/
def tag (key nonce masked : Bytes) : Bytes :=
  let roundKeys := Aes.expandKey key
  let h := Element.ofBytes (Aes.encryptBlock roundKeys (Bytes.zeros 16))
  let padding := Bytes.zeros ((16 - masked.length % 16) % 16)
  let sum := ghash h (masked ++ padding ++ Bytes.zeros 8 ++ Bytes.ofNatBE 8 (8 * masked.length))
  (sum.add (Element.ofBytes (Aes.encryptBlock roundKeys (counterBlock nonce 0)))).toBytes

/-- The masked text followed by its tag. -/
def encrypt (key nonce text : Bytes) : Bytes :=
  let masked := mask key nonce text
  masked ++ tag key nonce masked

/-- The text of a masked text with its tag, if the tag matches in full. -/
def decrypt? (key nonce sealedText : Bytes) : Option Bytes :=
  if sealedText.length < 16 then none
  else
    let masked := sealedText.take (sealedText.length - 16)
    if tag key nonce masked = sealedText.drop (sealedText.length - 16) then
      some (mask key nonce masked)
    else none

@[simp] theorem length_tag (key nonce masked : Bytes) : (tag key nonce masked).length = 16 := by
  simp [tag, Element.toBytes]

theorem le_length_padRight (width : Nat) (bs : Bytes) : width ≤ (bs.padRight width).length := by
  simp [Bytes.padRight, Bytes.zeros]
  omega

@[simp] theorem length_mask (key nonce text : Bytes) : (mask key nonce text).length = text.length := by
  simp only [mask, Bytes.length_xor]
  exact Nat.min_eq_left (le_length_padRight _ _)

/-- Masking twice gives the text back. -/
theorem mask_mask (key nonce text : Bytes) : mask key nonce (mask key nonce text) = text := by
  have hl := length_mask key nonce text
  rw [mask, hl]
  exact Bytes.xor_xor _ _ (le_length_padRight _ _)

theorem decrypt?_encrypt (key nonce text : Bytes) :
    decrypt? key nonce (encrypt key nonce text) = some text := by
  have h : (encrypt key nonce text).length - 16 = (mask key nonce text).length := by simp [encrypt]
  have h16 : ¬ (encrypt key nonce text).length < 16 := by simp [encrypt]
  rw [decrypt?, if_neg h16, h]
  simp [encrypt, mask_mask]

theorem eq_encrypt_of_decrypt? {key nonce sealedText text : Bytes}
    (h : decrypt? key nonce sealedText = some text) : sealedText = encrypt key nonce text := by
  rw [decrypt?] at h
  split at h
  · cases h
  · dsimp only at h
    split at h
    · rename_i ht
      cases h
      rw [encrypt, mask_mask, ht, List.take_append_drop]
    · cases h

end Keyring.Crypto.Gcm

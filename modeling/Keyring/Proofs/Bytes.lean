import Keyring.Bytes

/-!
# Bytes of texts

* `Bytes.ofString_ofList` : the bytes of a text are those of its characters, one after the other;
* `Bytes.IsText` : a byte string that is the bytes of some text.  Texts may be put together
  (`Bytes.IsText.append`), and ASCII bytes are always a text (`Bytes.isText_of_ascii`).
-/

namespace Keyring.Bytes

/-! ### Bytes -/

/-- What holds of 256 numbers holds of every byte. -/
theorem forall_byte {p : UInt8 → Prop} (h : ∀ n : Fin 256, p (UInt8.ofNat n)) (b : UInt8) : p b := by
  have hb := h ⟨b.toNat, b.toNat_lt⟩
  simpa using hb

/-- A byte is put together from the bits that two digits have of it. -/
theorem spread (b : UInt8) :
    (b >>> 2) <<< 2 ||| (b &&& 3) = b ∧ (b >>> 4) <<< 4 ||| (b &&& 0xf) = b ∧
      (b >>> 6) <<< 6 ||| (b &&& 0x3f) = b := by
  revert b
  exact forall_byte (by decide +kernel)

/-- The pieces of a byte string put together again. -/
theorem flatten_chunks {size : Nat} (hsize : size ≠ 0) (bs : Bytes) :
    (chunks size bs).flatten = bs := by
  induction bs using chunks.induct size with
  | case1 bs h =>
    rw [chunks, dif_pos h]
    rcases h with h | rfl
    · exact absurd h hsize
    · rfl
  | case2 bs h ih =>
    rw [chunks, dif_neg h, List.flatten_cons, ih, List.take_append_drop]

/-! ### Characters -/

/-- An ASCII character is one byte. -/
theorem utf8EncodeChar_ascii {c : Char} (h : c.toNat < 0x80) :
    String.utf8EncodeChar c = [UInt8.ofNat c.toNat] :=
  if_pos (Nat.le_of_lt_succ h)

/-- All bytes of any other character are above. -/
theorem le_of_mem_utf8EncodeChar {c : Char} (h : 0x80 ≤ c.toNat) {b : UInt8}
    (hb : b ∈ String.utf8EncodeChar c) : 0x80 ≤ b := by
  have hval : ¬ c.val.toNat ≤ 127 := Nat.not_le.2 h
  rw [UInt8.le_iff_toNat_le]
  -- each byte is a mark, at least 128, plus the bits that it carries
  simp only [String.utf8EncodeChar, hval, if_false] at hb
  split at hb
  · simp only [List.mem_cons, List.not_mem_nil, or_false] at hb
    rcases hb with rfl | rfl <;> simp <;> omega
  · split at hb
    · simp only [List.mem_cons, List.not_mem_nil, or_false] at hb
      rcases hb with rfl | rfl | rfl <;> simp <;> omega
    · simp only [List.mem_cons, List.not_mem_nil, or_false] at hb
      rcases hb with rfl | rfl | rfl | rfl <;> simp <;> omega

theorem ofString_ofList (cs : List Char) :
    ofString (String.ofList cs) = cs.flatMap String.utf8EncodeChar := by
  simp [ofString, List.utf8Encode]

theorem ofString_eq_flatMap (s : String) :
    ofString s = s.toList.flatMap String.utf8EncodeChar := by
  rw [← ofString_ofList, String.ofList_toList]

theorem ofString_append (s t : String) : ofString (s ++ t) = ofString s ++ ofString t := by
  simp [ofString]

/-! ### Texts -/

/-- The bytes of some text. -/
def IsText (bs : Bytes) : Prop := ∃ s, ofString s = bs

theorem IsText.append {xs ys : Bytes} (hx : IsText xs) (hy : IsText ys) : IsText (xs ++ ys) := by
  obtain ⟨s, rfl⟩ := hx
  obtain ⟨t, rfl⟩ := hy
  exact ⟨s ++ t, ofString_append s t⟩

theorem IsText.flatMap {α : Type} {f : α → Bytes} {xs : List α} (h : ∀ x ∈ xs, IsText (f x)) :
    IsText (xs.flatMap f) := by
  induction xs with
  | nil => exact ⟨"", rfl⟩
  | cons x xs ih =>
    obtain ⟨hx, hxs⟩ := List.forall_mem_cons.1 h
    exact hx.append (ih hxs)

/-- ASCII bytes are the bytes of a text. -/
theorem isText_of_ascii {bs : Bytes} (h : ∀ b ∈ bs, b < 0x80) : IsText bs := by
  have hascii : ∀ n : Fin 128, ofString (String.singleton (Char.ofNat n)) = [UInt8.ofNat n] := by
    decide +kernel
  have hsingle : ∀ b ∈ bs, IsText [b] := by
    intro b hb
    have hb' := hascii ⟨b.toNat, h b hb⟩
    rw [UInt8.ofNat_toNat] at hb'
    exact ⟨_, hb'⟩
  have hall := IsText.flatMap hsingle
  rwa [List.flatMap_singleton'] at hall

theorem IsText.toString?_ne_none {bs : Bytes} (h : IsText bs) : toString? bs ≠ none := by
  obtain ⟨s, rfl⟩ := h
  rw [toString?_ofString]
  exact Option.some_ne_none s

/-- What is a text is the bytes of it. -/
theorem eq_ofString_of_toString? {bs : Bytes} {s : String} (h : toString? bs = some s) :
    bs = ofString s := by
  rw [toString?, String.fromUTF8?] at h
  split at h
  · obtain rfl := Option.some.inj h
    simp [ofString, String.fromUTF8]
  · cases h

end Keyring.Bytes

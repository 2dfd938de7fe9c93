import Keyring.Proofs.Json.Documents

/-!
# Written documents are texts

What is written for strings, numbers and objects is UTF-8 throughout (`Writer.isText_string`,
`Writer.isText_integer`, `Writer.isText_prettyObject`), although strings are escaped byte by byte:
escapes are ASCII, and none of the bytes of a character outside ASCII is escaped.
-/

namespace Keyring.Json.Writer

open Bytes (IsText)

theorem escape_ascii {b : UInt8} (h : b < 0x80) : ∀ x ∈ escape b, x < 0x80 := by
  have hbytes : ∀ b : UInt8, b < 0x80 → (escape b).all (· < 0x80) = true :=
    Bytes.forall_byte (by decide +kernel)
  simpa using hbytes b h

theorem escape_of_le {b : UInt8} (h : 0x80 ≤ b) : escape b = [b] := by
  have hbytes : ∀ b : UInt8, 0x80 ≤ b → escape b = [b] := Bytes.forall_byte (by decide +kernel)
  exact hbytes b h

/-- The bytes of a character, escaped. -/
theorem isText_escape_char (c : Char) : IsText ((String.utf8EncodeChar c).flatMap escape) := by
  by_cases hc : c.toNat < 0x80
  · rw [Bytes.utf8EncodeChar_ascii hc, List.flatMap_singleton]
    apply Bytes.isText_of_ascii
    apply escape_ascii
    rw [UInt8.lt_iff_toNat_lt, UInt8.toNat_ofNat_of_lt' (Nat.lt_trans hc (by decide))]
    exact hc
  · -- none of the bytes is escaped
    have hsame : (String.utf8EncodeChar c).flatMap escape = String.utf8EncodeChar c := by
      have hbytes : ∀ b ∈ String.utf8EncodeChar c, escape b = [b] := fun b hb =>
        escape_of_le (Bytes.le_of_mem_utf8EncodeChar (Nat.not_lt.1 hc) hb)
      rw [List.flatMap_def, List.map_congr_left hbytes, ← List.flatMap_def, List.flatMap_singleton']
    rw [hsame]
    exact ⟨String.ofList [c], by rw [Bytes.ofString_ofList, List.flatMap_singleton]⟩

theorem isText_string (s : String) : IsText (string s) := by
  have hbody : IsText ((Bytes.ofString s).flatMap escape) := by
    rw [Bytes.ofString_eq_flatMap, List.flatMap_assoc]
    exact .flatMap fun c _ => isText_escape_char c
  have hquote : IsText [0x22] := Bytes.isText_of_ascii (by simp)
  exact (hquote.append hbody).append hquote

theorem isText_natural (n : Nat) : IsText (natural n) := by
  have hdigits : ∀ b : UInt8, Reader.isDigit b = true → b < 0x80 :=
    Bytes.forall_byte (by decide +kernel)
  exact Bytes.isText_of_ascii fun b hb => hdigits b (isDigit_of_mem_natural hb)

theorem isText_integer (n : Int) : IsText (integer n) := by
  cases n with
  | ofNat n => exact isText_natural n
  | negSucc n =>
    have hminus : IsText [0x2d] := Bytes.isText_of_ascii (by simp)
    exact hminus.append (isText_natural (n + 1))

theorem isText_separated {separator : Bytes} (hseparator : IsText separator) {items : List Bytes}
    (h : ∀ item ∈ items, IsText item) : IsText (separated separator items) := by
  cases items with
  | nil => exact ⟨"", rfl⟩
  | cons item items =>
    obtain ⟨hitem, hitems⟩ := List.forall_mem_cons.1 h
    rw [separated_cons]
    exact hitem.append (.flatMap fun x hx => hseparator.append (hitems x hx))

/-- An object of texts is a text. -/
theorem isText_prettyObject {members : List (String × Bytes)} (h : ∀ m ∈ members, IsText m.2) :
    IsText (prettyObject members) := by
  cases members with
  | nil => exact Bytes.isText_of_ascii (by simp [prettyObject])
  | cons m members =>
    have hitems : ∀ item ∈ (m :: members).map fun m =>
        [0x20, 0x20] ++ string m.1 ++ [0x3a, 0x20] ++ m.2, IsText item := by
      intro item hitem
      obtain ⟨x, hx, rfl⟩ := List.mem_map.1 hitem
      have hmargin : IsText [0x20, 0x20] := Bytes.isText_of_ascii (by simp)
      have hcolon : IsText [0x3a, 0x20] := Bytes.isText_of_ascii (by simp)
      exact ((hmargin.append (isText_string x.1)).append hcolon).append (h x hx)
    have hopening : IsText [0x7b, 0x0a] := Bytes.isText_of_ascii (by simp)
    have hseparator : IsText [0x2c, 0x0a] := Bytes.isText_of_ascii (by simp)
    have hending : IsText [0x0a, 0x7d] := Bytes.isText_of_ascii (by simp)
    exact (hopening.append (isText_separated hseparator hitems)).append hending

end Keyring.Json.Writer

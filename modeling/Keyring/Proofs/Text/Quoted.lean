import Keyring.Text.Quoted
import Mathlib

/-!
# Quoted characters read back

`Quoted.unescape` reads what stands between quotes, and finds the character that was put there
(`Quoted.unescape_escape`).  So a quoted character gives the character away: no two of them look alike
(`Quoted.char_injective`).
-/

namespace Keyring.Text.Quoted

/-! ### Numbers of characters -/

/-- The number that a digit in lower-case hexadecimal stands for. -/
def digitValue (c : Char) : Nat := if c.isDigit then c.toNat - 0x30 else c.toNat - 0x57

/-- The number that is written in hexadecimal. -/
def number (digits : List Char) : Nat := digits.foldl (fun n c => 16 * n + digitValue c) 0

theorem digitValue_digitChar {n : Nat} (h : n < 16) : digitValue n.digitChar = n := by
  have hdigits : ∀ n : Fin 16, digitValue (Nat.digitChar n) = n := by decide
  exact hdigits ⟨n, h⟩

theorem number_toDigits (n : Nat) : number (Nat.toDigits 16 n) = n := by
  induction n using Nat.strongRecOn with
  | ind n ih =>
    rcases Nat.lt_or_ge n 16 with h | h
    · rw [Nat.toDigits_of_lt_base h]
      simpa [number] using digitValue_digitChar h
    · have hlast : digitValue (n % 16).digitChar = n % 16 :=
        digitValue_digitChar (Nat.mod_lt n (by decide))
      have hfront : number (Nat.toDigits 16 (n / 16)) = n / 16 := ih (n / 16) (by omega)
      rw [number] at hfront ⊢
      rw [Nat.toDigits_of_base_le (by decide) h, List.foldl_append, hfront, List.foldl_cons, hlast,
        List.foldl_nil, Nat.div_add_mod]

/-! ### Characters -/

/-- The character that stands for itself or for a control behind a backslash. -/
def named : Char → Char
  | '0' => '\x00'
  | 't' => '\t'
  | 'n' => '\n'
  | 'r' => '\r'
  | c => c

/-- Reads the character that stands between quotes. -/
def unescape : List Char → Char
  | [c] => c
  | ['\\', c] => named c
  | '\\' :: 'u' :: '\x7b' :: digits => Char.ofNat (number digits.dropLast)
  | _ => default

/-- What stands between quotes is read as the character that was put there. -/
theorem unescape_escape {quote : Char} (hquote : named quote = quote) (c : Char) :
    unescape (escape quote c) = c := by
  simp only [escape]
  split_ifs with hnull htab hline hreturn hquoted hinvisible
  · rw [hnull]
    rfl
  · rw [htab]
    rfl
  · rw [hline]
    rfl
  · rw [hreturn]
    rfl
  · have hc : c = '\\' ∨ c = quote := by simpa using hquoted
    rcases hc with rfl | rfl
    · rfl
    · exact hquote
  · have hdigits : (codePoint c ++ ['\x7d']).dropLast = codePoint c := List.dropLast_concat
    change Char.ofNat (number (codePoint c ++ ['\x7d']).dropLast) = c
    rw [hdigits, codePoint, number_toDigits, Char.ofNat_toNat]
  · rfl

theorem escape_injective {quote : Char} (hquote : named quote = quote) :
    Function.Injective (escape quote) :=
  Function.LeftInverse.injective (unescape_escape hquote)

/-- Characters that look alike between quotes are the same. -/
theorem char_injective : Function.Injective char := by
  intro c c' h
  rw [char, char, String.ofList_inj] at h
  exact escape_injective rfl (List.append_cancel_right (List.cons.inj h).2)

end Keyring.Text.Quoted

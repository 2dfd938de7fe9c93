import Mathlib.Data.List.Induction
import Keyring.Proofs.Json.Inversion
import Keyring.Proofs.Json.Scalars

/-!
# Literals

Which texts words, numbers and strings are read from.

* `gives_word` : a word is read only from itself;
* `gives_number` : a number is kept as an integer only if it was read from the decimal digits of that
  integer, without a leading zero, a point or an exponent; there is no negative zero among them;
* `gives_string` : a string is read only from a text that stands for it, byte by byte or by escapes
  (`Unescapes`).

Together with `reads_number`, `reads_negative` and `Unescapes.reads_string` this says exactly what
integers and strings are read from.
-/

namespace Keyring.Json

/-! ### Digits -/

/-- A digit is determined by its value. -/
theorem Reader.digit_cases {b : UInt8} (h : isDigit b = true) :
    digitValue b < 10 ∧ UInt8.ofNat (0x30 + digitValue b) = b ∧ (b ≠ 0x30 → digitValue b ≠ 0) := by
  have hfacts : ∀ b : UInt8, isDigit b = true →
      digitValue b < 10 ∧ UInt8.ofNat (0x30 + digitValue b) = b ∧ (b ≠ 0x30 → digitValue b ≠ 0) :=
    Bytes.forall_byte (by decide +kernel)
  exact hfacts b h

open Reader

/-- The number of decimal digits. -/
def Reader.digitsValue (written : Bytes) : Nat :=
  (written.map digitValue).foldl (fun m d => m * 10 + d) 0

/-- Digits without a leading zero are those of their number. -/
theorem Writer.natural_digitsValue {b : UInt8} {bs : Bytes} (hb : b ≠ 0x30)
    (hdigits : ∀ c ∈ b :: bs, isDigit c = true) :
    natural (digitsValue (b :: bs)) = b :: bs ∧ digitsValue (b :: bs) ≠ 0 := by
  induction bs using List.reverseRecOn with
  | nil =>
    obtain ⟨hlt, hbyte, hne⟩ := digit_cases (hdigits b List.mem_cons_self)
    have hvalue : digitsValue [b] = digitValue b := by simp [digitsValue]
    rw [hvalue, natural_eq, if_pos hlt, hbyte]
    exact ⟨rfl, hne hb⟩
  | append_singleton bs c ih =>
    obtain ⟨hnatural, hpos⟩ := ih fun d hd => hdigits d (by
      rcases List.mem_cons.1 hd with rfl | hd
      · exact List.mem_cons_self
      · exact List.mem_cons_of_mem _ (List.mem_append_left _ hd))
    obtain ⟨hlt, hbyte, -⟩ := digit_cases (hdigits c (by simp))
    have hvalue : digitsValue (b :: (bs ++ [c])) = digitsValue (b :: bs) * 10 + digitValue c := by
      simp [digitsValue]
    have hdiv : (digitsValue (b :: bs) * 10 + digitValue c) / 10 = digitsValue (b :: bs) := by omega
    have hmod : (digitsValue (b :: bs) * 10 + digitValue c) % 10 = digitValue c := by omega
    rw [hvalue, natural_eq, if_neg (by omega), hdiv, hmod, hnatural, hbyte]
    exact ⟨rfl, by omega⟩

namespace Reader

theorem gives_digits (text : Bytes) : Gives digits text fun ds rest =>
    ∃ written, text = written ++ rest ∧ (∀ b ∈ written, isDigit b = true) ∧
      (∀ b, rest.head? = some b → isDigit b = false) ∧ ds = written.map digitValue := by
  obtain ⟨written, rest, -, rfl, hdigits, hrest, -⟩ :=
    Cursor.exists_of_dropWhile isDigit text ⟨1, 0⟩
  refine (reads_digits hdigits hrest).gives.imp ?_
  rintro _ _ ⟨rfl, rfl⟩
  exact ⟨written, rfl, hdigits, hrest, rfl⟩

/-- Where all digits fit, their number was accumulated. -/
theorem foldl_of_accumulate {limit n m : Nat} {ds : List Nat}
    (h : accumulate limit n ds = (m, [])) : ds.foldl (fun m d => m * 10 + d) n = m := by
  induction ds generalizing n with
  | nil => exact congrArg Prod.fst h
  | cons d ds ih =>
    rw [accumulate] at h
    split at h
    · exact ih h
    · cases congrArg Prod.snd h

/-! ### Words -/

theorem gives_word (expected text : Bytes) : Gives (word expected) text fun _ rest =>
    text = expected ++ rest := by
  induction expected generalizing text with
  | nil => exact .pure rfl
  | cons c expected ih =>
    unfold word
    refine .bind_next ?_
    cases text with
    | nil => exact .failHere _
    | cons b text =>
      dsimp only [List.head?_cons, List.tail_cons]
      split
      · rename_i hb
        exact (ih text).imp fun _ rest hrest => by rw [hb, hrest]; rfl
      · exact .failHere _

/-! ### Numbers -/

/-- A number that is kept as a float. -/
def IsFloat (x : Number) : Prop := ∃ negative magnitude, x = .float negative magnitude

theorem gives_float (negative : Bool) (significand : Nat) (exponent : Int) (text : Bytes) :
    Gives (float negative significand exponent) text fun x _ => IsFloat x := by
  unfold float
  split
  · exact .pure ⟨_, _, rfl⟩
  · exact .failHere _

theorem gives_exponentPart (negative : Bool) (significand : Nat) (shift : Int) (text : Bytes) :
    Gives (exponentPart negative significand shift) text fun x _ => IsFloat x := by
  unfold exponentPart
  refine .bind_skip (.bind_peek ?_)
  generalize text.tail.head? = sign
  extract_lets behindSign
  have hbehind : ∀ text, Gives (behindSign ()) text fun x _ => IsFloat x := by
    refine fun text => .bind_get fun position => .bind_peek ?_
    split
    · exact .failHere _
    split
    · exact .bind_skip (.failHere _)
    refine .bind (p := fun _ _ => True) (fun _ _ _ _ => trivial) fun ds rest _ => ?_
    split
    split
    · exact gives_float _ _ _ _
    split
    · exact .failAt _ _
    · exact .pure ⟨_, _, rfl⟩
  split
  · exact .bind_skip (hbehind _)
  · exact hbehind _

theorem gives_fractionPart (negative : Bool) (significand : Nat) (shift : Int) (text : Bytes) :
    Gives (fractionPart negative significand shift) text fun x _ => IsFloat x := by
  unfold fractionPart
  refine .bind_skip (.bind (p := fun _ _ => True) (fun _ _ _ _ => trivial) fun ds rest _ => ?_)
  split
  · refine .bind_peek ?_
    split
    · exact .failAhead _
    · exact .failAhead _
  split
  refine .bind_peek ?_
  split
  · exact gives_exponentPart _ _ _ _
  · exact gives_exponentPart _ _ _ _
  · exact gives_float _ _ _ _

/-- What an integer is read from behind its sign: its decimal digits. -/
def WrittenAs (negative : Bool) (written : Bytes) : Number → Prop
  | .natural n => negative = false ∧ written = Writer.natural n
  | .negative n => negative = true ∧ n ≠ 0 ∧ n ≤ 0x8000000000000000 ∧ written = Writer.natural n
  | .float _ _ => True

/-- Behind the last digit, a number is an integer only if no digit was dropped. -/
theorem gives_numberTail (negative : Bool) (significand dropped : Nat) (text : Bytes) :
    Gives (numberTail negative significand dropped) text fun x rest => IsFloat x ∨
      dropped = 0 ∧ rest = text ∧ WrittenAs negative (Writer.natural significand) x := by
  unfold numberTail
  refine .bind_peek ?_
  split
  · exact (gives_fractionPart _ _ _ _).imp fun _ _ => .inl
  · exact (gives_exponentPart _ _ _ _).imp fun _ _ => .inl
  · exact (gives_exponentPart _ _ _ _).imp fun _ _ => .inl
  split
  · exact (gives_float _ _ _ _).imp fun _ _ => .inl
  rename_i hdropped
  have hzero : dropped = 0 := by simpa using hdropped
  split
  · rename_i hsign
    exact .pure (.inr ⟨hzero, rfl, by simpa using hsign, rfl⟩)
  split
  · exact (gives_float _ _ _ _).imp fun _ _ => .inl
  · rename_i hsign hfits
    exact .pure (.inr ⟨hzero, rfl, by simpa using hsign, by omega, by omega, rfl⟩)

/-- **An integer is read from its decimal digits only.** -/
theorem gives_number (negative : Bool) (text : Bytes) : Gives (number negative) text fun x rest =>
    IsFloat x ∨ ∃ written, text = written ++ rest ∧ WrittenAs negative written x := by
  unfold number
  refine .bind_peek ?_
  split
  · exact .failHere _
  rename_i b hb
  obtain ⟨text, rfl⟩ : ∃ tail, text = b :: tail := by
    cases text with
    | nil => cases hb
    | cons c tail => exact ⟨tail, by rw [Option.some.inj hb]⟩
  split
  · rename_i hzero
    subst hzero
    have htail : Gives (numberTail negative 0 0) text fun x rest => IsFloat x ∨
        ∃ written, 0x30 :: text = written ++ rest ∧ WrittenAs negative written x := by
      refine (gives_numberTail negative 0 0 text).imp fun x rest h => h.imp id ?_
      rintro ⟨-, rfl, hx⟩
      exact ⟨_, rfl, hx⟩
    refine .bind_skip (.bind_peek ?_)
    split
    · split
      · exact .failAhead _
      · exact htail
    · exact htail
  split
  · rename_i hzero hdigit
    refine .bind (gives_digits _) ?_
    rintro ds rest ⟨written, htext, hdigits, hrest, rfl⟩
    split
    rename_i significand left haccumulate
    refine (gives_numberTail _ _ _ _).imp fun x rest' h => h.imp id ?_
    rintro ⟨hleft, rfl, hx⟩
    -- no digit was dropped, so that the significand is the number of all of them
    obtain rfl : left = [] := List.length_eq_zero_iff.1 hleft
    obtain ⟨bs, rfl⟩ : ∃ bs, written = b :: bs := by
      cases written with
      | nil => exact absurd hdigit (by simp [hrest b (by rw [← List.nil_append rest', ← htext]; rfl)])
      | cons c bs => exact ⟨bs, by rw [(List.cons.inj htext).1]⟩
    obtain ⟨hnatural, -⟩ := Writer.natural_digitsValue hzero hdigits
    rw [← foldl_of_accumulate haccumulate] at hx
    rw [digitsValue] at hnatural
    rw [hnatural] at hx
    exact ⟨_, htext, hx⟩
  · exact .bind_skip (.failHere _)

/-! ### Strings -/

theorem gives_hexUnit (text : Bytes) : Gives hexUnit text fun n rest =>
    ∃ code, text = code ++ rest ∧ HexText code n := by
  unfold hexUnit
  refine .bind_get fun position => ?_
  dsimp only
  split
  · rename_i d1 d2 d3 d4 rest htext
    refine .bind_set ?_
    split
    · rename_i h1 h2 h3 h4
      exact .pure ⟨_, rfl, .mk h1 h2 h3 h4⟩
    · exact .failHere _
  · exact .bind_set (.failHere _)

theorem gives_inEscape (b : UInt8) (text : Bytes) : Gives (inEscape b) text fun _ rest =>
    text = b :: rest := by
  unfold inEscape
  refine .bind_peek ?_
  cases text with
  | nil => exact .failHere _
  | cons c text =>
    refine .bind_skip ?_
    split
    · exact .failHere _
    · rename_i hc
      have hc : c = b := by simpa using hc
      exact .pure (by rw [hc, List.tail_cons])

theorem gives_codePoint (text : Bytes) : Gives codePoint text fun c rest =>
    ∃ code, text = code ++ rest ∧ EscapeText (0x75 :: code) c := by
  unfold codePoint
  refine .bind (gives_hexUnit text) ?_
  rintro n rest ⟨code, rfl, hn⟩
  split
  · exact .failHere _
  split
  · rename_i hlow hhigh
    refine .bind (gives_inEscape _ _) ?_
    rintro _ rest' rfl
    refine .bind (gives_inEscape _ _) ?_
    rintro _ rest rfl
    refine .bind (gives_hexUnit rest) ?_
    rintro low rest' ⟨code', rfl, hcode'⟩
    split
    · rename_i hlow
      exact .pure ⟨code ++ 0x5c :: 0x75 :: code', by simp, .pair hn hhigh hcode' hlow⟩
    · exact .failHere _
  · rename_i hlow hhigh
    exact .pure ⟨code, rfl, .unit hn hlow hhigh⟩

theorem gives_escape (text : Bytes) : Gives escape text fun c rest =>
    ∃ code, text = code ++ rest ∧ EscapeText code c := by
  unfold escape
  refine .bind_next ?_
  cases text with
  | nil => exact .failHere _
  | cons b text =>
    dsimp only [List.head?_cons, List.tail_cons]
    split
    · rename_i hu
      refine (gives_codePoint text).imp fun c rest h => ?_
      obtain ⟨code, rfl, hcode⟩ := h
      exact ⟨0x75 :: code, by rw [hu]; rfl, hcode⟩
    · rename_i hu
      split
      · rename_i c hc
        exact .pure ⟨[b], rfl, .letter hu hc⟩
      · exact .failHere _

theorem gives_stringBody (fuel : Nat) (text : Bytes) : Gives (stringBody fuel) text fun bs rest =>
    ∃ escaped, text = escaped ++ rest ∧ Unescapes escaped bs ∧ rest.head? = some 0x22 := by
  induction fuel generalizing text with
  | zero => exact .failHere _
  | succ fuel ih =>
    unfold stringBody
    refine .bind_peek ?_
    cases text with
    | nil => exact .failHere _
    | cons b text =>
      dsimp only [List.head?_cons]
      split
      · rename_i hquote
        exact .pure ⟨[], rfl, .nil, by rw [hquote]; rfl⟩
      rename_i hquote
      refine .bind_skip ?_
      dsimp only [List.tail_cons]
      split
      · rename_i hslash
        refine .bind (gives_escape text) ?_
        rintro c rest ⟨code, rfl, hcode⟩
        refine .bind_pure ((ih rest).imp ?_)
        rintro bs rest' ⟨escaped, rfl, hescaped, hend⟩
        exact ⟨_, by rw [hslash, ← List.append_assoc]; rfl, .escape hcode hescaped, hend⟩
      split
      · exact .failHere _
      · rename_i hslash hcontrol
        refine .bind_pure ((ih text).imp ?_)
        rintro bs rest ⟨escaped, rfl, hescaped, hend⟩
        exact ⟨b :: escaped, rfl, .plain hquote hslash hcontrol hescaped, hend⟩

/-- **A string is read only from a text that stands for it**, up to the quote behind that. -/
theorem gives_string (text : Bytes) : Gives string text fun s rest =>
    ∃ escaped, text = escaped ++ 0x22 :: rest ∧ Unescapes escaped (Bytes.ofString s) := by
  unfold string
  refine .bind_get fun position => .bind (gives_stringBody _ _) ?_
  rintro bs rest ⟨escaped, rfl, hescaped, hend⟩
  split
  · rename_i s hs
    refine .bind_skip (.pure ⟨escaped, ?_, ?_⟩)
    · cases rest with
      | nil => cases hend
      | cons b rest => rw [Option.some.inj hend, List.tail_cons]
    · rwa [← Bytes.eq_ofString_of_toString? hs]
  · exact .failHere _

end Reader

end Keyring.Json

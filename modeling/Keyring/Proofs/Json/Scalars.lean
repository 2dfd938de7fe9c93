import Keyring.Proofs.Bytes
import Keyring.Proofs.Json.Reading
import Keyring.Json.Token
import Keyring.Json.Writer

/-!
# Scalars read back as they were written

* `Unescapes` : the bytes that a text between quotes stands for; a string behind its opening quote is
  read from every such text (`Unescapes.reads_string`), and so from its escaped bytes, whatever
  characters it has (`reads_string`);
* `reads_number`, `reads_negative` : an integer of 64 bits is read back from its decimal digits, unless
  what follows could continue it (`stops`).
-/

namespace Keyring.Json

open Reader

/-! ### Numbers -/

/-- The decimal digit of a number below ten. -/
theorem digit_facts : ∀ d : Fin 10, isDigit (UInt8.ofNat (0x30 + d)) = true ∧
    digitValue (UInt8.ofNat (0x30 + d)) = d.val ∧ (d.val ≠ 0 → UInt8.ofNat (0x30 + d) ≠ 0x30) := by
  decide

namespace Writer

theorem natural_eq (n : Nat) : natural n =
    if n < 10 then [UInt8.ofNat (0x30 + n)]
    else natural (n / 10) ++ [UInt8.ofNat (0x30 + n % 10)] := by
  rw [natural, Nat.toDigits_eq_if (by omega)]
  split
  · rename_i h
    simp [Nat.toNat_digitChar_of_lt_ten h, Nat.add_comm]
  · have h : n % 10 < 10 := Nat.mod_lt _ (by omega)
    simp [natural, Nat.toNat_digitChar_of_lt_ten h, Nat.add_comm]

theorem natural_ne_nil (n : Nat) : natural n ≠ [] := by
  simp [natural, Nat.toDigits_ne_nil]

theorem isDigit_of_mem_natural {n : Nat} {b : UInt8} (h : b ∈ natural n) : isDigit b = true := by
  induction n using Nat.strongRecOn with
  | ind n ih =>
    rw [natural_eq] at h
    split at h
    · rename_i hn
      obtain rfl := List.mem_singleton.1 h
      exact (digit_facts ⟨n, hn⟩).1
    · rename_i hn
      rcases List.mem_append.1 h with h | h
      · exact ih (n / 10) (by omega) h
      · obtain rfl := List.mem_singleton.1 h
        exact (digit_facts ⟨n % 10, Nat.mod_lt _ (by omega)⟩).1

theorem foldl_natural (n : Nat) :
    ((natural n).map digitValue).foldl (fun m d => m * 10 + d) 0 = n := by
  induction n using Nat.strongRecOn with
  | ind n ih =>
    rw [natural_eq]
    split
    · rename_i hn
      have hlast := (digit_facts ⟨n, hn⟩).2.1
      simp only [List.map_cons, List.map_nil, List.foldl_cons, List.foldl_nil, hlast]
      omega
    · rename_i hn
      have hlast := (digit_facts ⟨n % 10, Nat.mod_lt _ (by omega)⟩).2.1
      simp only [List.map_append, List.map_cons, List.map_nil, List.foldl_append, List.foldl_cons,
        List.foldl_nil, ih (n / 10) (by omega), hlast]
      omega

/-- A number other than zero is written without a leading zero. -/
theorem natural_cons {n : Nat} (h : n ≠ 0) : ∃ b bs, natural n = b :: bs ∧ b ≠ 0x30 := by
  induction n using Nat.strongRecOn with
  | ind n ih =>
    rw [natural_eq]
    split
    · rename_i hn
      exact ⟨_, [], rfl, (digit_facts ⟨n, hn⟩).2.2 h⟩
    · rename_i hn
      obtain ⟨b, bs, hb, hne⟩ := ih (n / 10) (by omega) (by omega)
      exact ⟨b, bs ++ _, by rw [hb]; rfl, hne⟩

end Writer

namespace Reader

/-- Nothing that could continue a number. -/
def stops : Bytes → Bool
  | [] => true
  | b :: _ => !isDigit b && b != 0x2e && b != 0x65 && b != 0x45

theorem reads_digits {text rest : Bytes} (htext : ∀ b ∈ text, isDigit b = true)
    (hrest : ∀ b, rest.head? = some b → isDigit b = false) :
    Reads digits text (text.map digitValue) rest := by
  intro p
  obtain ⟨q, hq⟩ := Cursor.dropWhile_append htext hrest p
  refine ⟨q, ?_⟩
  have htake : (text ++ rest).takeWhile isDigit = text := by
    rw [List.takeWhile_append_of_pos htext]
    cases rest with
    | nil => simp
    | cons b rest => simp [hrest b rfl]
  change (Except.ok (((text ++ rest).takeWhile isDigit).map digitValue),
    Cursor.dropWhile isDigit ⟨text ++ rest, p⟩) = _
  rw [htake, hq]

theorem le_foldl_digits (n : Nat) (ds : List Nat) :
    n ≤ ds.foldl (fun m d => m * 10 + d) n := by
  induction ds generalizing n with
  | nil => exact Nat.le_refl n
  | cons d ds ih => exact Nat.le_trans (by omega) (ih (n * 10 + d))

theorem accumulate_eq {limit n : Nat} {ds : List Nat}
    (h : ds.foldl (fun m d => m * 10 + d) n ≤ limit) :
    accumulate limit n ds = (ds.foldl (fun m d => m * 10 + d) n, []) := by
  induction ds generalizing n with
  | nil => rfl
  | cons d ds ih =>
    have hle : n * 10 + d ≤ limit := Nat.le_trans (le_foldl_digits _ ds) h
    rw [accumulate, if_pos hle, ih h]
    rfl

/-- Blanks continue no number. -/
theorem stops_append {blanks rest : Bytes} (hblanks : ∀ b ∈ blanks, isSpace b = true)
    (h : stops rest = true) : stops (blanks ++ rest) = true := by
  have hspace : ∀ b : UInt8, isSpace b = true →
      (!isDigit b && b != 0x2e && b != 0x65 && b != 0x45) = true :=
    Bytes.forall_byte (by decide +kernel)
  cases blanks with
  | nil => exact h
  | cons b blanks => exact hspace b (hblanks b List.mem_cons_self)

theorem head_of_stops {rest : Bytes} (h : stops rest = true) {b : UInt8} (hb : rest.head? = some b) :
    isDigit b = false ∧ b ≠ 0x2e ∧ b ≠ 0x65 ∧ b ≠ 0x45 := by
  cases rest with
  | nil => cases hb
  | cons c rest =>
    obtain rfl := Option.some.inj hb
    simp only [stops, Bool.and_eq_true, Bool.not_eq_true', bne_iff_ne, ne_eq] at h
    obtain ⟨⟨⟨hdigit, hpoint⟩, he⟩, hE⟩ := h
    exact ⟨hdigit, hpoint, he, hE⟩

/-- Behind the last digit of a number that fits, its sign is all that matters. -/
theorem reads_numberTail {negative : Bool} {n : Nat} {x : Number} {rest : Bytes}
    (h : stops rest = true)
    (hx : Reads
      (if !negative then return .natural n
      else if n = 0 ∨ n > 0x8000000000000000 then float true n 0
      else return .negative n) [] x rest) :
    Reads (numberTail negative n 0) [] x rest := by
  refine .peek ?_
  rw [List.nil_append]
  split
  · rename_i hb
    exact absurd rfl (head_of_stops h hb).2.1
  · rename_i hb
    exact absurd rfl (head_of_stops h hb).2.2.1
  · rename_i hb
    exact absurd rfl (head_of_stops h hb).2.2.2
  · exact hx

/-- The digits of a number are read up to where its sign matters. -/
theorem reads_number_of_tail {negative : Bool} {n : Nat} {x : Number} (hn : n < UInt64.size)
    {rest : Bytes} (h : stops rest = true) (hx : Reads (numberTail negative n 0) [] x rest) :
    Reads (number negative) (Writer.natural n) x rest := by
  have hdigit : ∀ b, rest.head? = some b → isDigit b = false := fun b hb => (head_of_stops h hb).1
  by_cases hzero : n = 0
  · subst hzero
    show Reads (number negative) [0x30] _ _
    refine .peek (.bind_skip (.peek ?_))
    cases rest with
    | nil => exact hx
    | cons b rest =>
      simp only [List.nil_append, List.head?_cons, hdigit b rfl]
      exact hx
  · obtain ⟨b, bs, hb, hne⟩ := Writer.natural_cons hzero
    have hfirst : isDigit b = true := Writer.isDigit_of_mem_natural (hb ▸ List.mem_cons_self)
    have hread : Reads digits (Writer.natural n) ((Writer.natural n).map digitValue) rest :=
      reads_digits (fun _ hmem => Writer.isDigit_of_mem_natural hmem) hdigit
    have haccumulate : accumulate maxSignificand 0 ((Writer.natural n).map digitValue) = (n, []) := by
      rw [accumulate_eq] <;> rw [Writer.foldl_natural]
      simp only [maxSignificand]
      omega
    rw [hb] at hread haccumulate ⊢
    refine .peek ?_
    simp only [List.cons_append, List.head?_cons, if_neg hne, hfirst, if_true]
    rw [← List.append_nil (b :: bs)]
    refine .bind hread ?_
    rw [haccumulate]
    exact hx

theorem reads_number {n : Nat} (hn : n < UInt64.size) {rest : Bytes} (h : stops rest = true) :
    Reads (number false) (Writer.natural n) (.natural n) rest :=
  reads_number_of_tail hn h (reads_numberTail h (.pure _ _))

/-- Behind the minus sign the digits of a number are read back, down to the least of 64 bits. -/
theorem reads_negative {n : Nat} (hzero : n ≠ 0) (hn : n ≤ 0x8000000000000000) {rest : Bytes}
    (h : stops rest = true) : Reads (number true) (Writer.natural n) (.negative n) rest := by
  have hsize : n < UInt64.size := Nat.lt_of_le_of_lt hn (by decide)
  refine reads_number_of_tail hsize h (reads_numberTail h ?_)
  have hfits : ¬ (n = 0 ∨ n > 0x8000000000000000) := by omega
  rw [if_neg (by decide), if_neg hfits]
  exact .pure _ _

/-! ### Strings -/

/-- Four hexadecimal digits and their number. -/
inductive HexText : Bytes → Nat → Prop where
  | mk {d1 d2 d3 d4 : UInt8} {n1 n2 n3 n4 : Nat} (h1 : hexValue? d1 = some n1)
      (h2 : hexValue? d2 = some n2) (h3 : hexValue? d3 = some n3) (h4 : hexValue? d4 = some n4) :
      HexText [d1, d2, d3, d4] (((n1 * 16 + n2) * 16 + n3) * 16 + n4)

/-- What stands behind a backslash, and the bytes that it stands for. -/
inductive EscapeText : Bytes → Bytes → Prop where
  | letter {letter b : UInt8} (hu : letter ≠ 0x75) (h : escapeLetter? letter = some b) :
      EscapeText [letter] [b]
  /-- The number of a character that has no surrogate. -/
  | unit {code : Bytes} {n : Nat} (h : HexText code n) (hlow : ¬ (0xdc00 ≤ n ∧ n ≤ 0xdfff))
      (hhigh : ¬ (0xd800 ≤ n ∧ n ≤ 0xdbff)) :
      EscapeText (0x75 :: code) (Bytes.ofString (String.singleton (Char.ofNat n)))
  /-- The two surrogates of a character. -/
  | pair {code code' : Bytes} {high low : Nat} (h : HexText code high)
      (hhigh : 0xd800 ≤ high ∧ high ≤ 0xdbff) (h' : HexText code' low)
      (hlow : 0xdc00 ≤ low ∧ low ≤ 0xdfff) :
      EscapeText (0x75 :: (code ++ 0x5c :: 0x75 :: code'))
        (Bytes.ofString
          (String.singleton (Char.ofNat ((high - 0xd800) * 0x400 + (low - 0xdc00) + 0x10000))))

/-- A text between quotes, and the bytes that it stands for. -/
inductive Unescapes : Bytes → Bytes → Prop where
  | nil : Unescapes [] []
  | plain {b : UInt8} {text bs : Bytes} (hquote : b ≠ 0x22) (hslash : b ≠ 0x5c)
      (hcontrol : ¬ b < 0x20) (h : Unescapes text bs) : Unescapes (b :: text) (b :: bs)
  | escape {code c text bs : Bytes} (hcode : EscapeText code c) (h : Unescapes text bs) :
      Unescapes (0x5c :: (code ++ text)) (c ++ bs)

theorem HexText.reads_hexUnit {code : Bytes} {n : Nat} (h : HexText code n) (rest : Bytes) :
    Reads hexUnit code n rest := by
  obtain ⟨h1, h2, h3, h4⟩ := h
  refine .get fun p => ?_
  dsimp only [List.cons_append]
  rw [h1, h2, h3, h4]
  exact fun _ => ⟨_, rfl⟩

theorem reads_inEscape (b : UInt8) (rest : Bytes) : Reads (inEscape b) [b] () rest := by
  refine .peek (.bind_skip ?_)
  rw [if_neg (by simp)]
  exact .pure () rest

theorem EscapeText.reads_escape {code c : Bytes} (h : EscapeText code c) (rest : Bytes) :
    Reads Reader.escape code c rest := by
  cases h with
  | letter hu h =>
    refine .bind_next ?_
    simp only [if_neg hu, h]
    exact .pure _ _
  | unit h hlow hhigh =>
    refine .bind_next (Reads.bind_last (h.reads_hexUnit rest) ?_)
    rw [if_neg hlow, if_neg hhigh]
    exact .pure _ _
  | pair h hhigh h' hlow =>
    refine .bind_next (Reads.bind (h.reads_hexUnit _) ?_)
    rw [if_neg (by omega), if_pos hhigh]
    show Reads _ ([0x5c] ++ ([0x75] ++ _)) _ _
    refine .bind (reads_inEscape 0x5c _) (.bind (reads_inEscape 0x75 _) ?_)
    refine .bind_last (h'.reads_hexUnit rest) ?_
    rw [if_pos hlow]
    exact .pure _ _

/-- Up to the closing quote a text is read as what it stands for. -/
theorem Unescapes.reads_stringBody {text bs : Bytes} (h : Unescapes text bs) (rest : Bytes) {fuel : Nat}
    (hfuel : text.length < fuel) : Reads (stringBody fuel) text bs (0x22 :: rest) := by
  induction h generalizing fuel with
  | nil =>
    obtain ⟨fuel, rfl⟩ : ∃ k, fuel = k + 1 := ⟨fuel - 1, by omega⟩
    exact .peek (.pure _ _)
  | @plain b text bs hquote hslash hcontrol h ih =>
    obtain ⟨fuel, rfl⟩ : ∃ k, fuel = k + 1 := ⟨fuel - 1, by simp at hfuel; omega⟩
    have hmore := @ih fuel (by simpa using hfuel)
    refine .peek ?_
    simp only [List.cons_append, List.head?_cons, if_neg hquote, if_neg hslash, if_neg hcontrol]
    exact .bind_skip (.bind_pure hmore)
  | @escape code c text bs hcode h ih =>
    obtain ⟨fuel, rfl⟩ : ∃ k, fuel = k + 1 := ⟨fuel - 1, by simp at hfuel; omega⟩
    have hmore := @ih fuel (by simp at hfuel; omega)
    exact .peek (.bind_skip (.bind (hcode.reads_escape _) (.bind_pure hmore)))

/-- Behind its opening quote a string is read from every text that stands for it. -/
theorem Unescapes.reads_string {text : Bytes} {s : String} (h : Unescapes text (Bytes.ofString s))
    (rest : Bytes) : Reads string (text ++ [0x22]) s rest := by
  refine .get fun p => .bind (h.reads_stringBody rest ?_) ?_
  · simp only [List.length_append]
    omega
  · rw [Bytes.toString?_ofString]
    exact .bind_skip (.pure s rest)

/-! #### Written strings -/

/-- The four digits that the writer gives a control. -/
theorem hexValue?_hexDigit : ∀ n : Fin 32,
    hexValue? (Writer.hexDigit (UInt8.ofNat n >>> 4)) = some (n.val / 16) ∧
    hexValue? (Writer.hexDigit (UInt8.ofNat n &&& 0xf)) = some (n.val % 16) ∧
    Bytes.ofString (String.singleton (Char.ofNat n)) = [UInt8.ofNat n] := by
  decide +kernel

theorem escapeText_control {b : UInt8} (h : b < 0x20) :
    EscapeText [0x75, 0x30, 0x30, Writer.hexDigit (b >>> 4), Writer.hexDigit (b &&& 0xf)] [b] := by
  have hb : b.toNat < 32 := h
  obtain ⟨h1, h2, h3⟩ := hexValue?_hexDigit ⟨b.toNat, hb⟩
  simp only [UInt8.ofNat_toNat] at h1 h2 h3
  have hzero : hexValue? 0x30 = some 0 := by decide
  have hn : ((0 * 16 + 0) * 16 + b.toNat / 16) * 16 + b.toNat % 16 = b.toNat := by omega
  have hcode : HexText [0x30, 0x30, Writer.hexDigit (b >>> 4), Writer.hexDigit (b &&& 0xf)]
      b.toNat := hn ▸ .mk hzero hzero h1 h2
  exact h3 ▸ EscapeText.unit hcode (by omega) (by omega)

/-- A byte of a string stands for itself as it is written, escaped or not. -/
theorem unescapes_escape (b : UInt8) {text bs : Bytes} (h : Unescapes text bs) :
    Unescapes (Writer.escape b ++ text) (b :: bs) := by
  have hletter : ∀ letter, letter ≠ 0x75 → escapeLetter? letter = some b →
      Unescapes ([0x5c, letter] ++ text) (b :: bs) :=
    fun letter hu hb => .escape (.letter hu hb) h
  unfold Writer.escape
  split
  · rename_i hb
    exact hletter 0x22 (by decide) (by rw [hb]; decide)
  split
  · rename_i hb
    exact hletter 0x5c (by decide) (by rw [hb]; decide)
  split
  · rename_i hb
    exact hletter 0x62 (by decide) (by rw [hb]; decide)
  split
  · rename_i hb
    exact hletter 0x66 (by decide) (by rw [hb]; decide)
  split
  · rename_i hb
    exact hletter 0x6e (by decide) (by rw [hb]; decide)
  split
  · rename_i hb
    exact hletter 0x72 (by decide) (by rw [hb]; decide)
  split
  · rename_i hb
    exact hletter 0x74 (by decide) (by rw [hb]; decide)
  split
  · rename_i hb
    exact .escape (escapeText_control hb) h
  · rename_i hquote hslash _ _ _ _ _ hplain
    exact .plain hquote hslash hplain h

theorem unescapes_flatMap (bs : Bytes) : Unescapes (bs.flatMap Writer.escape) bs := by
  induction bs with
  | nil => exact .nil
  | cons b bs ih =>
    rw [List.flatMap_cons]
    exact unescapes_escape b ih

/-- Behind its opening quote a string is read back. -/
theorem reads_string (s : String) (rest : Bytes) :
    Reads string ((Bytes.ofString s).flatMap Writer.escape ++ [0x22]) s rest :=
  (unescapes_flatMap _).reads_string rest

end Reader

end Keyring.Json

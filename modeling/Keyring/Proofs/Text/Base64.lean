import Keyring.Proofs.Act
import Keyring.Proofs.Bytes
import Keyring.Text.Base64

/-!
# Base64 read back

* `decode_eq_ok` : characters that are those of a byte string, but for blanks among them, are read as
  that byte string;
* `mem_encode` : which characters are written.

The writer goes through the bytes by threes, while the reader makes bytes of no less than eight
characters unless the text ends.  So a group of four meets a reader that has gathered none, one or two
groups before, and the induction goes over all three at once (`gather_symbols`).
-/

namespace Keyring.Text.Base64

/-! ### Bits -/

/-- The bits of two bytes that share a digit are told apart. -/
theorem apart (b : UInt8) :
    ((b &&& 3) <<< 4) >>> 4 = b &&& 3 ∧ ((b &&& 3) <<< 4) <<< 4 = 0 ∧ (b >>> 4) >>> 4 = 0 ∧
      ((b &&& 0xf) <<< 2) >>> 2 = b &&& 0xf ∧ ((b &&& 0xf) <<< 2) <<< 6 = 0 ∧ (b >>> 6) >>> 2 = 0 := by
  revert b
  exact Bytes.forall_byte (by decide +kernel)

/-- The first of three bytes. -/
theorem first_byte (a b : UInt8) : (a >>> 2) <<< 2 ||| ((a &&& 3) <<< 4 ||| b >>> 4) >>> 4 = a := by
  rw [UInt8.shiftRight_or, (apart a).1, (apart b).2.2.1, UInt8.or_zero, (Bytes.spread a).1]

/-- The second of three bytes. -/
theorem second_byte (a b c : UInt8) :
    ((a &&& 3) <<< 4 ||| b >>> 4) <<< 4 ||| ((b &&& 0xf) <<< 2 ||| c >>> 6) >>> 2 = b := by
  rw [UInt8.shiftLeft_or, UInt8.shiftRight_or, (apart a).2.1, (apart b).2.2.2.1,
    (apart c).2.2.2.2.2, UInt8.or_zero, UInt8.zero_or, (Bytes.spread b).2.1]

/-- The third of three bytes. -/
theorem third_byte (b c : UInt8) :
    ((b &&& 0xf) <<< 2 ||| c >>> 6) <<< 6 ||| (c &&& 0x3f) = c := by
  rw [UInt8.shiftLeft_or, (apart b).2.2.2.2.1, UInt8.zero_or, (Bytes.spread c).2.2]

theorem or_lt {a b : UInt8} (ha : a < 64) (hb : b < 64) : a ||| b < 64 := by
  rw [UInt8.lt_iff_toNat_lt] at ha hb ⊢
  rw [UInt8.toNat_or]
  exact Nat.or_lt_two_pow (n := 6) ha hb

/-- Each part of a digit has six bits. -/
theorem parts_lt (b : UInt8) :
    b >>> 2 < 64 ∧ (b &&& 3) <<< 4 < 64 ∧ b >>> 4 < 64 ∧ (b &&& 0xf) <<< 2 < 64 ∧ b >>> 6 < 64 ∧
      b &&& 0x3f < 64 := by
  revert b
  exact Bytes.forall_byte (by decide +kernel)

/-! ### Characters -/

/-- The character of a number below 64 stands for it. -/
theorem symbol?_digit {n : UInt8} (h : n < 64) : symbol? (digit n) = some (.digit n) := by
  have hdigits : ∀ n : Fin 64, symbol? (digit (UInt8.ofNat n)) = some (.digit (UInt8.ofNat n)) := by
    decide +kernel
  have hn := hdigits ⟨n.toNat, h⟩
  simpa using hn

/-- A character that stands for bits is printable ASCII other than a dash. -/
theorem character_facts (x : UInt8) :
    (symbol? x).isSome → isBlank x = false ∧ x ≠ 0x2d ∧ x < 0x80 := by
  revert x
  exact Bytes.forall_byte (by decide +kernel)

theorem isBlank_of_symbol? {x : UInt8} {s : Symbol} (h : symbol? x = some s) : isBlank x = false :=
  (character_facts x (by simp [h])).1

/-- The four digits of three bytes. -/
def quad (a b c : UInt8) : List Symbol :=
  [.digit (a >>> 2), .digit ((a &&& 3) <<< 4 ||| b >>> 4), .digit ((b &&& 0xf) <<< 2 ||| c >>> 6),
    .digit (c &&& 0x3f)]

/-- The symbols of a byte string. -/
def symbols : Bytes → List Symbol
  | [] => []
  | [a] => [.digit (a >>> 2), .digit ((a &&& 3) <<< 4), .pad, .pad]
  | [a, b] =>
    [.digit (a >>> 2), .digit ((a &&& 3) <<< 4 ||| b >>> 4), .digit ((b &&& 0xf) <<< 2), .pad]
  | a :: b :: c :: rest => quad a b c ++ symbols rest

/-- The characters of a byte string stand for its symbols. -/
theorem map_symbol?_encode (bs : Bytes) : (encode bs).map symbol? = (symbols bs).map some := by
  have hpad : symbol? padding = some .pad := by decide
  induction bs using encode.induct with
  | case1 => rfl
  | case2 a =>
    obtain ⟨h1, h2, -⟩ := parts_lt a
    simp [encode, symbols, symbol?_digit, h1, h2, hpad]
  | case3 a b =>
    obtain ⟨h1, h2, -⟩ := parts_lt a
    obtain ⟨-, -, h3, h4, -⟩ := parts_lt b
    simp [encode, symbols, symbol?_digit, or_lt, h1, h2, h3, h4, hpad]
  | case4 a b c rest ih =>
    obtain ⟨h1, h2, -⟩ := parts_lt a
    obtain ⟨-, -, h3, h4, -⟩ := parts_lt b
    obtain ⟨-, -, -, -, h5, h6⟩ := parts_lt c
    simp [encode, symbols, quad, symbol?_digit, or_lt, h1, h2, h3, h4, h5, h6, ih]

theorem symbol?_of_mem_encode {bs : Bytes} {x : UInt8} (h : x ∈ encode bs) :
    (symbol? x).isSome := by
  have hx : symbol? x ∈ (symbols bs).map some := by
    rw [← map_symbol?_encode]
    exact List.mem_map_of_mem h
  obtain ⟨s, -, hs⟩ := List.mem_map.1 hx
  simp [← hs]

/-- The characters of a byte string are printable ASCII other than a dash. -/
theorem mem_encode {bs : Bytes} {x : UInt8} (h : x ∈ encode bs) :
    isBlank x = false ∧ x ≠ 0x2d ∧ x < 0x80 :=
  character_facts x (symbol?_of_mem_encode h)

/-! ### Groups -/

theorem groups_quad {a b c : UInt8} {rest : List Symbol} {bs : Bytes} (h : groups rest = .ok bs) :
    groups (quad a b c ++ rest) = .ok (a :: b :: c :: bs) := by
  simp only [quad, List.cons_append, List.nil_append, groups, h, first_byte, second_byte, third_byte]
  rfl

theorem groups_symbols (bs : Bytes) : groups (symbols bs) = .ok bs := by
  induction bs using symbols.induct with
  | case1 => rfl
  | case2 a =>
    have ha := first_byte a 0
    simp only [UInt8.zero_shiftRight, UInt8.or_zero] at ha
    simp only [symbols, groups, ha]
  | case3 a b =>
    have hb := second_byte a b 0
    simp only [UInt8.zero_shiftRight, UInt8.or_zero] at hb
    simp only [symbols, groups, first_byte, hb]
  | case4 a b c rest ih => exact groups_quad ih

/-! ### Reading -/

/-- Blanks are passed over wherever they stand. -/
theorem blocks_filter (block : List Symbol) (cs : Bytes) :
    blocks block (cs.filter fun x => !isBlank x) = blocks block cs := by
  induction cs generalizing block with
  | nil => rfl
  | cons x cs ih =>
    by_cases hx : isBlank x = true
    · simp [hx, blocks, ih]
    · simp only [hx, List.filter_cons, Bool.not_false, if_true, Bool.false_eq_true, if_false, blocks,
        ih]

/-- Reads symbols as characters that stand for them are read. -/
def gather (block : List Symbol) : List Symbol → Except Error Bytes
  | [] => finish block
  | s :: rest =>
    if block.length = 8 then
      if block.contains .pad then .error .prematurePadding
      else do return (← groups block) ++ (← gather [s] rest)
    else gather (block ++ [s]) rest

theorem blocks_eq_gather {cs : Bytes} {syms : List Symbol} (h : cs.map symbol? = syms.map some)
    (block : List Symbol) : blocks block cs = gather block syms := by
  induction cs generalizing block syms with
  | nil =>
    obtain rfl : syms = [] := by simpa using h.symm
    rfl
  | cons x cs ih =>
    cases syms with
    | nil => simp at h
    | cons s syms =>
      obtain ⟨hx, hcs⟩ := List.cons.inj h
      rw [blocks, gather, isBlank_of_symbol? hx, hx]
      simp only [Bool.false_eq_true, if_false, ih hcs]

theorem gather_append {block syms : List Symbol} (h : block.length + syms.length ≤ 8)
    (rest : List Symbol) : gather block (syms ++ rest) = gather (block ++ syms) rest := by
  induction syms generalizing block with
  | nil => simp
  | cons s syms ih =>
    simp only [List.length_cons] at h
    rw [List.cons_append, gather, if_neg (by omega), ih (by simp; omega), List.append_assoc]
    rfl

theorem pad_notMem_quad (a b c : UInt8) : Symbol.pad ∉ quad a b c := by
  simp [quad]

/-- At the end of the text, padding stands behind the first four symbols or there are no more. -/
theorem finish_eq_groups {block : List Symbol}
    (h : block.length ≤ 4 ∨ Symbol.pad ∉ block.take 4) : finish block = groups block := by
  rw [finish, if_neg]
  rintro ⟨hlength, hpad⟩
  rw [List.contains_iff_mem] at hpad
  rcases h with h | h
  · omega
  · exact h hpad

/-- Four symbols at the end of the text, behind one group or none. -/
theorem gather_last {block syms : List Symbol} (hblock : block = [] ∨ ∃ a b c, block = quad a b c)
    (hsyms : syms.length = 4) : gather block syms = groups (block ++ syms) := by
  have hlength : block.length + syms.length ≤ 8 := by
    rcases hblock with rfl | ⟨a, b, c, rfl⟩ <;> simp [hsyms, quad]
  have h := gather_append hlength []
  rw [List.append_nil] at h
  rw [h, gather]
  apply finish_eq_groups
  rcases hblock with rfl | ⟨a, b, c, rfl⟩
  · exact .inl (by simp [hsyms])
  · exact .inr (pad_notMem_quad a b c)

/-- Behind two groups the reader starts again. -/
theorem gather_two_quads {bs : Bytes} (h : gather [] (symbols bs) = .ok bs) (a b c d e f : UInt8) :
    gather (quad a b c ++ quad d e f) (symbols bs) = .ok (a :: b :: c :: d :: e :: f :: bs) := by
  have hgroups : groups (quad a b c ++ quad d e f) = .ok [a, b, c, d, e, f] := by
    have hlast : groups (quad d e f ++ []) = .ok [d, e, f] := groups_quad rfl
    rw [List.append_nil] at hlast
    exact groups_quad hlast
  have hpad : Symbol.pad ∉ quad a b c ++ quad d e f := by
    simp [pad_notMem_quad]
  cases hsyms : symbols bs with
  | nil =>
    rw [hsyms] at h
    obtain rfl : [] = bs := Except.ok.inj h
    rw [gather, finish_eq_groups (.inr fun hmem => hpad (List.mem_of_mem_take hmem)), hgroups]
  | cons s rest =>
    rw [hsyms] at h
    have hs : gather [s] rest = .ok bs := h
    have hlength : (quad a b c ++ quad d e f).length = 8 := rfl
    rw [gather, if_pos hlength, if_neg (by simpa using hpad), hgroups, hs]
    rfl

/-- The symbols of a byte string are read as it, behind one group or none. -/
theorem gather_symbols (bs : Bytes) : gather [] (symbols bs) = .ok bs ∧
    ∀ a b c, gather (quad a b c) (symbols bs) = .ok (a :: b :: c :: bs) := by
  induction bs using symbols.induct with
  | case1 =>
    refine ⟨rfl, fun a b c => ?_⟩
    have h : groups (quad a b c ++ []) = .ok [a, b, c] := groups_quad rfl
    rw [List.append_nil] at h
    have hlength : (quad a b c).length = 4 := rfl
    exact (finish_eq_groups (.inl (Nat.le_of_eq hlength))).trans h
  | case2 a =>
    refine ⟨?_, fun d e f => ?_⟩
    · exact (gather_last (.inl rfl) rfl).trans (groups_symbols [a])
    · exact (gather_last (.inr ⟨d, e, f, rfl⟩) rfl).trans (groups_quad (groups_symbols [a]))
  | case3 a b =>
    refine ⟨?_, fun d e f => ?_⟩
    · exact (gather_last (.inl rfl) rfl).trans (groups_symbols [a, b])
    · exact (gather_last (.inr ⟨d, e, f, rfl⟩) rfl).trans (groups_quad (groups_symbols [a, b]))
  | case4 a b c rest ih =>
    obtain ⟨hnone, hone⟩ := ih
    refine ⟨?_, fun d e f => ?_⟩
    · rw [symbols, gather_append (by simp [quad])]
      exact hone a b c
    · rw [symbols, gather_append (by simp [quad])]
      exact gather_two_quads hnone d e f a b c

/-- **What is written is read**, whatever blanks stand among the characters. -/
theorem decode_eq_ok {cs bs : Bytes} (h : cs.filter (fun x => !isBlank x) = encode bs) :
    decode cs = .ok bs := by
  rw [decode, ← blocks_filter, h, blocks_eq_gather (map_symbol?_encode bs)]
  exact (gather_symbols bs).1

end Keyring.Text.Base64

import Keyring.Proofs.Bytes
import Keyring.Proofs.Text.Quoted
import Keyring.Proofs.Text.Split
import Keyring.Text.Blank
import Keyring.Text.Hex
import Mathlib

/-!
# Hexadecimal read back

* `decode_eq_ok` : bytes that stand for the digits of a byte string are read as that byte string;
* `decode_of_sameIgnoringCase` : so is every text that differs from the written one in the case of
  letters;
* `decode_eq_error_iff` : what is wrong with any other text, which is its length or its first byte that
  is no digit (`stray?`);
* `Error.message_inj` : the message says all of that.

The reader takes pairs of bytes and the writer gives a pair for each byte, so the two go along each
other once the digits are numbers (`nibbles`).
-/

namespace Keyring.Text.Hex

/-! ### Digits -/

/-- The numbers of the two digits of each byte. -/
def nibbles (bs : Bytes) : List UInt8 := bs.flatMap fun (b : UInt8) => [b >>> 4, b &&& 0xf]

theorem lt_of_mem_nibbles {bs : Bytes} {n : UInt8} (h : n ∈ nibbles bs) : n < 16 := by
  have hparts : ∀ b : UInt8, b >>> 4 < 16 ∧ b &&& 0xf < 16 := Bytes.forall_byte (by decide +kernel)
  obtain ⟨b, -, hn⟩ := List.mem_flatMap.1 h
  simp only [List.mem_cons, List.not_mem_nil, or_false] at hn
  rcases hn with rfl | rfl
  · exact (hparts b).1
  · exact (hparts b).2

theorem encode_eq_map (bs : Bytes) : encode bs = (nibbles bs).map digit := by
  simp [encode, nibbles, List.map_flatMap]

theorem length_nibbles (bs : Bytes) : (nibbles bs).length = 2 * bs.length := by
  induction bs with
  | nil => rfl
  | cons b bs ih =>
    simp only [nibbles, List.flatMap_cons, List.length_append, List.length_cons, List.length_nil] at ih ⊢
    omega

/-- The character of a digit. -/
def letter (n : UInt8) : Char := Char.ofNat (digit n).toNat

theorem toList_text (bs : Bytes) : (text bs).toList = (nibbles bs).map letter := by
  rw [text, String.toList_ofList, encode_eq_map, List.map_map]
  rfl

/-! ### Reading digits -/

/-- Pairs of bytes that stand for the digits of a byte string are read as it. -/
theorem pairs_eq_ok {cs bs : Bytes} (h : cs.map value? = (nibbles bs).map some) (position : Nat) :
    pairs position cs = .ok bs := by
  induction bs generalizing cs position with
  | nil =>
    obtain rfl : cs = [] := by simpa [nibbles] using h
    rfl
  | cons b bs ih =>
    obtain ⟨high, cs, rfl⟩ : ∃ high rest, cs = high :: rest := by
      cases cs with
      | nil => simp [nibbles] at h
      | cons high rest => exact ⟨high, rest, rfl⟩
    obtain ⟨low, cs, rfl⟩ : ∃ low rest, cs = low :: rest := by
      cases cs with
      | nil => simp [nibbles] at h
      | cons low rest => exact ⟨low, rest, rfl⟩
    obtain ⟨hhigh, hlow, hrest⟩ :
        value? high = some (b >>> 4) ∧ value? low = some (b &&& 0xf) ∧
          cs.map value? = (nibbles bs).map some := by
      simpa [nibbles] using h
    rw [pairs, hhigh, hlow]
    simp only [ih hrest, (Bytes.spread b).2.1]
    rfl

/-- Bytes that stand for the digits of a byte string are read as it. -/
theorem decode_eq_ok {cs bs : Bytes} (h : cs.map value? = (nibbles bs).map some) :
    decode cs = .ok bs := by
  have hlength : cs.length = 2 * bs.length := by
    rw [← length_nibbles, ← List.length_map value?, h, List.length_map]
  rw [decode, if_neg (by omega), pairs_eq_ok h]

/-! ### Letters in either case -/

/-- A text in capitals differs in the case of letters alone. -/
theorem sameIgnoringCase_toUpper (s : String) :
    sameIgnoringCase (String.ofList (s.toList.map Char.toUpper)) s = true := by
  simp [sameIgnoringCase, Char.toLower_toUpper_eq_toLower]

/-- Lower case keeps what is not ASCII. -/
theorem toNat_lt_of_toLower {c : Char} (h : c.toLower.toNat < 0x80) : c.toNat < 0x80 := by
  by_cases hupper : c.isUpper = true
  · have hrange : c.val.toNat ≤ 90 := by
      simp only [Char.isUpper, decide_eq_true_eq] at hupper
      exact hupper.2
    exact Nat.lt_of_le_of_lt hrange (by decide)
  · rwa [Char.toLower_eq_of_not_isUpper hupper] at h

/-- A character that differs from a digit at most in its case is one byte, which stands for it. -/
theorem letter_cases {c : Char} {n : UInt8} (hn : n < 16) (h : c.toLower = (letter n).toLower) :
    String.utf8EncodeChar c = [UInt8.ofNat c.toNat] ∧ value? (UInt8.ofNat c.toNat) = some n := by
  have hletters : ∀ n : Fin 16, (letter (UInt8.ofNat n)).toLower.toNat < 0x80 := by decide +kernel
  have hvalues : ∀ (k : Fin 128) (n : Fin 16),
      (Char.ofNat k).toLower = (letter (UInt8.ofNat n)).toLower →
        value? (UInt8.ofNat k) = some (UInt8.ofNat n) := by
    decide +kernel
  -- digits are ASCII, and no other character becomes one in lower case
  have hascii : c.toNat < 0x80 := by
    apply toNat_lt_of_toLower
    rw [h]
    simpa using hletters ⟨n.toNat, hn⟩
  refine ⟨Bytes.utf8EncodeChar_ascii hascii, ?_⟩
  have hvalue := hvalues ⟨c.toNat, hascii⟩ ⟨n.toNat, hn⟩
  simp only [Char.ofNat_toNat, UInt8.ofNat_toNat] at hvalue
  exact hvalue h

theorem map_value?_of_letters {cs : List Char} {ns : List UInt8} (hns : ∀ n ∈ ns, n < 16)
    (h : cs.map Char.toLower = ns.map fun n => (letter n).toLower) :
    (cs.flatMap String.utf8EncodeChar).map value? = ns.map some := by
  induction ns generalizing cs with
  | nil =>
    obtain rfl : cs = [] := by simpa using h
    rfl
  | cons n ns ih =>
    obtain ⟨hn, hns⟩ := List.forall_mem_cons.1 hns
    cases cs with
    | nil => simp at h
    | cons c cs =>
      obtain ⟨hc, hcs⟩ := List.cons.inj h
      obtain ⟨hbyte, hvalue⟩ := letter_cases hn hc
      rw [List.flatMap_cons, hbyte, List.map_append, ih hns hcs, List.map_cons, hvalue]
      rfl

/-- **What is written is read**, also when its letters are in the other case. -/
theorem decode_of_sameIgnoringCase {written : String} {bs : Bytes}
    (h : sameIgnoringCase written (text bs) = true) : decode (Bytes.ofString written) = .ok bs := by
  rw [sameIgnoringCase, beq_iff_eq, toList_text, List.map_map] at h
  apply decode_eq_ok
  rw [Bytes.ofString_eq_flatMap]
  exact map_value?_of_letters (fun n hn => lt_of_mem_nibbles hn) h

/-! ### What is refused -/

/-- The first byte that is no digit, with its position. -/
def stray? (bs : Bytes) : Option (UInt8 × Nat) := bs.zipIdx.find? fun x => (value? x.1).isNone

/-- Reading pairs stops at the first byte that is no digit. -/
theorem pairs_eq_error_iff {start : Nat} {bs : Bytes} {fault : Error} (heven : bs.length % 2 = 0) :
    pairs start bs = .error fault ↔
      ∃ byte position, (bs.zipIdx start).find? (fun x => (value? x.1).isNone) = some (byte, position) ∧
        fault = .invalidDigit byte position := by
  induction start, bs using pairs.induct with
  | case1 start high low rest h hhigh l hlow ih =>
    have hrest : rest.length % 2 = 0 := by
      simp only [List.length_cons] at heven
      omega
    have hread : pairs start (high :: low :: rest) =
        (((h <<< 4) ||| l) :: ·) <$> pairs (start + 2) rest := by
      simp [pairs, hhigh, hlow]
    have hmap : ∀ x : Except Error Bytes,
        (((h <<< 4) ||| l) :: ·) <$> x = .error fault ↔ x = .error fault := by
      intro x
      cases x <;> simp [Functor.map, Except.map]
    -- both bytes are passed over, and the rest is counted on behind them
    rw [hread, hmap, ih hrest]
    simp [List.zipIdx_cons, hhigh, hlow]
  | case2 start high low rest h hhigh hlow =>
    have hnone : value? low = none := Option.eq_none_iff_forall_ne_some.2 hlow
    have hread : pairs start (high :: low :: rest) = .error (.invalidDigit low (start + 1)) := by
      simp only [pairs, hhigh, hnone]
      rfl
    rw [hread]
    simp [List.zipIdx_cons, hhigh, hnone, eq_comm]
  | case3 start high low rest hhigh =>
    have hnone : value? high = none := Option.eq_none_iff_forall_ne_some.2 hhigh
    have hread : pairs start (high :: low :: rest) = .error (.invalidDigit high start) := by
      simp only [pairs, hnone]
      rfl
    rw [hread]
    simp [List.zipIdx_cons, hnone, eq_comm]
  | case4 bs start hbs =>
    match bs with
    | [] => simp [pairs]
    | [b] => simp at heven
    | high :: low :: rest => exact absurd rfl (hbs high low rest)

/-- A text is refused for its length if that is odd, and else for its first byte that is no digit. -/
theorem decode_eq_error_iff {bs : Bytes} {fault : Error} :
    decode bs = .error fault ↔
      bs.length % 2 = 1 ∧ fault = .oddLength ∨
      bs.length % 2 = 0 ∧ ∃ byte position, stray? bs = some (byte, position) ∧
        fault = .invalidDigit byte position := by
  rw [decode]
  split
  · rename_i hodd
    simp [hodd, eq_comm]
  · rename_i hodd
    have heven : bs.length % 2 = 0 := by omega
    rw [pairs_eq_error_iff heven]
    simp [heven, stray?]

/-- Two texts have the same fault: the number of bytes is odd in both, or it is even and the first byte
that is no digit is the same, in the same place. -/
def SameFault (bs bs' : Bytes) : Prop :=
  bs.length % 2 = 1 ∧ bs'.length % 2 = 1 ∨
    bs.length % 2 = 0 ∧ bs'.length % 2 = 0 ∧ stray? bs = stray? bs'

instance (bs bs' : Bytes) : Decidable (SameFault bs bs') := inferInstanceAs (Decidable (_ ∨ _))

/-- Of texts that are refused, those with the same fault are refused for it. -/
theorem sameFault_iff {bs bs' : Bytes} {fault fault' : Error} (h : decode bs = .error fault)
    (h' : decode bs' = .error fault') : SameFault bs bs' ↔ fault = fault' := by
  rcases decode_eq_error_iff.1 h with ⟨hlen, rfl⟩ | ⟨hlen, byte, position, hstray, rfl⟩ <;>
    rcases decode_eq_error_iff.1 h' with ⟨hlen', rfl⟩ | ⟨hlen', byte', position', hstray', rfl⟩ <;>
    simp [SameFault, *]

/-! ### Messages -/

theorem toList_numbered (before shown behind : String) (n : Nat) :
    (before ++ shown ++ behind ++ toString n).toList =
      before.toList ++ (shown.toList ++ (behind.toList ++ Nat.toDigits 10 n)) := by
  simp

/-- A number that stands behind a blank is read off the end of a text. -/
theorem numbered_inj {before shown shown' behind : String} {word : List Char} {n n' : Nat}
    (hbehind : behind.toList = word ++ [' '])
    (h : before ++ shown ++ behind ++ toString n = before ++ shown' ++ behind ++ toString n') :
    shown = shown' ∧ n = n' := by
  have hdigits : ∀ n : Nat, ' ' ∉ Nat.toDigits 10 n := by
    intro n hblank
    have hdigit : Char.isDigit ' ' = true :=
      Nat.isDigit_of_mem_toDigits (by decide) (by decide) hblank
    revert hdigit
    decide
  have hlist := congrArg String.toList h
  rw [toList_numbered, toList_numbered, hbehind] at hlist
  have hsides : (shown.toList ++ word) ++ ' ' :: Nat.toDigits 10 n =
      (shown'.toList ++ word) ++ ' ' :: Nat.toDigits 10 n' := by
    simpa using List.append_cancel_left hlist
  obtain ⟨hshown, hn⟩ := sides_unique_last hsides (hdigits n) (hdigits n')
  refine ⟨String.toList_inj.1 (List.append_cancel_right hshown), ?_⟩
  rw [← Nat.ofDigitChars_ten_toDigits (n := n), hn, Nat.ofDigitChars_ten_toDigits]

theorem character_injective : Function.Injective fun byte : UInt8 => Char.ofNat byte.toNat := by
  have hnumber : ∀ byte : UInt8, (Char.ofNat byte.toNat).toNat = byte.toNat :=
    Bytes.forall_byte (by decide +kernel)
  intro byte byte' h
  have htoNat := congrArg Char.toNat h
  rw [hnumber, hnumber] at htoNat
  exact UInt8.toNat_inj.1 htoNat

theorem Error.message_oddLength_ne (byte : UInt8) (position : Nat) :
    Error.oddLength.message ≠ (Error.invalidDigit byte position).message := by
  intro h
  -- the two start with different letters
  have hlist : "Odd number of digits".toList = _ := (congrArg String.toList h).trans
    (toList_numbered "Invalid character " (Quoted.char (Char.ofNat byte.toNat)) " at position "
      position)
  simp at hlist

/-- The message tells what is wrong. -/
theorem Error.message_inj {fault fault' : Error} :
    fault.message = fault'.message ↔ fault = fault' := by
  refine ⟨fun h => ?_, congrArg message⟩
  cases fault with
  | oddLength =>
    cases fault' with
    | oddLength => rfl
    | invalidDigit byte position => exact absurd h (message_oddLength_ne byte position)
  | invalidDigit byte position =>
    cases fault' with
    | oddLength => exact absurd h.symm (message_oddLength_ne byte position)
    | invalidDigit byte' position' =>
      have hblank : " at position ".toList = " at position".toList ++ [' '] := by simp
      obtain ⟨hshown, rfl⟩ := numbered_inj hblank h
      obtain rfl := character_injective (Quoted.char_injective hshown)
      rfl

end Keyring.Text.Hex

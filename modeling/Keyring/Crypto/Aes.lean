import Keyring.Bytes

/-!
# AES-256

The forward cipher of FIPS 197 with 256-bit keys: `Aes.encryptBlock (Aes.expandKey key) block`.
Counter mode needs no inverse cipher. A state is the list of its sixteen bytes, column by column.
-/

namespace Keyring.Crypto.Aes

/-- Multiplication by `x` in the field of 256 elements. -/
def double (b : UInt8) : UInt8 := (b <<< 1) ^^^ (if b &&& 0x80 = 0 then 0 else 0x1b)

/-- Product in the field of 256 elements, bit by bit of the second factor. -/
def mul (a b : UInt8) : UInt8 :=
  ((List.range 8).foldl
    (fun (acc : UInt8 × UInt8) i =>
      (if (b >>> UInt8.ofNat i) &&& 1 = 1 then acc.1 ^^^ acc.2 else acc.1, double acc.2))
    (0, a)).1

/-- The inverse in the field, as the 254th power; zero is its own. -/
def inv (b : UInt8) : UInt8 := (List.range 253).foldl (fun p _ => mul p b) b

/-- The substitution of one byte: field inversion and an affine map. -/
def substitute (b : UInt8) : UInt8 :=
  let v := inv b
  let turn (n : UInt8) := (v <<< n) ||| (v >>> (8 - n))
  v ^^^ turn 1 ^^^ turn 2 ^^^ turn 3 ^^^ turn 4 ^^^ 0x63

/-- The substitution as a table. -/
def substitutionTable : Array UInt8 := ((List.range 256).map (substitute ∘ UInt8.ofNat)).toArray

/-- The substitution of one byte, read from the table. -/
def sub (b : UInt8) : UInt8 := substitutionTable.getD b.toNat 0

/-- Shifts row `r` of the state by `r` columns. -/
def shiftRows (s : Bytes) : Bytes :=
  [0, 5, 10, 15, 4, 9, 14, 3, 8, 13, 2, 7, 12, 1, 6, 11].map fun i => s.getD i 0

/-- Mixes each column of the state. -/
def mixColumns : Bytes → Bytes
  | a :: b :: c :: d :: rest =>
    (double a ^^^ double b ^^^ b ^^^ c ^^^ d) :: (a ^^^ double b ^^^ double c ^^^ c ^^^ d) ::
      (a ^^^ b ^^^ double c ^^^ double d ^^^ d) :: (double a ^^^ a ^^^ b ^^^ c ^^^ double d) ::
        mixColumns rest
  | s => s

/-- The words of the expanded key that follow `words`, the eight last ones first; `round` counts the
groups of eight. -/
def extendKey : (fuel : Nat) → (index : Nat) → (constant : UInt8) → (words : List Bytes) → List Bytes
  | 0, _, _, words => words
  | fuel + 1, index, constant, words =>
    let last := words.headD []
    let mixed :=
      if index % 8 = 0 then
        Bytes.xor ((last.drop 1 ++ last.take 1).map sub) [constant, 0, 0, 0]
      else if index % 8 = 4 then last.map sub
      else last
    extendKey fuel (index + 1) (if index % 8 = 0 then double constant else constant)
      (Bytes.xor (words.getD 7 []) mixed :: words)

/-- The fifteen round keys of a 32-byte key. -/
def expandKey (key : Bytes) : List Bytes :=
  Bytes.chunks 16 (extendKey 52 8 1 (Bytes.chunks 4 key).reverse).reverse.flatten

/-- The rounds of the cipher after the first key addition; the last one mixes no columns. -/
def rounds (state : Bytes) : List Bytes → Bytes
  | [] => state
  | [key] => Bytes.xor (shiftRows (state.map sub)) key
  | key :: keys => rounds (Bytes.xor (mixColumns (shiftRows (state.map sub))) key) keys

/-- Encrypts one block of sixteen bytes under the round keys. -/
def encryptBlock (roundKeys : List Bytes) (block : Bytes) : Bytes :=
  match roundKeys with
  | [] => block
  | key :: keys => rounds (Bytes.xor block key) keys

end Keyring.Crypto.Aes

import Keyring.Bytes

/-!
# SHA-2

The hash functions of FIPS 180-4 with 32-bit words (`sha256`) and with 64-bit words (`sha384`,
`sha512`). Words are natural numbers below `2 ^ bits`, so that one definition serves both families;
`Family` holds what distinguishes them.
-/

namespace Keyring.Crypto.Sha2

/-- A family of hash functions: the word size and its rotation amounts and round constants. -/
structure Family where
  /-- Bits in a word. -/
  bits : Nat
  /-- Rotations and shift of the first message expansion function. -/
  small0 : Nat × Nat × Nat
  /-- Rotations and shift of the second message expansion function. -/
  small1 : Nat × Nat × Nat
  /-- Rotations of the first round function. -/
  big0 : Nat × Nat × Nat
  /-- Rotations of the second round function. -/
  big1 : Nat × Nat × Nat
  /-- One constant for each round. -/
  constants : List Nat

namespace Family

variable (F : Family)

/-- Reduces a number to a word. -/
def word (n : Nat) : Nat := n % (1 <<< F.bits)

/-- Rotates a word to the right. -/
def rotate (w count : Nat) : Nat := F.word ((w >>> count) ||| (w <<< (F.bits - count)))

/-- Exclusive or of two rotations and a shift. -/
def small (amounts : Nat × Nat × Nat) (w : Nat) : Nat :=
  F.rotate w amounts.1 ^^^ F.rotate w amounts.2.1 ^^^ (w >>> amounts.2.2)

/-- Exclusive or of three rotations. -/
def big (amounts : Nat × Nat × Nat) (w : Nat) : Nat :=
  F.rotate w amounts.1 ^^^ F.rotate w amounts.2.1 ^^^ F.rotate w amounts.2.2

/-- The message schedule of a block: its sixteen words and the `fuel` words grown from them, kept
with the last word first. -/
def expand : (fuel : Nat) → List Nat → List Nat
  | 0, ws => ws
  | fuel + 1, ws =>
    let w (i : Nat) := ws.getD i 0
    expand fuel
      (F.word (F.small F.small1 (w 1) + w 6 + F.small F.small0 (w 14) + w 15) :: ws)

/-- One round on the eight working words. -/
def round (v : List Nat) (input : Nat × Nat) : List Nat :=
  match v with
  | [a, b, c, d, e, f, g, h] =>
    let choice := (e &&& f) ^^^ ((1 <<< F.bits - 1 - e) &&& g)
    let majority := (a &&& b) ^^^ (a &&& c) ^^^ (b &&& c)
    let t := h + F.big F.big1 e + choice + input.1 + input.2
    [F.word (t + F.big F.big0 a + majority), a, b, c, F.word (d + t), e, f, g]
  | v => v

/-- Compresses one block into the chaining words. -/
def compress (chain : List Nat) (block : Bytes) : List Nat :=
  let first := (Bytes.chunks (F.bits / 8) block).map Bytes.toNatBE
  let schedule := (F.expand (F.constants.length - 16) first.reverse).reverse
  let v := (F.constants.zip schedule).foldl F.round chain
  List.zipWith (fun x y => F.word (x + y)) chain v

/-- The message with its padding: a one bit, zeros, and the length in two words. -/
def padded (message : Bytes) : Bytes :=
  let block := F.bits * 2
  let tail := F.bits / 4
  let zeros := (2 * block - 1 - tail - message.length % block) % block
  message ++ [0x80] ++ Bytes.zeros zeros ++ Bytes.ofNatBE tail (8 * message.length)

/-- The digest, cut to `size` bytes, from the initial chaining words. -/
def hash (start : List Nat) (size : Nat) (message : Bytes) : Bytes :=
  let words := (Bytes.chunks (F.bits * 2) (F.padded message)).foldl F.compress start
  (words.flatMap (Bytes.ofNatBE (F.bits / 8))).take size

end Family

/-- The round constants of the 64-bit family: fractional parts of cube roots of primes. -/
def constants64 : List Nat :=
  [0x428a2f98d728ae22, 0x7137449123ef65cd, 0xb5c0fbcfec4d3b2f, 0xe9b5dba58189dbbc,
    0x3956c25bf348b538, 0x59f111f1b605d019, 0x923f82a4af194f9b, 0xab1c5ed5da6d8118,
    0xd807aa98a3030242, 0x12835b0145706fbe, 0x243185be4ee4b28c, 0x550c7dc3d5ffb4e2,
    0x72be5d74f27b896f, 0x80deb1fe3b1696b1, 0x9bdc06a725c71235, 0xc19bf174cf692694,
    0xe49b69c19ef14ad2, 0xefbe4786384f25e3, 0x0fc19dc68b8cd5b5, 0x240ca1cc77ac9c65,
    0x2de92c6f592b0275, 0x4a7484aa6ea6e483, 0x5cb0a9dcbd41fbd4, 0x76f988da831153b5,
    0x983e5152ee66dfab, 0xa831c66d2db43210, 0xb00327c898fb213f, 0xbf597fc7beef0ee4,
    0xc6e00bf33da88fc2, 0xd5a79147930aa725, 0x06ca6351e003826f, 0x142929670a0e6e70,
    0x27b70a8546d22ffc, 0x2e1b21385c26c926, 0x4d2c6dfc5ac42aed, 0x53380d139d95b3df,
    0x650a73548baf63de, 0x766a0abb3c77b2a8, 0x81c2c92e47edaee6, 0x92722c851482353b,
    0xa2bfe8a14cf10364, 0xa81a664bbc423001, 0xc24b8b70d0f89791, 0xc76c51a30654be30,
    0xd192e819d6ef5218, 0xd69906245565a910, 0xf40e35855771202a, 0x106aa07032bbd1b8,
    0x19a4c116b8d2d0c8, 0x1e376c085141ab53, 0x2748774cdf8eeb99, 0x34b0bcb5e19b48a8,
    0x391c0cb3c5c95a63, 0x4ed8aa4ae3418acb, 0x5b9cca4f7763e373, 0x682e6ff3d6b2b8a3,
    0x748f82ee5defb2fc, 0x78a5636f43172f60, 0x84c87814a1f0ab72, 0x8cc702081a6439ec,
    0x90befffa23631e28, 0xa4506cebde82bde9, 0xbef9a3f7b2c67915, 0xc67178f2e372532b,
    0xca273eceea26619c, 0xd186b8c721c0c207, 0xeada7dd6cde0eb1e, 0xf57d4f7fee6ed178,
    0x06f067aa72176fba, 0x0a637dc5a2c898a6, 0x113f9804bef90dae, 0x1b710b35131c471b,
    0x28db77f523047d84, 0x32caab7b40c72493, 0x3c9ebe0a15c9bebc, 0x431d67c49c100d4c,
    0x4cc5d4becb3e42b6, 0x597f299cfc657e2a, 0x5fcb6fab3ad6faec, 0x6c44198c4a475817]

/-- The family with 32-bit words; its constants are the high halves of the first 64 of the other. -/
def family32 : Family :=
  ⟨32, (7, 18, 3), (17, 19, 10), (2, 13, 22), (6, 11, 25), (constants64.take 64).map (· >>> 32)⟩

/-- The family with 64-bit words. -/
def family64 : Family :=
  ⟨64, (1, 8, 7), (19, 61, 6), (28, 34, 39), (14, 18, 41), constants64⟩

/-- SHA-256. -/
def sha256 : Bytes → Bytes :=
  family32.hash
    [0x6a09e667, 0xbb67ae85, 0x3c6ef372, 0xa54ff53a, 0x510e527f, 0x9b05688c, 0x1f83d9ab, 0x5be0cd19]
    32

/-- SHA-384. -/
def sha384 : Bytes → Bytes :=
  family64.hash
    [0xcbbb9d5dc1059ed8, 0x629a292a367cd507, 0x9159015a3070dd17, 0x152fecd8f70e5939,
      0x67332667ffc00b31, 0x8eb44a8768581511, 0xdb0c2e0d64f98fa7, 0x47b5481dbefa4fa4]
    48

/-- SHA-512. -/
def sha512 : Bytes → Bytes :=
  family64.hash
    [0x6a09e667f3bcc908, 0xbb67ae8584caa73b, 0x3c6ef372fe94f82b, 0xa54ff53a5f1d36f1,
      0x510e527fade682d1, 0x9b05688c2b3e6c1f, 0x1f83d9abfb41bd6b, 0x5be0cd19137e2179]
    64

end Keyring.Crypto.Sha2

import Keyring.Crypto.Words

/-!
# BLAKE2b

The unkeyed hash of RFC 7693 with digests of 1 to 64 bytes: `Blake2b.hash size message`.
-/

namespace Keyring.Crypto.Blake2b

/-- The eight chaining words. -/
structure Chain where
  (h0 h1 h2 h3 h4 h5 h6 h7 : UInt64)

/-- The initialization vector: the fractional parts of the square roots of the first primes. -/
def iv : Chain :=
  ⟨0x6a09e667f3bcc908, 0xbb67ae8584caa73b, 0x3c6ef372fe94f82b, 0xa54ff53a5f1d36f1,
    0x510e527fade682d1, 0x9b05688c2b3e6c1f, 0x1f83d9abfb41bd6b, 0x5be0cd19137e2179⟩

/-- The order in which each round reads the message words. -/
def schedule : List (Array Nat) :=
  [#[0, 1, 2, 3, 4, 5, 6, 7, 8, 9, 10, 11, 12, 13, 14, 15],
    #[14, 10, 4, 8, 9, 15, 13, 6, 1, 12, 0, 2, 11, 7, 5, 3],
    #[11, 8, 12, 0, 5, 2, 15, 13, 10, 14, 3, 6, 7, 1, 9, 4],
    #[7, 9, 3, 1, 13, 12, 11, 14, 2, 6, 5, 10, 4, 0, 15, 8],
    #[9, 0, 5, 7, 2, 4, 10, 15, 14, 1, 11, 12, 6, 8, 3, 13],
    #[2, 12, 6, 10, 0, 11, 8, 3, 4, 13, 7, 5, 15, 14, 1, 9],
    #[12, 5, 1, 15, 14, 13, 4, 10, 0, 7, 6, 3, 9, 2, 8, 11],
    #[13, 11, 7, 14, 12, 1, 3, 9, 5, 0, 15, 4, 8, 6, 2, 10],
    #[6, 15, 14, 9, 11, 3, 0, 8, 12, 2, 13, 7, 1, 4, 10, 5],
    #[10, 2, 8, 4, 7, 6, 1, 5, 15, 11, 9, 14, 3, 12, 13, 0],
    #[0, 1, 2, 3, 4, 5, 6, 7, 8, 9, 10, 11, 12, 13, 14, 15],
    #[14, 10, 4, 8, 9, 15, 13, 6, 1, 12, 0, 2, 11, 7, 5, 3]]

/-- Mixes four words with two message words and hands the results on. -/
@[inline] def mixing {α : Type} (a b c d x y : UInt64)
    (next : UInt64 → UInt64 → UInt64 → UInt64 → α) : α :=
  let a := a + b + x
  let d := rotateRight (d ^^^ a) 32
  let c := c + d
  let b := rotateRight (b ^^^ c) 24
  let a := a + b + y
  let d := rotateRight (d ^^^ a) 16
  let c := c + d
  let b := rotateRight (b ^^^ c) 63
  next a b c d

/-- One round: the four columns, then the four diagonals. -/
def round (m : Array UInt64) (v : Words16) (order : Array Nat) : Words16 :=
  let msg (i : Nat) : UInt64 := m.getD (order.getD i 0) 0
  mixing v.w0 v.w4 v.w8 v.w12 (msg 0) (msg 1) fun v0 v4 v8 v12 =>
  mixing v.w1 v.w5 v.w9 v.w13 (msg 2) (msg 3) fun v1 v5 v9 v13 =>
  mixing v.w2 v.w6 v.w10 v.w14 (msg 4) (msg 5) fun v2 v6 v10 v14 =>
  mixing v.w3 v.w7 v.w11 v.w15 (msg 6) (msg 7) fun v3 v7 v11 v15 =>
  mixing v0 v5 v10 v15 (msg 8) (msg 9) fun v0 v5 v10 v15 =>
  mixing v1 v6 v11 v12 (msg 10) (msg 11) fun v1 v6 v11 v12 =>
  mixing v2 v7 v8 v13 (msg 12) (msg 13) fun v2 v7 v8 v13 =>
  mixing v3 v4 v9 v14 (msg 14) (msg 15) fun v3 v4 v9 v14 =>
    ⟨v0, v1, v2, v3, v4, v5, v6, v7, v8, v9, v10, v11, v12, v13, v14, v15⟩

/-- Compresses one block; `total` counts the message bytes up to and including it. -/
def compress (h : Chain) (block : Bytes) (total : Nat) (last : Bool) : Chain :=
  let m := ((Bytes.chunks 8 (block.padRight 128)).map Bytes.toWordLE).toArray
  let v : Words16 :=
    ⟨h.h0, h.h1, h.h2, h.h3, h.h4, h.h5, h.h6, h.h7, iv.h0, iv.h1, iv.h2, iv.h3,
      iv.h4 ^^^ UInt64.ofNat total, iv.h5 ^^^ UInt64.ofNat (total / UInt64.size),
      if last then ~~~ iv.h6 else iv.h6, iv.h7⟩
  let v := schedule.foldl (round m) v
  ⟨h.h0 ^^^ v.w0 ^^^ v.w8, h.h1 ^^^ v.w1 ^^^ v.w9, h.h2 ^^^ v.w2 ^^^ v.w10,
    h.h3 ^^^ v.w3 ^^^ v.w11, h.h4 ^^^ v.w4 ^^^ v.w12, h.h5 ^^^ v.w5 ^^^ v.w13,
    h.h6 ^^^ v.w6 ^^^ v.w14, h.h7 ^^^ v.w7 ^^^ v.w15⟩

/-- Compresses the blocks of a message in order, the last one with the final flag set. -/
def absorb (h : Chain) (total : Nat) : List Bytes → Chain
  | [] => compress h [] total true
  | [block] => compress h block (total + block.length) true
  | block :: rest =>
    absorb (compress h block (total + block.length) false) (total + block.length) rest

/-- The digest of `size` bytes, 1 to 64. -/
def hash (size : Nat) (message : Bytes) : Bytes :=
  let start : Chain := { iv with h0 := iv.h0 ^^^ 0x01010000 ^^^ UInt64.ofNat size }
  let h := absorb start 0 (Bytes.chunks 128 message)
  ([h.h0, h.h1, h.h2, h.h3, h.h4, h.h5, h.h6, h.h7].flatMap Bytes.ofWordLE).take size

end Keyring.Crypto.Blake2b

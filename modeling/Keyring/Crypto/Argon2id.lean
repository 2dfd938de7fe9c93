import Keyring.Crypto.Blake2b

/-!
# Argon2id

The memory-hard password hash of RFC 9106 (version 1.3, type 2) with one lane and neither secret
nor associated data: `Argon2id.derive cost size password salt`.

A memory block is an eight by eight table of word pairs. `Block.compress` mixes the rows, then the
columns; a column step is a row step between two transpositions.
-/

namespace Keyring.Crypto.Argon2id

/-- A memory block of 1024 bytes: eight rows of eight word pairs. -/
structure Block where
  (r0 r1 r2 r3 r4 r5 r6 r7 : Words16)
  deriving DecidableEq, Inhabited

/-- Sum of two words and twice the product of their low halves. -/
@[inline] def mulAdd (x y : UInt64) : UInt64 :=
  x + y + 2 * (x &&& 0xffffffff) * (y &&& 0xffffffff)

/-- Mixes four words and hands the results on. -/
@[inline] def mixing {α : Type} (a b c d : UInt64)
    (next : UInt64 → UInt64 → UInt64 → UInt64 → α) : α :=
  let a := mulAdd a b
  let d := rotateRight (d ^^^ a) 32
  let c := mulAdd c d
  let b := rotateRight (b ^^^ c) 24
  let a := mulAdd a b
  let d := rotateRight (d ^^^ a) 16
  let c := mulAdd c d
  let b := rotateRight (b ^^^ c) 63
  next a b c d

/-- Permutes one row. -/
def permute (v : Words16) : Words16 :=
  mixing v.w0 v.w4 v.w8 v.w12 fun v0 v4 v8 v12 =>
  mixing v.w1 v.w5 v.w9 v.w13 fun v1 v5 v9 v13 =>
  mixing v.w2 v.w6 v.w10 v.w14 fun v2 v6 v10 v14 =>
  mixing v.w3 v.w7 v.w11 v.w15 fun v3 v7 v11 v15 =>
  mixing v0 v5 v10 v15 fun v0 v5 v10 v15 =>
  mixing v1 v6 v11 v12 fun v1 v6 v11 v12 =>
  mixing v2 v7 v8 v13 fun v2 v7 v8 v13 =>
  mixing v3 v4 v9 v14 fun v3 v4 v9 v14 =>
    ⟨v0, v1, v2, v3, v4, v5, v6, v7, v8, v9, v10, v11, v12, v13, v14, v15⟩

namespace Block

/-- All words zero. -/
def zero : Block :=
  ⟨.zero, .zero, .zero, .zero, .zero, .zero, .zero, .zero⟩

/-- The block whose 128 little-endian words are the bytes. -/
def ofBytes (bs : Bytes) : Block :=
  let rows := (Bytes.chunks 128 bs).map fun row => Words16.ofList ((Bytes.chunks 8 row).map Bytes.toWordLE)
  let r (i : Nat) := rows.getD i .zero
  ⟨r 0, r 1, r 2, r 3, r 4, r 5, r 6, r 7⟩

/-- The 128 words in order. -/
def words (b : Block) : List UInt64 :=
  [b.r0, b.r1, b.r2, b.r3, b.r4, b.r5, b.r6, b.r7].flatMap Words16.toList

/-- The bytes of the words in order, little-endian. -/
def toBytes (b : Block) : Bytes := b.words.flatMap Bytes.ofWordLE

/-- Exclusive or, word by word. -/
def xor (x y : Block) : Block :=
  ⟨x.r0.xor y.r0, x.r1.xor y.r1, x.r2.xor y.r2, x.r3.xor y.r3, x.r4.xor y.r4, x.r5.xor y.r5,
    x.r6.xor y.r6, x.r7.xor y.r7⟩

/-- Permutes every row. -/
def permuteRows (b : Block) : Block :=
  ⟨permute b.r0, permute b.r1, permute b.r2, permute b.r3, permute b.r4, permute b.r5,
    permute b.r6, permute b.r7⟩

/-- Exchanges rows and columns of word pairs. -/
def transpose (b : Block) : Block :=
  ⟨⟨b.r0.w0, b.r0.w1, b.r1.w0, b.r1.w1, b.r2.w0, b.r2.w1, b.r3.w0, b.r3.w1,
      b.r4.w0, b.r4.w1, b.r5.w0, b.r5.w1, b.r6.w0, b.r6.w1, b.r7.w0, b.r7.w1⟩,
    ⟨b.r0.w2, b.r0.w3, b.r1.w2, b.r1.w3, b.r2.w2, b.r2.w3, b.r3.w2, b.r3.w3,
      b.r4.w2, b.r4.w3, b.r5.w2, b.r5.w3, b.r6.w2, b.r6.w3, b.r7.w2, b.r7.w3⟩,
    ⟨b.r0.w4, b.r0.w5, b.r1.w4, b.r1.w5, b.r2.w4, b.r2.w5, b.r3.w4, b.r3.w5,
      b.r4.w4, b.r4.w5, b.r5.w4, b.r5.w5, b.r6.w4, b.r6.w5, b.r7.w4, b.r7.w5⟩,
    ⟨b.r0.w6, b.r0.w7, b.r1.w6, b.r1.w7, b.r2.w6, b.r2.w7, b.r3.w6, b.r3.w7,
      b.r4.w6, b.r4.w7, b.r5.w6, b.r5.w7, b.r6.w6, b.r6.w7, b.r7.w6, b.r7.w7⟩,
    ⟨b.r0.w8, b.r0.w9, b.r1.w8, b.r1.w9, b.r2.w8, b.r2.w9, b.r3.w8, b.r3.w9,
      b.r4.w8, b.r4.w9, b.r5.w8, b.r5.w9, b.r6.w8, b.r6.w9, b.r7.w8, b.r7.w9⟩,
    ⟨b.r0.w10, b.r0.w11, b.r1.w10, b.r1.w11, b.r2.w10, b.r2.w11, b.r3.w10, b.r3.w11,
      b.r4.w10, b.r4.w11, b.r5.w10, b.r5.w11, b.r6.w10, b.r6.w11, b.r7.w10, b.r7.w11⟩,
    ⟨b.r0.w12, b.r0.w13, b.r1.w12, b.r1.w13, b.r2.w12, b.r2.w13, b.r3.w12, b.r3.w13,
      b.r4.w12, b.r4.w13, b.r5.w12, b.r5.w13, b.r6.w12, b.r6.w13, b.r7.w12, b.r7.w13⟩,
    ⟨b.r0.w14, b.r0.w15, b.r1.w14, b.r1.w15, b.r2.w14, b.r2.w15, b.r3.w14, b.r3.w15,
      b.r4.w14, b.r4.w15, b.r5.w14, b.r5.w15, b.r6.w14, b.r6.w15, b.r7.w14, b.r7.w15⟩⟩

/-- The compression function: the rows, then the columns, added to the input. -/
def compress (x y : Block) : Block :=
  let r := x.xor y
  (r.permuteRows.transpose.permuteRows.transpose).xor r

end Block

/-- What a derivation may cost. -/
structure Cost where
  /-- Memory in blocks, a multiple of four and at least eight. -/
  memory : Nat
  /-- Number of passes over the memory. -/
  passes : Nat

/-- The costs the keystore uses: 19 MiB and two passes. -/
def Cost.default : Cost := ⟨19456, 2⟩

/-- Blocks in each of the four slices of the lane. -/
def Cost.segment (c : Cost) : Nat := c.memory / 4

/-- The variable-length hash: the digest of a short output directly, a longer one in overlapping
halves of successive 64-byte digests. -/
def longHash (size : Nat) (message : Bytes) : Bytes :=
  let message := Bytes.ofNatLE 4 size ++ message
  if size ≤ 64 then Blake2b.hash size message
  else
    let rec extend (left : Nat) (v : Bytes) : Nat → Bytes
      | 0 => []
      | fuel + 1 =>
        if left ≤ 64 then Blake2b.hash left v
        else
          let next := Blake2b.hash 64 v
          next.take 32 ++ extend (left - 32) next fuel
    let first := Blake2b.hash 64 message
    first.take 32 ++ extend (size - 32) first size

/-- The digest of all inputs from which the first two blocks grow. -/
def seed (cost : Cost) (size : Nat) (password salt : Bytes) : Bytes :=
  let word := Bytes.ofNatLE 4
  Blake2b.hash 64 <|
    word 1 ++ word size ++ word cost.memory ++ word cost.passes ++ word 0x13 ++ word 2 ++
      word password.length ++ password ++ word salt.length ++ salt ++ word 0 ++ word 0

/-- The `counter`-th block of 128 pseudo-random words that address the memory independently of its
content. -/
def addressBlock (cost : Cost) (pass slice counter : Nat) : Block :=
  let input : Block :=
    { Block.zero with
      r0 := Words16.ofList
        ([pass, 0, slice, cost.memory, cost.passes, 2, counter].map UInt64.ofNat) }
  Block.zero.compress (Block.zero.compress input)

/-- The block that the `index`-th block of a segment refers to, chosen by the low half of a
pseudo-random word: recent blocks are likelier than old ones. -/
def reference (cost : Cost) (pass slice index : Nat) (random : UInt64) : Nat :=
  let area :=
    if pass = 0 then slice * cost.segment + index - 1
    else cost.memory - cost.segment + index - 1
  let low := random.toNat % UInt32.size
  let back := area * (low * low / UInt32.size) / UInt32.size
  let start := if pass = 0 then 0 else (slice + 1) * cost.segment
  (start + (area - 1 - back)) % cost.memory

/-- Fills `count` blocks of a segment from `index` on. `addresses` are the words that address the
rest of the current group of 128 blocks, where the content does not. -/
def fillSegment (cost : Cost) (pass slice : Nat) :
    (count : Nat) → (index : Nat) → (addresses : List UInt64) → Array Block → Array Block
  | 0, _, _, memory => memory
  | count + 1, index, addresses, memory =>
    let position := slice * cost.segment + index
    let previous :=
      memory.getD (if position = 0 then cost.memory - 1 else position - 1) Block.zero
    let blind := pass = 0 ∧ slice < 2
    let addresses :=
      if blind ∧ index % 128 = 0 then (addressBlock cost pass slice (index / 128 + 1)).words
      else addresses
    let random := if blind then addresses.headD 0 else previous.r0.w0
    let source := memory.getD (reference cost pass slice index random) Block.zero
    let fresh := previous.compress source
    let block := if pass = 0 then fresh else fresh.xor (memory.getD position Block.zero)
    fillSegment cost pass slice count (index + 1) addresses.tail
      (memory.setIfInBounds position block)

/-- Fills one slice; the first slice of the first pass already holds two blocks. -/
def fillSlice (cost : Cost) (memory : Array Block) (pass slice : Nat) : Array Block :=
  if pass = 0 ∧ slice = 0 then
    fillSegment cost pass slice (cost.segment - 2) 2
      ((addressBlock cost pass slice 1).words.drop 2) memory
  else fillSegment cost pass slice cost.segment 0 [] memory

/-- Derives `size` bytes from a password and a salt. -/
def derive (cost : Cost) (size : Nat) (password salt : Bytes) : Bytes :=
  let h := seed cost size password salt
  let start (i : Nat) := Block.ofBytes (longHash 1024 (h ++ Bytes.ofNatLE 4 i ++ Bytes.ofNatLE 4 0))
  let memory := Array.replicate cost.memory Block.zero
  let memory := (memory.setIfInBounds 0 (start 0)).setIfInBounds 1 (start 1)
  let memory := (List.range cost.passes).foldl
    (fun memory pass => [0, 1, 2, 3].foldl (fillSlice cost · pass) memory) memory
  longHash size (memory.getD (cost.memory - 1) Block.zero).toBytes

end Keyring.Crypto.Argon2id

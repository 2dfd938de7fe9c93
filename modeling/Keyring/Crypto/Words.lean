import Keyring.Bytes

/-!
# Sixteen words at a time

`Words16` holds sixteen 64-bit words side by side, the working vector of the hash functions. Named
fields keep the words unboxed, so that one vector is one object in memory.
-/

namespace Keyring.Crypto

/-- Rotates a word to the right. -/
@[inline] def rotateRight (w : UInt64) (bits : UInt64) : UInt64 :=
  (w >>> bits) ||| (w <<< (64 - bits))

/-- Sixteen 64-bit words. -/
structure Words16 where
  (w0 w1 w2 w3 w4 w5 w6 w7 w8 w9 w10 w11 w12 w13 w14 w15 : UInt64)
  deriving DecidableEq, Inhabited

namespace Words16

/-- All words zero. -/
def zero : Words16 := ⟨0, 0, 0, 0, 0, 0, 0, 0, 0, 0, 0, 0, 0, 0, 0, 0⟩

/-- The words of a list, in order; missing ones are zero. -/
def ofList (ws : List UInt64) : Words16 :=
  let w (i : Nat) := ws.getD i 0
  ⟨w 0, w 1, w 2, w 3, w 4, w 5, w 6, w 7, w 8, w 9, w 10, w 11, w 12, w 13, w 14, w 15⟩

/-- The words in order. -/
def toList (x : Words16) : List UInt64 :=
  [x.w0, x.w1, x.w2, x.w3, x.w4, x.w5, x.w6, x.w7, x.w8, x.w9, x.w10, x.w11, x.w12, x.w13, x.w14,
    x.w15]

/-- Exclusive or, word by word. -/
def xor (x y : Words16) : Words16 :=
  ⟨x.w0 ^^^ y.w0, x.w1 ^^^ y.w1, x.w2 ^^^ y.w2, x.w3 ^^^ y.w3, x.w4 ^^^ y.w4, x.w5 ^^^ y.w5,
    x.w6 ^^^ y.w6, x.w7 ^^^ y.w7, x.w8 ^^^ y.w8, x.w9 ^^^ y.w9, x.w10 ^^^ y.w10, x.w11 ^^^ y.w11,
    x.w12 ^^^ y.w12, x.w13 ^^^ y.w13, x.w14 ^^^ y.w14, x.w15 ^^^ y.w15⟩

end Words16

end Keyring.Crypto

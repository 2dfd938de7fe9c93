import Keyring.Crypto.Modular
import Keyring.Crypto.Sha2
import Keyring.Der.Oid

/-!
# RSA

Private keys with their prime factors, and signatures of PKCS #1 version 1.5 with SHA-256. The parts of
a key are checked against each other (`Key.isConsistent`), though not that the factors are prime.
-/

namespace Keyring.Crypto.Rsa

/-- A private key. -/
structure Key where
  modulus : Nat
  publicExponent : Nat
  privateExponent : Nat
  p : Nat
  q : Nat
  /-- The private exponent modulo `p - 1`. -/
  dp : Nat
  /-- The private exponent modulo `q - 1`. -/
  dq : Nat
  /-- The inverse of `q` modulo `p`. -/
  qInverse : Nat
  deriving DecidableEq, Repr

/-- The bits of a number. -/
def bitLength (n : Nat) : Nat := if n = 0 then 0 else Nat.log2 n + 1

namespace Key

variable (k : Key)

/-- The bytes of the modulus. -/
def size : Nat := (bitLength k.modulus + 7) / 8

/-- The bits that each factor has. -/
def factorBits : Nat := (bitLength k.modulus + 1) / 2

/-- Whether the modulus has 256 to 512 bytes and the public exponent is usual. -/
def isPublicValid : Bool :=
  k.modulus % 2 == 1 && 256 ≤ k.size && bitLength k.modulus ≤ 4096 &&
    k.publicExponent % 2 == 1 && 65537 ≤ k.publicExponent && k.publicExponent < 1 <<< 33

/-- Whether a factor has half the bits of the modulus, a multiple of 512. -/
def isFactor (f : Nat) : Bool :=
  f % 2 == 1 && bitLength f == k.factorBits && bitLength f % 512 == 0

/-- Whether an exponent fits a factor. -/
def isExponent (e f : Nat) : Bool := e < f && e % 2 == 1

/-- Whether the parts of a key fit together as far as is checked. -/
def isConsistent : Bool :=
  k.isPublicValid && k.isFactor k.p && k.isFactor k.q && k.p < k.modulus && k.q < k.modulus &&
    k.p * k.q % k.modulus == 0 &&
    k.privateExponent % 2 == 1 && k.factorBits < bitLength k.privateExponent &&
    k.privateExponent < k.modulus && isExponent k.dp k.p && isExponent k.dq k.q &&
    k.qInverse < k.p && k.qInverse * k.q % k.p == 1

/-- The private operation, from its results modulo both factors. -/
def apply (n : Nat) : Nat :=
  let atP := Modular.pow k.p n k.dp
  let atQ := Modular.pow k.q n k.dq
  atQ + Modular.mul k.p k.qInverse (Modular.sub k.p atP atQ) * k.q

end Key

/-- What is signed for a message: its digest with the name of the hash function. -/
def digestInfo (message : Bytes) : Bytes :=
  Der.sequence
    [Der.sequence [(Der.Oid.ofArcs [2, 16, 840, 1, 101, 3, 4, 2, 1]).encode, Der.null],
      Der.octetString (Sha2.sha256 message)]

/-- The digest, padded on the left to `size` bytes. -/
def padded (size : Nat) (message : Bytes) : Bytes :=
  let info := digestInfo message
  [0x00, 0x01] ++ List.replicate (size - 3 - info.length) 0xff ++ 0x00 :: info

/-- The signature of a message, unless the public exponent does not undo it. -/
def sign? (k : Key) (message : Bytes) : Option Bytes :=
  let n := Bytes.toNatBE (padded k.size message)
  let signature := k.apply n
  if Modular.pow k.modulus signature k.publicExponent = n then
    some (Bytes.ofNatBE k.size signature)
  else none

end Keyring.Crypto.Rsa

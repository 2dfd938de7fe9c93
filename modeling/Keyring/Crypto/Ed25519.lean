import Keyring.Crypto.Modular
import Keyring.Crypto.Sha2

/-!
# Ed25519

Public keys and signatures of RFC 8032 on the curve `-x ^ 2 + y ^ 2 = 1 + d * x ^ 2 * y ^ 2`.
-/

namespace Keyring.Crypto.Ed25519

/-- The prime of the field. -/
def field : Nat := 1 <<< 255 - 19

/-- The prime order of the base point. -/
def order : Nat := 1 <<< 252 + 27742317777372353535851937790883648493

/-- The coefficient of the curve. -/
def d : Nat := Modular.mul field (field - 121665) (Modular.inv field 121666)

/-- A point `(x / z, y / z)`, with `t * z = x * y`. -/
structure Point where
  x : Nat
  y : Nat
  z : Nat
  t : Nat

namespace Point

/-- The neutral point. -/
def zero : Point := ⟨0, 1, 1, 0⟩

/-- The base point. -/
def base : Point :=
  let x := 15112221349535400772501151409588531511454012693041857206046113283949847762202
  let y := 46316835694926478169428394003475163141307993866256225615783033603165251855960
  ⟨x, y, 1, Modular.mul field x y⟩

/-- The sum of two points. -/
def add (p q : Point) : Point :=
  let a := Modular.mul field (Modular.sub field p.y p.x) (Modular.sub field q.y q.x)
  let b := Modular.mul field (p.y + p.x) (q.y + q.x)
  let c := Modular.mul field (2 * p.t * q.t) d
  let e := Modular.mul field (2 * p.z) q.z
  let h := Modular.add field b a
  let f := Modular.sub field e c
  let g := Modular.add field e c
  let i := Modular.sub field b a
  ⟨Modular.mul field i f, Modular.mul field g h, Modular.mul field f g, Modular.mul field i h⟩

/-- A multiple of a point by a scalar below `2 ^ 256`. -/
def multiply (p : Point) (scalar : Nat) : Point :=
  (List.range 256).foldr
    (fun i q =>
      let q := add q q
      if scalar.testBit i then add q p else q)
    zero

/-- A point as 32 bytes: `y`, and whether `x` is odd in the highest bit. -/
def encode (p : Point) : Bytes :=
  let inverse := Modular.inv field p.z
  let x := Modular.mul field p.x inverse
  let y := Modular.mul field p.y inverse
  Bytes.ofNatLE 32 (y + (x % 2) <<< 255)

end Point

/-- The secret scalar of a seed, and the bytes that nonces are drawn from. -/
def expand (seed : Bytes) : Nat × Bytes :=
  let digest := Sha2.sha512 seed
  let low := Bytes.toNatLE (digest.take 32) % (1 <<< 254)
  (low - low % 8 + 1 <<< 254, digest.drop 32)

/-- The public key of a seed. -/
def publicKey (seed : Bytes) : Bytes := (Point.base.multiply (expand seed).1).encode

/-- The signature of a message. -/
def sign (seed message : Bytes) : Bytes :=
  let (scalar, source) := expand seed
  let nonce := Bytes.toNatLE (Sha2.sha512 (source ++ message)) % order
  let commitment := (Point.base.multiply nonce).encode
  let challenge := Bytes.toNatLE (Sha2.sha512 (commitment ++ publicKey seed ++ message)) % order
  commitment ++ Bytes.ofNatLE 32 ((nonce + challenge * scalar) % order)

end Keyring.Crypto.Ed25519

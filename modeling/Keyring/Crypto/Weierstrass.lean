import Keyring.Crypto.Modular
import Keyring.Der.Item

/-!
# Prime curves

The curves P-256 and P-384, of the form `y ^ 2 = x ^ 3 - 3 * x + b` over a prime field, with their
public keys and signatures (ECDSA).
-/

namespace Keyring.Crypto.Weierstrass

/-- A curve with a base point. -/
structure Curve where
  /-- The prime of the field. -/
  field : Nat
  b : Nat
  /-- The prime order of the base point. -/
  order : Nat
  base : Nat × Nat
  /-- The bytes of a coordinate and of a scalar. -/
  size : Nat

/-- The curve P-256. -/
def p256 : Curve where
  field := 0xffffffff00000001000000000000000000000000ffffffffffffffffffffffff
  b := 0x5ac635d8aa3a93e7b3ebbd55769886bc651d06b0cc53b0f63bce3c3e27d2604b
  order := 0xffffffff00000000ffffffffffffffffbce6faada7179e84f3b9cac2fc632551
  base := (0x6b17d1f2e12c4247f8bce6e563a440f277037d812deb33a0f4a13945d898c296,
    0x4fe342e2fe1a7f9b8ee7eb4a7c0f9e162bce33576b315ececbb6406837bf51f5)
  size := 32

/-- The curve P-384. -/
def p384 : Curve where
  field := 1 <<< 384 - 1 <<< 128 - 1 <<< 96 + 1 <<< 32 - 1
  b := 0xb3312fa7e23ee7e4988e056be3f82d19181d9c6efe8141120314088f5013875ac656398d8a2ed19d2a85c8edd3ec2aef
  order :=
    0xffffffffffffffffffffffffffffffffffffffffffffffffc7634d81f4372ddf581a0db248b0a77aecec196accc52973
  base :=
    (0xaa87ca22be8b05378eb1c71ef320ad746e1d3b628ba79b9859f741e082542a385502f25dbf55296c3a545e3872760ab7,
      0x3617de4a96262c6f5d9e98bf9292dc29f8f41dbd289a147ce9da3113b5f0b8c00a60b1ce1d7e819d7a431d7c90ea0e5f)
  size := 48

/-- A point `(x / z ^ 2, y / z ^ 3)`, at infinity if `z` is zero. -/
structure Point where
  x : Nat
  y : Nat
  z : Nat

namespace Point

variable (c : Curve)

/-- The point at infinity. -/
def zero : Point := ⟨1, 1, 0⟩

/-- Twice a point. -/
def double (p : Point) : Point :=
  let m := c.field
  let delta := Modular.mul m p.z p.z
  let gamma := Modular.mul m p.y p.y
  let beta := Modular.mul m p.x gamma
  let alpha := Modular.mul m 3 (Modular.mul m (Modular.sub m p.x delta) (Modular.add m p.x delta))
  let x := Modular.sub m (Modular.mul m alpha alpha) (Modular.mul m 8 beta)
  let y := Modular.sub m (Modular.mul m alpha (Modular.sub m (Modular.mul m 4 beta) x))
    (Modular.mul m 8 (Modular.mul m gamma gamma))
  ⟨x, y, Modular.mul m 2 (Modular.mul m p.y p.z)⟩

/-- The sum of two points. -/
def add (p q : Point) : Point :=
  if p.z = 0 then q
  else if q.z = 0 then p
  else
    let m := c.field
    let pz2 := Modular.mul m p.z p.z
    let qz2 := Modular.mul m q.z q.z
    let u := Modular.mul m p.x qz2
    let s := Modular.mul m p.y (Modular.mul m q.z qz2)
    let h := Modular.sub m (Modular.mul m q.x pz2) u
    let r := Modular.sub m (Modular.mul m q.y (Modular.mul m p.z pz2)) s
    if h = 0 then if r = 0 then double c p else zero
    else
      let h2 := Modular.mul m h h
      let h3 := Modular.mul m h h2
      let v := Modular.mul m u h2
      let x := Modular.sub m (Modular.sub m (Modular.mul m r r) h3) (Modular.mul m 2 v)
      let y := Modular.sub m (Modular.mul m r (Modular.sub m v x)) (Modular.mul m s h3)
      ⟨x, y, Modular.mul m h (Modular.mul m p.z q.z)⟩

/-- A multiple of a point by a scalar below `2 ^ bits`. -/
def multiply (p : Point) (scalar bits : Nat) : Point :=
  (List.range bits).foldr
    (fun i q =>
      let q := double c q
      if scalar.testBit i then add c q p else q)
    zero

/-- The coordinates of a point that is not at infinity. -/
def affine (p : Point) : Nat × Nat :=
  let inverse := Modular.inv c.field p.z
  let square := Modular.mul c.field inverse inverse
  (Modular.mul c.field p.x square, Modular.mul c.field p.y (Modular.mul c.field inverse square))

end Point

namespace Curve

variable (c : Curve)

/-- The bits of a scalar. -/
def bits : Nat := 8 * c.size

/-- The coordinates of a multiple of the base point. -/
def multiple (scalar : Nat) : Nat × Nat :=
  (Point.multiply c ⟨c.base.1, c.base.2, 1⟩ scalar c.bits).affine c

/-- The private scalar of a byte string of the right length, if it lies between zero and the order. -/
def scalar? (bs : Bytes) : Option Nat :=
  let n := Bytes.toNatBE bs
  if bs.length = c.size ∧ 0 < n ∧ n < c.order then some n else none

/-- The public key of a private scalar: the byte four and both coordinates. -/
def publicKey (scalar : Nat) : Bytes :=
  let (x, y) := c.multiple scalar
  0x04 :: Bytes.ofNatBE c.size x ++ Bytes.ofNatBE c.size y

/-- The signature of a digest, as long as a scalar, under a nonce; one in about `order` nonces gives
none. -/
def sign? (scalar nonce : Nat) (digest : Bytes) : Option Bytes :=
  let r := (c.multiple nonce).1 % c.order
  let s := Modular.mul c.order (Modular.inv c.order nonce)
    (Modular.add c.order (Bytes.toNatBE digest) (r * scalar))
  if r = 0 ∨ s = 0 then none else some (Der.sequence [Der.natural r, Der.natural s])

end Curve

end Keyring.Crypto.Weierstrass

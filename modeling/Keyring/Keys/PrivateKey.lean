import Keyring.Crypto.Ed25519
import Keyring.Crypto.Rsa
import Keyring.Keys.Algorithm
import Keyring.Session

/-!
# Private keys

A `PrivateKey` is a key that can sign. `PrivateKey.decode?` reads it from PKCS#8 form and checks it:
keys on curves come with their public key, which has to match; an Ed25519 key may; the parts of an
RSA key have to fit together.
-/

namespace Keyring.Keys

open Der

/-- A key that can sign. -/
inductive PrivateKey where
  | ec (curve : NamedCurve) (scalar : Nat)
  | ed25519 (seed : Bytes)
  | rsa (key : Crypto.Rsa.Key)
  deriving DecidableEq, Repr

namespace PrivateKey

/-! ### Reading -/

/-- The rules of private keys: any tag of one byte, and lengths of at most two bytes. -/
def rules : Rules := ⟨Tag.isShort, 0xffff⟩

/-- The public key behind a private one, under its proper tag or nested in a constructed one. -/
def publicKeyDecoder : Decoder Bytes := do
  if (← Decoder.peek) = some (Tag.explicit 1) then
    Decoder.within rules (Tag.explicit 1) (Decoder.octetBits rules Tag.bitString)
  else Decoder.octetBits rules (Tag.implicit 1)

/-- Reads the frame of PKCS#8 around a key of an algorithm: the key, and a public key if the frame is of
the second version, which not all algorithms allow. -/
def frameDecoder (algorithm : X509.Algorithm) (second : Bool) : Decoder (Bytes × Option Bytes) :=
  Decoder.within rules Tag.sequence do
    let version ← Decoder.natural rules
    if version ≠ 0 ∧ !(version = 1 ∧ second) then failure
    let found ← Decoder.content rules Tag.sequence
    if tagged Tag.sequence found ≠ algorithm.encode then failure
    let key ← Decoder.content rules Tag.octetString
    discard (Decoder.content? rules (Tag.explicit 0))
    if version = 1 then return (key, some (← publicKeyDecoder)) else return (key, none)

/-- Reads a scalar and the public key behind it. -/
def ecDecoder (curve : NamedCurve) : Decoder (Bytes × Bytes) :=
  Decoder.within rules Tag.sequence do
    if (← Decoder.natural rules) ≠ 1 then failure
    let scalar ← Decoder.content rules Tag.octetString
    match ← Decoder.content? rules (Tag.explicit 0) with
    | some found => if found ≠ curve.oid.encode then failure
    | none => pure ()
    return (scalar,
      ← Decoder.within rules (Tag.explicit 1) (Decoder.octetBits rules Tag.bitString))

/-- The key on a curve that a byte string holds. -/
def ec? (curve : NamedCurve) (bs : Bytes) : Option PrivateKey := do
  let (key, _) ← Decoder.whole (frameDecoder (ecAlgorithm curve) false) bs
  let (scalar, publicKey) ← Decoder.whole (ecDecoder curve) key
  let scalar ← curve.curve.scalar? scalar
  if curve.curve.publicKey scalar = publicKey then some (.ec curve scalar) else none

/-- The Ed25519 key that a byte string holds. -/
def ed25519? (bs : Bytes) : Option PrivateKey := do
  let (key, publicKey) ← Decoder.whole (frameDecoder ed25519Algorithm true) bs
  let seed ← Decoder.whole (Decoder.content rules Tag.octetString) key
  if seed.length = 32 ∧ publicKey.all (· == Crypto.Ed25519.publicKey seed) then some (.ed25519 seed)
  else none

/-- The RSA key that a byte string holds. -/
def rsa? (bs : Bytes) : Option PrivateKey := do
  let (key, _) ← Decoder.whole (frameDecoder rsaAlgorithm false) bs
  let numbers ← Decoder.whole
    (Decoder.within rules Tag.sequence (Decoder.many (Decoder.natural rules))) key
  match numbers with
  | [0, modulus, publicExponent, privateExponent, p, q, dp, dq, qInverse] =>
    let k : Crypto.Rsa.Key := ⟨modulus, publicExponent, privateExponent, p, q, dp, dq, qInverse⟩
    if k.isConsistent then some (.rsa k) else none
  | _ => none

/-- The key that a byte string holds. -/
def decode? (bs : Bytes) : Option PrivateKey :=
  ed25519? bs <|> ec? .p256 bs <|> ec? .p384 bs <|> rsa? bs

/-! ### Writing -/

/-- A key in PKCS#8 form. -/
def encode : PrivateKey → Bytes
  | .ec curve scalar =>
    sequence
      [natural 0, (ecAlgorithm curve).encode,
        octetString (sequence
          [natural 1, octetString (Bytes.ofNatBE curve.curve.size scalar),
            tagged (Tag.explicit 1) (bitString (curve.curve.publicKey scalar))])]
  | .ed25519 seed =>
    sequence
      [natural 1, ed25519Algorithm.encode, octetString (octetString seed),
        tagged (Tag.implicit 1) (0 :: Crypto.Ed25519.publicKey seed)]
  | .rsa k =>
    sequence
      [natural 0, rsaAlgorithm.encode,
        octetString (sequence
          ([0, k.modulus, k.publicExponent, k.privateExponent, k.p, k.q, k.dp, k.dq, k.qInverse].map
            natural))]

/-- The public key that belongs to a key. -/
def publicKey : PrivateKey → X509.PublicKeyInfo
  | .ec curve scalar => ⟨ecAlgorithm curve, ⟨0, curve.curve.publicKey scalar⟩⟩
  | .ed25519 seed => ⟨ed25519Algorithm, ⟨0, Crypto.Ed25519.publicKey seed⟩⟩
  | .rsa k => ⟨rsaAlgorithm, ⟨0, sequence [natural k.modulus, natural k.publicExponent]⟩⟩

/-! ### Signing -/

/-- The algorithm of the signatures under a key. -/
def signatureAlgorithm : PrivateKey → X509.Algorithm
  | .ec .p256 _ => ⟨.ofArcs [1, 2, 840, 10045, 4, 3, 2], none⟩
  | .ec .p384 _ => ⟨.ofArcs [1, 2, 840, 10045, 4, 3, 3], none⟩
  | .ed25519 _ => ed25519Algorithm
  | .rsa _ => ⟨.ofArcs [1, 2, 840, 113549, 1, 1, 11], some nullItem⟩

/-- The numbers of the signature schemes that a key can be used with. -/
def schemes : PrivateKey → List Nat
  | .ec .p256 _ => [0x0403]
  | .ec .p384 _ => [0x0503]
  | .ed25519 _ => [0x0807]
  | .rsa _ => [0x0806, 0x0805, 0x0804, 0x0601, 0x0501, 0x0401]

variable {W : Type}

/-- How often a scalar is drawn before giving up. -/
def attempts : Nat := 100

/-- Draws scalars of a curve until one is valid. -/
def drawScalar (curve : NamedCurve) : (fuel : Nat) → Act W (Option Nat)
  | 0 => return none
  | fuel + 1 => do
    match curve.curve.scalar? (← Act.draw curve.curve.size) with
    | some scalar => return some scalar
    | none => drawScalar curve fuel

/-- The digest that is signed on a curve. -/
def digest : NamedCurve → Bytes → Bytes
  | .p256 => Crypto.Sha2.sha256
  | .p384 => Crypto.Sha2.sha384

/-- Signs a message, which may fail for bad luck or a damaged key. -/
def sign (k : PrivateKey) (message : Bytes) : Act W (Option Bytes) := do
  match k with
  | .ec curve scalar =>
    match ← drawScalar curve attempts with
    | some nonce => return curve.curve.sign? scalar nonce (digest curve message)
    | none => return none
  | .ed25519 seed => return some (Crypto.Ed25519.sign seed message)
  | .rsa k => return Crypto.Rsa.sign? k message

/-- Draws a fresh key. -/
def fresh : KeyAlgorithm → Act W (Option PrivateKey)
  | .ec curve => do return (← drawScalar curve attempts).map (.ec curve)
  | .ed25519 => do return some (.ed25519 (← Act.draw 32))

end PrivateKey

end Keyring.Keys

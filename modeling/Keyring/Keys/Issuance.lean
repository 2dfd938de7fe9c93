import Keyring.Keys.PrivateKey
import Keyring.Pem
import Keyring.X509.Subject

/-!
# Issuing certificates and requests

`keyPair` draws a key and issues a certificate for it that the key itself signs. `request` asks an
authority for a certificate of an existing key; the request is written in PKCS#10 form.
-/

namespace Keyring.Keys

open Der X509

variable {W : Type}

/-- A value, or a certificate error. -/
def orFail {α : Type} (text : String) : Option α → Act W α
  | some a => return a
  | none => throw (.certificate text)

/-- How a failure of the signature itself is called. -/
def unspecified : String := "Unspecified ring error"

/-- The extensions of issued certificates: the key may sign and encipher keys, on either side of a
connection. -/
def extensions : List Extension :=
  [⟨.ofArcs [2, 5, 29, 15], true, tagged Tag.bitString [5, 0xa0]⟩,
    ⟨.ofArcs [2, 5, 29, 37], false,
      sequence [(Oid.ofArcs [1, 3, 6, 1, 5, 5, 7, 3, 1]).encode,
        (Oid.ofArcs [1, 3, 6, 1, 5, 5, 7, 3, 2]).encode]⟩]

/-- The serial number of a certificate: the start of the digest of its public key. -/
def serial (publicKey : PublicKeyInfo) : Bytes :=
  let bytes := (Crypto.Sha2.sha256 publicKey.key.bytes).take 20
  naturalContent (Bytes.toNatBE bytes % (1 <<< 159))

/-- A validity period. -/
structure Period where
  notBefore : Calendar.Moment
  notAfter : Calendar.Moment
  deriving DecidableEq

/-- The period that begins now and lasts some days, if there is such an end. -/
def Period.ofDays (now : Calendar.Moment) (days : Nat) : Except Error Period :=
  match now.addDays? days with
  | some notAfter => .ok ⟨now, notAfter⟩
  | none => .error .validityOverflow

/-- The seconds at which a validity period of some days begins and ends, by a clock that counts from
the start of 1970. -/
def validity (now days : Nat) : Except Error (Nat × Nat) :=
  match Calendar.Moment.ofClock? now with
  | some now => do
    let period ← Period.ofDays now days
    return (period.notBefore.seconds.toNat, period.notAfter.seconds.toNat)
  | none => .error .validityOverflow

/-- Draws a key and issues a certificate for it, valid for some days from now on. -/
def keyPair (algorithm : KeyAlgorithm) (subject : String) (days : Nat) : Act W KeyEntry := do
  let subject ← Subject.ofArgument subject
  let key ← orFail ("Failed to generate " ++ algorithm.name ++ " key: " ++ unspecified)
    (← PrivateKey.fresh algorithm)
  let (notBefore, notAfter) ← validity (← Act.now) days
  let unsigned : Certificate :=
    { version := .v3, serial := serial key.publicKey, issuer := subject.toName, notBefore, notAfter,
      subject := subject.toName, publicKey := key.publicKey, extensions,
      algorithm := key.signatureAlgorithm, signature := ⟨0, []⟩ }
  let signature ← orFail ("Failed to serialize certificate: " ++ unspecified)
    (← key.sign unsigned.encodeBody)
  KeyEntry.of key.encode [{ unsigned with signature := ⟨0, signature⟩ }.encode]

/-! ### Requests -/

/-- A request for a certificate. -/
structure Request where
  subject : Name
  publicKey : PublicKeyInfo
  algorithm : Algorithm
  signature : Bytes
  deriving DecidableEq, Repr

namespace Request

/-- What the signature of a request covers. -/
def encodeBody (r : Request) : Bytes :=
  sequence [natural 0, r.subject.encode, r.publicKey.encode, tagged (Tag.explicit 0) []]

/-- A request as bytes. -/
def encode (r : Request) : Bytes :=
  sequence [r.encodeBody, r.algorithm.encode, bitString r.signature]

/-- A request as a text. -/
def text (r : Request) : String := Pem.Block.text ⟨Pem.Label.request.bytes, r.encode⟩ .lf

end Request

/-- Requests a certificate for the key of an entry. -/
def request (entry : KeyEntry) (subject : String) : Act W Request := do
  let subject ← Subject.ofArgument subject
  let key ← orFail "Unsupported private key: Could not parse key pair" (PrivateKey.decode? entry.key)
  let unsigned : Request := ⟨subject.toName, key.publicKey, key.signatureAlgorithm, []⟩
  let signature ← orFail ("Failed to serialize signing request: " ++ unspecified)
    (← key.sign unsigned.encodeBody)
  return { unsigned with signature }

end Keyring.Keys

import Keyring.Entry

/-!
# Trust anchors

Certificates that a TLS endpoint may take as roots. `TrustAnchor.read` is stricter than the decoding
of certificates: both signature algorithms have to agree, a version 3 certificate may hold no unique
identifiers, no critical extension that nobody knows, and each known extension once. A certificate
without a version is taken if it has no extensions.
-/

namespace Keyring.Tls

open Der

/-- Why a certificate cannot be a trust anchor. -/
inductive AnchorFault where
  | badEncoding
  | signatureAlgorithmMismatch
  | unsupportedCriticalExtension
  | extensionValueInvalid
  deriving DecidableEq, Repr

/-- A fault for diagnostics. -/
def AnchorFault.debug : AnchorFault → String
  | .badEncoding => "InvalidCertificate(BadEncoding)"
  | .signatureAlgorithmMismatch => "InvalidCertificate(Other(OtherError(SignatureAlgorithmMismatch)))"
  | .unsupportedCriticalExtension =>
    "InvalidCertificate(Other(OtherError(UnsupportedCriticalExtension)))"
  | .extensionValueInvalid => "InvalidCertificate(Other(OtherError(ExtensionValueInvalid)))"

/-- A name with a public key, both in encoded form. -/
structure TrustAnchor where
  subject : Bytes
  publicKey : Bytes
  deriving DecidableEq, Repr

namespace TrustAnchor

/-- The rules of trust anchors: any tag of one byte, and lengths below 65535. -/
def rules : Rules := ⟨Tag.isShort, 0xfffe⟩

/-- A part that has to be there. -/
def orBad {α : Type} : Option α → Except AnchorFault α
  | some a => .ok a
  | none => .error .badEncoding

/-- The content of a sequence. -/
def part : Decoder Bytes := Decoder.content rules Tag.sequence

/-- The body and the algorithm of a certificate, whose signature has no odd bits. -/
def frame : Decoder (Bytes × Bytes) :=
  Decoder.within rules Tag.sequence do
    let body ← part
    let algorithm ← part
    discard (Decoder.octetBits rules Tag.bitString)
    return (body, algorithm)

/-- The subject and the public key behind the issuer and the validity. -/
def identity : Decoder TrustAnchor := do
  discard part
  discard part
  return ⟨← part, ← part⟩

/-- The anchor of a body without a version: it ends with the public key. -/
def unversioned : Decoder TrustAnchor := do
  discard (Decoder.content rules Tag.integer)
  discard part
  identity

/-- The algorithm of a body of version 3, behind the version and the serial number. -/
def versioned : Decoder Bytes := do
  let version ← Decoder.within rules (Tag.explicit 0) (Decoder.natural rules)
  if version ≠ 2 then failure
  discard (Decoder.content rules Tag.integer)
  part

/-- The last bytes of the extensions that are known, all below 2.5.29. -/
def knownExtensions : List UInt8 := [15, 17, 19, 30, 31, 37]

/-- One extension: its identifier, whether it is critical, and its value. -/
def extension : Decoder (Bytes × Bool × Bytes) := do
  let id ← Decoder.content rules Tag.oid
  let critical ←
    match ← Decoder.content? rules Tag.boolean with
    | none | some [0x00] => pure false
    | some [0xff] => pure true
    | some _ => failure
  return (id, critical, ← Decoder.content rules Tag.octetString)

/-- Checks one extension, given the known ones before it; these and the new one. -/
def checkExtension (seen : List UInt8) (id : Bytes) (critical : Bool) (value : Bytes) :
    Except AnchorFault (List UInt8) :=
  let unknown : Except AnchorFault (List UInt8) :=
    if critical then .error .unsupportedCriticalExtension else .ok seen
  match id with
  | [0x55, 0x1d, last] =>
    if !knownExtensions.contains last then unknown
    else if seen.contains last then .error .extensionValueInvalid
    else if last = 15 ∨ (Decoder.whole part value).isSome then .ok (last :: seen)
    else .error .badEncoding
  | _ => unknown

/-- Checks extensions up to the end; a byte string of `fuel` bytes holds no more of them. -/
def checkExtensions (seen : List UInt8) : (fuel : Nat) → Bytes → Except AnchorFault Unit
  | _, [] => .ok ()
  | 0, _ => .error .badEncoding
  | fuel + 1, bs => do
    let (content, rest) ← orBad (part bs)
    let ((id, critical, value), behind) ← orBad (extension content)
    let seen ← checkExtension seen id critical value
    if behind ≠ [] then throw .badEncoding
    checkExtensions seen fuel rest

/-- Checks what follows the public key: nothing, or extensions. -/
def checkEnd (bs : Bytes) : Except AnchorFault Unit := do
  if bs = [] then return
  let (content, rest) ← orBad (Decoder.content rules (Tag.explicit 3) bs)
  let (extensions, behind) ← orBad (part content)
  checkExtensions [] extensions.length extensions
  if behind ≠ [] ∨ rest ≠ [] then throw .badEncoding

/-- The trust anchor of a certificate. -/
def read (der : Bytes) : Except AnchorFault TrustAnchor := do
  let (body, algorithm) ← orBad (Decoder.whole frame der)
  if body.head? = some (Tag.explicit 0) then
    let (inner, rest) ← orBad (versioned body)
    if inner ≠ algorithm then throw .signatureAlgorithmMismatch
    let (anchor, rest) ← orBad (identity rest)
    checkEnd rest
    return anchor
  else orBad (Decoder.whole unversioned body)

end TrustAnchor

/-- The anchors of trusted entries. -/
def trustAnchors (trusted : List TrustedEntry) : Except Error (List TrustAnchor) :=
  trusted.mapM fun entry =>
    (TrustAnchor.read entry.certificate).mapError fun fault =>
      .certificate ("Failed to add trusted cert: " ++ fault.debug)

end Keyring.Tls

import Keyring.Crypto.Weierstrass
import Keyring.Error
import Keyring.Text.Blank
import Keyring.X509.Certificate

/-!
# Key algorithms

The algorithms of keys that can be generated, and the curves of keys that can be read.
-/

namespace Keyring.Keys

/-- A curve with a name. -/
inductive NamedCurve where
  | p256
  | p384
  deriving DecidableEq, Repr

namespace NamedCurve

/-- The curve of a name. -/
def curve : NamedCurve → Crypto.Weierstrass.Curve
  | p256 => Crypto.Weierstrass.p256
  | p384 => Crypto.Weierstrass.p384

/-- The identifier of a curve. -/
def oid : NamedCurve → Der.Oid
  | p256 => .ofArcs [1, 2, 840, 10045, 3, 1, 7]
  | p384 => .ofArcs [1, 3, 132, 0, 34]

end NamedCurve

/-- The algorithms of keys that can be generated. -/
inductive KeyAlgorithm where
  | ec (curve : NamedCurve)
  | ed25519
  deriving DecidableEq, Repr

namespace KeyAlgorithm

/-- The algorithm of a name, in any case. -/
def ofName (name : String) : Except Error KeyAlgorithm :=
  let upper := String.ofList (name.toList.map Char.toUpper)
  if ["EC", "ECDSA", "P256", "EC-P256", "SECP256R1"].contains upper then .ok (.ec .p256)
  else if ["P384", "EC-P384", "SECP384R1"].contains upper then .ok (.ec .p384)
  else if upper = "ED25519" then .ok .ed25519
  else .error (.invalidArgument ("Unsupported key algorithm: " ++ name))

/-- The usual name of an algorithm. -/
def name : KeyAlgorithm → String
  | .ec .p256 => "EC-P256"
  | .ec .p384 => "EC-P384"
  | .ed25519 => "Ed25519"

/-- An algorithm for diagnostics. -/
def debug : KeyAlgorithm → String
  | .ec .p256 => "EcdsaP256"
  | .ec .p384 => "EcdsaP384"
  | .ed25519 => "Ed25519"

end KeyAlgorithm

/-! ### Identifiers -/

/-- The identifier of keys on prime curves. -/
def ecOid : Der.Oid := .ofArcs [1, 2, 840, 10045, 2, 1]

/-- The identifier of Ed25519 keys and signatures. -/
def ed25519Oid : Der.Oid := .ofArcs [1, 3, 101, 112]

/-- The identifier of RSA keys. -/
def rsaOid : Der.Oid := .ofArcs [1, 2, 840, 113549, 1, 1, 1]

/-- The parameter that stands for none. -/
def nullItem : Der.Item := ⟨Der.Tag.null, []⟩

/-- The algorithm of keys on a curve. -/
def ecAlgorithm (curve : NamedCurve) : X509.Algorithm :=
  ⟨ecOid, some ⟨Der.Tag.oid, curve.oid.content⟩⟩

/-- The algorithm of Ed25519 keys and signatures. -/
def ed25519Algorithm : X509.Algorithm := ⟨ed25519Oid, none⟩

/-- The algorithm of RSA keys. -/
def rsaAlgorithm : X509.Algorithm := ⟨rsaOid, some nullItem⟩

end Keyring.Keys

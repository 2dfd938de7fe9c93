import Keyring.Error
import Keyring.Text.Quoted
import Keyring.X509.Certificate

/-!
# Entries

What an alias of a keystore stands for: a private key with its certificates, or a certificate that is
trusted. `KeyEntry.of` and `TrustedEntry.of` are the ways to make them; they refuse empty keys, empty
chains and certificates that do not decode (`KeyEntry.WellFormed`, `TrustedEntry.WellFormed`).
-/

namespace Keyring

open X509

/-- The parts of a certificate, or the error that it is none. -/
def readCertificate (der : Bytes) : Except Error Certificate :=
  match Certificate.decode? der with
  | some c => .ok c
  | none => .error (.certificate "Invalid X.509 certificate")

/-- The subject of a certificate as text. -/
def certificateSubject (der : Bytes) : Except Error String := do
  return (← readCertificate der).subject.text

/-- Whether a byte string is a certificate. -/
def IsCertificate (der : Bytes) : Prop := (Certificate.decode? der).isSome

instance (der : Bytes) : Decidable (IsCertificate der) :=
  inferInstanceAs (Decidable ((Certificate.decode? der).isSome = true))

theorem not_isCertificate_nil : ¬ IsCertificate [] := by
  simp [IsCertificate, Certificate.decode?_nil]

theorem isCertificate_iff {der : Bytes} : IsCertificate der ↔ ∃ c, readCertificate der = .ok c := by
  rw [IsCertificate, readCertificate]
  cases Certificate.decode? der <;> simp

/-- A private key with the certificates that lead from it to a root. -/
structure KeyEntry where
  /-- The key in PKCS#8 form. -/
  key : Bytes
  /-- The certificates, the one issued for the key first. -/
  chain : List Bytes
  deriving DecidableEq, Repr

namespace KeyEntry

/-- What every entry made by `of` satisfies. -/
def WellFormed (e : KeyEntry) : Prop :=
  e.key ≠ [] ∧ e.chain ≠ [] ∧ ∀ certificate ∈ e.chain, IsCertificate certificate

/-- The entry of a key and its certificates. -/
def of (key : Bytes) (chain : List Bytes) : Except Error KeyEntry := do
  if key = [] then throw (.invalidArgument "Private key cannot be empty")
  if chain = [] then throw (.invalidArgument "Certificate chain cannot be empty")
  chain.forM fun certificate => discard (readCertificate certificate)
  return ⟨key, chain⟩

/-- The certificate issued for the key. -/
def leaf (e : KeyEntry) : Bytes := e.chain.headD []

/-- The entry for diagnostics, without the key. -/
def debug (e : KeyEntry) : String :=
  Text.Quoted.fields "PrivateKeyEntry" [("chain_length", toString e.chain.length)] true

end KeyEntry

/-- A certificate that is trusted on its own. -/
structure TrustedEntry where
  certificate : Bytes
  deriving DecidableEq, Repr

namespace TrustedEntry

/-- What every entry made by `of` satisfies. -/
def WellFormed (e : TrustedEntry) : Prop := IsCertificate e.certificate

/-- The entry of a certificate. -/
def of (certificate : Bytes) : Except Error TrustedEntry := do
  discard (readCertificate certificate)
  return ⟨certificate⟩

/-- The entry for diagnostics. -/
def debug (e : TrustedEntry) : String :=
  Text.Quoted.fields "TrustedCertificateEntry"
    [("certificate", Text.Quoted.bytes e.certificate)] false

end TrustedEntry

/-- What an alias stands for. -/
inductive Entry where
  | key (entry : KeyEntry)
  | trusted (entry : TrustedEntry)
  deriving DecidableEq, Repr

namespace Entry

/-- Whether an entry holds a private key. -/
def isKey : Entry → Bool
  | .key _ => true
  | .trusted _ => false

/-- What every entry made from checked parts satisfies. -/
def WellFormed : Entry → Prop
  | .key e => e.WellFormed
  | .trusted e => e.WellFormed

/-- The entry for diagnostics, without the key. -/
def debug : Entry → String
  | .key e => "PrivateKey(" ++ e.debug ++ ")"
  | .trusted e => "TrustedCertificate(" ++ e.debug ++ ")"

end Entry

end Keyring

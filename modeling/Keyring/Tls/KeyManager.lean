import Keyring.Container
import Keyring.Keys.PrivateKey
import Keyring.Text.Blank
import Keyring.Tls.TrustAnchor

/-!
# Key managers

A `Manager` holds the private keys of a container ready for use, in alias order, and picks the first
one that fits the signature schemes that a peer offers (`Manager.choose`). What reads keys and knows
their schemes is a parameter (`Signers`); a `KeyManager` is a manager of keys in PKCS#8 form. The ends
of a connection are set up with a key manager and with trust anchors (`ClientSetup`, `ServerSetup`).
-/

namespace Keyring.Tls

/-- The ways to pick a key, which agree. -/
inductive ManagerAlgorithm where
  | pkix
  | sunX509
  deriving DecidableEq, Repr

namespace ManagerAlgorithm

/-- The algorithm of a name, in any case; the empty name stands for the default. -/
def ofName (name : String) : Except Error ManagerAlgorithm :=
  let name := if name.isEmpty then "PKIX" else name
  if Text.sameIgnoringCase name "PKIX" || Text.sameIgnoringCase name "NewSunX509" then .ok .pkix
  else if Text.sameIgnoringCase name "SunX509" then .ok .sunX509
  else .error (.keyManagerInit ("Unsupported key manager algorithm: " ++ name))

/-- An algorithm for diagnostics. -/
def debug : ManagerAlgorithm → String
  | .pkix => "Pkix"
  | .sunX509 => "SunX509"

end ManagerAlgorithm

/-! ### Keys that sign -/

/-- Keys that sign: how they are read from their bytes, as far as these are supported, and the numbers
of the signature schemes that each can be used with. -/
structure Signers (K : Type) where
  read? : Bytes → Option K
  schemes : K → List Nat

/-- The keys in PKCS#8 form. -/
def Signers.pkcs8 : Signers Keys.PrivateKey := ⟨Keys.PrivateKey.decode?, Keys.PrivateKey.schemes⟩

/-- A key with its certificates. -/
structure Certified (K : Type) where
  key : K
  chain : List Bytes
  deriving DecidableEq, Repr

/-- A private key with its certificates. -/
abbrev CertifiedKey := Certified Keys.PrivateKey

/-- Whether a key can be used with one of some schemes. -/
def Certified.fits {K : Type} (signers : Signers K) (k : Certified K) (schemes : List Nat) : Bool :=
  schemes.any (signers.schemes k.key).contains

/-! ### Managers -/

/-- Keys by alias, in alias order. -/
structure Manager (K : Type) where
  algorithm : ManagerAlgorithm
  keys : List (String × Certified K)
  deriving DecidableEq, Repr

/-- A manager of private keys. -/
abbrev KeyManager := Manager Keys.PrivateKey

/-- What an end that connects says first, as far as a key is picked by it. -/
structure ClientHello where
  schemes : List Nat

namespace Manager

variable {K : Type}

/-- The aliases of the keys. -/
def aliases (m : Manager K) : List String := m.keys.map Prod.fst

/-- The key under an alias. -/
def find? (m : Manager K) (name : String) : Option (Certified K) := m.keys.lookup name

/-- The first key that can be used with one of some schemes, with its alias. -/
def first? (signers : Signers K) (m : Manager K) (schemes : List Nat) :
    Option (String × Certified K) :=
  m.keys.find? fun (_, k) => k.fits signers schemes

/-- Whether there is a key. -/
def hasKeys (m : Manager K) : Bool := !m.keys.isEmpty

/-- The manager for diagnostics. -/
def debug (m : Manager K) : String :=
  Text.Quoted.fields "KeyManager"
    [("algorithm", m.algorithm.debug), ("aliases", Text.Quoted.list (m.aliases.map Text.Quoted.text))]
    false

variable {W : Type} (signers : Signers K)

/-- Picks a key for the schemes that a peer offers, in either role. -/
def choose (m : Manager K) (schemes : List Nat) : Act W (Option (String × Certified K)) := do
  match m.first? signers schemes with
  | none => return none
  | some (name, k) =>
    Act.report .debug "key manager selected key" [("alias", name)]
    return some (name, k)

/-- Picks a key for the end that is connected to. -/
def resolveServer (m : Manager K) (hello : ClientHello) : Act W (Option (String × Certified K)) :=
  m.choose signers hello.schemes

/-- Picks a key for the end that connects. The roots that the other end hints at do not matter. -/
def resolveClient (m : Manager K) (_rootHints : List Bytes) (schemes : List Nat) :
    Act W (Option (String × Certified K)) :=
  m.choose signers schemes

/-- The key of a stored entry under an alias, if it holds one. -/
def certified (password : Password) (name : String) (stored : StoredEntry) :
    Except Error (Option (Certified K)) := do
  let entry ← (stored.toEntry password).mapError fun e =>
    .keyManagerInit ("Cannot open entry '" ++ name ++ "': " ++ e.text)
  match entry with
  | .trusted _ => return none
  | .key e =>
    match signers.read? e.key with
    | some key => return some ⟨key, e.chain⟩
    | none =>
      throw (.keyManagerInit
        ("Unsupported private key under '" ++ name ++
          "': unexpected error: failed to parse private key as RSA, ECDSA, or EdDSA"))

/-- The keys among stored entries. -/
def certifiedKeys (password : Password) :
    List (String × StoredEntry) → Except Error (List (String × Certified K))
  | [] => .ok []
  | (name, stored) :: rest => do
    match ← certified signers password name stored with
    | some k => return (name, k) :: (← certifiedKeys password rest)
    | none => certifiedKeys password rest

/-- The key managers of a container, of which there is one. -/
def ofContainer (c : Container) (password : Password) (algorithm : String) :
    Act W (List (Manager K)) := do
  let algorithm ← ManagerAlgorithm.ofName algorithm
  let keys ← certifiedKeys signers password c.toList
  Act.report .debug "key managers initialized"
    [("algorithm", algorithm.debug), ("keys", toString keys.length)]
  return [⟨algorithm, keys⟩]

end Manager

namespace KeyManager

variable {W : Type}

/-- Picks a private key for the schemes that a peer offers, in either role. -/
def choose (m : KeyManager) (schemes : List Nat) : Act W (Option (String × CertifiedKey)) :=
  Manager.choose .pkcs8 m schemes

/-- The managers of the private keys of a container. -/
def ofContainer (c : Container) (password : Password) (algorithm : String) :
    Act W (List KeyManager) :=
  Manager.ofContainer .pkcs8 c password algorithm

end KeyManager

/-! ### Ends of a connection -/

/-- The end that connects. -/
structure ClientSetup where
  anchors : List TrustAnchor
  keys : KeyManager
  deriving DecidableEq, Repr

/-- The end that is connected to. Without anchors it asks for no certificates. -/
structure ServerSetup where
  clientAnchors : List TrustAnchor
  keys : KeyManager
  deriving DecidableEq, Repr

/-- Sets up the end that connects. -/
def ClientSetup.of (keys : KeyManager) (trusted : List TrustedEntry) : Except Error ClientSetup := do
  return ⟨← trustAnchors trusted, keys⟩

/-- Sets up the end that is connected to. -/
def ServerSetup.of (keys : KeyManager) (trusted : List TrustedEntry) : Except Error ServerSetup := do
  return ⟨← trustAnchors trusted, keys⟩

end Keyring.Tls

import Keyring.Entry
import Keyring.Sealing
import Keyring.Table

/-!
# Containers

A `Container` assigns entries to aliases in stored form (`StoredEntry`): private keys are sealed under
the password of the container and only opened when an entry is read. A change returns what it
replaced, so that `Container.restore` can undo it.
-/

namespace Keyring

/-- An entry as a container holds it, with the second at which it was stored. -/
inductive StoredEntry where
  | key (sealedKey : Bytes) (chain : List Bytes) (createdAt : UInt64)
  | trusted (certificate : Bytes) (createdAt : UInt64)
  deriving DecidableEq, Repr

namespace StoredEntry

/-- Whether an entry holds a private key. -/
def isKey : StoredEntry → Bool
  | .key .. => true
  | .trusted .. => false

/-- When the entry was stored. -/
def createdAt : StoredEntry → UInt64
  | .key _ _ createdAt => createdAt
  | .trusted _ createdAt => createdAt

/-- The stored form of an entry. -/
def ofEntry {W : Type} (entry : Entry) (password : Password) : Act W StoredEntry := do
  let createdAt := UInt64.ofNat (← Act.now)
  match entry with
  | .key e => return .key (← Sealing.sealFresh e.key password.bytes) e.chain createdAt
  | .trusted e => return .trusted e.certificate createdAt

/-- Opens a stored entry. -/
def toEntry (stored : StoredEntry) (password : Password) : Except Error Entry :=
  match stored with
  | .key sealedKey chain _ => do
    let key ← Sealing.openText sealedKey password.bytes
    return .key (← KeyEntry.of key chain)
  | .trusted certificate _ => do return .trusted (← TrustedEntry.of certificate)

/-- The same entry under another password. -/
def reprotect {W : Type} (stored : StoredEntry) (old new : Password) : Act W StoredEntry :=
  match stored with
  | .key sealedKey chain createdAt => do
    let key ← Sealing.openText sealedKey old.bytes
    return .key (← Sealing.sealFresh key new.bytes) chain createdAt
  | .trusted certificate createdAt => return .trusted certificate createdAt

/-- The name of the kind of an entry. -/
def tag : StoredEntry → String
  | .key .. => "private_key"
  | .trusted .. => "trusted_certificate"

/-- The stored entry for diagnostics. -/
def debug : StoredEntry → String
  | .key sealedKey chain createdAt =>
    Text.Quoted.fields "PrivateKey"
      [("encrypted_key", Text.Quoted.bytes sealedKey),
        ("certificate_chain", Text.Quoted.list (chain.map Text.Quoted.bytes)),
        ("created_at", toString createdAt.toNat)]
      false
  | .trusted certificate createdAt =>
    Text.Quoted.fields "TrustedCertificate"
      [("certificate", Text.Quoted.bytes certificate), ("created_at", toString createdAt.toNat)]
      false

end StoredEntry

/-- Stored entries by alias. -/
abbrev Container := Table StoredEntry

namespace Container

/-- The aliases in order. -/
def aliases (c : Container) : List String := c.keys

/-- Opens the entry under an alias, if there is one. -/
def entry? (c : Container) (name : String) (password : Password) : Except Error (Option Entry) :=
  match c.find? name with
  | none => .ok none
  | some stored => some <$> stored.toEntry password

/-- Opens all entries. -/
def entries (c : Container) (password : Password) : Except Error (Table Entry) :=
  c.toList.foldlM
    (fun t (name, stored) => do return t.insert name (← stored.toEntry password))
    Table.empty

/-- Stores an entry under an alias; also what it replaces. -/
def set {W : Type} (c : Container) (name : String) (entry : Entry) (password : Password) :
    Act W (Container × Option StoredEntry) := do
  return (c.insert name (← StoredEntry.ofEntry entry password), c.find? name)

/-- Removes the entry under an alias; also what was there. -/
def delete (c : Container) (name : String) : Container × Option StoredEntry :=
  (c.erase name, c.find? name)

/-- Puts back what a change of an alias replaced. -/
def restore (c : Container) (name : String) (previous : Option StoredEntry) : Container :=
  Table.restore c name previous

/-- The container with its entries put under another password, one after the other. -/
def resealed {W : Type} (c : Container) (old new : Password) : Act W Container :=
  c.toList.foldlM
    (fun t (name, stored) => do return t.insert name (← stored.reprotect old new))
    c

/-- Puts the container under another password: first a copy, which then takes its place. -/
def reprotect {W : Type} (old new : Password) : Edit Container W Unit := do
  let copy ← Edit.value
  let resealed ← Edit.perform (copy.resealed old new)
  Edit.replace resealed

/-- The container for diagnostics. -/
def debug (c : Container) : String :=
  Text.Quoted.fields "Container"
    [("entries",
      Text.Quoted.entries (c.toList.map fun (name, stored) => (Text.Quoted.text name, stored.debug)))]
    false

/-! ### How a container is put under another password -/

/-- The copy takes the place of the container once it is under the new password; before that nothing
has happened to the container. -/
theorem reprotect_apply {W : Type} (old new : Password) (c : Container) (s : Session W) :
    reprotect old new c s = match c.resealed old new s with
      | (.ok resealed, t) => ((.ok (), resealed), t)
      | (.error e, t) => ((.error e, c), t) := by
  rw [reprotect, Edit.bind_apply, Edit.value_apply]
  dsimp only
  rw [Edit.bind_apply, Edit.perform_apply]
  rcases c.resealed old new s with ⟨_ | _, t⟩ <;> rfl

/-- Putting a copy under another password gives the entries under that. -/
theorem onCopy_reprotect {W : Type} (old new : Password) (c : Container) :
    (reprotect old new).onCopy c = (c.resealed old new : Act W Container) := by
  funext s
  rw [Edit.onCopy, reprotect_apply]
  rcases c.resealed old new s with ⟨_ | _, t⟩ <;> rfl

end Container

end Keyring

import Keyring.Container
import Keyring.Json.Document
import Keyring.Json.Passing
import Keyring.Json.Writer

/-!
# Containers as JSON

The written form of a container: an object whose member `entries` assigns to each alias an object with
the kind of the entry, its byte strings as lists of numbers, and its time.

Reading accepts more: a list of the fields in place of the object with their names, and fields that
nobody knows. The fields of an entry are taken from the document of the entry once its kind is known
(`StoredEntry.ofJson`), so faults in them have no position of their own.
-/

namespace Keyring

open Json

/-! ### Writing -/

/-- A byte string as a list of numbers. -/
def bytesToJson (bs : Bytes) : Bytes := Writer.list (bs.map fun b => Writer.natural b.toNat)

/-- A stored entry as an object. -/
def StoredEntry.toJson (stored : StoredEntry) : Bytes :=
  Writer.object <| ("type", Writer.string stored.tag) ::
    match stored with
    | .key sealedKey chain createdAt =>
      [("encrypted_key", bytesToJson sealedKey),
        ("certificate_chain", Writer.list (chain.map bytesToJson)),
        ("created_at", Writer.natural createdAt.toNat)]
    | .trusted certificate createdAt =>
      [("certificate", bytesToJson certificate), ("created_at", Writer.natural createdAt.toNat)]

/-- A container as an object. -/
def Container.toJson (c : Container) : Bytes :=
  Writer.object
    [("entries", Writer.object (c.toList.map fun (name, stored) => (name, stored.toJson)))]

/-! ### Fields of entries -/

/-- A document of another type than expected. -/
def wrongType {α : Type} (found : Value) (expected : String) : Except Cause α :=
  .error (.wrongType found.found expected)

/-- A number below a bound. -/
def boundedOfJson (limit : Nat) (expected : String) : Value → Except Cause Nat
  | .number (.natural n) =>
    if n < limit then .ok n
    else .error (.wrongValue (Value.number (.natural n)).found expected)
  | .number (.negative n) => .error (.wrongValue (Value.number (.negative n)).found expected)
  | other => wrongType other expected

/-- The items of a list. -/
def listOfJson {α : Type} (item : Value → Except Cause α) : Value → Except Cause (List α)
  | .list items => items.mapM item
  | other => wrongType other "a sequence"

/-- A byte string of a list of numbers. -/
def bytesOfJson : Value → Except Cause Bytes :=
  listOfJson fun v => UInt8.ofNat <$> boundedOfJson 256 "u8" v

/-- A point in time. -/
def timeOfJson (v : Value) : Except Cause UInt64 := UInt64.ofNat <$> boundedOfJson UInt64.size "u64" v

/-- The two kinds of entries. -/
inductive EntryKind where
  | key
  | trusted
  deriving DecidableEq, Repr

namespace EntryKind

/-- The kind of a name. -/
def ofName? (name : String) : Option EntryKind :=
  if name = "private_key" then some .key
  else if name = "trusted_certificate" then some .trusted
  else none

/-- The names of the kinds. -/
def names : List String := ["private_key", "trusted_certificate"]

/-- The fields of a kind, in order. -/
def fields : EntryKind → List String
  | .key => ["encrypted_key", "certificate_chain", "created_at"]
  | .trusted => ["certificate", "created_at"]

/-- How an error over the count of fields names the kind. -/
def expected : EntryKind → String
  | .key => "struct variant StoredEntry::PrivateKey with 3 elements"
  | .trusted => "struct variant StoredEntry::TrustedCertificate with 2 elements"

end EntryKind

/-- A field of an entry as read. -/
inductive Field where
  | bytes (value : Bytes)
  | chain (value : List Bytes)
  | time (value : UInt64)

/-- The value of a field. -/
def Field.ofJson (name : String) (v : Value) : Except Cause Field :=
  if name = "created_at" then .time <$> timeOfJson v
  else if name = "certificate_chain" then .chain <$> listOfJson bytesOfJson v
  else .bytes <$> bytesOfJson v

/-- The fields among the members of an object, in written order; none may stand there twice. -/
def fieldsOfMembers (fields : List String) :
    List (String × Field) → List (String × Value) → Except Cause (List (String × Field))
  | found, [] => .ok found
  | found, (name, v) :: rest =>
    if fields.contains name then
      if (found.lookup name).isSome then .error (.duplicateField name)
      else do fieldsOfMembers fields (found ++ [(name, ← Field.ofJson name v)]) rest
    else fieldsOfMembers fields found rest

/-- The values of a list as the fields that stand at their places. -/
def fieldsOfItems (kind : EntryKind) (items : List Value) : Except Cause (List (String × Field)) := do
  let read ← (kind.fields.zip items).mapM fun (name, v) => do return (name, ← Field.ofJson name v)
  let count := kind.fields.length
  if items.length < count then throw (.wrongLength items.length kind.expected)
  if count < items.length then
    throw (.wrongLength items.length (toString count ++ " elements in sequence"))
  return read

/-- The stored entry of its fields. -/
def StoredEntry.ofFields (kind : EntryKind) (found : List (String × Field)) :
    Except Cause StoredEntry := do
  for name in kind.fields do
    if (found.lookup name).isNone then throw (.missingField name)
  match kind, found.lookup "encrypted_key", found.lookup "certificate_chain",
      found.lookup "certificate", found.lookup "created_at" with
  | .key, some (.bytes sealedKey), some (.chain chain), _, some (.time createdAt) =>
    return .key sealedKey chain createdAt
  | .trusted, _, _, some (.bytes certificate), some (.time createdAt) =>
    return .trusted certificate createdAt
  | _, _, _, _, _ => throw (.missingField "type")

/-! ### Reading -/

namespace EntryKind

/-- Reads the name of a kind. -/
def reader (depth : Nat) : Reader EntryKind := Reader.located do
  match ← Reader.peekPastSpace with
  | none => Reader.failAhead .endInValue
  | some 0x22 =>
    Reader.skip
    let name ← Reader.string
    match ofName? name with
    | some kind => return kind
    | none => Reader.mismatch (.unknownVariant name names)
  | some _ => Reader.wrongType depth "variant identifier"

end EntryKind

/-- Fails without a position if a document is not as expected. -/
def expect {α : Type} : Except Cause α → Reader α
  | .ok a => return a
  | .error cause => Reader.mismatch cause

namespace StoredEntry

/-- Reads an entry with its kind, its fields still as documents: the members of an object or the items
of a list. -/
def partsReader (depth : Nat) : Reader (EntryKind × (List (String × Value) ⊕ List Value)) :=
  Reader.located do
    match ← Reader.peekPastSpace with
    | none => Reader.failAhead .endInValue
    | some 0x7b =>
      Reader.nested depth
        (fun depth => do
          let member (found : Option EntryKind × List (String × Value)) (key : String) :
              Reader (Option EntryKind × List (String × Value)) := do
            if key = "type" then
              if found.1.isSome then Reader.mismatch (.duplicateField "type")
              Reader.colon
              return (some (← EntryKind.reader depth), found.2)
            else
              Reader.colon
              return (found.1, found.2 ++ [(key, ← Reader.value depth)])
          let (kind, members) ← Reader.members member (← Reader.fuel) true (none, [])
          match kind with
          | some kind => return (kind, .inl members)
          | none => Reader.mismatch (.missingField "type"))
        Reader.endObject
    | some 0x5b =>
      Reader.nested depth
        (fun depth => do
          if ← Reader.hasItem true then
            let kind ← EntryKind.reader depth
            return (kind, .inr (← Reader.items (Reader.value depth) (← Reader.fuel) false))
          else Reader.mismatch (.missingField "type"))
        Reader.endList
    | some _ => Reader.wrongType depth "internally tagged enum StoredEntry"

/-- Reads an entry. -/
def reader (depth : Nat) : Reader StoredEntry := do
  let (kind, parts) ← partsReader depth
  expect do
    match parts with
    | .inl members => ofFields kind (← fieldsOfMembers kind.fields [] members)
    | .inr items => ofFields kind (← fieldsOfItems kind items)

end StoredEntry

namespace Container

/-- Reads entries by alias; the last one under an alias counts. -/
def entriesReader (depth : Nat) : Reader Container := Reader.located do
  match ← Reader.peekPastSpace with
  | none => Reader.failAhead .endInValue
  | some 0x7b =>
    Reader.nested depth
      (fun depth => do
        let member (found : Container) (name : String) : Reader Container := do
          Reader.colon
          return found.insert name (← StoredEntry.reader depth)
        Reader.members member (← Reader.fuel) true Table.empty)
      Reader.endObject
  | some _ => Reader.wrongType depth "a map"

/-- Reads a container. -/
def reader (depth : Nat) : Reader Container := Reader.located do
  match ← Reader.peekPastSpace with
  | none => Reader.failAhead .endInValue
  | some 0x7b =>
    Reader.nested depth
      (fun depth => do
        let member (found : Option Container) (key : String) : Reader (Option Container) := do
          if key = "entries" then
            if found.isSome then Reader.mismatch (.duplicateField "entries")
            Reader.colon
            return some (← entriesReader depth)
          else
            Reader.colon
            Reader.skipValue
            return found
        match ← Reader.members member (← Reader.fuel) true none with
        | some entries => return entries
        | none => Reader.mismatch (.missingField "entries"))
      Reader.endObject
  | some 0x5b =>
    Reader.nested depth
      (fun depth => do
        if ← Reader.hasItem true then entriesReader depth
        else Reader.mismatch (.wrongLength 0 "struct Container with 1 element"))
      Reader.endList
  | some _ => Reader.wrongType depth "struct Container"

/-- The container of a JSON text. -/
def parse (text : Bytes) : Except Error Container :=
  (Reader.readAll (reader depthLimit) text).mapError .json

end Container

end Keyring

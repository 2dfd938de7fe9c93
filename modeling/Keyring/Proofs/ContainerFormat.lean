import Keyring.ContainerFormat
import Keyring.Proofs.Json.Documents

/-!
# Containers read back as they were written

`Container.toJson_reversible` : reading the written form of a container gives that container,
whatever its aliases, byte strings, chains and times are; so different containers have different
written forms.

A stored entry is read in three steps, with one lemma each: its members as documents
(`StoredEntry.reads_parts`), the fields they stand for (`StoredEntry.fieldsOfMembers_members`), and the
entry of these fields (`StoredEntry.ofFields_fields`).
-/

namespace Keyring

open Json Reader
open Writer (memberText)

/-! ### Byte strings -/

/-- A byte string as a document. -/
def bytesValue (bs : Bytes) : Value := .list (bs.map fun b => .number (.natural b.toNat))

theorem readsBack_bytes (depth : Nat) (bs : Bytes) :
    ReadsBack (value (depth + 2)) (bytesToJson bs) (bytesValue bs) := by
  have hbytes : ∀ x ∈ bs.map fun b => (Writer.natural b.toNat, Value.number (.natural b.toNat)),
      ReadsBack (value (depth + 1)) x.1 x.2 := by
    intro x hx
    obtain ⟨b, -, rfl⟩ := List.mem_map.1 hx
    exact readsBack_value_natural depth (Nat.lt_trans b.toNat_lt (by decide))
  have hread := readsBack_value_list (Nat.succ_ne_zero depth) hbytes
  simpa only [bytesToJson, bytesValue, List.map_map, Function.comp_def] using hread

theorem readsBack_chain (depth : Nat) (chain : List Bytes) :
    ReadsBack (value (depth + 3)) (Writer.list (chain.map bytesToJson))
      (.list (chain.map bytesValue)) := by
  have hchain : ∀ x ∈ chain.map fun bs => (bytesToJson bs, bytesValue bs),
      ReadsBack (value (depth + 2)) x.1 x.2 := by
    intro x hx
    obtain ⟨bs, -, rfl⟩ := List.mem_map.1 hx
    exact readsBack_bytes depth bs
  have hread := readsBack_value_list (Nat.succ_ne_zero (depth + 1)) hchain
  simpa only [List.map_map, Function.comp_def] using hread

/-- Items that are read one by one are read as a list. -/
theorem listOfJson_map {α β : Type} {item : Value → Except Cause α} {f : β → Value} {g : β → α}
    (h : ∀ x, item (f x) = .ok (g x)) (xs : List β) :
    listOfJson item (.list (xs.map f)) = .ok (xs.map g) := by
  change (xs.map f).mapM item = _
  induction xs with
  | nil => rfl
  | cons x xs ih => simp [h, ih, bind, Except.bind, pure, Except.pure]

theorem bytesOfJson_bytesValue (bs : Bytes) : bytesOfJson (bytesValue bs) = .ok bs := by
  have hlist : bytesOfJson (bytesValue bs) = .ok (bs.map fun b => b) := by
    refine listOfJson_map (fun b => ?_) bs
    rw [boundedOfJson, if_pos b.toNat_lt]
    exact congrArg Except.ok UInt8.ofNat_toNat
  rwa [List.map_id'] at hlist

theorem chainOfJson_map (chain : List Bytes) :
    listOfJson bytesOfJson (.list (chain.map bytesValue)) = .ok chain := by
  have hlist := listOfJson_map bytesOfJson_bytesValue chain
  rwa [List.map_id'] at hlist

theorem timeOfJson_natural (t : UInt64) : timeOfJson (.number (.natural t.toNat)) = .ok t := by
  rw [timeOfJson, boundedOfJson, if_pos t.toNat_lt]
  exact congrArg Except.ok UInt64.ofNat_toNat

/-! ### Entries -/

namespace StoredEntry

/-- The kind of an entry. -/
def kind : StoredEntry → EntryKind
  | .key .. => .key
  | .trusted .. => .trusted

/-- The fields of an entry as documents. -/
def members : StoredEntry → List (String × Value)
  | .key sealedKey chain createdAt =>
    [("encrypted_key", bytesValue sealedKey), ("certificate_chain", .list (chain.map bytesValue)),
      ("created_at", .number (.natural createdAt.toNat))]
  | .trusted certificate createdAt =>
    [("certificate", bytesValue certificate), ("created_at", .number (.natural createdAt.toNat))]

/-- The fields of an entry as they are read. -/
def fields : StoredEntry → List (String × Field)
  | .key sealedKey chain createdAt =>
    [("encrypted_key", .bytes sealedKey), ("certificate_chain", .chain chain),
      ("created_at", .time createdAt)]
  | .trusted certificate createdAt =>
    [("certificate", .bytes certificate), ("created_at", .time createdAt)]

theorem fieldsOfMembers_members (stored : StoredEntry) :
    fieldsOfMembers stored.kind.fields [] stored.members = .ok stored.fields := by
  cases stored with
  | key sealedKey chain createdAt =>
    have hkey : Field.ofJson "encrypted_key" (bytesValue sealedKey) = .ok (.bytes sealedKey) := by
      simp [Field.ofJson, bytesOfJson_bytesValue, Functor.map, Except.map]
    have hchain : Field.ofJson "certificate_chain" (.list (chain.map bytesValue)) =
        .ok (.chain chain) := by
      simp [Field.ofJson, chainOfJson_map, Functor.map, Except.map]
    have htime : Field.ofJson "created_at" (.number (.natural createdAt.toNat)) =
        .ok (.time createdAt) := by
      simp [Field.ofJson, timeOfJson_natural, Functor.map, Except.map]
    simp [kind, members, fields, fieldsOfMembers, EntryKind.fields, hkey, hchain, htime, bind,
      Except.bind]
  | trusted certificate createdAt =>
    have hbytes : Field.ofJson "certificate" (bytesValue certificate) = .ok (.bytes certificate) := by
      simp [Field.ofJson, bytesOfJson_bytesValue, Functor.map, Except.map]
    have htime : Field.ofJson "created_at" (.number (.natural createdAt.toNat)) =
        .ok (.time createdAt) := by
      simp [Field.ofJson, timeOfJson_natural, Functor.map, Except.map]
    simp [kind, members, fields, fieldsOfMembers, EntryKind.fields, hbytes, htime, bind,
      Except.bind]

theorem ofFields_fields (stored : StoredEntry) : ofFields stored.kind stored.fields = .ok stored := by
  cases stored with
  | key sealedKey chain createdAt =>
    simp [kind, fields, ofFields, EntryKind.fields, List.lookup_cons, bind, Except.bind, pure, Except.pure]
  | trusted certificate createdAt =>
    simp [kind, fields, ofFields, EntryKind.fields, List.lookup_cons, bind, Except.bind, pure, Except.pure]

/-- The members of an entry as they are written, the kind apart. -/
def memberTexts : StoredEntry → List (String × Bytes)
  | .key sealedKey chain createdAt =>
    [("encrypted_key", bytesToJson sealedKey),
      ("certificate_chain", Writer.list (chain.map bytesToJson)),
      ("created_at", Writer.natural createdAt.toNat)]
  | .trusted certificate createdAt =>
    [("certificate", bytesToJson certificate), ("created_at", Writer.natural createdAt.toNat)]

theorem toJson_eq (stored : StoredEntry) :
    stored.toJson = 0x7b :: Writer.separated [0x2c]
      ((("type", Writer.string stored.tag) :: stored.memberTexts).map memberText) ++ [0x7d] := by
  cases stored <;> rfl

theorem reads_kind (stored : StoredEntry) (depth : Nat) (rest : Bytes) :
    Reads (EntryKind.reader depth) (Writer.string stored.tag) stored.kind rest := by
  have hname : EntryKind.ofName? stored.tag = some stored.kind := by
    cases stored <;> rfl
  refine .located (.peekByte rfl (by decide) (.bind_skip (.bind_last (reads_string _ rest) ?_)))
  rw [hname]
  exact .pure _ _

/-- One member of an entry: the kind goes to its own place, every other member to the end. -/
theorem reads_member {depth : Nat} {kind : Option EntryKind} {before : List (String × Value)}
    {name : String} {text : Bytes} {v : Value} (hname : name ≠ "type")
    (h : ReadsBack (value depth) text v) {rest : Bytes} (hrest : stops rest = true) :
    Reads
      (if name = "type" then do
        if kind.isSome then Reader.mismatch (.duplicateField "type")
        Reader.colon
        return (some (← EntryKind.reader depth), before)
      else do
        Reader.colon
        return (kind, before ++ [(name, ← Reader.value depth)]))
      (0x3a :: text) (kind, before ++ [(name, v)]) rest := by
  rw [if_neg hname]
  exact .bind (reads_colon _) (.bind_pure (h.reads rest hrest))

theorem reads_parts (stored : StoredEntry) (depth : Nat) (rest : Bytes) :
    Reads (partsReader (depth + 5)) stored.toJson (stored.kind, .inl stored.members) rest := by
  rw [toJson_eq]
  refine .located (.peekByte rfl (by decide) (reads_nested ?_ (reads_endObject rest)))
  refine Reads.bind_members (?_ : MembersRead _ _ _ (some stored.kind, stored.members)) (.pure _ _)
  refine .cons (fun rest _ => .bind (reads_colon _) (.bind_pure (reads_kind stored _ rest))) ?_
  cases stored with
  | key sealedKey chain createdAt =>
    exact .cons (fun _ => reads_member (by decide) (readsBack_bytes _ sealedKey))
      (.cons (fun _ => reads_member (by decide) (readsBack_chain _ chain))
        (.cons (fun _ => reads_member (by decide) (readsBack_value_natural _ createdAt.toNat_lt))
          (.nil _)))
  | trusted certificate createdAt =>
    exact .cons (fun _ => reads_member (by decide) (readsBack_bytes _ certificate))
      (.cons (fun _ => reads_member (by decide) (readsBack_value_natural _ createdAt.toNat_lt))
        (.nil _))

theorem reads_written (stored : StoredEntry) (depth : Nat) (rest : Bytes) :
    Reads (reader (depth + 5)) stored.toJson stored rest := by
  refine .bind_last (reads_parts stored depth rest) ?_
  simp only [fieldsOfMembers_members, bind, Except.bind, ofFields_fields, expect]
  exact .pure stored rest

end StoredEntry

/-! ### Containers -/

namespace Container

/-- The entries as they are read, one after the other, make the container. -/
theorem membersRead_entries (c : Container) (depth : Nat) :
    MembersRead
      (fun (found : Container) name => do
        Reader.colon
        return found.insert name (← StoredEntry.reader (depth + 5)))
      Table.empty (c.toList.map fun (name, stored) => (name, stored.toJson)) c := by
  have hread := @MembersRead.foldl Container (String × StoredEntry)
    (fun found name => do Reader.colon; return found.insert name (← StoredEntry.reader (depth + 5)))
    (fun x => (x.1, x.2.toJson)) (fun found x => found.insert x.1 x.2) c.toList Table.empty
    fun _ x _ rest _ => .bind (reads_colon _) (.bind_pure (x.2.reads_written depth rest))
  have hlist := c.ofList_toList
  rw [Table.ofList] at hlist
  rwa [hlist] at hread

theorem reads_entries (c : Container) (depth : Nat) (rest : Bytes) :
    Reads (entriesReader (depth + 6))
      (Writer.object (c.toList.map fun (name, stored) => (name, stored.toJson))) c rest := by
  refine .located (.peekByte rfl (by decide) (reads_nested ?_ (reads_endObject rest)))
  exact .members (membersRead_entries c depth)

theorem reads_written (c : Container) (rest : Bytes) :
    Reads (reader depthLimit) c.toJson c rest := by
  refine .located (.peekByte rfl (by decide) (reads_nested ?_ (reads_endObject rest)))
  refine Reads.bind_members (?_ : MembersRead _ _ _ (some c)) (.pure _ _)
  exact .cons (fun rest _ => .bind (reads_colon _) (.bind_pure (reads_entries c _ rest))) (.nil _)

/-- Reading what was written. -/
theorem parse_toJson (c : Container) : parse c.toJson = .ok c := by
  rw [parse, readAll_eq_of_reads (reads_written c [])]
  rfl

/-- Reading undoes writing, so no two containers are written the same. -/
theorem toJson_reversible : (∀ c : Container, parse c.toJson = .ok c) ∧ Function.Injective toJson := by
  refine ⟨parse_toJson, fun c c' h => ?_⟩
  have hparse : (.ok c : Except Error Container) = .ok c' := by rw [← parse_toJson c, h, parse_toJson]
  exact Except.ok.inj hparse

end Container

end Keyring

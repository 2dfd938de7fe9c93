import Keyring.Proofs.Sealing
import Keyring.Container

/-!
# What containers open to

A container is a table of entries under a password.  `Container.Opens c password m` : opened with
`password`, the container `c` holds exactly the entries of the table `m`.

* `Container.Opens.entry?_eq`, `Container.Opens.entries_eq` : reading such a container gives what is in
  the table, and reading all entries fails otherwise (`Container.entries_eq_ok_iff`);
* `Container.Opens.insert`, `Container.Opens.erase` : a change of one alias is that change of the table.
-/

namespace Keyring

/-! ### Entries that are made again from their parts -/

theorem discard_readCertificate_eq_ok_iff {der : Bytes} {u : PUnit} :
    discard (readCertificate der) = .ok u ↔ IsCertificate der := by
  rw [isCertificate_iff]
  cases readCertificate der with
  | error e => simp [discard, Functor.mapConst, Except.map]
  | ok c => simp [discard, Functor.mapConst, Except.map]

theorem forM_readCertificate_eq_ok_iff {chain : List Bytes} {u : PUnit} :
    (chain.forM fun certificate => discard (readCertificate certificate)) = .ok u ↔
      ∀ certificate ∈ chain, IsCertificate certificate := by
  rw [List.forM_eq_forM]
  induction chain with
  | nil => simp [pure, Except.pure]
  | cons certificate chain ih =>
    rw [List.forM_cons, bind_eq_ok_iff, List.forall_mem_cons, ← ih]
    simp only [discard_readCertificate_eq_ok_iff, exists_and_left, exists_const]

theorem KeyEntry.of_eq_ok_iff {key : Bytes} {chain : List Bytes} {e : KeyEntry} :
    KeyEntry.of key chain = .ok e ↔ e = ⟨key, chain⟩ ∧ e.WellFormed := by
  constructor
  · intro h
    by_cases hkey : key = []
    · rw [KeyEntry.of, if_pos hkey] at h
      cases h
    · by_cases hchain : chain = []
      · rw [KeyEntry.of, if_neg hkey, if_pos hchain] at h
        cases h
      · rw [KeyEntry.of, if_neg hkey, if_neg hchain] at h
        obtain ⟨_, hcertificates, h⟩ := bind_eq_ok_iff.1 h
        obtain rfl := Except.ok.inj h
        exact ⟨rfl, hkey, hchain, forM_readCertificate_eq_ok_iff.1 hcertificates⟩
  · rintro ⟨rfl, hkey, hchain, hcertificates⟩
    rw [KeyEntry.of, if_neg hkey, if_neg hchain]
    exact bind_eq_ok_iff.2 ⟨(), forM_readCertificate_eq_ok_iff.2 hcertificates, rfl⟩

theorem TrustedEntry.of_eq_ok_iff {certificate : Bytes} {e : TrustedEntry} :
    TrustedEntry.of certificate = .ok e ↔ e = ⟨certificate⟩ ∧ e.WellFormed := by
  constructor
  · intro h
    obtain ⟨_, hc, h⟩ := bind_eq_ok_iff.1 h
    obtain rfl := Except.ok.inj h
    exact ⟨rfl, discard_readCertificate_eq_ok_iff.1 hc⟩
  · rintro ⟨rfl, h⟩
    exact bind_eq_ok_iff.2 ⟨(), discard_readCertificate_eq_ok_iff.2 h, rfl⟩

namespace Sample

/-- The algorithm Ed25519. -/
def algorithm : X509.Algorithm := ⟨.ofArcs [1, 3, 101, 112], none⟩

/-- A certificate without names, key and signature. -/
def certificate (serial : UInt8) : Bytes := X509.Certificate.encode
  { version := .v3, serial := [serial], issuer := [], notBefore := 0, notAfter := 0, subject := []
    publicKey := ⟨algorithm, ⟨0, []⟩⟩, extensions := [], algorithm, signature := ⟨0, []⟩ }

/-- An entry with an Ed25519 key whose seed is zero, and two certificates. -/
def entry : KeyEntry where
  key := Der.sequence
    [Der.natural 0, algorithm.encode, Der.octetString (Der.octetString (Bytes.zeros 32))]
  chain := [certificate 1, certificate 2]

theorem wellFormed_entry : entry.WellFormed := by
  have hcertificates : ∀ certificate ∈ entry.chain, IsCertificate certificate := by decide +kernel
  exact ⟨by decide, by decide, hcertificates⟩

end Sample

/-! ### Stored entries -/

variable {W : Type}

namespace StoredEntry

/-- A stored entry opens to one of its own kind. -/
theorem isKey_of_toEntry {stored : StoredEntry} {password : Password} {entry : Entry}
    (h : stored.toEntry password = .ok entry) : entry.isKey = stored.isKey := by
  cases stored with
  | key sealedKey chain createdAt =>
    obtain ⟨key, -, h⟩ := bind_eq_ok_iff.1 h
    obtain ⟨e, -, h⟩ := bind_eq_ok_iff.1 h
    obtain rfl := Except.ok.inj h
    rfl
  | trusted certificate createdAt =>
    obtain ⟨e, -, h⟩ := bind_eq_ok_iff.1 h
    obtain rfl := Except.ok.inj h
    rfl

/-- Every entry can be stored, and what is stored of a well-formed one opens to that. -/
theorem ofEntry_succeeds (entry : Entry) (password : Password) :
    (ofEntry entry password : Act W StoredEntry).Succeeds fun stored =>
      entry.WellFormed → stored.toEntry password = .ok entry := by
  unfold ofEntry
  refine .bind .now fun now _ => ?_
  cases entry with
  | key e =>
    refine .bind (Sealing.sealFresh_succeeds _ _) fun sealedKey hopen => .pure fun h => ?_
    rw [toEntry, hopen]
    exact bind_eq_ok_iff.2 ⟨e.key, rfl, bind_eq_ok_iff.2 ⟨e, KeyEntry.of_eq_ok_iff.2 ⟨rfl, h⟩, rfl⟩⟩
  | trusted e =>
    exact .pure fun h => bind_eq_ok_iff.2 ⟨e, TrustedEntry.of_eq_ok_iff.2 ⟨rfl, h⟩, rfl⟩

end StoredEntry

/-! ### Tables that are built entry by entry -/

namespace Table

variable {α β : Type}

theorem keys_map (f : α → β) (t : Table α) : (t.map f).keys = t.keys := by
  simp [map, keys, Function.comp_def]

/-- Values that an act makes one by one are found where those are that they were made of. -/
theorem foldlM_insert_returns {R : α → β → Prop} {f : α → Act W β} (hf : ∀ a, (f a).Returns (R a))
    {xs : List (String × α)} (hxs : xs.Pairwise fun x y => KeyBefore x.1 y.1) (t : Table β) :
    Act.Returns (xs.foldlM (fun t x => do return t.insert x.1 (← f x.2)) t) fun u =>
      ∀ key, match lookup key xs with
        | some a => ∃ b, u.find? key = some b ∧ R a b
        | none => u.find? key = t.find? key := by
  induction xs generalizing t with
  | nil => exact .pure fun key => rfl
  | cons x xs ih =>
    obtain ⟨hx, hxs⟩ := List.pairwise_cons.mp hxs
    rw [List.foldlM_cons]
    refine .bind (p := fun u => ∃ b, u = t.insert x.1 b ∧ R x.2 b)
      (.bind (hf x.2) fun b hb => .pure ⟨b, rfl, hb⟩) ?_
    rintro _ ⟨b, rfl, hb⟩
    refine (ih hxs _).imp fun u hu key => ?_
    have hkey := hu key
    rw [lookup]
    by_cases hk : key = x.1
    · -- no later key equals this one, so the value stays
      have hlater : lookup key xs = none :=
        lookup_eq_none fun y hy => by
          rw [hk]
          exact (hx y hy).ne.symm
      rw [hlater] at hkey
      rw [if_pos hk]
      refine ⟨b, ?_, hb⟩
      rw [hkey, find?_insert, if_pos hk]
    · rw [if_neg hk]
      rw [find?_insert, if_neg hk] at hkey
      exact hkey

/-- Values that are checked one by one are found where those are that they were made of. -/
theorem foldlM_insert_eq_ok {f : α → Except Error β} {xs : List (String × α)}
    (hxs : xs.Pairwise fun x y => KeyBefore x.1 y.1) {t u : Table β}
    (h : xs.foldlM (fun t x => do return t.insert x.1 (← f x.2)) t = .ok u) (key : String) :
    match lookup key xs with
    | some a => ∃ b, u.find? key = some b ∧ f a = .ok b
    | none => u.find? key = t.find? key := by
  have hlift : ∀ (t : Table β) (x : String × α),
      (do return t.insert x.1 (← (liftM (f x.2) : Act Unit β))) =
        (liftM (do return t.insert x.1 (← f x.2) : Except Error (Table β)) : Act Unit (Table β)) := by
    intro t x
    cases f x.2 <;> rfl
  have hreturns := foldlM_insert_returns (W := Unit) (f := fun a => liftM (f a))
    (fun a => .lift fun b hb => hb) hxs t
  simp only [hlift] at hreturns
  -- the session that the checks are lifted to does not matter
  have hrun := hreturns ⟨(), ⟨fun _ => 0, 0⟩, 0, []⟩
  rw [Act.Ensures, Act.foldlM_liftM_apply] at hrun
  exact hrun u h key

end Table

namespace Container

/-! ### Opening -/

/-- Opened with `password`, the container holds exactly the entries of a table. -/
def Opens (c : Container) (password : Password) (m : Table Entry) : Prop :=
  ∀ name, Option.Rel (fun stored entry => stored.toEntry password = .ok entry) (c.find? name)
    (m.find? name)

namespace Opens

variable {c : Container} {password : Password} {m : Table Entry}

theorem empty (password : Password) : Opens Table.empty password Table.empty := fun _ => .none

theorem insert (h : c.Opens password m) {stored : StoredEntry} {entry : Entry}
    (hstored : stored.toEntry password = .ok entry) (name : String) :
    Opens (Table.insert c name stored) password (m.insert name entry) := by
  intro k
  rw [Table.find?_insert, Table.find?_insert]
  split
  · exact .some hstored
  · exact h k

theorem erase (h : c.Opens password m) (name : String) :
    Opens (Table.erase c name) password (m.erase name) := by
  intro k
  rw [Table.find?_erase, Table.find?_erase]
  split
  · exact .none
  · exact h k

theorem of_some (h : c.Opens password m) {name : String} {stored : StoredEntry}
    (hname : c.find? name = some stored) :
    ∃ entry, m.find? name = some entry ∧ stored.toEntry password = .ok entry := by
  have hrel := h name
  rw [hname] at hrel
  generalize m.find? name = found at hrel
  cases hrel with
  | some hstored => exact ⟨_, rfl, hstored⟩

theorem of_none (h : c.Opens password m) {name : String} (hname : c.find? name = none) :
    m.find? name = none := by
  have hrel := h name
  rw [hname] at hrel
  generalize m.find? name = found at hrel
  cases hrel
  rfl

/-- Reading one entry gives what is in the table. -/
theorem entry?_eq (h : c.Opens password m) (name : String) :
    c.entry? name password = .ok (m.find? name) := by
  unfold entry?
  cases hname : c.find? name with
  | none => rw [h.of_none hname]
  | some stored =>
    obtain ⟨entry, hm, hstored⟩ := h.of_some hname
    change some <$> stored.toEntry password = .ok (m.find? name)
    rw [hm, hstored]
    rfl

theorem foldlM_toEntry (h : c.Opens password m) {xs : List (String × StoredEntry)}
    (hxs : ∀ x ∈ xs, x ∈ c.toList) (t : Table Entry) :
    ∃ u, xs.foldlM (fun t x => do return t.insert x.1 (← x.2.toEntry password)) t = .ok u ∧
      ∀ name, u.find? name = if name ∈ xs.map Prod.fst then m.find? name else t.find? name := by
  induction xs generalizing t with
  | nil => exact ⟨t, rfl, fun name => by simp⟩
  | cons x xs ih =>
    obtain ⟨hx, hxs⟩ := List.forall_mem_cons.mp hxs
    obtain ⟨entry, hm, hstored⟩ := h.of_some (Table.mem_toList_iff.mp hx)
    obtain ⟨u, hu, hfind⟩ := ih hxs (t.insert x.1 entry)
    refine ⟨u, ?_, fun name => ?_⟩
    · rw [List.foldlM_cons, hstored]
      exact hu
    · rw [hfind, Table.find?_insert, List.map_cons]
      by_cases hname : name = x.1
      · have hin : name ∈ x.1 :: xs.map Prod.fst := hname ▸ List.mem_cons_self
        rw [if_pos hin, if_pos hname, hname, hm, ite_self]
      · simp only [List.mem_cons, hname, false_or, if_false]

/-- Reading all entries gives the table. -/
theorem entries_eq (h : c.Opens password m) : c.entries password = .ok m := by
  obtain ⟨u, hu, hfind⟩ := h.foldlM_toEntry (fun x hx => hx) Table.empty
  have hum : u = m := by
    refine Table.ext_find? fun name => ?_
    rw [hfind]
    split
    · rfl
    · -- what is not in the list is not in the table either
      rename_i hname
      have hnone : c.find? name = none :=
        Table.lookup_eq_none fun x hx hne => hname (hne ▸ List.mem_map_of_mem hx)
      rw [h.of_none hnone, Table.find?_empty]
  rw [← hum]
  exact hu

/-- A container has the aliases of the table. -/
theorem aliases_eq (h : c.Opens password m) : c.aliases = m.keys := by
  have hsame : Table.map (fun _ => ()) c = Table.map (fun _ => ()) m := by
    refine Table.ext_find? fun name => ?_
    rw [Table.find?_map, Table.find?_map]
    have hrel := h name
    generalize c.find? name = stored, m.find? name = entry at hrel
    cases hrel <;> rfl
  rw [aliases, ← Table.keys_map (fun _ => ()) c, hsame, Table.keys_map]

/-- What is a private key in the container is one in the table. -/
theorem any_isKey_eq (h : c.Opens password m) (name : String) :
    (c.find? name).any StoredEntry.isKey = (m.find? name).any Entry.isKey := by
  have hrel := h name
  generalize c.find? name = stored, m.find? name = entry at hrel
  cases hrel with
  | none => rfl
  | some hstored => exact (StoredEntry.isKey_of_toEntry hstored).symm

end Opens

/-- Reading all entries gives the table that a container opens to, or fails. -/
theorem entries_eq_ok_iff {c : Container} {password : Password} {m : Table Entry} :
    c.entries password = .ok m ↔ c.Opens password m := by
  refine ⟨fun h name => ?_, Opens.entries_eq⟩
  have hname := Table.foldlM_insert_eq_ok (f := fun stored : StoredEntry => stored.toEntry password)
    c.ordered h name
  cases hc : c.find? name with
  | none =>
    rw [show Table.lookup name c.toList = none from hc] at hname
    rw [hname, Table.find?_empty]
    exact .none
  | some stored =>
    rw [show Table.lookup name c.toList = some stored from hc] at hname
    obtain ⟨entry, hm, hstored⟩ := hname
    rw [hm]
    exact .some hstored

end Container

end Keyring

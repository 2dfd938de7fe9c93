import Keyring.Proofs.Aliases
import Keyring.Proofs.ContainerFormat
import Keyring.Proofs.Pem
import Keyring.Proofs.Service.Command
import Keyring.Proofs.Service.Refinement

/-!
# Entries are well-formed wherever they come from

What is stored under an alias may have been written by anybody: a sealed key may be empty, a chain may
be empty, and certificates may be no certificates.  Every way to come by an entry looks at its parts
again.

* `StoredEntry.Holds` : the parts that a stored entry has under a password, well-formed or not; it opens
  just if the entry of these parts is well-formed (`StoredEntry.toEntry_eq_ok_iff`);
* `Obtained` : the ways to come by an entry.  It is opened in a container, loaded from texts, drawn, or
  in an answer of the service;
* `Obtained.wellFormed` : such an entry is well-formed, one case for each way;
* `Obtained.reopens` : hence its first certificate is there, and once stored it is read as it was.
-/

namespace Keyring

variable {W : Type}

/-! ### Stored entries -/

namespace StoredEntry

/-- The parts that a stored entry has under a password. -/
def Holds (password : Password) : StoredEntry → Entry → Prop
  | .key sealedKey chain _, .key e =>
    Sealing.openText sealedKey password.bytes = .ok e.key ∧ e.chain = chain
  | .trusted certificate _, .trusted e => e.certificate = certificate
  | _, _ => False

/-- A stored entry opens to the entry of its parts, just if that is well-formed. -/
theorem toEntry_eq_ok_iff {stored : StoredEntry} {password : Password} {e : Entry} :
    stored.toEntry password = .ok e ↔ stored.Holds password e ∧ e.WellFormed := by
  constructor
  · intro h
    cases stored with
    | key sealedKey chain createdAt =>
      obtain ⟨key, hopen, h⟩ := bind_eq_ok_iff.1 h
      obtain ⟨k, hk, h⟩ := bind_eq_ok_iff.1 h
      obtain rfl := Except.ok.inj h
      obtain ⟨rfl, hwell⟩ := KeyEntry.of_eq_ok_iff.1 hk
      exact ⟨⟨hopen, rfl⟩, hwell⟩
    | trusted certificate createdAt =>
      obtain ⟨t, ht, h⟩ := bind_eq_ok_iff.1 h
      obtain rfl := Except.ok.inj h
      obtain ⟨rfl, hwell⟩ := TrustedEntry.of_eq_ok_iff.1 ht
      exact ⟨rfl, hwell⟩
  · rintro ⟨hholds, hwell⟩
    match stored, e with
    | .key sealedKey chain createdAt, .key k =>
      obtain ⟨hopen, rfl⟩ := hholds
      have hk : KeyEntry.of k.key k.chain = .ok k := KeyEntry.of_eq_ok_iff.2 ⟨rfl, hwell⟩
      exact bind_eq_ok_iff.2 ⟨k.key, hopen, bind_eq_ok_iff.2 ⟨k, hk, rfl⟩⟩
    | .trusted certificate createdAt, .trusted t =>
      obtain rfl : t.certificate = certificate := hholds
      exact bind_eq_ok_iff.2 ⟨t, TrustedEntry.of_eq_ok_iff.2 ⟨rfl, hwell⟩, rfl⟩

end StoredEntry

/-! ### Containers -/

namespace Container

/-- Reading an alias gives the entry of what is stored there, just if that is well-formed. -/
theorem entry?_eq_some_iff {c : Container} {name : String} {password : Password} {e : Entry} :
    c.entry? name password = .ok (some e) ↔
      (∃ stored, c.find? name = some stored ∧ stored.Holds password e) ∧ e.WellFormed := by
  rw [ entry?]
  cases c.find? name with
  | none => simp
  | some stored =>
    have hmap : some <$> stored.toEntry password = .ok (some e) ↔ stored.toEntry password = .ok e := by
      cases stored.toEntry password <;> simp [Functor.map, Except.map]
    simp [hmap, StoredEntry.toEntry_eq_ok_iff]

/-- All entries of a table that a container opens to are well-formed. -/
theorem Opens.wellFormed {c : Container} {password : Password} {m : Table Entry}
    (h : c.Opens password m) {name : String} {e : Entry} (he : m.find? name = some e) :
    e.WellFormed := by
  have hread : c.entry? name password = .ok (some e) := he ▸ h.entry?_eq name
  exact (entry?_eq_some_iff.1 hread).2

/-- A well-formed entry that is put under an alias is read from there. -/
theorem set_opens (c : Container) (name : String) {e : Entry} (he : e.WellFormed)
    (password : Password) (s : Session W) :
    (c.set name e password).Ensures s fun r _ =>
      ∃ c', r = .ok (c', c.find? name) ∧ c'.entry? name password = .ok (some e) := by
  refine .bind (StoredEntry.ofEntry_succeeds e password s) (fun stored t hopen => ?_)
    fun _ _ h => h.elim
  refine ⟨c.insert name stored, rfl, ?_⟩
  rw [ entry?, Table.find?_insert, if_pos rfl]
  exact congrArg (some <$> ·) (hopen he)

end Container

/-! ### The ways to come by an entry -/

namespace Service

/-- An answer of the service has an entry in it. -/
def Answer.Has : Answer → Entry → Prop
  | .found e?, e => e? = some e
  | .all table, e => ∃ name, table.find? name = some e
  | .created k, e => e = .key k
  | _, _ => False

open Operation in
/-- Whatever the service is asked, the entries in its answer are well-formed. -/
theorem Command.wellFormed_run (c : Collaborators W) (command : Command) (st : State)
    (s : Session W) :
    (command.run c).Returns st s fun answer _ => ∀ e, answer.Has e → e.WellFormed := by
  cases command with
  | entry name =>
    refine .bind_pure (.bind_required fun name _ => .bind_loadedStore fun store _ => ?_)
    split
    · rintro _ ⟨⟩ e ⟨⟩
    · refine .bind_perform (.of_forall fun _ => trivial) fun password t _ => Ensures.lift ?_
      rintro _ hread e rfl
      exact (Container.entry?_eq_some_iff.1 hread).2
  | entries =>
    refine .bind_pure (.bind_loadedStore fun store _ => ?_)
    refine .bind_perform (.of_forall fun _ => trivial) fun password t _ => Ensures.lift ?_
    rintro m hread e ⟨name, he⟩
    exact (Container.entries_eq_ok_iff.1 hread).wellFormed he
  | createKeyPair name algorithm subject days =>
    refine .bind_pure ?_
    unfold Service.createKeyPair
    split
    · exact fun _ ha => by cases ha
    · refine ReadOnly.bind_returns (.map _ .loadedStore) fun _ t => ?_
      refine .bind_perform (Keys.keyPair_returns algorithm subject days) fun k u hk => .bind_pure ?_
      rintro _ - _ rfl
      exact hk
  | activate | reconfigure | close | isActive | store | aliases | keyManagers | request | setEntry
  | deleteEntry => exact .bind_pure fun _ _ e he => he.elim

end Service

/-- The ways to come by an entry. -/
inductive Obtained (W : Type) : Entry → Prop
  /-- In a container, whatever is stored there and whatever text that was read from. -/
  | opened {c : Container} {name : String} {password : Password} {e : Entry}
    (h : c.entry? name password = .ok (some e)) : Obtained W e
  /-- From the text of a private key and the text of its certificates. -/
  | loadedKey {keyText chainText : String} {k : KeyEntry}
    (h : Pem.keyEntry keyText chainText = .ok k) : Obtained W (.key k)
  /-- From the text of a certificate. -/
  | loadedTrusted {text : String} {t : TrustedEntry} (h : Pem.trustedEntry text = .ok t) :
    Obtained W (.trusted t)
  /-- By drawing a key and issuing a certificate for it. -/
  | drawn {algorithm : Keys.KeyAlgorithm} {subject : String} {days : Nat} {s : Session W}
    {k : KeyEntry} (h : (Keys.keyPair algorithm subject days s).1 = .ok k) : Obtained W (.key k)
  /-- In an answer of the service. -/
  | answered {c : Service.Collaborators W} {command : Service.Command} {st : Service.State}
    {s : Session W} {answer : Service.Answer} {e : Entry}
    (h : (command.run c st s).1.1 = .ok answer) (he : answer.Has e) : Obtained W e

namespace Obtained

/-- Every way to come by an entry checks its parts. -/
theorem wellFormed {e : Entry} (h : Obtained W e) : e.WellFormed := by
  cases h with
  | opened h => exact (Container.entry?_eq_some_iff.1 h).2
  | loadedKey h =>
    obtain ⟨key, -, h⟩ := bind_eq_ok_iff.1 h
    obtain ⟨chain, -, h⟩ := bind_eq_ok_iff.1 h
    exact (KeyEntry.of_eq_ok_iff.1 h).2
  | loadedTrusted h =>
    obtain ⟨certificate, -, h⟩ := bind_eq_ok_iff.1 h
    exact (TrustedEntry.of_eq_ok_iff.1 h).2
  | drawn h => exact Keys.keyPair_returns _ _ _ _ _ h
  | answered h he => exact Service.Command.wellFormed_run _ _ _ _ _ h _ he

end Obtained

/-- The certificate issued for the key of a well-formed entry is the first one, and not empty. -/
theorem KeyEntry.WellFormed.leaf {k : KeyEntry} (h : k.WellFormed) :
    k.chain.head? = some k.leaf ∧ k.leaf ≠ [] := by
  obtain ⟨-, hchain, hcertificates⟩ := h
  obtain ⟨der, ders, hcons⟩ := List.exists_cons_of_ne_nil hchain
  have hleaf : k.leaf = der := by rw [KeyEntry.leaf, hcons, List.headD_cons]
  have hder : IsCertificate der := hcertificates der (hcons ▸ List.mem_cons_self)
  rw [hleaf]
  refine ⟨by rw [hcons, List.head?_cons], ?_⟩
  rintro rfl
  exact not_isCertificate_nil hder

/-- **An entry is well-formed, however it was come by, and storing it keeps it.**  If it has a key, the
certificate issued for that is the first one of its chain.  Putting the entry under any alias of any
container does not fail, and what is then read there under the same password is that entry. -/
theorem Obtained.reopens {e : Entry} (h : Obtained W e) :
    e.WellFormed ∧
    (∀ k, e = .key k → k.chain.head? = some k.leaf ∧ k.leaf ≠ []) ∧
    ∀ (c : Container) (name : String) (password : Password) (s : Session W),
      ∃ c', (c.set name e password s).1 = .ok (c', c.find? name) ∧
        c'.entry? name password = .ok (some e) := by
  refine ⟨h.wellFormed, ?_, fun c name password s => c.set_opens name h.wellFormed password s⟩
  rintro k rfl
  exact h.wellFormed.leaf

/-! ### A container in which little is well-formed -/

namespace Mixed

def password : Password := ⟨"pw"⟩

def session : Session Unit := ⟨(), ⟨fun _ => 0, 0⟩, 0, []⟩

/-- A text sealed under the password, with a salt and a nonce of zeros. -/
def sealedText (text : Bytes) : Bytes :=
  Bytes.zeros 32 ++ Bytes.zeros 12 ++
    Crypto.Gcm.encrypt
      (Crypto.Argon2id.derive .default Sealing.keyLength password.bytes (Bytes.zeros 32))
      (Bytes.zeros 12) text

/-- A key of no bytes, a key without certificates, a certificate that is none, and the sample. -/
def container : Container :=
  (((Table.empty.insert "keyless" (.key (sealedText []) Sample.entry.chain 1)).insert "bare"
    (.key (sealedText Sample.entry.key) [] 2)).insert "garbage" (.trusted [0x30, 0x00] 3)).insert
      "gateway" (.key (sealedText Sample.entry.key) Sample.entry.chain 4)

theorem opens_sealedText (text : Bytes) :
    Sealing.openText (sealedText text) password.bytes = .ok text :=
  Sealing.openText_of_sealText (by decide) (Sealing.sealText_eq _ _ _ (by decide))

/-- What is read of a sealed text and a chain. -/
theorem entry?_key {name : String} {text : Bytes} {chain : List Bytes} {createdAt : UInt64}
    (h : container.find? name = some (.key (sealedText text) chain createdAt)) :
    container.entry? name password = (some ∘ Entry.key) <$> KeyEntry.of text chain := by
  rw [Container.entry?, h]
  dsimp only
  rw [StoredEntry.toEntry, opens_sealedText]
  change some <$> (KeyEntry.of text chain >>= fun e => pure (Entry.key e)) = _
  cases KeyEntry.of text chain <;> rfl

theorem entry?_gateway : container.entry? "gateway" password = .ok (some (.key Sample.entry)) := by
  have hfind : container.find? "gateway" =
      some (.key (sealedText Sample.entry.key) Sample.entry.chain 4) := by
    simp [container, Table.find?_insert]
  have hof : KeyEntry.of Sample.entry.key Sample.entry.chain = .ok Sample.entry :=
    KeyEntry.of_eq_ok_iff.2 ⟨rfl, Sample.wellFormed_entry⟩
  rw [entry?_key hfind, hof]
  rfl

end Mixed

open Mixed in
/-- A container with a key of no bytes, a key without certificates and a certificate that is none is read
from its written form.  Each of the three is refused, and the entry beside them is handed out and may be
put in the place of one of them. -/
theorem Obtained.reopens_mixed :
    Container.parse container.toJson = .ok container ∧
    container.entry? "keyless" password =
      .error (.invalidArgument "Private key cannot be empty") ∧
    container.entry? "bare" password =
      .error (.invalidArgument "Certificate chain cannot be empty") ∧
    container.entry? "garbage" password = .error (.certificate "Invalid X.509 certificate") ∧
    container.entry? "gateway" password = .ok (some (.key Sample.entry)) ∧
    Sample.entry.WellFormed ∧
    Sample.entry.chain.head? = some Sample.entry.leaf ∧ Sample.entry.leaf ≠ [] ∧
    ∃ c', (container.set "bare" (.key Sample.entry) password session).1 =
        .ok (c', container.find? "bare") ∧
      c'.entry? "bare" password = .ok (some (.key Sample.entry)) := by
  obtain ⟨hwell, hleaf, hset⟩ := Obtained.reopens (W := Unit) (.opened entry?_gateway)
  obtain ⟨hhead, hne⟩ := hleaf Sample.entry rfl
  refine ⟨Container.parse_toJson container, ?_, ?_, ?_, entry?_gateway, hwell, hhead, hne,
    hset container "bare" password session⟩
  · have hfind : container.find? "keyless" =
        some (.key (sealedText []) Sample.entry.chain 1) := by
      simp [container, Table.find?_insert]
    rw [entry?_key hfind]
    rfl
  · have hfind : container.find? "bare" = some (.key (sealedText Sample.entry.key) [] 2) := by
      simp [container, Table.find?_insert]
    rw [entry?_key hfind]
    rfl
  · have hfind : container.find? "garbage" = some (.trusted [0x30, 0x00] 3) := by
      simp [container, Table.find?_insert]
    rw [Container.entry?, hfind]
    rfl

end Keyring

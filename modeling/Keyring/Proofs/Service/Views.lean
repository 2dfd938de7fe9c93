import Keyring.Proofs.Issuance
import Keyring.Proofs.Reprotection
import Keyring.Proofs.Service.Deletion
import Keyring.Proofs.Tls.KeyManager

/-!
# The views of a store agree

Each way to look at a store opens the container anew.  `Shows c store m s` : asked in the session `s`,
all of them tell of the entries of the table `m`.

* `Tls.Manager.ofContainer_opens` : the key managers of a container that opens to a table, in terms of
  the table;
* `Keys.blames_request` : what a request for a certificate fails with where there is a key, so that it
  is not taken for a missing one (`X509.SubjectFault.text_ne`);
* `shows_of_entries` : where reading all entries gives a table, that table is shown by every view, at
  any time, provided that the cipher gives the same answer each time.

A table that is read is what the container opens to (`Container.entries_eq_ok_iff`), and from there each
view is one lemma about such containers.
-/

namespace Keyring

variable {W : Type}

/-! ### Key managers -/

namespace Tls.Manager

variable {K : Type} {signers : Signers K} {c : Container} {password : Password} {m : Table Entry}

/-- A manager holds the private keys of a table: its aliases are those of the private keys, in the order
of the table, and under each is the key of the entry with the certificates of the entry. -/
structure Presents (signers : Signers K) (manager : Manager K) (m : Table Entry) : Prop where
  aliases : manager.aliases = m.keys.filter fun name => (m.find? name).any Entry.isKey
  find?_eq_some_iff : ∀ name k, manager.find? name = some k ↔
    ∃ e, m.find? name = some (.key e) ∧ k.chain = e.chain ∧ signers.read? e.key = some k.key

/-- Every private key of a table is supported. -/
def Supports (signers : Signers K) (m : Table Entry) : Prop :=
  ∀ name e, m.find? name = some (.key e) → ∃ key, signers.read? e.key = some key

theorem certifies_iff (h : c.Opens password m) {name : String} {k : Certified K} :
    Certifies signers c password name k ↔
      ∃ e, m.find? name = some (.key e) ∧ k.chain = e.chain ∧ signers.read? e.key = some k.key := by
  simp only [Certifies, h.entry?_eq, Except.ok.injEq]

/-- A container that opens to a table makes one key manager, with the private keys of the table, just if
all of them are supported. -/
theorem ofContainer_opens (h : c.Opens password m) {algorithm : String} {a : ManagerAlgorithm}
    (ha : ManagerAlgorithm.ofName algorithm = .ok a) (s : Session W) :
    ((∃ managers, (ofContainer signers c password algorithm s).1 = .ok managers) ↔
      Supports signers m) ∧
    ∀ managers, (ofContainer signers c password algorithm s).1 = .ok managers →
      ∃ manager, managers = [manager] ∧ manager.Presents signers m := by
  have hspec := certifiedKeys_spec signers password fun x (hx : x ∈ c.toList) =>
    Table.mem_toList_iff.1 hx
  rw [ofContainer_apply ha]
  cases hkeys : certifiedKeys signers password c.toList with
  | error e =>
    rw [hkeys] at hspec
    obtain ⟨before, x, after, -, -, hx⟩ := hspec
    refine ⟨iff_of_false ?_ fun hsupports => ?_, ?_⟩
    · rintro ⟨managers, hmanagers⟩
      cases hmanagers
    · -- every entry opens, so only an unsupported key is left to blame
      refine hx.not_usable ⟨⟨_, h.entry?_eq x.1⟩, fun e he => ?_⟩
      rw [h.entry?_eq] at he
      exact hsupports x.1 e (Except.ok.inj he)
    · rintro managers ⟨⟩
  | ok keys =>
    rw [hkeys] at hspec
    obtain ⟨husable, hnames, hmem⟩ := hspec
    refine ⟨iff_of_true ⟨_, rfl⟩ fun name e he => ?_, ?_⟩
    · refine (usable_of_forall_mem husable name).supported e ?_
      rw [h.entry?_eq, he]
    · rintro _ ⟨⟩
      have haliases := hnames.trans (aliases_filter_isKey c)
      have hordered : Ordered ⟨a, keys⟩ := ordered_of_aliases haliases
      refine ⟨⟨a, keys⟩, rfl, ?_, fun name k => ?_⟩
      · rw [← h.aliases_eq]
        refine haliases.trans (List.filter_congr fun name _ => h.any_isKey_eq name)
      · rw [hordered.find?_eq_some_iff, hmem, ← certifies_iff h]
        exact and_iff_right_of_imp fun hk => Table.mem_keys_iff.2 hk.find?

end Tls.Manager

/-! ### Requests -/

theorem Text.head?_append {s : String} {c : Char} (h : s.toList.head? = some c) (t : String) :
    (s ++ t).toList.head? = some c := by
  rw [String.toList_append, List.head?_append, h]
  rfl

theorem Service.head?_noEntry (name : String) :
    ("No entry under alias '" ++ name ++ "'").toList.head? = some 'N' :=
  Text.head?_append (Text.head?_append (by decide) name) _

theorem Service.head?_noKey (name : String) :
    ("Entry '" ++ name ++ "' is not a private key entry").toList.head? = some 'E' :=
  Text.head?_append (Text.head?_append (by decide) name) _

/-- An alias without an entry and one without a key are told apart. -/
theorem Service.noEntry_ne_noKey (name : String) :
    "No entry under alias '" ++ name ++ "'" ≠ "Entry '" ++ name ++ "' is not a private key entry" := by
  intro h
  have hhead := head?_noEntry name
  rw [h, head?_noKey] at hhead
  cases hhead

/-- No fault of a subject reads like what is said of an alias without a key. -/
theorem X509.SubjectFault.text_ne (fault : SubjectFault) (name : String) :
    fault.text ≠ "No entry under alias '" ++ name ++ "'" ∧
      fault.text ≠ "Entry '" ++ name ++ "' is not a private key entry" := by
  -- the first letters are enough to tell them apart
  have hfault : ∃ c, fault.text.toList.head? = some c ∧ c ≠ 'N' ∧ c ≠ 'E' := by
    cases fault with
    | empty => exact ⟨'S', by decide, by decide, by decide⟩
    | noEquals piece => exact ⟨'I', Text.head?_append (by decide) piece, by decide, by decide⟩
    | unknownType name => exact ⟨'U', Text.head?_append (by decide) name, by decide, by decide⟩
    | noValue name =>
      exact ⟨'S', Text.head?_append (Text.head?_append (by decide) name) _, by decide, by decide⟩
  obtain ⟨c, hc, hn, he⟩ := hfault
  constructor
  · intro h
    rw [h, Service.head?_noEntry] at hc
    exact hn (Option.some.inj hc).symm
  · intro h
    rw [h, Service.head?_noKey] at hc
    exact he (Option.some.inj hc).symm

namespace Keys

/-- A request for the key of an entry fails over its subject or over the key itself. -/
theorem blames_request (entry : KeyEntry) (subject : String) :
    (request entry subject : Act W Request).Blames fun e =>
      (∃ fault : X509.SubjectFault, e = .invalidArgument fault.text) ∨ e.kind = .certificate := by
  unfold request
  exact .bind (.lift fun e he => .inl (ofArgument_eq_error he)) fun subject =>
    .bind (blames_orFail _ _ (.inr rfl)) fun key => .bind (PrivateKey.blames_sign _ _) fun signed =>
      .bind (blames_orFail _ _ (.inr rfl)) fun signature => .pure _

/-- A request for the key of an entry is not refused as one for an alias without a key. -/
theorem blames_request_of_key (entry : KeyEntry) (subject name : String) :
    (request entry subject : Act W Request).Blames fun e =>
      e ≠ .invalidArgument ("No entry under alias '" ++ name ++ "'") ∧
        e ≠ .invalidArgument ("Entry '" ++ name ++ "' is not a private key entry") := by
  refine (blames_request entry subject).imp ?_
  rintro e (⟨fault, rfl⟩ | hkind)
  · obtain ⟨hmissing, hnokey⟩ := fault.text_ne name
    exact ⟨fun h => hmissing (Error.invalidArgument.inj h), fun h => hnokey (Error.invalidArgument.inj h)⟩
  · constructor
    · rintro rfl
      cases hkind
    · rintro rfl
      cases hkind

end Keys

/-! ### Views -/

/-- A cipher that gives the same answer each time. -/
def Cipher.Deterministic (cipher : Cipher W) : Prop :=
  ∀ secret s t, (cipher.decrypt secret s).1 = (cipher.decrypt secret t).1

theorem Act.mapError_fst {α : Type} (f : Error → Error) (act : Act W α) (s : Session W) :
    (Act.mapError f act s).1 = (act s).1.mapError f := by
  rw [Act.mapError, Act.tryCatch_apply]
  rcases act s with ⟨_ | _, t⟩ <;> rfl

namespace Service

section

variable {c : Collaborators W} {store : LoadedStore} {m : Table Entry}

/-- What an operation answers while a store is served. -/
def LoadedStore.answer {α : Type} (store : LoadedStore) (op : Operation W α) (s : Session W) :
    Except Error α :=
  (op (.loaded store) s).1.1

/-- An act that succeeds, and then an operation in the same state. -/
theorem Operation.Ensures.bind_perform_ok {α β : Type} {act : Act W α} {a : α} {st : State}
    {s : Session W} {f : α → Operation W β} {q : Except Error β → State → Session W → Prop}
    (h : (act s).1 = .ok a) (hf : ∀ t, (f a).Ensures st t q) :
    Ensures (Service.perform act >>= f) st s q := by
  refine bind_perform (p := fun r _ => r = .ok a) h ?_ ?_
  · rintro _ t ⟨⟩
    exact hf t
  · rintro _ t ⟨⟩

/-- Asked in a session, all the ways to look at a store tell of the entries of a table. -/
structure Shows (c : Collaborators W) (store : LoadedStore) (m : Table Entry) (s : Session W) :
    Prop where
  ordered : m.keys.Pairwise KeyBefore
  aliases : store.answer aliases s = .ok m.keys
  container : ∃ container, store.answer Service.store s = .ok container ∧ container.aliases = m.keys
  entry (name : String) (hname : name ≠ "") :
    store.answer ( entry? c (some name)) s = .ok (m.find? name)
  keyManagers (algorithm : String) (a : Tls.ManagerAlgorithm)
    (ha : Tls.ManagerAlgorithm.ofName algorithm = .ok a) :
    ((∃ managers, store.answer (Service.keyManagers c (some algorithm)) s = .ok managers) ↔
      Tls.Manager.Supports .pkcs8 m) ∧
    ∀ managers, store.answer (Service.keyManagers c (some algorithm)) s = .ok managers →
      ∃ manager, managers = [manager] ∧ manager.Presents .pkcs8 m
  missing (name subject : String) (hname : name ≠ "") :
    store.answer (request c name subject) s =
        .error (.invalidArgument ("No entry under alias '" ++ name ++ "'")) ↔
      m.find? name = none
  noKey (name subject : String) (hname : name ≠ "") :
    store.answer (request c name subject) s =
        .error (.invalidArgument ("Entry '" ++ name ++ "' is not a private key entry")) ↔
      ∃ e, m.find? name = some (.trusted e)

/-- What is read with success was read under the password of the options, which is the same at any
other time. -/
theorem opens_of_entries (hc : c.cipher.Deterministic) {s : Session W}
    (h : store.answer (entries c) s = .ok m) :
    ∃ password, (∀ t, (plainPassword c store.options t).1 = .ok password) ∧
      store.container.Opens password m := by
  have hpassword : ∀ t, (plainPassword c store.options t).1 = (plainPassword c store.options s).1 := by
    intro t
    rw [plainPassword, Act.mapError_fst, Act.mapError_fst, hc store.options.password t s]
  -- the password is found in the session that the reading starts in, before anything else is done
  have hread : (entries c).Ensures (.loaded store) s fun r _ _ => ∀ m, r = .ok m →
      ∃ password, (plainPassword c store.options s).1 = .ok password ∧
        store.container.entries password = .ok m := by
    refine .bind_loaded (.bind_perform (p := fun r _ => (plainPassword c store.options s).1 = r) rfl
      (fun password t hok => .lift fun m hm => ⟨password, hok, hm⟩) fun e t _ m hm => ?_)
    cases hm
  obtain ⟨password, hok, hentries⟩ := hread m h
  exact ⟨password, fun t => (hpassword t).trans hok, Container.entries_eq_ok_iff.1 hentries⟩

section

variable {password : Password} (hopens : store.container.Opens password m)
  (hpassword : ∀ t, (plainPassword c store.options t).1 = .ok password)
include hopens hpassword

theorem answer_entries (s : Session W) : store.answer (entries c) s = .ok m := by
  have hentries : (entries c).Ensures (.loaded store) s fun r _ _ => r = .ok m :=
    .bind_loaded (.bind_perform_ok (hpassword s) fun t => .lift hopens.entries_eq)
  exact hentries

theorem answer_entry {name : String} (hname : name ≠ "") (s : Session W) :
    store.answer ( entry? c (some name)) s = .ok (m.find? name) := by
  have hentry : Operation.Ensures ( entry? c (some name)) (.loaded store) s fun r _ _ =>
      r = .ok (m.find? name) := by
    unfold entry?
    refine .bind_given (.bind_loaded ?_)
    rw [if_neg (by simpa using hname)]
    exact .bind_perform_ok (hpassword s) fun t => .lift (hopens.entry?_eq name)
  exact hentry

theorem answer_keyManagers {algorithm : String} {a : Tls.ManagerAlgorithm}
    (ha : Tls.ManagerAlgorithm.ofName algorithm = .ok a) (s : Session W) :
    ((∃ managers, store.answer (keyManagers c (some algorithm)) s = .ok managers) ↔
      Tls.Manager.Supports .pkcs8 m) ∧
    ∀ managers, store.answer (keyManagers c (some algorithm)) s = .ok managers →
      ∃ manager, managers = [manager] ∧ manager.Presents .pkcs8 m := by
  have hmanagers : (keyManagers c (some algorithm)).Ensures (.loaded store) s fun r _ _ =>
      ((∃ managers, r = .ok managers) ↔ Tls.Manager.Supports .pkcs8 m) ∧
      ∀ managers, r = .ok managers →
        ∃ manager, managers = [manager] ∧ manager.Presents .pkcs8 m := by
    unfold keyManagers
    refine .bind_given (.bind_loaded (.bind_perform_ok (hpassword s) fun t => .perform ?_))
    exact Tls.Manager.ofContainer_opens hopens ha t
  exact hmanagers

/-- A request is refused for the alias just if the table has no private key under it. -/
theorem answer_request {name : String} (hname : name ≠ "") (subject : String) (s : Session W) :
    (store.answer (request c name subject) s =
        .error (.invalidArgument ("No entry under alias '" ++ name ++ "'")) ↔
      m.find? name = none) ∧
    (store.answer (request c name subject) s =
        .error (.invalidArgument ("Entry '" ++ name ++ "' is not a private key entry")) ↔
      ∃ e, m.find? name = some (.trusted e)) := by
  have hrequest : (request c name subject).Ensures (.loaded store) s fun r _ _ =>
      (r = .error (.invalidArgument ("No entry under alias '" ++ name ++ "'")) ↔
        m.find? name = none) ∧
      (r = .error (.invalidArgument ("Entry '" ++ name ++ "' is not a private key entry")) ↔
        ∃ e, m.find? name = some (.trusted e)) := by
    unfold request
    refine .bind (p := fun r _ _ => r = .ok (m.find? name))
      (answer_entry hopens hpassword hname s) ?_ ?_
    · rintro _ st t ⟨⟩
      rcases m.find? name with _ | e | e
      · refine ⟨iff_of_true rfl rfl, iff_of_false ?_ (by simp)⟩
        intro h
        exact noEntry_ne_noKey name (Error.invalidArgument.inj (Except.error.inj h))
      · -- with a key the request may still fail, but not in these words
        refine .perform ((Keys.blames_request_of_key e subject name t).imp fun r u hr => ⟨?_, ?_⟩)
        · exact iff_of_false (fun h => (hr _ h).1 rfl) (by simp)
        · exact iff_of_false (fun h => (hr _ h).2 rfl) (by simp)
      · refine ⟨iff_of_false ?_ (by simp), iff_of_true rfl ⟨e, rfl⟩⟩
        intro h
        exact noEntry_ne_noKey name (Error.invalidArgument.inj (Except.error.inj h)).symm
    · rintro _ _ _ ⟨⟩
  exact hrequest

end

/-- **The views of a store agree.**  Whatever container is served: if reading all entries once gives a
table, then at any time the aliases are those of the table in increasing order, every entry is read as
the table has it, key managers are made unless a private key of the table is not supported, and then
hold just the private keys of the table, and a request is refused for its alias just if the table has no
private key there. -/
theorem shows_of_entries (hc : c.cipher.Deterministic) {s : Session W}
    (h : store.answer (entries c) s = .ok m) (t : Session W) : Shows c store m t := by
  obtain ⟨password, hpassword, hopens⟩ := opens_of_entries hc h
  have haliases : store.container.aliases = m.keys := hopens.aliases_eq
  exact
    { ordered := m.ordered_keys
      aliases := congrArg Except.ok haliases
      container := ⟨store.container, rfl, haliases⟩
      entry := fun name hname => answer_entry hopens hpassword hname t
      keyManagers := fun algorithm a ha => answer_keyManagers hopens hpassword ha t
      missing := fun name subject hname => (answer_request hopens hpassword hname subject t).1
      noKey := fun name subject hname => (answer_request hopens hpassword hname subject t).2 }

end

/-! ### A certificate and two keys -/

namespace Trial

open Tls.Manager.Trial

/-- What the sample container opens to. -/
def table : Table Entry :=
  ((Table.empty.insert "c" (.key Sample.entry)).insert "b" (.key Sample.entry)).insert "a"
    (.trusted ⟨Sample.certificate 1⟩)

theorem opens_table : container.Opens password table := opens

theorem supports_table : Tls.Manager.Supports .pkcs8 table := by
  intro name e he
  refine ⟨key.key, ?_⟩
  have hentry : container.entry? name password = .ok (some (.key e)) := by
    rw [opens_table.entry?_eq, he]
  rw [(eq_of_key hentry).2]
  exact read?_key

end Trial

open Tls.Manager.Trial in
/-- A certificate and two keys, served in memory: one manager lists the keys, and the certificate and an
unknown alias are told apart. -/
theorem shows_of_entries_trial :
    let store := InMemory.store container
    let s := InMemory.session container
    store.answer (aliases : Operation Stores _) s = .ok ["a", "b", "c"] ∧
      (∃ manager : Tls.KeyManager,
        store.answer (keyManagers InMemory.collaborators (some "")) s = .ok [manager] ∧
          manager.aliases = ["b", "c"]) ∧
      store.answer (request InMemory.collaborators "a" "") s =
        .error (.invalidArgument "Entry 'a' is not a private key entry") ∧
      store.answer (request InMemory.collaborators "d" "") s =
        .error (.invalidArgument "No entry under alias 'd'") := by
  intro store s
  have hdeterministic : InMemory.collaborators.cipher.Deterministic := fun _ _ _ => rfl
  have hpassword : ∀ t, (plainPassword InMemory.collaborators store.options t).1 = .ok password :=
    fun _ => rfl
  have hentries : store.answer (entries InMemory.collaborators) s = .ok Trial.table :=
    answer_entries Trial.opens_table hpassword s
  have hshows := shows_of_entries hdeterministic hentries s
  have halgorithm : Tls.ManagerAlgorithm.ofName "" = .ok .pkix := by rfl
  have hkeys : Trial.table.keys = ["a", "b", "c"] := by decide +kernel
  obtain ⟨hmanagers, hmanager⟩ := hshows.keyManagers "" .pkix halgorithm
  obtain ⟨managers, hmade⟩ := hmanagers.2 Trial.supports_table
  obtain ⟨manager, rfl, hpresents⟩ := hmanager managers hmade
  have hfilter : (Trial.table.keys.filter fun name => (Trial.table.find? name).any Entry.isKey) =
      ["b", "c"] := by
    decide +kernel
  refine ⟨hshows.aliases.trans (congrArg Except.ok hkeys),
    ⟨manager, hmade, hpresents.aliases.trans hfilter⟩,
    (hshows.noKey "a" "" (by decide)).2 ⟨⟨Sample.certificate 1⟩, by decide +kernel⟩,
    (hshows.missing "d" "" (by decide)).2 (by decide +kernel)⟩

end Service

end Keyring

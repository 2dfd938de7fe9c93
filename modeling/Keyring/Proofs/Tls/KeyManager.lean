import Keyring.Proofs.Container
import Keyring.Tls.KeyManager

/-!
# What key managers hold and pick

`Manager.ofContainer_exact` : a container makes a key manager just if each of its entries opens and
each of its private keys is supported, and that manager holds these keys and no others.  It is put
together from

* `Manager.certifiedKeys_spec` : the keys of a list of entries, or the first entry that cannot be used;
* `Manager.picks_first?` : what is found first among ordered keys is the fitting key with the least
  alias (`Manager.Picks`);
* `Manager.PicksLeast.of_picks` : whoever picks that key is indifferent to the order in which schemes
  are offered and to repetitions, and picks no later one when more of them are.

Which keys are supported, and for which schemes, is left open: the statements hold for all `Signers`.
-/

namespace Keyring

namespace Tls

variable {K W : Type} {signers : Signers K}

/-! ### Picking a key -/

namespace Certified

variable {k : Certified K} {offered offered' : List Nat}

/-- A key can be used with one of the schemes that are offered. -/
def Meets (signers : Signers K) (k : Certified K) (offered : List Nat) : Prop :=
  ∃ scheme ∈ offered, scheme ∈ signers.schemes k.key

theorem fits_iff : k.fits signers offered = true ↔ k.Meets signers offered := by
  simp [fits, Meets]

theorem Meets.mono (h : k.Meets signers offered) (hsub : offered ⊆ offered') :
    k.Meets signers offered' := by
  obtain ⟨scheme, hoffered, hscheme⟩ := h
  exact ⟨scheme, hsub hoffered, hscheme⟩

end Certified

namespace Manager

variable {m : Manager K} {offered offered' : List Nat}

/-- The keys stand in the order of their aliases, one under each. -/
def Ordered (m : Manager K) : Prop := m.keys.Pairwise fun x y => KeyBefore x.1 y.1

theorem Ordered.find?_eq_some_iff (hm : m.Ordered) {name : String} {k : Certified K} :
    m.find? name = some k ↔ (name, k) ∈ m.keys := by
  rw [find?, Table.lookup_eq]
  exact ⟨Table.mem_of_lookup, fun h => Table.lookup_of_mem hm h⟩

/-- What is to be picked for some schemes: the key under the least of the aliases whose keys can be
used with one of them, or nothing if there is none. -/
def Picks (signers : Signers K) (m : Manager K) (offered : List Nat) :
    Option (String × Certified K) → Prop
  | none => ∀ name k, m.find? name = some k → ¬ k.Meets signers offered
  | some (name, k) => m.find? name = some k ∧ k.Meets signers offered ∧
      ∀ earlier k', KeyBefore earlier name → m.find? earlier = some k' → ¬ k'.Meets signers offered

/-- The first of the ordered keys that fits is the one to be picked. -/
theorem picks_first? (hm : m.Ordered) (offered : List Nat) :
    m.Picks signers offered (m.first? signers offered) := by
  cases hfirst : m.first? signers offered with
  | none =>
    intro name k hk hmeets
    have hnot := List.find?_eq_none.1 hfirst (name, k) (hm.find?_eq_some_iff.1 hk)
    exact hnot (Certified.fits_iff.2 hmeets)
  | some found =>
    obtain ⟨name, k⟩ := found
    obtain ⟨hfits, before, after, hkeys, hbefore⟩ := List.find?_eq_some_iff_append.1 hfirst
    have hmem : (name, k) ∈ m.keys := hkeys ▸ List.mem_append_cons_self
    refine ⟨hm.find?_eq_some_iff.2 hmem, Certified.fits_iff.1 hfits, ?_⟩
    intro earlier k' hearlier hk' hmeets
    have hmem' := hm.find?_eq_some_iff.1 hk'
    rw [Ordered, hkeys] at hm
    rw [hkeys] at hmem'
    have hnot := hbefore _ (Table.mem_of_keyBefore hm hmem' hearlier)
    simp [Certified.fits_iff.2 hmeets] at hnot

namespace Picks

variable {r r' : Option (String × Certified K)}

/-- Only one thing is to be picked. -/
theorem unique (h : m.Picks signers offered r) (h' : m.Picks signers offered r') : r = r' := by
  match r, r', h, h' with
  | none, none, _, _ => rfl
  | none, some (name, k), h, ⟨hk, hmeets, _⟩ => exact absurd hmeets (h name k hk)
  | some (name, k), none, ⟨hk, hmeets, _⟩, h' => exact absurd hmeets (h' name k hk)
  | some (name, k), some (name', k'), ⟨hk, hmeets, hleast⟩, ⟨hk', hmeets', hleast'⟩ =>
    -- neither alias comes before the other one
    obtain rfl : name = name' := KeyBefore.eq_of_not
      (fun hlt => hleast' name k hlt hk hmeets) (fun hlt => hleast name' k' hlt hk' hmeets')
    rw [hk] at hk'
    rw [Option.some.inj hk']

theorem congr (h : m.Picks signers offered r) (hsub : offered ⊆ offered')
    (hsub' : offered' ⊆ offered) : m.Picks signers offered' r := by
  match r, h with
  | none, h => exact fun name k hk hmeets => h name k hk (hmeets.mono hsub')
  | some (name, k), ⟨hk, hmeets, hleast⟩ =>
    exact ⟨hk, hmeets.mono hsub, fun earlier k' hlt hk' hmeets' =>
      hleast earlier k' hlt hk' (hmeets'.mono hsub')⟩

/-- Where more is offered something is still picked, and from no later alias. -/
theorem mono {name : String} {k : Certified K} (h : m.Picks signers offered (some (name, k)))
    (h' : m.Picks signers offered' r') (hsub : offered ⊆ offered') :
    ∃ name' k', r' = some (name', k') ∧ ¬ KeyBefore name name' := by
  obtain ⟨hk, hmeets, -⟩ := h
  match r', h' with
  | none, h' => exact absurd (hmeets.mono hsub) (h' name k hk)
  | some (name', k'), ⟨_, _, hleast⟩ =>
    exact ⟨name', k', rfl, fun hlt => hleast name k hlt hk (hmeets.mono hsub)⟩

end Picks

/-- A way to pick keys of a manager that never fails and always picks the one that is to be picked.
Neither the order nor repetitions among the schemes matter to it, and if more of them are offered, it
picks from no later alias. -/
structure PicksLeast (signers : Signers K) (m : Manager K)
    (pick : List Nat → Act W (Option (String × Certified K))) : Prop where
  picks : ∀ offered s, ∃ r, (pick offered s).1 = .ok r ∧ m.Picks signers offered r
  members : ∀ offered offered', (∀ scheme, scheme ∈ offered ↔ scheme ∈ offered') →
    ∀ s t, (pick offered s).1 = (pick offered' t).1
  more : ∀ offered offered', offered ⊆ offered' → ∀ s t name k,
    (pick offered s).1 = .ok (some (name, k)) →
    ∃ name' k', (pick offered' t).1 = .ok (some (name', k')) ∧ ¬ KeyBefore name name'

theorem PicksLeast.of_picks {pick : List Nat → Act W (Option (String × Certified K))}
    (h : ∀ offered s, ∃ r, (pick offered s).1 = .ok r ∧ m.Picks signers offered r) :
    m.PicksLeast signers pick where
  picks := h
  members offered offered' hmembers s t := by
    obtain ⟨r, hr, hpicks⟩ := h offered s
    obtain ⟨r', hr', hpicks'⟩ := h offered' t
    have hsub : offered ⊆ offered' := fun scheme => (hmembers scheme).1
    have hsub' : offered' ⊆ offered := fun scheme => (hmembers scheme).2
    rw [hr, hr', (hpicks.congr hsub hsub').unique hpicks']
  more offered offered' hsub s t name k hk := by
    obtain ⟨r, hr, hpicks⟩ := h offered s
    obtain ⟨r', hr', hpicks'⟩ := h offered' t
    obtain rfl : r = some (name, k) := Except.ok.inj (hr.symm.trans hk)
    obtain ⟨name', k', rfl, hnot⟩ := hpicks.mono hpicks' hsub
    exact ⟨name', k', hr', hnot⟩

theorem choose_apply (m : Manager K) (offered : List Nat) (s : Session W) :
    (m.choose signers offered s).1 = .ok (m.first? signers offered) := by
  rw [choose]
  cases m.first? signers offered with
  | none => rfl
  | some found => rfl

theorem picksLeast_choose (hm : m.Ordered) :
    m.PicksLeast signers (m.choose signers : List Nat → Act W _) :=
  .of_picks fun offered s => ⟨_, choose_apply m offered s, picks_first? hm offered⟩

/-! ### Holding the keys of a container -/

section

variable {c : Container} {password : Password} {name : String}

/-- The entry under an alias opens, and if it holds a private key, that one is supported. -/
structure Usable (signers : Signers K) (c : Container) (password : Password) (name : String) :
    Prop where
  opens : ∃ entry, c.entry? name password = .ok entry
  supported : ∀ e, c.entry? name password = .ok (some (.key e)) →
    ∃ key, signers.read? e.key = some key

/-- Why the entry under an alias cannot be used: it does not open, or its private key is not
supported. -/
inductive Offends (signers : Signers K) (c : Container) (password : Password) (name : String) :
    Error → Prop where
  | shut {e : Error} (h : c.entry? name password = .error e) :
    Offends signers c password name
      (.keyManagerInit ("Cannot open entry '" ++ name ++ "': " ++ e.text))
  | unsupported {e : KeyEntry} (h : c.entry? name password = .ok (some (.key e)))
      (hkey : signers.read? e.key = none) :
    Offends signers c password name
      (.keyManagerInit ("Unsupported private key under '" ++ name ++
        "': unexpected error: failed to parse private key as RSA, ECDSA, or EdDSA"))

/-- A key with its certificates is that of the entry under an alias. -/
def Certifies (signers : Signers K) (c : Container) (password : Password) (name : String)
    (k : Certified K) : Prop :=
  ∃ e, c.entry? name password = .ok (some (.key e)) ∧ k.chain = e.chain ∧
    signers.read? e.key = some k.key

/-- There is an entry under the alias of a key. -/
theorem Certifies.find? {k : Certified K} (h : Certifies signers c password name k) :
    ∃ stored, c.find? name = some stored := by
  obtain ⟨e, he, -⟩ := h
  cases hfind : c.find? name with
  | none =>
    rw [Container.entry?, hfind] at he
    cases he
  | some stored => exact ⟨stored, rfl⟩

theorem Offends.kind {e : Error} (h : Offends signers c password name e) :
    e.kind = .keyManagerInit := by
  cases h <;> rfl

theorem Offends.not_usable {e : Error} (h : Offends signers c password name e) :
    ¬ Usable signers c password name := by
  rintro ⟨⟨entry, hopens⟩, hsupported⟩
  cases h with
  | shut hshut =>
    rw [hshut] at hopens
    cases hopens
  | unsupported hentry hkey =>
    obtain ⟨key, hread⟩ := hsupported _ hentry
    rw [hkey] at hread
    cases hread

theorem usable_of_find?_eq_none (h : c.find? name = none) : Usable signers c password name := by
  have hentry : c.entry? name password = .ok none := by rw [Container.entry?, h]
  exact ⟨⟨none, hentry⟩, fun e he => by rw [hentry] at he; cases he⟩

theorem usable_of_forall_mem (h : ∀ x ∈ c.toList, Usable signers c password x.1) (name : String) :
    Usable signers c password name := by
  cases hfind : c.find? name with
  | none => exact usable_of_find?_eq_none hfind
  | some stored => exact h _ (Table.mem_toList_iff.2 hfind)

/-- Where all entries in front of one can be used, those under all earlier aliases can. -/
theorem usable_of_before {before after : List (String × StoredEntry)} {x : String × StoredEntry}
    (hc : c.toList = before ++ x :: after) (hbefore : ∀ y ∈ before, Usable signers c password y.1)
    (hname : KeyBefore name x.1) : Usable signers c password name := by
  cases hfind : c.find? name with
  | none => exact usable_of_find?_eq_none hfind
  | some stored =>
    have hmem := Table.mem_toList_iff.2 hfind
    have hordered := c.ordered
    rw [hc] at hmem hordered
    exact hbefore _ (Table.mem_of_keyBefore hordered hmem hname)

/-- A stored entry gives its key, or says why it cannot be used. -/
theorem certified_spec (signers : Signers K) (password : Password) {stored : StoredEntry}
    (h : c.find? name = some stored) :
    match certified signers password name stored with
    | .ok found => Usable signers c password name ∧ found.isSome = stored.isKey ∧
        ∀ k, found = some k ↔ Certifies signers c password name k
    | .error e => Offends signers c password name e := by
  have hentry : c.entry? name password = some <$> stored.toEntry password := by
    rw [Container.entry?, h]
  rw [certified]
  cases hopen : stored.toEntry password with
  | error e =>
    rw [hopen] at hentry
    exact .shut hentry
  | ok entry =>
    rw [hopen] at hentry
    change c.entry? name password = .ok (some entry) at hentry
    have hkind := StoredEntry.isKey_of_toEntry hopen
    cases entry with
    | trusted e =>
      have husable : Usable signers c password name := ⟨⟨_, hentry⟩, by simp [hentry]⟩
      have hnot : ∀ k, ¬ Certifies signers c password name k := by simp [Certifies, hentry]
      exact ⟨husable, hkind, fun k => iff_of_false (by simp) (hnot k)⟩
    | key e =>
      cases hread : signers.read? e.key with
      | none =>
        rw [mapError_ok]
        simp only [bind, Except.bind, hread]
        exact .unsupported hentry hread
      | some key =>
        have husable : Usable signers c password name :=
          ⟨⟨_, hentry⟩, by simp [hentry, hread]⟩
        have hcertifies : ∀ k, some ⟨key, e.chain⟩ = some k ↔
            Certifies signers c password name k := by
          rintro ⟨key', chain⟩
          simp [Certifies, hentry, hread, eq_comm, and_comm]
        rw [mapError_ok]
        simp only [bind, Except.bind, hread]
        exact ⟨husable, hkind, hcertifies⟩

theorem certifiedKeys_cons (password : Password) (x : String × StoredEntry)
    (xs : List (String × StoredEntry)) :
    certifiedKeys signers password (x :: xs) = do
      let found ← certified signers password x.1 x.2
      let keys ← certifiedKeys signers password xs
      return (found.map (x.1, ·)).toList ++ keys := by
  rw [certifiedKeys]
  rcases certified signers password x.1 x.2 with e | _ | k
  · rfl
  · rcases certifiedKeys signers password xs with e | keys <;> rfl
  · rcases certifiedKeys signers password xs with e | keys <;> rfl

/-- The keys of a list of entries are those of the entries with private keys, in their order; there
are none if one of the entries cannot be used, and the first one is to blame. -/
theorem certifiedKeys_spec (signers : Signers K) (password : Password)
    {xs : List (String × StoredEntry)} (hxs : ∀ x ∈ xs, c.find? x.1 = some x.2) :
    match certifiedKeys signers password xs with
    | .ok keys => (∀ x ∈ xs, Usable signers c password x.1) ∧
        keys.map Prod.fst = (xs.filter (·.2.isKey)).map Prod.fst ∧
        ∀ name k, (name, k) ∈ keys ↔ name ∈ xs.map Prod.fst ∧ Certifies signers c password name k
    | .error e => ∃ before x after, xs = before ++ x :: after ∧
        (∀ y ∈ before, Usable signers c password y.1) ∧ Offends signers c password x.1 e := by
  induction xs with
  | nil => simp [certifiedKeys]
  | cons x xs ih =>
    obtain ⟨hfind, hxs⟩ := List.forall_mem_cons.1 hxs
    have hx := certified_spec signers password hfind
    have hrest := ih hxs
    rw [certifiedKeys_cons]
    cases hcertified : certified signers password x.1 x.2 with
    | error e =>
      rw [hcertified] at hx
      exact ⟨[], x, xs, rfl, List.forall_mem_nil _, hx⟩
    | ok found =>
      rw [hcertified] at hx
      obtain ⟨husable, hkind, hcertifies⟩ := hx
      cases hkeys : certifiedKeys signers password xs with
      | error e =>
        rw [hkeys] at hrest
        obtain ⟨before, y, after, rfl, hbefore, hy⟩ := hrest
        exact ⟨x :: before, y, after, rfl, List.forall_mem_cons.2 ⟨husable, hbefore⟩, hy⟩
      | ok keys =>
        rw [hkeys] at hrest
        obtain ⟨husables, hnames, hmem⟩ := hrest
        refine ⟨List.forall_mem_cons.2 ⟨husable, husables⟩, ?_, fun name k => ?_⟩
        · cases found with
          | none => simp [← hkind, hnames]
          | some k => simp [← hkind, hnames]
        · have hhead : (name, k) ∈ (found.map (x.1, ·)).toList ↔
              name = x.1 ∧ Certifies signers c password x.1 k := by
            rw [← hcertifies]
            cases found <;> simp [Prod.ext_iff, eq_comm]
          rw [List.mem_append, hhead, hmem, List.map_cons, List.mem_cons]
          constructor
          · rintro (⟨rfl, hk⟩ | ⟨hname, hk⟩)
            · exact ⟨.inl rfl, hk⟩
            · exact ⟨.inr hname, hk⟩
          · rintro ⟨rfl | hname, hk⟩
            · exact .inl ⟨rfl, hk⟩
            · exact .inr ⟨hname, hk⟩

/-- A manager holds the private keys of a container, opened with a password: its aliases are those of
the entries with private keys, in the order of the container, and under each is the key of the entry
with the certificates of the entry. -/
structure Holds (signers : Signers K) (m : Manager K) (c : Container) (password : Password) :
    Prop where
  aliases : m.aliases = c.aliases.filter fun name => (c.find? name).any StoredEntry.isKey
  find?_eq_some_iff : ∀ name k, m.find? name = some k ↔ Certifies signers c password name k

/-- The aliases of the entries with private keys. -/
theorem aliases_filter_isKey (c : Container) :
    (c.toList.filter (·.2.isKey)).map Prod.fst =
      c.aliases.filter fun name => (c.find? name).any StoredEntry.isKey := by
  rw [Container.aliases, Table.keys, List.filter_map]
  refine congrArg _ (List.filter_congr fun x hx => ?_)
  rw [Function.comp_apply, Table.mem_toList_iff.1 hx, Option.any_some]

/-- The keys of a container are ordered like its aliases. -/
theorem ordered_of_aliases {a : ManagerAlgorithm} {keys : List (String × Certified K)}
    {p : String → Bool} (h : keys.map Prod.fst = c.aliases.filter p) : Ordered ⟨a, keys⟩ := by
  have hordered : (keys.map Prod.fst).Pairwise KeyBefore := by
    rw [h]
    exact c.ordered_keys.filter p
  exact List.pairwise_map.1 hordered

theorem ofContainer_apply {algorithm : String} {a : ManagerAlgorithm}
    (ha : ManagerAlgorithm.ofName algorithm = .ok a) (s : Session W) :
    (ofContainer signers c password algorithm s).1 =
      (certifiedKeys signers password c.toList).map fun keys => [⟨a, keys⟩] := by
  rw [ofContainer, ha]
  cases certifiedKeys signers password c.toList <;> rfl

/-- **A container makes a key manager just if all its entries open and all its private keys are
supported.**  Otherwise the error, which is always one of key managers, is that of the least alias
whose entry cannot be used.  There is one manager, it holds the private keys of the container, and
picks from them, in either role, the first one that can be used with a scheme that is offered. -/
theorem ofContainer_exact (signers : Signers K) (c : Container) (password : Password)
    (algorithm : String) {a : ManagerAlgorithm} (ha : ManagerAlgorithm.ofName algorithm = .ok a)
    (s : Session W) :
    ((∃ ms, (ofContainer signers c password algorithm s).1 = .ok ms) ↔
      ∀ name, Usable signers c password name) ∧
    (∀ e, (ofContainer signers c password algorithm s).1 = .error e → e.kind = .keyManagerInit ∧
      ∃ name, Offends signers c password name e ∧
        ∀ earlier, KeyBefore earlier name → Usable signers c password earlier) ∧
    ∀ ms, (ofContainer signers c password algorithm s).1 = .ok ms → ∃ m : Manager K, ms = [m] ∧
      m.algorithm = a ∧ m.Holds signers c password ∧
      m.PicksLeast signers (m.choose signers : List Nat → Act W _) ∧
      m.PicksLeast signers (fun offered => (m.resolveServer signers ⟨offered⟩ : Act W _)) ∧
      ∀ hints, m.PicksLeast signers (m.resolveClient signers hints : List Nat → Act W _) := by
  have hspec := certifiedKeys_spec signers password fun x (hx : x ∈ c.toList) =>
    Table.mem_toList_iff.1 hx
  rw [ofContainer_apply ha]
  cases hkeys : certifiedKeys signers password c.toList with
  | error e =>
    rw [hkeys] at hspec
    obtain ⟨before, x, after, hc, hbefore, hx⟩ := hspec
    refine ⟨iff_of_false ?_ fun h => hx.not_usable (h x.1), ?_, ?_⟩
    · rintro ⟨ms, hms⟩
      cases hms
    · rintro _ ⟨⟩
      exact ⟨hx.kind, x.1, hx, fun earlier => usable_of_before hc hbefore⟩
    · rintro ms ⟨⟩
  | ok keys =>
    rw [hkeys] at hspec
    obtain ⟨husable, hnames, hmem⟩ := hspec
    refine ⟨iff_of_true ⟨_, rfl⟩ (usable_of_forall_mem husable), ?_, ?_⟩
    · rintro e ⟨⟩
    · rintro _ ⟨⟩
      have haliases := hnames.trans (aliases_filter_isKey c)
      have hordered : Ordered ⟨a, keys⟩ := ordered_of_aliases haliases
      have hholds : Holds signers ⟨a, keys⟩ c password := by
        refine ⟨haliases, fun name k => ?_⟩
        rw [hordered.find?_eq_some_iff, hmem]
        exact and_iff_right_of_imp fun hk => Table.mem_keys_iff.2 hk.find?
      have hpicks : PicksLeast signers ⟨a, keys⟩ (choose signers ⟨a, keys⟩ : List Nat → Act W _) :=
        picksLeast_choose hordered
      exact ⟨⟨a, keys⟩, rfl, rfl, hholds, hpicks, hpicks, fun _ => hpicks⟩

end

/-! ### Two keys and a certificate -/

namespace Trial

def password : Password := ⟨"pw"⟩

def session : Session Unit := ⟨(), ⟨fun _ => 0, 0⟩, 0, []⟩

/-- The sample key sealed with a salt and a nonce of zeros. -/
def sealedKey : Bytes :=
  (Sealing.sealText (Bytes.zeros 32) (Bytes.zeros 12) Sample.entry.key password.bytes).toOption.getD []

def container : Container :=
  ((Table.empty.insert "c" (.key sealedKey Sample.entry.chain 3)).insert "b"
    (.key sealedKey Sample.entry.chain 2)).insert "a" (.trusted (Sample.certificate 1) 1)

/-- The sample key with its certificates. -/
def key : CertifiedKey := ⟨.ed25519 (Bytes.zeros 32), Sample.entry.chain⟩

theorem read?_key : Keys.PrivateKey.decode? Sample.entry.key = some key.key := by
  decide +kernel

theorem toEntry_key (createdAt : UInt64) :
    (StoredEntry.key sealedKey Sample.entry.chain createdAt).toEntry password =
      .ok (.key Sample.entry) := by
  have hsalt : (Bytes.zeros 32).length = Sealing.saltLength := rfl
  have hseal := Sealing.sealText_eq (Bytes.zeros 12) Sample.entry.key password.bytes hsalt
  have hopen : Sealing.openText sealedKey password.bytes = .ok Sample.entry.key := by
    refine Sealing.openText_of_sealText (by decide) (hseal.trans ?_)
    rw [sealedKey, hseal]
    rfl
  rw [StoredEntry.toEntry, hopen]
  exact bind_eq_ok_iff.2 ⟨_, rfl, bind_eq_ok_iff.2
    ⟨_, KeyEntry.of_eq_ok_iff.2 ⟨rfl, Sample.wellFormed_entry⟩, rfl⟩⟩

theorem toEntry_trusted :
    (StoredEntry.trusted (Sample.certificate 1) 1).toEntry password =
      .ok (.trusted ⟨Sample.certificate 1⟩) := by
  have hcertificate := Sample.wellFormed_entry.2.2 (Sample.certificate 1) List.mem_cons_self
  exact bind_eq_ok_iff.2 ⟨_, TrustedEntry.of_eq_ok_iff.2 ⟨rfl, hcertificate⟩, rfl⟩

theorem opens : container.Opens password
    (((Table.empty.insert "c" (.key Sample.entry)).insert "b" (.key Sample.entry)).insert "a"
      (.trusted ⟨Sample.certificate 1⟩)) :=
  (((Container.Opens.empty password).insert (toEntry_key 3) "c").insert (toEntry_key 2) "b").insert
    toEntry_trusted "a"

/-- The keys stand under two aliases. -/
theorem eq_of_key {name : String} {e : KeyEntry}
    (h : container.entry? name password = .ok (some (.key e))) :
    (name = "b" ∨ name = "c") ∧ e = Sample.entry := by
  rw [opens.entry?_eq, Table.find?_insert, Table.find?_insert, Table.find?_insert] at h
  by_cases ha : name = "a"
  · rw [if_pos ha] at h
    cases h
  · by_cases hb : name = "b"
    · rw [if_neg ha, if_pos hb] at h
      cases h
      exact ⟨.inl hb, rfl⟩
    · by_cases hc : name = "c"
      · rw [if_neg ha, if_neg hb, if_pos hc] at h
        cases h
        exact ⟨.inr hc, rfl⟩
      · rw [if_neg ha, if_neg hb, if_neg hc] at h
        cases h

theorem usable (name : String) : Usable .pkcs8 container password name :=
  ⟨⟨_, opens.entry?_eq name⟩, fun _ he => ⟨_, (eq_of_key he).2 ▸ read?_key⟩⟩

theorem certifies : Certifies .pkcs8 container password "b" key :=
  ⟨Sample.entry, opens.entry?_eq "b", rfl, read?_key⟩

end Trial

open Trial in
/-- Of two keys that fit the one under the lesser alias is picked, though a certificate stands under a
lesser one still, and though another scheme is offered first. -/
theorem ofContainer_exact_trial :
    ManagerAlgorithm.ofName "sunx509" = .ok .sunX509 ∧
    ∃ m : KeyManager, (KeyManager.ofContainer container password "sunx509" session).1 = .ok [m] ∧
      m.algorithm = .sunX509 ∧ m.aliases = ["b", "c"] ∧
      (m.choose [0x0403, 0x0807] session).1 = .ok (some ("b", key)) := by
  have ha : ManagerAlgorithm.ofName "sunx509" = .ok .sunX509 := by rfl
  obtain ⟨hok, -, hms⟩ := ofContainer_exact .pkcs8 container password "sunx509" ha session
  obtain ⟨ms, hms'⟩ := hok.2 usable
  obtain ⟨m, rfl, halgorithm, hholds, hpicks, -⟩ := hms ms hms'
  have haliases : m.aliases = ["b", "c"] := hholds.aliases.trans (by decide +kernel)
  have hb : m.find? "b" = some key := (hholds.find?_eq_some_iff _ _).2 certifies
  have hmeets : key.Meets .pkcs8 [0x0403, 0x0807] := ⟨0x0807, by decide, by decide⟩
  refine ⟨ha, m, hms', halgorithm, haliases, ?_⟩
  obtain ⟨r, hr, hpick⟩ := hpicks.picks [0x0403, 0x0807] session
  refine hr.trans (congrArg Except.ok ?_)
  refine hpick.unique ⟨hb, hmeets, fun earlier k' hlt hk' _ => ?_⟩
  obtain ⟨e, he, -⟩ := (hholds.find?_eq_some_iff _ _).1 hk'
  obtain ⟨rfl | rfl, -⟩ := eq_of_key he
  · exact KeyBefore.irrefl _ hlt
  · exact absurd hlt (by decide +kernel)

end Manager

end Tls

end Keyring

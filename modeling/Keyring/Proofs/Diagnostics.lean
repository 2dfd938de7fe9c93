import Keyring.Config.Store
import Keyring.Entry
import Keyring.Proofs.Container
import Mathlib

/-!
# What diagnostics do not show

Two runs that differ in their secrets alone are told apart by no diagnostic.

* `Config.Properties.Agree`, `Config.MemoryStore.Agree` : configurations, and stores of them, that are
  the same but for the password of the keystore;
* `Config.MemoryStore.Agree.shown_eq` : what is shown of such stores is the same, and with it all text
  made of it;
* `Config.Options.ofProperties_of_agree` : the options of such configurations differ in their password,
  or resolving fails for the same reason;
* `Entry.debug_key_iff` : what is shown of a private key is how many certificates it has;
* `diagnostics_conceal` : the three of them.

A store lists its services in no order of its own, and is gathered into a table in order to be shown.
`Table.ofList_of_perm` says that the table is the same for every order.
-/

namespace Keyring

/-! ### Tables -/

namespace Table

variable {α β γ : Type}

/-- Values under different keys are put into a table in either order. -/
theorem insert_comm (t : Table α) {key k : String} (h : key ≠ k) (value v : α) :
    (t.insert key value).insert k v = (t.insert k v).insert key value := by
  refine ext_find? fun name => ?_
  simp only [find?_insert]
  by_cases hk : name = k
  · rw [if_pos hk, if_neg (hk.trans_ne h.symm), if_pos hk]
  · rw [if_neg hk, if_neg hk]

/-- A table is gathered from its keys and values in any order. -/
theorem ofList_of_perm {t : Table α} {listed : List (String × α)} (h : listed.Perm t.toList) :
    ofList listed = t := by
  have hcomm : ∀ x ∈ listed, ∀ y ∈ listed, ∀ s : Table α,
      (s.insert x.1 x.2).insert y.1 y.2 = (s.insert y.1 y.2).insert x.1 x.2 := by
    intro x hx y hy s
    by_cases hkey : x.1 = y.1
    · -- a key is listed once, so that this is the same element
      have hvalues := (mem_toList_iff.1 (h.mem_iff.1 hx)).symm.trans
        (hkey ▸ mem_toList_iff.1 (h.mem_iff.1 hy))
      rw [hkey, Option.some.inj hvalues]
    · exact insert_comm s hkey x.2 y.2
  rw [ofList, h.foldl_eq' hcomm, ← ofList, ofList_toList]

/-- Tables with the same keys list them in the same order. -/
theorem keys_eq {s : Table α} {t : Table β} (h : ∀ key, key ∈ s.keys ↔ key ∈ t.keys) :
    s.keys = t.keys := by
  -- without its values a table is what its keys are
  have hmap : s.map (fun _ => ()) = t.map fun _ => () := by
    refine ext_find? fun key => ?_
    have hkey := h key
    rw [mem_keys_iff, mem_keys_iff] at hkey
    rw [find?_map, find?_map]
    cases hs : s.find? key <;> cases ht : t.find? key <;> simp_all
  rw [← keys_map (fun _ => ()) s, hmap, keys_map]

/-- What is made of two tables with the same keys, key by key, is the same if it is under each key. -/
theorem map_toList_eq {s : Table α} {t : Table β} {f : String × α → γ} {g : String × β → γ}
    (hkeys : ∀ key, key ∈ s.keys ↔ key ∈ t.keys)
    (h : ∀ key a b, s.find? key = some a → t.find? key = some b → f (key, a) = g (key, b)) :
    s.toList.map f = t.toList.map g := by
  have hlists : s.toList.map Prod.fst = t.toList.map Prod.fst := keys_eq hkeys
  have hvalues : ∀ key a b, (key, a) ∈ s.toList → (key, b) ∈ t.toList → f (key, a) = g (key, b) :=
    fun key a b ha hb => h key a b (mem_toList_iff.1 ha) (mem_toList_iff.1 hb)
  generalize s.toList = xs, t.toList = ys at hvalues hlists
  induction xs generalizing ys with
  | nil =>
    obtain rfl : ys = [] := by simpa using hlists
    rfl
  | cons x xs ih =>
    obtain ⟨key, a⟩ := x
    cases ys with
    | nil => simp at hlists
    | cons y ys =>
      obtain ⟨_, b⟩ := y
      obtain ⟨rfl, hrest⟩ := List.cons.inj hlists
      have hhead := hvalues key a b List.mem_cons_self List.mem_cons_self
      have htail : xs.map f = ys.map g := ih _ (fun key a b ha hb =>
        hvalues key a b (List.mem_cons_of_mem _ ha) (List.mem_cons_of_mem _ hb)) hrest
      rw [List.map_cons, List.map_cons, hhead, htail]

end Table

namespace Config

/-! ### Configurations -/

/-- Two configurations with the same keys and, but for the password of the keystore, the same
values. -/
structure Properties.Agree (p p' : Properties) : Prop where
  keys : ∀ key, key ∈ p.keys ↔ key ∈ p'.keys
  values : ∀ key ≠ Key.password.name, p.find? key = p'.find? key

namespace Properties.Agree

variable {p p' : Properties}

/-- A configuration agrees with itself under another password. -/
theorem insert_password (p : Properties) (v v' : Value) :
    Agree (p.insert Key.password.name v) (p.insert Key.password.name v') where
  keys key := by rw [Table.mem_keys_insert, Table.mem_keys_insert]
  values key hkey := by rw [Table.find?_insert, Table.find?_insert, if_neg hkey, if_neg hkey]

theorem erase_eq (h : p.Agree p') : p.erase Key.password.name = p'.erase Key.password.name := by
  refine Table.ext_find? fun key => ?_
  rw [Table.find?_erase, Table.find?_erase]
  split
  · rfl
  · rename_i hkey
    exact h.values key hkey

/-- Under each key the same is shown. -/
theorem shownValue_eq (h : p.Agree p') {key : String} {v v' : Value} (hv : p.find? key = some v)
    (hv' : p'.find? key = some v') :
    MemoryStore.shownValue key v = MemoryStore.shownValue key v' := by
  by_cases hkey : key = Key.password.name
  · rw [MemoryStore.shownValue, MemoryStore.shownValue, if_pos hkey, if_pos hkey]
  · obtain rfl := Option.some.inj ((hv.symm.trans (h.values key hkey)).trans hv')
    rfl

end Properties.Agree

/-! ### Stores -/

namespace MemoryStore

/-- Two stores with the same services, whose configurations agree. -/
structure Agree (s s' : MemoryStore) : Prop where
  services : ∀ id, id ∈ s.keys ↔ id ∈ s'.keys
  configurations : ∀ id p p', s.find? id = some p → s'.find? id = some p' → p.Agree p'

namespace Agree

variable {s s' : MemoryStore}

theorem empty : Agree Table.empty Table.empty where
  services _ := Iff.rfl
  configurations _ _ _ h := nomatch h

/-- Updates of the same service to configurations that agree. -/
theorem update (h : s.Agree s') (serviceId : Option String) {p p' : Properties} (hp : p.Agree p') :
    (s.update serviceId p).Agree (s'.update serviceId p') where
  services id := by
    rw [MemoryStore.update, MemoryStore.update, Table.mem_keys_insert, Table.mem_keys_insert,
      h.services]
  configurations id q q' hq hq' := by
    rw [MemoryStore.update, Table.find?_insert] at hq hq'
    split at hq
    · rename_i hid
      rw [if_pos hid] at hq'
      obtain rfl := Option.some.inj hq
      obtain rfl := Option.some.inj hq'
      exact hp
    · rename_i hid
      rw [if_neg hid] at hq'
      exact h.configurations id q q' hq hq'

/-- The same is shown of stores that agree. -/
theorem shown_eq (h : s.Agree s') : s.shown = s'.shown := by
  refine Table.map_toList_eq h.services fun id p p' hp hp' => ?_
  have hagree := h.configurations id p p' hp hp'
  refine congrArg (Text.Quoted.text id, ·) (Table.map_toList_eq hagree.keys ?_)
  intro key v v' hv hv'
  exact congrArg (fun shown => (Text.Quoted.text key, Text.Quoted.text shown))
    (hagree.shownValue_eq hv hv')

end Agree

end MemoryStore

/-! ### Options -/

namespace Options

variable {p p' : Properties}

/-- What is read under another key does not depend on the password. -/
theorem setting_of_agree {α : Type} (h : p.Agree p') (key : Key) (hkey : key ≠ .password)
    (read : String → Value → Except Error α) (default : α) :
    setting p key read default = setting p' key read default := by
  have hname : key.name ≠ Key.password.name := by revert hkey; cases key <;> decide
  rw [setting, setting, h.values _ hname]

theorem setting_password {w : String} (h : p.find? Key.password.name = some (.string w)) :
    setting p .password Value.asString defaultPassword = .ok w := by
  rw [setting, h]
  rfl

/-- Configurations that agree resolve to options with their passwords, which are the same otherwise,
or fail with the same error. -/
theorem ofProperties_of_agree (h : p.Agree p') {w w' : String}
    (hw : p.find? Key.password.name = some (.string w))
    (hw' : p'.find? Key.password.name = some (.string w')) :
    ofProperties p' = (fun o => { o with password := ⟨w'⟩ }) <$> ofProperties p := by
  simp only [ofProperties, setting_of_agree h .serviceId (by decide),
    setting_of_agree h .path (by decide), setting_of_agree h .randomize (by decide),
    setting_password hw, setting_password hw', h.erase_eq, map_bind]
  -- up to the path both are the same; what is behind it fails at the last value alone
  apply bind_congr
  intro serviceId
  apply bind_congr
  intro path
  split
  · rfl
  · cases setting p' .randomize Value.asBoolean false <;> rfl

/-- Resolving such configurations gives options that are shown alike, or the same error. -/
theorem resolve_of_agree (h : p.Agree p') {w w' : String}
    (hw : p.find? Key.password.name = some (.string w))
    (hw' : p'.find? Key.password.name = some (.string w')) :
    (∃ o o', resolve (some p) = .ok o ∧ resolve (some p') = .ok o' ∧ o.debug = o'.debug) ∨
      ∃ e, resolve (some p) = .error e ∧ resolve (some p') = .error e := by
  simp only [resolve, ofProperties_of_agree h hw hw']
  cases ofProperties p with
  | error e => exact .inr ⟨e, rfl, rfl⟩
  | ok o => exact .inl ⟨o, _, rfl, rfl, rfl⟩

end Options

end Config

/-! ### Entries -/

theorem KeyEntry.debug_eq (e : KeyEntry) :
    e.debug = "PrivateKeyEntry \x7b chain_length: " ++ (e.chain.length.repr ++ ", .. \x7d") := by
  rw [← String.toList_inj]
  simp [debug, Text.Quoted.fields, String.intercalate_cons_cons]

theorem KeyEntry.debug_eq_iff {e e' : KeyEntry} :
    e.debug = e'.debug ↔ e.chain.length = e'.chain.length := by
  rw [debug_eq, debug_eq, String.append_right_inj, String.append_left_inj, Nat.repr_inj]

/-- Private keys are shown alike if and only if they have the same number of certificates. -/
theorem Entry.debug_key_iff (e e' : KeyEntry) :
    (Entry.key e).debug = (Entry.key e').debug ↔ e.chain.length = e'.chain.length := by
  have hdebug : ∀ e : KeyEntry, (Entry.key e).debug = "PrivateKey(" ++ e.debug ++ ")" := fun _ => rfl
  rw [hdebug, hdebug, String.append_left_inj, String.append_right_inj, KeyEntry.debug_eq_iff]

/-! ### Diagnostics -/

open Config

/-- **Diagnostics do not depend on secrets.**

Two stores of configurations with the same services, keys and values but for the passwords are shown
alike, on one line and on many, whatever updates left them, and in whatever order the services are
listed for it.  Two configurations that differ in the text of their password resolve to options that
are shown alike, or fail with the same error.  Of a private key nothing is shown but how many
certificates it has. -/
theorem diagnostics_conceal :
    (∀ s s' : MemoryStore, s.Agree s' → s.debug = s'.debug ∧ s.prettyDebug = s'.prettyDebug) ∧
    (∀ (s : MemoryStore) (listed : List (String × Properties)), listed.Perm s.toList →
      Table.ofList listed = s) ∧
    (∀ (p p' : Properties) (w w' : String), p.Agree p' →
      p.find? Key.password.name = some (.string w) →
      p'.find? Key.password.name = some (.string w') →
        (∃ o o', Options.resolve (some p) = .ok o ∧ Options.resolve (some p') = .ok o' ∧
          o.debug = o'.debug) ∨
        ∃ e, Options.resolve (some p) = .error e ∧ Options.resolve (some p') = .error e) ∧
    ∀ e e' : KeyEntry,
      (Entry.key e).debug = (Entry.key e').debug ↔ e.chain.length = e'.chain.length := by
  refine ⟨fun s s' h => ?_, fun s listed => Table.ofList_of_perm, ?_, Entry.debug_key_iff⟩
  · rw [MemoryStore.debug, MemoryStore.debug, MemoryStore.prettyDebug, MemoryStore.prettyDebug,
      h.shown_eq]
    exact ⟨rfl, rfl⟩
  · exact fun p p' w w' h => Options.resolve_of_agree h

/-- Stores that were built by other updates, with passwords of other kinds; options with another
password; a configuration without a usable path under two passwords; and keys with two certificates. -/
theorem diagnostics_conceal_changeit :
    let properties (path : String) (v : Value) : Properties :=
      (Table.ofList [("note", .string "a \"quoted\"\nnote"), (Key.path.name, .string path)]).insert
        Key.password.name v
    let store : MemoryStore := Table.empty
    let s := ((store.update (some "pid") (properties "/a" (.boolean true))).update none
      (properties "/tmp" (.string "changeit"))).update (some "pid") (properties "/b" (.string "t|1"))
    let s' := (store.update (some "") (properties "/tmp" (.string "secret"))).update (some "pid")
      (properties "/b" (.integer ⟨12, by decide⟩))
    s.debug = s'.debug ∧ s.prettyDebug = s'.prettyDebug ∧ Table.ofList s.toList.reverse = s ∧
      (∃ o o', Options.resolve (some (properties "/b" (.string "changeit"))) = .ok o ∧
        Options.resolve (some (properties "/b" (.string "secret"))) = .ok o' ∧ o.debug = o'.debug) ∧
      (∃ e, Options.resolve (some (properties " " (.string "changeit"))) = .error e ∧
        Options.resolve (some (properties " " (.string "secret"))) = .error e) ∧
      (Entry.key ⟨[1, 2], [[3], [4]]⟩).debug = (Entry.key ⟨[5], [[6, 7], []]⟩).debug := by
  intro properties store s s'
  obtain ⟨hstores, hlisted, hoptions, hkeys⟩ := diagnostics_conceal
  have hs : s = (store.update none (properties "/tmp" (.string "changeit"))).update (some "pid")
      (properties "/b" (.string "t|1")) := by
    decide +kernel
  have hempty : store.Agree store := .empty
  have hagree : s.Agree s' := hs ▸
    (hempty.update none (.insert_password _ _ _)).update (some "pid") (.insert_password _ _ _)
  have hpassword : ∀ path v, (properties path v).find? Key.password.name = some v := by
    intro path v
    rw [Table.find?_insert, if_pos rfl]
  have hresolve : ∀ path, _ := fun path =>
    hoptions (properties path (.string "changeit")) (properties path (.string "secret")) _ _
      (.insert_password _ _ _) (hpassword path _) (hpassword path _)
  have hshown := hstores s s' hagree
  refine ⟨hshown.1, hshown.2, hlisted s _ (List.reverse_perm _), ?_, ?_, ?_⟩
  · have hok : (Options.resolve (some (properties "/b" (.string "changeit")))).isOk = true := by
      decide +kernel
    refine (hresolve "/b").resolve_right ?_
    rintro ⟨e, he, -⟩
    rw [he] at hok
    cases hok
  · have herr : (Options.resolve (some (properties " " (.string "changeit")))).isOk = false := by
      decide +kernel
    refine (hresolve " ").resolve_left ?_
    rintro ⟨o, -, ho, -⟩
    rw [ho] at herr
    cases herr
  · exact (hkeys _ _).2 rfl

end Keyring

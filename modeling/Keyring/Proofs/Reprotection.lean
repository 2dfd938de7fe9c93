import Keyring.Proofs.Container
import Keyring.Proofs.Quiet
import Keyring.Proofs.Sealing

/-!
# Containers under another password

`Container.reprotect_exact` : putting a container under another password changes the password and
nothing else, or leaves the container as it was and fails with the error of the first key that does not
open under the old one (`Container.refusal?`).  The keys are sealed again on a copy, one after the
other (`Container.resealed_ensures`, `Container.resealed_reprotected`), and a copy that is not finished
is dropped (`Container.reprotect_apply`).

What has to stay is said by an entry without its sealed key (`StoredEntry.outline`): the kind, the
certificates and the time.  What an entry opens to stays as well, an entry that does not open among
them, since opening looks at certificates after the key only.
-/

namespace Keyring

/-! ### One entry -/

namespace StoredEntry

/-- Why the key of a stored entry does not open under a password, if it does not.  A certificate needs
no password. -/
def refusal? (stored : StoredEntry) (password : Password) : Option Error :=
  match stored with
  | .key sealedKey _ _ =>
    match Sealing.openText sealedKey password.bytes with
    | .ok _ => none
    | .error e => some e
  | .trusted .. => none

/-- A stored entry but for its sealed key. -/
def outline : StoredEntry → StoredEntry
  | .key _ chain createdAt => .key [] chain createdAt
  | .trusted certificate createdAt => .trusted certificate createdAt

/-- A stored entry is another one put from the password `old` under `new`: all but the sealed key is the
same, and so is what the two open to. -/
structure Reprotected (old new : Password) (stored stored' : StoredEntry) : Prop where
  outline : stored'.outline = stored.outline
  toEntry : stored'.toEntry new = stored.toEntry old

/-- The key of an entry that opens is not refused. -/
theorem refusal?_of_toEntry {stored : StoredEntry} {password : Password} {entry : Entry}
    (h : stored.toEntry password = .ok entry) : stored.refusal? password = none := by
  cases stored with
  | trusted certificate createdAt => rfl
  | key sealedKey chain createdAt =>
    obtain ⟨key, hkey, -⟩ := bind_eq_ok_iff.1 h
    rw [refusal?, hkey]

/-- An entry is put under another password just if its key opens. -/
theorem reprotect_ensures {W : Type} (stored : StoredEntry) (old new : Password) (s : Session W) :
    (stored.reprotect old new).Ensures s fun r _ =>
      match r with
      | .ok stored' => stored.refusal? old = none ∧ Reprotected old new stored stored'
      | .error e => stored.refusal? old = some e := by
  unfold reprotect
  cases stored with
  | trusted certificate createdAt => exact .pure ⟨rfl, rfl, rfl⟩
  | key sealedKey chain createdAt =>
    refine .bind (p := fun r _ => Sealing.openText sealedKey old.bytes = r) (.lift rfl)
      (fun key t hkey => ?_) fun e t he => ?_
    · refine .bind (Sealing.sealFresh_ends key new.bytes t) ?_ fun _ _ h => h.elim
      rintro sealedKey' u ⟨hopen, -⟩
      refine .pure ⟨?_, rfl, ?_⟩
      · rw [refusal?, hkey]
      · rw [StoredEntry.toEntry, StoredEntry.toEntry, hopen, hkey]
    · rw [refusal?, he]

end StoredEntry

/-! ### A container -/

namespace Container

/-- Why the key under an alias does not open under a password, if there is one that does not. -/
def refusal? (c : Container) (password : Password) (name : String) : Option Error :=
  (c.find? name).bind fun stored => stored.refusal? password

theorem refusal?_of_mem {c : Container} (password : Password) {x : String × StoredEntry}
    (hx : x ∈ c.toList) : c.refusal? password x.1 = x.2.refusal? password := by
  rw [refusal?, Table.mem_toList_iff.1 hx, Option.bind_some]

theorem refusal?_eq_none_iff {c : Container} {password : Password} :
    (∀ name, c.refusal? password name = none) ↔ ∀ x ∈ c.toList, x.2.refusal? password = none := by
  constructor
  · intro h x hx
    rw [← refusal?_of_mem password hx, h]
  · intro h name
    rw [refusal?, Option.bind_eq_none_iff]
    exact fun stored hname => h _ (Table.mem_toList_iff.2 hname)

/-- Where all entries before one open, those under all earlier aliases do. -/
theorem refusal?_eq_none_of_before {c : Container} {password : Password}
    {before after : List (String × StoredEntry)} {x : String × StoredEntry}
    (hc : c.toList = before ++ x :: after) (hbefore : ∀ y ∈ before, y.2.refusal? password = none)
    {name : String} (hname : KeyBefore name x.1) : c.refusal? password name = none := by
  rw [refusal?, Option.bind_eq_none_iff]
  intro stored hfind
  have hmem := Table.mem_toList_iff.2 hfind
  have hordered := c.ordered
  rw [hc] at hmem hordered
  exact hbefore _ (Table.mem_of_keyBefore hordered hmem hname)

/-- A container is another one put from the password `old` under `new`, entry by entry. -/
def Reprotected (old new : Password) (c k : Container) : Prop :=
  ∀ name, Option.Rel (StoredEntry.Reprotected old new) (c.find? name) (k.find? name)

namespace Reprotected

variable {old new : Password} {c k : Container}

theorem map_outline (h : Reprotected old new c k) :
    k.map StoredEntry.outline = c.map StoredEntry.outline := by
  refine Table.ext_find? fun name => ?_
  rw [Table.find?_map, Table.find?_map]
  have hname := h name
  generalize c.find? name = found, k.find? name = found' at hname
  cases hname with
  | none => rfl
  | some hstored => exact congrArg some hstored.outline

/-- A container that is put under another password opens with that to the same table. -/
theorem opens (h : Reprotected old new c k) {m : Table Entry} (hm : c.Opens old m) :
    k.Opens new m := by
  intro name
  have hname := h name
  have hopens := hm name
  generalize c.find? name = found, k.find? name = found', m.find? name = entry at hname hopens ⊢
  cases hname with
  | none =>
    cases hopens
    exact .none
  | some hstored =>
    cases hopens with
    | some hentry => exact .some (hstored.toEntry.trans hentry)

theorem aliases (h : Reprotected old new c k) : k.aliases = c.aliases := by
  rw [Container.aliases, Container.aliases, ← Table.keys_map StoredEntry.outline k, h.map_outline,
    Table.keys_map]

theorem entry? (h : Reprotected old new c k) (name : String) :
    k.entry? name new = c.entry? name old := by
  rw [Container.entry?, Container.entry?]
  have hname := h name
  generalize c.find? name = found, k.find? name = found' at hname
  cases hname with
  | none => rfl
  | some hstored => exact congrArg (some <$> ·) hstored.toEntry

end Reprotected

variable {W : Type}

/-- Sealing the keys of a copy again goes through all entries, or stops at the first one whose key does
not open. -/
theorem resealed_ensures (c : Container) (old new : Password) (s : Session W) :
    (c.resealed old new).Ensures s fun r _ =>
      match r with
      | .ok _ => ∀ x ∈ c.toList, x.2.refusal? old = none
      | .error e => ∃ before x after, c.toList = before ++ x :: after ∧
          (∀ y ∈ before, y.2.refusal? old = none) ∧ x.2.refusal? old = some e := by
  have hfold := Act.Ensures.foldlM (W := W)
    (f := fun t x => do return Table.insert t x.1 (← StoredEntry.reprotect x.2 old new))
    (p := fun x => x.2.refusal? old = none) (q := fun x e => x.2.refusal? old = some e)
    (fun t x s => .bind (x.2.reprotect_ensures old new s) (fun _ _ h => .pure h.1) fun _ _ h => h)
    c.toList c s
  exact hfold.imp fun r _ hr => by cases r <;> exact hr

theorem resealed_reprotected (c : Container) (old new : Password) :
    (c.resealed old new : Act W Container).Returns fun k => Reprotected old new c k := by
  have hfold := Table.foldlM_insert_returns (W := W) (R := StoredEntry.Reprotected old new)
    (fun stored s => (stored.reprotect_ensures old new s).imp fun r _ hr stored' h => by
      subst h
      exact hr.2) c.ordered c
  refine hfold.imp fun k hk name => ?_
  have hname := hk name
  rw [show Table.lookup name c.toList = c.find? name from rfl] at hname
  cases hc : c.find? name with
  | none =>
    rw [hc] at hname
    rw [hname]
    exact .none
  | some stored =>
    rw [hc] at hname
    obtain ⟨stored', hk, hstored⟩ := hname
    rw [hk]
    exact .some hstored

/-- What becomes of a copy that is put under another password. -/
theorem reprotect_reprotected (c : Container) (old new : Password) :
    ((reprotect old new).onCopy c : Act W Container).Returns fun k => Reprotected old new c k := by
  rw [onCopy_reprotect]
  exact c.resealed_reprotected old new

/-- A container that opens to a table can be put under another password, and opens to it again. -/
theorem Opens.reprotect_succeeds {c : Container} {old : Password} {m : Table Entry}
    (h : c.Opens old m) (new : Password) :
    ((reprotect old new).onCopy c : Act W Container).Succeeds fun k => k.Opens new m := by
  intro s
  have hends := c.resealed_ensures old new s
  have hreturns := c.resealed_reprotected old new s
  rw [Act.Ensures] at hends hreturns
  rw [onCopy_reprotect, Act.Ends, Act.Ensures]
  rcases hr : c.resealed old new s with ⟨e | k, t⟩ <;> rw [hr] at hends hreturns
  · obtain ⟨before, x, after, hc, -, hx⟩ := hends
    have hmem : x ∈ c.toList := hc ▸ List.mem_append_cons_self
    obtain ⟨entry, -, hentry⟩ := h.of_some (Table.mem_toList_iff.1 hmem)
    rw [StoredEntry.refusal?_of_toEntry hentry] at hx
    cases hx
  · exact (hreturns k rfl).opens h

/-- Whether it succeeds or fails, putting a container under another password leaves its aliases. -/
theorem aliases_reprotect (c : Container) (old new : Password) (s : Session W) :
    (reprotect old new c s).1.2.aliases = c.aliases := by
  rw [reprotect_apply]
  cases hr : c.resealed old new s with
  | mk r t =>
    cases r with
    | error e => rfl
    | ok k => exact (c.resealed_reprotected old new s k (congrArg Prod.fst hr)).aliases

/-- **Putting a container under another password changes that and nothing else, or does nothing.**  It
succeeds just if every key opens under the old password.  If it fails, the container is left as it was,
and the error is that of the least alias whose key does not open.  If it succeeds, aliases, kinds,
certificates and times are the same, and what is read under the new password is what was read under
the old one, be it an entry, nothing or an error.  In both cases all that is used up is random
bytes. -/
theorem reprotect_exact (c : Container) (old new : Password) (s : Session W) :
    ∃ r k t, reprotect old new c s = ((r, k), t) ∧
      (r = .ok () ↔ ∀ name, c.refusal? old name = none) ∧
      (∀ e, r = .error e → k = c ∧ ∃ name, c.refusal? old name = some e ∧
        ∀ earlier, KeyBefore earlier name → c.refusal? old earlier = none) ∧
      (r = .ok () → k.aliases = c.aliases ∧
        k.map StoredEntry.outline = c.map StoredEntry.outline ∧
        ∀ name, k.entry? name new = c.entry? name old) ∧
      Act.Continues s t := by
  have hends := c.resealed_ensures old new s
  have hreturns := c.resealed_reprotected old new s
  have hquiet := c.quiet_reprotect old new s
  rw [onCopy_reprotect] at hquiet
  rw [Act.Ensures] at hends hreturns hquiet
  rcases hr : c.resealed old new s with ⟨e | k, t⟩ <;> rw [hr] at hends hreturns hquiet
  · obtain ⟨before, x, after, hc, hbefore, hx⟩ := hends
    have hrefused : c.refusal? old x.1 = some e := by
      rw [refusal?_of_mem old (hc ▸ List.mem_append_cons_self), hx]
    refine ⟨.error e, c, t, ?_, iff_of_false (fun h => by cases h) fun hall => ?_, ?_,
      (fun h => by cases h), hquiet⟩
    · rw [reprotect_apply, hr]
    · rw [hall] at hrefused
      cases hrefused
    · rintro _ ⟨⟩
      exact ⟨rfl, x.1, hrefused, fun earlier => refusal?_eq_none_of_before hc hbefore⟩
  · have hk := hreturns k rfl
    refine ⟨.ok (), k, t, ?_, iff_of_true rfl (refusal?_eq_none_iff.2 hends),
      (fun _ h => by cases h), fun _ => ⟨hk.aliases, hk.map_outline, hk.entry?⟩, hquiet⟩
    rw [reprotect_apply, hr]

/-! ### Two containers under another password -/

namespace Reprotection

def session : Session Unit := ⟨(), ⟨fun _ => 0, 0⟩, 0, []⟩

/-- A byte sealed under the password `old`. -/
def sealedByte : Bytes :=
  Bytes.zeros 32 ++ Bytes.zeros 12 ++
    Crypto.Gcm.encrypt
      (Crypto.Argon2id.derive .default Sealing.keyLength (Password.bytes ⟨"old"⟩) (Bytes.zeros 32))
      (Bytes.zeros 12) [7]

/-- A key that opens under the password `old`, with a chain that is none, and a certificate. -/
def opening : Container :=
  (Table.empty.insert "gateway" (.key sealedByte [[0x30]] 8)).insert "root" (.trusted [0x30] 7)

/-- The same with two keys that open under no password, which come behind the one that opens. -/
def broken : Container :=
  (opening.insert "server" (.key (Bytes.zeros 44) [] 8)).insert "relay" (.key [] [] 7)

theorem opens_sealedByte : Sealing.openText sealedByte (Password.bytes ⟨"old"⟩) = .ok [7] :=
  Sealing.openText_of_sealText (by decide) (Sealing.sealText_eq _ _ _ (by decide))

theorem refusal?_opening (name : String) : opening.refusal? ⟨"old"⟩ name = none := by
  rw [refusal?, opening, Table.find?_insert, Table.find?_insert]
  split
  · rfl
  · split
    · rw [Option.bind_some, StoredEntry.refusal?, opens_sealedByte]
    · rfl

theorem refusal?_broken_relay :
    broken.refusal? ⟨"old"⟩ "relay" = some (Sealing.tooShort 0) := by
  rw [refusal?, broken, Table.find?_insert, if_pos rfl]
  rfl

/-- No key but the two does not open, and the lesser one of these is too short to be any sealed text. -/
theorem eq_tooShort {name : String} {e : Error} (h : broken.refusal? ⟨"old"⟩ name = some e)
    (hleast : ∀ earlier, KeyBefore earlier name → broken.refusal? ⟨"old"⟩ earlier = none) :
    e = Sealing.tooShort 0 := by
  by_cases hrelay : name = "relay"
  · rw [hrelay, refusal?_broken_relay] at h
    exact (Option.some.inj h).symm
  · by_cases hserver : name = "server"
    · have hbefore : KeyBefore "relay" name := by
        rw [hserver]
        decide +kernel
      have hrefused := refusal?_broken_relay
      rw [hleast "relay" hbefore] at hrefused
      cases hrefused
    · have hopening : broken.refusal? ⟨"old"⟩ name = opening.refusal? ⟨"old"⟩ name := by
        rw [refusal?, refusal?, broken, Table.find?_insert, if_neg hrelay, Table.find?_insert,
          if_neg hserver]
      rw [hopening, refusal?_opening] at h
      cases h

end Reprotection

open Reprotection in
/-- A container whose keys open reads the same afterwards, though its chain is not one of certificates.
With two more keys, which do not open, it is left as it was, although the first key could be sealed
again, and the key under the lesser alias is reported. -/
theorem reprotect_exact_mixed :
    (∃ k t, reprotect ⟨"old"⟩ ⟨"new"⟩ opening session = ((.ok (), k), t) ∧
      k.aliases = opening.aliases ∧
      k.entry? "gateway" ⟨"new"⟩ = opening.entry? "gateway" ⟨"old"⟩) ∧
    ∃ t, reprotect ⟨"old"⟩ ⟨"new"⟩ broken session = ((.error (Sealing.tooShort 0), broken), t) := by
  obtain ⟨r, k, t, hrun, hok, -, hsame, -⟩ := opening.reprotect_exact ⟨"old"⟩ ⟨"new"⟩ session
  obtain ⟨r', k', t', hrun', hok', hleft, -, -⟩ := broken.reprotect_exact ⟨"old"⟩ ⟨"new"⟩ session
  obtain rfl := hok.2 refusal?_opening
  obtain ⟨haliases, -, hentry⟩ := hsame rfl
  refine ⟨⟨k, t, hrun, haliases, hentry "gateway"⟩, t', ?_⟩
  rw [hrun']
  cases r' with
  | ok u =>
    have hall := hok'.1 rfl "relay"
    rw [refusal?_broken_relay] at hall
    cases hall
  | error e =>
    obtain ⟨rfl, name, hname, hleast⟩ := hleft e rfl
    rw [eq_tooShort hname hleast]

end Container

end Keyring

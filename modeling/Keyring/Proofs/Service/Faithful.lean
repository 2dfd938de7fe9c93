import Keyring.Proofs.Config.Options
import Keyring.Proofs.Quiet
import Keyring.Service.Basic
import Mathlib.Logic.Function.Basic

/-!
# Faithful collaborators

A backend is seen here as a map: `record w key` is what the world `w` keeps under the components `key`
of a path, a container with its password.  Collaborators are *faithful* (`Faithful`) if the backend
answers from that map, storing either sets one record or fails and changes nothing, nobody else touches
the map, and decrypting, where it succeeds, is a function `plain` that undoes encrypting.  Any call may
fail at any time.

For faithful collaborators this module says what each step of the service does to the map:

* `putBack_ends` : the old record is back, or the journal says that it is lost;
* `randomize_ends` : the new record is there under the new password, or all is as before;
* `load_ends`, `change_ends` : what is served afterwards is what is kept, or nothing that was kept is
  damaged.

What is said of failures holds unless a container could not be put back in between (`PutBacksHeld`).
-/

namespace Keyring.Service

open Act (Continues)

/-- What is kept under a path. -/
abbrev Record := Container × Password

/-- What a backend keeps, by the components of paths. -/
abbrev Records := List Files.Component → Option Record

/-- Nothing that was kept has been changed or removed. -/
def Records.Keeps (kept kept' : Records) : Prop :=
  ∀ key r, kept key = some r → kept' key = some r

theorem Records.Keeps.refl (kept : Records) : kept.Keeps kept := fun _ _ h => h

variable {W : Type}

/-! ### Containers that could not be put back -/

/-- The event over a container that could not be put back. -/
def isLoss (event : Event) : Bool :=
  event.message == "failed to restore keystore under previous password"

/-- How many containers could not be put back so far. -/
def losses (s : Session W) : Nat := s.journal.countP isLoss

/-- Every container that had to be put back between two sessions was: the journal has gained no event
over one that could not be.  Nobody else reports that event, and if a collaborator does, the condition
only gets stronger. -/
def PutBacksHeld (s t : Session W) : Prop := losses t ≤ losses s

instance (s t : Session W) : Decidable (PutBacksHeld s t) :=
  inferInstanceAs (Decidable (losses t ≤ losses s))

theorem losses_mono {s t : Session W} (h : s.journal <+: t.journal) : losses s ≤ losses t :=
  h.sublist.countP_le

theorem PutBacksHeld.tail {s t u : Session W} (h : PutBacksHeld s u)
    (hst : s.journal <+: t.journal) : PutBacksHeld t u :=
  Nat.le_trans h (losses_mono hst)

theorem PutBacksHeld.init {s t u : Session W} (h : PutBacksHeld s u)
    (htu : t.journal <+: u.journal) : PutBacksHeld s t :=
  Nat.le_trans (losses_mono htu) h

theorem losses_report_of_not_isLoss (s : Session W) {event : Event} (h : isLoss event = false) :
    losses { s with journal := s.journal ++ [event] } = losses s := by
  simp [losses, h]

/-- Reporting that a container could not be put back is one more loss. -/
theorem losses_report (s : Session W) (fields : List (String × String)) :
    losses { s with journal := s.journal ++
      [⟨.warn, "failed to restore keystore under previous password", fields⟩] } = losses s + 1 := by
  simp [losses, isLoss]

/-- Putting a container back answers with the cause, or adds a loss to the journal. -/
theorem putBack_apply (c : Collaborators W) (container : Container) (path : Files.Path)
    (password : Password) (cause : Error) (s : Session W) :
    putBack c container path password cause s =
      match c.backend.store container path password s with
      | (.ok _, t) => (.ok cause, t)
      | (.error e, t) =>
        (.ok (.storePersist (cause.text ++
            "; restoring the keystore under its previous password failed: " ++ e.text)),
          { t with journal := t.journal ++
              [⟨.warn, "failed to restore keystore under previous password",
                [("error", e.text)]⟩] }) := by
  rw [putBack, Act.tryCatch_apply, Act.bind_apply]
  rcases c.backend.store container path password s with ⟨_ | _, t⟩ <;> rfl

/-- A container is put back, and what storing it leads to holds, or it is lost and the journal says
so. -/
theorem putBack_ends_of_store {c : Collaborators W} {container : Container} {path : Files.Path}
    {password : Password} {cause : Error} {s : Session W} {stored : Session W → Prop}
    (h : (c.backend.store container path password).Ends s
      (fun _ t => s.journal <+: t.journal ∧ stored t) fun t => s.journal <+: t.journal) :
    (putBack c container path password cause).Ends s
      (fun _ t => s.journal <+: t.journal ∧ (PutBacksHeld s t → stored t)) fun _ => False := by
  rw [Act.Ends, Act.Ensures] at h ⊢
  rw [putBack_apply]
  rcases hr : c.backend.store container path password s with ⟨e | _, t⟩ <;> rw [hr] at h
  · have hloss : losses s ≤ losses t := losses_mono h
    refine ⟨h.trans (List.prefix_append _ _), fun hheld => ?_⟩
    rw [PutBacksHeld, losses_report] at hheld
    omega
  · exact ⟨h.1, fun _ => h.2⟩

/-- A backend that reports no loss itself takes a container that is put back exactly if the journal
shows no further loss. -/
theorem putBacksHeld_putBack_iff (c : Collaborators W) (container : Container) (path : Files.Path)
    (password : Password) (cause : Error) (s : Session W)
    (hstore : losses (c.backend.store container path password s).2 = losses s) :
    PutBacksHeld s (putBack c container path password cause s).2 ↔
      (c.backend.store container path password s).1 = .ok () := by
  rw [putBack_apply]
  rcases hr : c.backend.store container path password s with ⟨e | _, t⟩ <;> rw [hr] at hstore
  · have hsame : losses t = losses s := hstore
    refine iff_of_false (fun hheld => ?_) fun h => by cases h
    rw [PutBacksHeld, losses_report] at hheld
    omega
  · exact iff_of_true (Nat.le_of_eq hstore) rfl

/-- What is served is what is kept under its path, under the password of its options. -/
def Backed (record : W → Records) (plain : Password → Password) (store : LoadedStore) (w : W) : Prop :=
  record w store.options.path.components = some (store.container, plain store.options.password)

/-! ### The laws -/

variable {record : W → Records} {plain : Password → Password}

/-- A later session in which as much is kept. -/
structure Untouched (record : W → Records) (s t : Session W) : Prop where
  records : record t.world = record s.world
  journal : s.journal <+: t.journal

namespace Untouched

variable {s t u : Session W}

theorem refl (s : Session W) : Untouched record s s := ⟨rfl, List.prefix_refl _⟩

theorem of_continues (h : Continues s t) : Untouched record s t := ⟨by rw [h.world], h.journal⟩

theorem trans (h : Untouched record s t) (h' : Untouched record t u) : Untouched record s u :=
  ⟨h'.records.trans h.records, h.journal.trans h'.journal⟩

end Untouched

/-- The collaborators keep to a map of records and to a function that decrypts. -/
structure Faithful (c : Collaborators W) (record : W → Records) (plain : Password → Password) :
    Prop where
  contains (path : Files.Path) (s : Session W) : (c.backend.contains path).Ends s
    (fun there t => Untouched record s t ∧ there = (record s.world path.components).isSome)
    (Untouched record s)
  load (path : Files.Path) (password : Password) (s : Session W) :
    (c.backend.load path password).Ends s
      (fun container t => Untouched record s t ∧
        record s.world path.components = some (container, password))
      (Untouched record s)
  store (container : Container) (path : Files.Path) (password : Password) (s : Session W) :
    (c.backend.store container path password).Ends s
      (fun _ t => s.journal <+: t.journal ∧ record t.world =
        Function.update (record s.world) path.components (some (container, password)))
      (Untouched record s)
  decrypt (secret : Password) (s : Session W) : (c.cipher.decrypt secret).Ends s
    (fun password t => Untouched record s t ∧ password = plain secret) (Untouched record s)
  encrypt (password : Password) (s : Session W) : (c.cipher.encrypt password).Ends s
    (fun secret t => Untouched record s t ∧ plain secret = password) (Untouched record s)
  updateConfiguration (serviceId : Option String) (p : Config.Properties) (s : Session W) :
    (c.updateConfiguration serviceId p).Ends s (fun _ => Untouched record s) (Untouched record s)

/-! ### What the steps of the service do to the map -/

variable {c : Collaborators W} (H : Faithful c record plain)

include H

/-- A record is put back, or it is lost and the journal says so. -/
theorem putBack_ends (container : Container) (path : Files.Path) (password : Password)
    (cause : Error) (s : Session W) :
    (putBack c container path password cause).Ends s
      (fun _ t => s.journal <+: t.journal ∧ (PutBacksHeld s t → record t.world =
        Function.update (record s.world) path.components (some (container, password))))
      fun _ => False :=
  putBack_ends_of_store ((H.store container path password s).imp (fun _ _ ht => ht)
    fun _ ht => ht.journal)

theorem plainPassword_ends (o : Config.Options) (s : Session W) :
    (plainPassword c o).Ends s
      (fun password t => Untouched record s t ∧ password = plain o.password)
      (Untouched record s) :=
  .mapError (H.decrypt o.password s)

/-- The container that is opened is what is kept under the path; nothing else has changed. -/
theorem openContainer_ends (o : Config.Options) (password : Password) (s : Session W) :
    (openContainer c o password).Ends s
      (fun container t => s.journal <+: t.journal ∧ (record s.world).Keeps (record t.world) ∧
        record t.world o.path.components = some (container, password))
      (Untouched record s) := by
  unfold openContainer
  refine .bind (H.contains o.path s) ?_ fun t ht => ht
  rintro there t ⟨ht, rfl⟩
  split
  · refine (Act.Ends.mapError (H.load o.path password t)).imp ?_ fun u hu => ht.trans hu
    rintro container u ⟨hu, hload⟩
    have hsu := ht.trans hu
    rw [hsu.records, ← hload, ht.records]
    exact ⟨hsu.journal, .refl _, rfl⟩
  · rename_i hnone
    refine .bind_report fun u hu => ?_
    have hsu := ht.trans (.of_continues hu)
    refine .bind (.mapError (H.store Table.empty o.path password u)) ?_ fun v hv => hsu.trans hv
    rintro _ v ⟨hj, hv⟩
    refine .pure ⟨hsu.journal.trans hj, fun key r hr => ?_, by rw [hv, Function.update_self]⟩
    -- nothing was kept under the new path, so no record is overwritten
    have hne : key ≠ o.path.components := by
      rintro rfl
      simp [hr] at hnone
    rw [hv, hsu.records, Function.update_of_ne hne, hr]

/-- A container that is put under another password is kept under that, or all is as before. -/
theorem reprotect_ends (container : Container) (o : Config.Options) (old new : Password)
    (s : Session W) :
    (reprotect c container o old new).Ends s
      (fun k t => s.journal <+: t.journal ∧ record t.world =
        Function.update (record s.world) o.path.components (some (k, new)))
      (Untouched record s) := by
  unfold reprotect
  refine .bind (p := fun _ => Untouched record s) (.mapError (.of_quiet (container.quiet_reprotect
    old new) (fun _ t ht => .of_continues ht) fun t ht => .of_continues ht)) (fun k t ht => ?_)
    fun t ht => ht
  refine .bind (.mapError (H.store k o.path new t)) ?_ fun u hu => ht.trans hu
  rintro _ u ⟨hj, hu⟩
  exact .pure ⟨ht.journal.trans hj, by rw [hu, ht.records]⟩

/-- **Randomizing is all or nothing.**  Where a container is kept under its password, randomizing keeps
it under the password of the new options, or, if it fails, leaves it as it was. -/
theorem randomize_ends {o : Config.Options} {p : Config.Properties} {container : Container}
    {s : Session W} (ho : Config.Options.ofProperties p = .ok o)
    (hkept : record s.world o.path.components = some (container, plain o.password)) :
    (randomize c o container (plain o.password)).Ends s
      (fun store t => s.journal <+: t.journal ∧ store.options.path = o.path ∧
        record t.world = Function.update (record s.world) o.path.components
          (some (store.container, plain store.options.password)))
      fun t => s.journal <+: t.journal ∧
        (PutBacksHeld s t → record t.world = record s.world) := by
  have hasis : ∀ t, Untouched record s t →
      s.journal <+: t.journal ∧ (PutBacksHeld s t → record t.world = record s.world) :=
    fun t ht => ⟨ht.journal, fun _ => ht.records⟩
  unfold randomize
  split
  · refine .bind (p := fun _ => Untouched record s) (.of_quiet Sealing.quiet_freshPassword
      (fun _ t ht => .of_continues ht) fun t ht => hasis t (.of_continues ht)) (fun new t₁ h₁ => ?_)
      fun t ht => ht
    refine .bind (.mapError (H.encrypt new t₁)) ?_ fun t ht => hasis t (h₁.trans ht)
    rintro secret t₂ ⟨h₂, rfl⟩
    replace h₂ := h₁.trans h₂
    refine .bind (reprotect_ends H container o _ _ t₂) ?_ fun t ht => hasis t (h₂.trans ht)
    rintro k t₃ ⟨hj, h₃⟩
    have hj₃ := h₂.journal.trans hj
    rw [h₂.records] at h₃
    -- the new record is stored; the configuration has to be taken for it to stay
    refine .bind (p := fun _ t => s.journal <+: t.journal ∧ record t.world = record t₃.world)
      (.tryCatch (H.updateConfiguration o.serviceId _ t₃)
        (fun _ t ht => ⟨hj₃.trans ht.journal, ht.records⟩) fun e t ht => ?_) ?_ fun t ht => ht
    · refine .bind_report fun u hu => ?_
      replace hu := ht.trans (.of_continues hu)
      refine .bind (putBack_ends H container o.path _ _ u) ?_ fun _ h => h.elim
      rintro cause v ⟨hjv, hv⟩
      refine .throw ⟨hj₃.trans (hu.journal.trans hjv), fun hheld => ?_⟩
      rw [hv (hheld.tail (hj₃.trans hu.journal)), hu.records, h₃, Function.update_idem, ← hkept,
        Function.update_eq_self]
    · rintro _ t₄ ⟨hj₄, h₄⟩
      refine .bind_report fun u hu => ?_
      rw [Config.Options.ofProperties_withPassword ho secret]
      exact .pure ⟨hj₄.trans hu.journal, rfl, by rw [hu.world, h₄, h₃]⟩
  · exact .pure ⟨List.prefix_refl _, rfl, by rw [← hkept, Function.update_eq_self]⟩

/-- **Starting to serve ends in what is kept under the path.**  If it fails, nothing that was kept is
damaged. -/
theorem load_ends {o : Config.Options} {p : Config.Properties} (s : Session W)
    (ho : Config.Options.ofProperties p = .ok o) :
    (load c o).Ends s
      (fun store t => s.journal <+: t.journal ∧ Backed record plain store t.world)
      fun t => s.journal <+: t.journal ∧
        (PutBacksHeld s t → (record s.world).Keeps (record t.world)) := by
  have hasis : ∀ t, Untouched record s t →
      s.journal <+: t.journal ∧ (PutBacksHeld s t → (record s.world).Keeps (record t.world)) :=
    fun t ht => ⟨ht.journal, fun _ => ht.records ▸ .refl _⟩
  unfold load
  refine .bind (plainPassword_ends H o s) ?_ hasis
  rintro _ t₁ ⟨h₁, rfl⟩
  refine .bind (openContainer_ends H o _ t₁) ?_ fun t ht => hasis t (h₁.trans ht)
  rintro container t₂ ⟨hj₂, hkeeps, hkept⟩
  rw [h₁.records] at hkeeps
  have hj := h₁.journal.trans hj₂
  refine .bind (randomize_ends H ho hkept) ?_ ?_
  · rintro store t₃ ⟨hj₃, hpath, h₃⟩
    refine .bind_report fun u hu => .pure ⟨hj.trans (hj₃.trans hu.journal), ?_⟩
    rw [Backed, hu.world, h₃, hpath, Function.update_self]
  · rintro t ⟨hj₃, h₃⟩
    refine ⟨hj.trans hj₃, fun hheld => ?_⟩
    rw [h₃ (hheld.tail hj)]
    exact hkeeps

/-- What the container to serve under new options is, and what the map then holds: either that
container is kept under the path, and nothing else has changed, or the served one was re-protected in
place, and `old` is its former password. -/
theorem moveContainer_ends {current : LoadedStore} {o : Config.Options} {s : Session W}
    (hbacked : Backed record plain current s.world) :
    (moveContainer c current o (plain o.password)).Ends s
      (fun moved t => s.journal <+: t.journal ∧
        record t.world o.path.components = some (moved.1, plain o.password) ∧
        match moved.2 with
        | none => (record s.world).Keeps (record t.world)
        | some old => old = plain current.options.password ∧
            current.options.path.components = o.path.components ∧
            record t.world = Function.update (record s.world) o.path.components
              (some (moved.1, plain o.password)))
      (Untouched record s) := by
  unfold moveContainer
  split
  · -- another place: what is kept there is opened, and the served record stays where it is
    refine .bind_report fun t ht => ?_
    replace ht : Untouched record s t := .of_continues ht
    refine .bind (openContainer_ends H o _ t) ?_ fun u hu => ht.trans hu
    rintro container u ⟨hj, hkeeps, hkept⟩
    rw [ht.records] at hkeeps
    exact .pure ⟨ht.journal.trans hj, hkept, hkeeps⟩
  · rename_i hsame
    have hpath : current.options.path.components = o.path.components := by
      simpa [Files.Path.same] using hsame
    rw [Backed, hpath] at hbacked
    split
    · -- two secrets may still decrypt to one password, under which the record then is
      refine .bind (plainPassword_ends H current.options s) ?_ fun t ht => ht
      rintro _ t ⟨ht, rfl⟩
      split
      · rename_i hold
        refine .pure ⟨ht.journal, ?_, ht.records ▸ .refl _⟩
        rw [ht.records, hbacked, hold]
      · refine .bind_report fun u hu => ?_
        have hsu := ht.trans (.of_continues hu)
        refine .bind (reprotect_ends H current.container o _ _ u) ?_ fun v hv => hsu.trans hv
        rintro k v ⟨hj, hv⟩
        rw [hsu.records] at hv
        exact .pure ⟨hsu.journal.trans hj, by rw [hv, Function.update_self], rfl, hpath, hv⟩
    · rename_i hsecret
      have hsecret : current.options.password = o.password := by simpa using hsecret
      exact .pure ⟨List.prefix_refl _, hsecret ▸ hbacked, .refl _⟩

/-- **Going over to other options ends in what is kept under their path.**  If it fails, nothing that
was kept is damaged: a container that was re-protected, once or twice, is back as it was. -/
theorem change_ends {current : LoadedStore} {o : Config.Options} {p : Config.Properties}
    {s : Session W} (ho : Config.Options.ofProperties p = .ok o)
    (hbacked : Backed record plain current s.world) :
    (change c current o).Ends s
      (fun store t => s.journal <+: t.journal ∧ Backed record plain store t.world)
      fun t => s.journal <+: t.journal ∧
        (PutBacksHeld s t → (record s.world).Keeps (record t.world)) := by
  have hasis : ∀ t, Untouched record s t →
      s.journal <+: t.journal ∧ (PutBacksHeld s t → (record s.world).Keeps (record t.world)) :=
    fun t ht => ⟨ht.journal, fun _ => ht.records ▸ .refl _⟩
  unfold change
  refine .bind (plainPassword_ends H o s) ?_ hasis
  rintro _ t₁ ⟨h₁, rfl⟩
  have hbacked₁ : Backed record plain current t₁.world := by
    rw [Backed, h₁.records]
    exact hbacked
  refine .bind (moveContainer_ends H hbacked₁) ?_ fun t ht => hasis t (h₁.trans ht)
  rintro ⟨container, old⟩ t₂ ⟨hj₂, hkept, hmoved⟩
  have hj := h₁.journal.trans hj₂
  have hrandomize : (randomize c o container (plain o.password)).Ends t₂
      (fun store t => s.journal <+: t.journal ∧ Backed record plain store t.world)
      fun t => t₂.journal <+: t.journal ∧
        (PutBacksHeld t₂ t → record t.world = record t₂.world) := by
    refine (randomize_ends H ho hkept).imp ?_ fun t ht => ht
    rintro store t ⟨hj₃, hpath, h₃⟩
    exact ⟨hj.trans hj₃, by rw [Backed, h₃, hpath, Function.update_self]⟩
  cases old with
  | none =>
    refine hrandomize.imp (fun _ _ h => h) fun t ⟨hj₃, h₃⟩ => ⟨hj.trans hj₃, fun hheld => ?_⟩
    rw [h₃ (hheld.tail hj), ← h₁.records]
    exact hmoved
  | some old =>
    obtain ⟨rfl, hpath, h₂⟩ := hmoved
    refine .tryCatch hrandomize (fun _ _ h => h) fun e t ⟨hj₃, h₃⟩ => ?_
    refine .bind (putBack_ends H current.container current.options.path _ e t) ?_ fun _ h => h.elim
    rintro cause u ⟨hj₄, h₄⟩
    refine .throw ⟨hj.trans (hj₃.trans hj₄), fun hheld => ?_⟩
    -- the inner rollback leaves the re-protected container, the outer one the original
    replace hheld := hheld.tail hj
    rw [h₄ (hheld.tail hj₃), h₃ (hheld.init hj₄), h₂, hpath, Function.update_idem, h₁.records,
      ← hpath, ← show _ = _ from hbacked, Function.update_eq_self]
    exact .refl _

end Keyring.Service

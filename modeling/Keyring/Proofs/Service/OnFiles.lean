import Keyring.Proofs.Filing
import Keyring.Proofs.Service.Along
import Keyring.Proofs.Service.Faithful

/-!
# A service that keeps its containers in files

`OnFiles` : the containers are in files that nobody else writes, and decrypting is a function.

What is served is *retained* if it is filed under the path of its options, sealed under the password
that they decrypt to (`Retained`).  Each step of the service ends in a container that is filed, or
fails:

* under the path of what is served, a step that fails leaves that filed, unless a container could not be
  put back (`OnFiles.randomize_ends`, `OnFiles.change_ends`);
* under another path, whatever fails stays in the territory of that path (`OnFiles.relocate_ends`).
-/

namespace Keyring.Service

open Files Files.Disk Backend Operation

variable {W : Type} {c : Collaborators W} {fs : FileSystem W} {disk : W → Disk}
  {plain : Password → Except Error Password}

/-- A later session with the same files. -/
structure Unwritten (disk : W → Disk) (s t : Session W) : Prop where
  disk : disk t.world = disk s.world
  journal : s.journal <+: t.journal

instance : Course (Unwritten disk : Session W → Session W → Prop) where
  of_continues h := ⟨by rw [h.world], h.journal⟩
  trans h h' := ⟨h'.disk.trans h.disk, h.journal.trans h'.journal⟩

/-- A later session in which all that was filed under a path still is. -/
structure StillFiled (disk : W → Disk) (path : Path) (s t : Session W) : Prop where
  journal : s.journal <+: t.journal
  filed (container : Container) (password : Password)
    (h : Filed (disk s.world) path container password) : Filed (disk t.world) path container password

theorem Unwritten.stillFiled {s t : Session W} (h : Unwritten disk s t) (path : Path) :
    StillFiled disk path s t :=
  ⟨h.journal, fun _ _ hfiled => h.disk ▸ hfiled⟩

instance (path : Path) : Course (StillFiled disk path : Session W → Session W → Prop) where
  of_continues h := (Course.of_continues (R := Unwritten disk) h).stillFiled path
  trans h h' := ⟨h.journal.trans h'.journal, fun k p hk => h'.filed k p (h.filed k p hk)⟩

/-- A later session in which no file outside the territory of a path has changed. -/
def Within (disk : W → Disk) (path : Path) (s t : Session W) : Prop :=
  Keeps (territory (disk s.world) path) (disk s.world) (disk t.world)

theorem Unwritten.within {s t : Session W} (h : Unwritten disk s t) (path : Path) :
    Within disk path s t := by
  rw [Within, h.disk]
  exact .refl _ _

instance (path : Path) : Course (Within disk path : Session W → Session W → Prop) where
  of_continues h := (Course.of_continues (R := Unwritten disk) h).within path
  trans {s t u} h h' := by
    rw [Within, territory_of_keeps h] at h'
    exact Keeps.trans h h'

/-- The containers are in files that nobody else writes, and what a secret decrypts to, or that it
does not decrypt, is told by a function. -/
structure OnFiles (c : Collaborators W) (fs : FileSystem W) (disk : W → Disk)
    (plain : Password → Except Error Password) : Prop where
  backend : c.backend = Backend.files fs
  follows : fs.Follows disk
  decrypt (secret : Password) (s : Session W) :
    (c.cipher.decrypt secret).Ensures s fun r t => r = plain secret ∧ Unwritten disk s t
  encrypt (password : Password) (s : Session W) : (c.cipher.encrypt password).Ends s
    (fun secret t => Unwritten disk s t ∧ plain secret = .ok password) (Unwritten disk s)
  updateConfiguration (serviceId : Option String) (p : Config.Properties) (s : Session W) :
    (c.updateConfiguration serviceId p).Ensures s fun _ t => Unwritten disk s t

/-- What is served is filed under the path of its options, sealed under their password. -/
def Retained (disk : W → Disk) (plain : Password → Except Error Password) (store : LoadedStore)
    (w : W) : Prop :=
  ∃ password, plain store.options.password = .ok password ∧
    Filed (disk w) store.options.path store.container password

namespace OnFiles

variable (H : OnFiles c fs disk plain)

include H

/-! ### The collaborators -/

theorem decrypt_ends (secret : Password) (s : Session W) : (c.cipher.decrypt secret).Ends s
    (fun password t => Unwritten disk s t ∧ plain secret = .ok password)
    (fun t => Unwritten disk s t ∧ ∀ password, plain secret ≠ .ok password) :=
  Act.Ensures.imp (H.decrypt secret s) fun r t ⟨hr, ht⟩ => match r with
    | .ok _ => ⟨ht, hr.symm⟩
    | .error _ => ⟨ht, fun password h => by rw [h] at hr; cases hr⟩

theorem contains_ends (path : Path) (s : Session W) : (c.backend.contains path).Ends s
    (fun there t => Unwritten disk s t ∧
      there = (disk s.world).isFile (containerPath fileSystem path (disk s.world)))
    fun _ => False := by
  rw [H.backend]
  refine ⟨Course.refl _ s, ?_⟩
  rw [← containerPath_disk H.follows, ← H.follows.isFile]

theorem load_ends (path : Path) (password : Password) (s : Session W) :
    (c.backend.load path password).Ends s
      (fun k t => Unwritten disk s t ∧ Filed (disk s.world) path k password)
      (fun t => Unwritten disk s t ∧ ∀ k, ¬ Filed (disk s.world) path k password) := by
  rw [H.backend]
  exact (loadFile_filed H.follows path password s).imp
    (fun _ _ h => ⟨Course.of_continues h.1, h.2⟩) fun _ h => ⟨Course.of_continues h.1, h.2⟩

theorem store_ends (container : Container) (path : Path) (password : Password) (s : Session W) :
    (c.backend.store container path password).Ends s
      (fun _ t => s.journal <+: t.journal ∧ Within disk path s t ∧
        Filed (disk t.world) path container password)
      (fun t => StillFiled disk path s t ∧ Within disk path s t) := by
  rw [H.backend]
  exact (storeFile_filed H.follows container path password s).imp
    (fun _ _ h => h) fun _ h => ⟨⟨h.1, h.2.2⟩, h.2.1⟩

theorem plainPassword_ends (o : Config.Options) (s : Session W) : (plainPassword c o).Ends s
    (fun password t => Unwritten disk s t ∧ plain o.password = .ok password)
    (fun t => Unwritten disk s t ∧ ∀ password, plain o.password ≠ .ok password) :=
  .mapError (H.decrypt_ends o.password s)

/-! ### Steps under one path -/

/-- What is opened is filed; if something was, it is that, and nothing is written. -/
theorem openContainer_ends (o : Config.Options) (password : Password) (s : Session W) :
    (openContainer c o password).Ends s
      (fun k t => s.journal <+: t.journal ∧ Filed (disk t.world) o.path k password ∧
        ∀ k', Filed (disk s.world) o.path k' password → k = k' ∧ Unwritten disk s t)
      (fun t => s.journal <+: t.journal ∧ ∀ k, ¬ Filed (disk s.world) o.path k password) := by
  unfold openContainer
  refine .bind (H.contains_ends o.path s) ?_ fun _ h => h.elim
  rintro there t ⟨ht, rfl⟩
  split
  · refine (Act.Ends.mapError (H.load_ends o.path password t)).imp ?_ ?_
    · rintro k u ⟨hu, hk⟩
      have hsu := Course.trans ht hu
      refine ⟨hsu.journal, hu.disk ▸ hk, fun k' hk' => ⟨?_, hsu⟩⟩
      rw [← ht.disk] at hk'
      exact hk'.unique hk
    · rintro u ⟨hu, hnone⟩
      exact ⟨(Course.trans ht hu).journal, ht.disk ▸ hnone⟩
  · rename_i hnot
    -- no file, so nothing is filed, and the empty container that is stored takes nobody's place
    have hnone : ∀ k, ¬ Filed (disk s.world) o.path k password :=
      fun k hk => hnot hk.isFile
    refine .bind_report fun u hu => ?_
    have hj := ht.journal.trans hu.journal
    refine .bind (.mapError (H.store_ends Table.empty o.path password u)) ?_
      fun v hv => ⟨hj.trans hv.1.journal, hnone⟩
    rintro _ v ⟨hjv, -, hv⟩
    exact .pure ⟨hj.trans hjv, hv, fun k' hk' => absurd hk' (hnone k')⟩

theorem reprotect_ends (container : Container) (o : Config.Options) (old new : Password)
    (s : Session W) :
    (reprotect c container o old new).Ends s
      (fun k t => s.journal <+: t.journal ∧ Filed (disk t.world) o.path k new)
      (StillFiled disk o.path s) := by
  unfold reprotect
  refine .bind (p := fun _ => StillFiled disk o.path s) (.mapError (.of_quiet
    (container.quiet_reprotect old new) (fun _ _ ht => Course.of_continues ht) fun _ ht =>
      Course.of_continues ht)) (fun k t ht => ?_) fun _ ht => ht
  refine .bind (.mapError (H.store_ends k o.path new t)) ?_ fun _ hu => Course.trans ht hu.1
  rintro _ u ⟨hj, -, hu⟩
  exact .pure ⟨ht.journal.trans hj, hu⟩

/-- A container is filed again, or it is lost and the journal says so. -/
theorem putBack_ends (container : Container) (path : Path) (password : Password) (cause : Error)
    (s : Session W) :
    (putBack c container path password cause).Ends s
      (fun _ t => s.journal <+: t.journal ∧
        (PutBacksHeld s t → Filed (disk t.world) path container password))
      fun _ => False :=
  putBack_ends_of_store ((H.store_ends container path password s).imp
    (fun _ _ ht => ⟨ht.1, ht.2.2⟩) fun _ ht => ht.1.journal)

/-- Randomizing a container that is filed ends in one that is filed under the password of the new
options, or leaves it filed as it was. -/
theorem randomize_ends {o : Config.Options} {p : Config.Properties} {container : Container}
    {password : Password} {s : Session W} (ho : Config.Options.ofProperties p = .ok o)
    (hpassword : plain o.password = .ok password)
    (hfiled : Filed (disk s.world) o.path container password) :
    (randomize c o container password).Ends s
      (fun store t => Retained disk plain store t.world ∧
        (o.randomize = false → store = ⟨o, container⟩))
      fun t => s.journal <+: t.journal ∧
        (PutBacksHeld s t → Filed (disk t.world) o.path container password) := by
  have hasis : ∀ t, StillFiled disk o.path s t → s.journal <+: t.journal ∧
      (PutBacksHeld s t → Filed (disk t.world) o.path container password) :=
    fun t ht => ⟨ht.journal, fun _ => ht.filed _ _ hfiled⟩
  unfold randomize
  split
  · rename_i hrandomize
    refine .bind (p := fun _ => StillFiled disk o.path s) (.of_quiet Sealing.quiet_freshPassword
      (fun _ _ ht => Course.of_continues ht) fun t ht => hasis t (Course.of_continues ht))
      (fun new t₁ h₁ => ?_) fun _ ht => ht
    refine .bind (.mapError (H.encrypt new t₁)) ?_ fun t ht =>
      hasis t (Course.trans h₁ (ht.stillFiled o.path))
    rintro secret t₂ ⟨h₂, hsecret⟩
    replace h₂ := Course.trans h₁ (h₂.stillFiled o.path)
    refine .bind (H.reprotect_ends container o _ _ t₂) ?_ fun t ht => hasis t (Course.trans h₂ ht)
    rintro k t₃ ⟨hj, h₃⟩
    have hj₃ := h₂.journal.trans hj
    -- the container is filed under the new password; the configuration has to be taken for it to stay
    have hupdate : (c.updateConfiguration o.serviceId (o.withPassword secret)).Ends t₃
        (fun _ => Unwritten disk t₃) (Unwritten disk t₃) :=
      (Along.ends (R := Unwritten disk) (H.updateConfiguration _ _)) t₃
    refine .bind (p := fun _ => Unwritten disk t₃) (.tryCatch hupdate (fun _ _ ht => ht)
      fun e t ht => ?_) ?_ fun _ ht => ht
    · refine .bind_report fun u hu => ?_
      have hju := hj₃.trans (ht.journal.trans hu.journal)
      refine .bind (H.putBack_ends container o.path _ _ u) ?_ fun _ h => h.elim
      rintro cause v ⟨hjv, hv⟩
      exact .throw ⟨hju.trans hjv, fun hheld => hv (hheld.tail hju)⟩
    · rintro _ t₄ h₄
      refine .bind_report fun u hu => ?_
      rw [Config.Options.ofProperties_withPassword ho secret]
      refine .pure ⟨⟨new, hsecret, ?_⟩, fun h => by rw [hrandomize] at h; cases h⟩
      rw [hu.world, h₄.disk]
      exact h₃
  · exact .pure ⟨⟨password, hpassword, hfiled⟩, fun _ => rfl⟩

/-- Starting to serve ends in what is filed. -/
theorem load_retained {o : Config.Options} {p : Config.Properties}
    (ho : Config.Options.ofProperties p = .ok o) (s : Session W) :
    (load c o).Ends s (fun store t => Retained disk plain store t.world) fun _ => True := by
  unfold load
  refine .bind (H.plainPassword_ends o s) (fun password t₁ h₁ => ?_) fun _ _ => trivial
  refine .bind (H.openContainer_ends o password t₁) (fun container t₂ h₂ => ?_) fun _ _ => trivial
  refine .bind (H.randomize_ends ho h₁.2 h₂.2.1) (fun store t₃ h₃ => ?_) fun _ _ => trivial
  exact .bind_report fun u hu => .pure (hu.world ▸ h₃.1)

/-- Starting to serve what is filed, with no password to be replaced, gives just that and writes
nothing. -/
theorem load_filed {o : Config.Options} {container : Container} {password : Password} {s : Session W}
    (hrandomize : o.randomize = false) (hpassword : plain o.password = .ok password)
    (hfiled : Filed (disk s.world) o.path container password) :
    (load c o).Ends s (fun store t => store = ⟨o, container⟩ ∧ Unwritten disk s t) fun _ => False := by
  unfold load
  refine .bind (H.plainPassword_ends o s) ?_ fun _ h => h.2 password hpassword
  rintro password' t₁ ⟨h₁, hpassword'⟩
  obtain rfl : password = password' := Except.ok.inj (hpassword.symm.trans hpassword')
  rw [← h₁.disk] at hfiled
  refine .bind (H.openContainer_ends o password t₁) ?_ fun _ h => h.2 container hfiled
  rintro container' t₂ ⟨-, -, h₂⟩
  obtain ⟨rfl, h₂⟩ := h₂ container hfiled
  rw [randomize, hrandomize]
  refine .bind (p := fun store t => store = ⟨o, container'⟩ ∧ Unwritten disk s t) (q := fun _ => False)
    (.pure ⟨rfl, Course.trans h₁ h₂⟩) ?_ fun _ h => h
  rintro _ t₃ ⟨rfl, h₃⟩
  exact .bind_report fun u hu => .pure ⟨rfl, Course.trans h₃ (Course.of_continues hu)⟩

/-- What is served, under another password if there is one, when the path stays the same. -/
theorem moveContainer_ends {current : LoadedStore} {o : Config.Options} {old password : Password}
    {s : Session W} (hpath : o.path = current.options.path)
    (hold : plain current.options.password = .ok old)
    (hpassword : plain o.password = .ok password)
    (hfiled : Filed (disk s.world) current.options.path current.container old) :
    (moveContainer c current o password).Ends s
      (fun moved t => s.journal <+: t.journal ∧ Filed (disk t.world) o.path moved.1 password ∧
        match moved.2 with
        | none => moved.1 = current.container ∧ password = old
        | some previous => previous = old)
      (StillFiled disk o.path s) := by
  have hsame : (!current.options.path.same o.path) = false := by simp [hpath, Path.same]
  unfold moveContainer
  rw [if_neg (by simp [hsame])]
  split
  · refine .bind (H.plainPassword_ends current.options s) ?_ fun _ ht => ht.1.stillFiled o.path
    rintro previous t ⟨ht, hprevious⟩
    obtain rfl : old = previous := Except.ok.inj (hold.symm.trans hprevious)
    split
    · -- two secrets may stand for one password
      rename_i heq
      exact .pure ⟨ht.journal, by rw [ht.disk, hpath, ← heq]; exact hfiled, rfl, heq.symm⟩
    · refine .bind_report fun u hu => ?_
      have hsu := Course.trans ht (Course.of_continues hu)
      refine .bind (H.reprotect_ends current.container o old password u) ?_ fun _ hv =>
        Course.trans (hsu.stillFiled o.path) hv
      rintro k v ⟨hj, hk⟩
      exact .pure ⟨hsu.journal.trans hj, hk, rfl⟩
  · rename_i hsecret
    have hsecret : current.options.password = o.password := by simpa using hsecret
    obtain rfl : old = password := by rw [hsecret, hpassword] at hold; exact (Except.ok.inj hold).symm
    exact .pure ⟨List.prefix_refl _, by rw [hpath]; exact hfiled, rfl, rfl⟩

/-- **Going over to options with the same path ends in what is filed, or leaves filed what was.** -/
theorem change_ends {current : LoadedStore} {o : Config.Options} {p : Config.Properties}
    {s : Session W} (ho : Config.Options.ofProperties p = .ok o)
    (hpath : o.path = current.options.path) (hcurrent : Retained disk plain current s.world) :
    (change c current o).Ends s
      (fun store t => Retained disk plain store t.world ∧ (o.randomize = false → store.options = o))
      fun t => PutBacksHeld s t → Retained disk plain current t.world := by
  obtain ⟨old, hold, hfiled⟩ := hcurrent
  have hasis : ∀ t, StillFiled disk current.options.path s t →
      PutBacksHeld s t → Retained disk plain current t.world :=
    fun t ht _ => ⟨old, hold, ht.filed _ _ hfiled⟩
  unfold change
  refine .bind (H.plainPassword_ends o s) ?_ fun t ht => hasis t (ht.1.stillFiled _)
  rintro password t₁ ⟨h₁, hpassword⟩
  have hfiled₁ := hfiled
  rw [← h₁.disk] at hfiled₁
  refine .bind (H.moveContainer_ends hpath hold hpassword hfiled₁) ?_ fun t ht =>
    hasis t (Course.trans (h₁.stillFiled _) (hpath ▸ ht))
  rintro ⟨container, previous⟩ t₂ ⟨hj₂, hfiled₂, hmoved⟩
  have hj := h₁.journal.trans hj₂
  have hrandomize := (H.randomize_ends ho hpassword hfiled₂).imp (fun store t ht =>
    (⟨ht.1, fun h => by rw [ht.2 h]⟩ : _ ∧ (o.randomize = false → store.options = o))) fun _ ht => ht
  cases previous with
  | none =>
    -- the container stayed under its password, and randomizing sees to its own failures
    obtain ⟨rfl, rfl⟩ := hmoved
    refine hrandomize.imp (fun _ _ h => h) fun t ⟨hj₃, h₃⟩ hheld => ⟨password, hold, ?_⟩
    rw [← hpath]
    exact h₃ (hheld.tail hj)
  | some previous =>
    -- the container was put under a new password, so a failure has to put it back under the old one
    obtain rfl := hmoved
    refine .tryCatch hrandomize (fun _ _ h => h) fun e t ⟨hj₃, _⟩ => ?_
    refine .bind (H.putBack_ends current.container current.options.path _ e t) ?_ fun _ h => h.elim
    rintro cause u ⟨-, hu⟩
    exact .throw fun hheld => ⟨previous, hold, hu (hheld.tail (hj.trans hj₃))⟩

/-! ### Steps under another path -/

/-- Whatever concerns a path changes files in the territory of that path only. -/
theorem along (path : Path) : c.Along (Within disk path) path where
  contains := .of_ends fun s => (H.contains_ends path s).imp (fun _ _ ht => ht.1.within path)
    fun _ h => h.elim
  load password := .of_ends fun s => (H.load_ends path password s).imp
    (fun _ _ ht => ht.1.within path) fun _ ht => ht.1.within path
  store container password := .of_ends fun s => (H.store_ends container path password s).imp
    (fun _ _ ht => ht.2.1) fun _ ht => ht.2
  decrypt secret := fun s => (H.decrypt secret s).imp fun _ _ ht => ht.2.within path
  encrypt password := .of_ends fun s => (H.encrypt password s).imp (fun _ _ ht => ht.1.within path)
    fun _ ht => ht.within path

/-! ### Paths that end in a slash -/

/-- Under a path that ends in a slash nothing is opened, unless it names a directory. -/
theorem openContainer_slash {o : Config.Options} {s : Session W} (hslash : endsInSlash o.path = true)
    (hdirectory : (disk s.world).isDirectory o.path = false) (password : Password) :
    (openContainer c o password).Ends s (fun _ _ => False) fun _ => True := by
  have hpath : containerPath fileSystem o.path (disk s.world) = o.path :=
    if_neg (by simp [fileSystem, hdirectory])
  unfold openContainer
  refine .bind (H.contains_ends o.path s) ?_ fun _ _ => trivial
  rintro there t ⟨ht, rfl⟩
  rw [hpath, isFile_of_endsInSlash hslash]
  refine .bind_report fun u hu => ?_
  have hstore : (c.backend.store Table.empty o.path password).Ends u (fun _ _ => False)
      fun _ => True := by
    rw [H.backend]
    exact storeFile_slash H.follows Table.empty password hslash (by rwa [hu.world, ht.disk])
  exact .bind (.mapError hstore) (fun _ _ h => h.elim) fun _ _ => trivial

theorem load_slash {o : Config.Options} {s : Session W} (hslash : endsInSlash o.path = true)
    (hdirectory : (disk s.world).isDirectory o.path = false) :
    (load c o).Ends s (fun _ _ => False) fun _ => True := by
  unfold load
  refine .bind (H.plainPassword_ends o s) (fun password t ht => ?_) fun _ _ => trivial
  refine .bind (H.openContainer_slash hslash ?_ password) (fun _ _ h => h.elim) fun _ _ => trivial
  rwa [ht.1.disk]

end OnFiles

/-- Going over to options with another path. -/
def relocate (c : Collaborators W) (current : LoadedStore) (o : Config.Options) :
    Act W LoadedStore := do
  let password ← plainPassword c o
  Act.report .info "keystore path changed" [("from", current.options.path.text), ("to", o.path.text)]
  let container ← openContainer c o password
  randomize c o container password

theorem change_eq_relocate {current : LoadedStore} {o : Config.Options}
    (hpath : current.options.path.same o.path = false) :
    change c current o = relocate c current o := by
  simp [change, moveContainer, relocate, hpath]

namespace OnFiles

variable (H : OnFiles c fs disk plain)

include H

/-- Going over to another path ends in what is filed there.  Even if it fails, it changes files in the
territory of that path only. -/
theorem relocate_ends {o : Config.Options} {p : Config.Properties}
    (ho : Config.Options.ofProperties p = .ok o) (current : LoadedStore) (s : Session W) :
    (relocate c current o).Ends s
      (fun store t => Retained disk plain store t.world ∧ (o.randomize = false → store.options = o))
      fun t => Within disk o.path s t := by
  have halong := H.along o.path
  have hupdate : ∀ serviceId p, Along (Within disk o.path) (c.updateConfiguration serviceId p) :=
    fun _ _ s => (H.updateConfiguration _ _ s).imp fun _ _ ht => ht.within o.path
  have hwithin : Along (Within disk o.path) (relocate c current o) :=
    .bind (halong.plainPassword o) fun password => .bind (.of_quiet (.report _ _ _)) fun _ =>
      .bind (halong.openContainer password) fun container =>
        halong.randomize hupdate container password
  -- files may be written before a failure: that is said by the course, the rest is about success
  refine (Act.Ends.and (q := fun _ => True) ?_ (hwithin s)).imp (fun _ _ ht => ht.1) fun _ ht => ht.2
  refine .bind (H.plainPassword_ends o s) (fun password t₁ h₁ => .bind_report fun t₂ _ => ?_)
    fun _ _ => trivial
  refine .bind (H.openContainer_ends o password t₂) (fun container t₃ h₃ => ?_) fun _ _ => trivial
  exact (H.randomize_ends ho h₁.2 h₃.2.1).imp (fun _ _ ht => ⟨ht.1, fun h => by rw [ht.2 h]⟩)
    fun _ _ => trivial

end OnFiles

end Keyring.Service

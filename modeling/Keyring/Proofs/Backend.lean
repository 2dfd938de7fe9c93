import Keyring.Backend
import Keyring.Proofs.Container
import Keyring.Proofs.ContainerFormat
import Keyring.Proofs.Files.Laws
import Keyring.Proofs.Files.Rooted

/-!
# Container files

`Backend.store_atomic` : over any file system whose operations do what they are for or fail, a
container that is stored in a file is found and loaded as it was, and a container that could not be
stored leaves what stood at the place of its file.  What its path leads to is another matter, since
directories may have been created: `Backend.store_isFile` is about paths for which that changes
nothing.

The file is written beside its place first, at another place (`placeNamed_temporary_ne`).  So everything
but the move spares the container (`Spares`), and a move that fails changes nothing; `storeFile_ends`
puts the steps together.
-/

namespace Keyring.Backend

open Files Files.Disk
variable {W : Type} {fs : FileSystem W} {disk : W → Disk}

/-! ### Names of files -/

/-- The name of the file that is written first. -/
def temporaryName (file : Path) : String := (file.fileName?.getD "") ++ ".tmp"

theorem toList_temporaryName (file : Path) :
    (temporaryName file).toList = (file.fileName?.getD "").toList ++ ['.', 't', 'm', 'p'] := by
  rw [temporaryName, String.toList_append]
  rfl

theorem isName_temporaryName (file : Path) : IsName (temporaryName file) := by
  have hslash : '/' ∉ (file.fileName?.getD "").toList := by
    cases hname : file.fileName? with
    | none => exact List.not_mem_nil
    | some name => exact Path.notMem_of_fileName?_eq_some hname
  have hlength : 4 ≤ (temporaryName file).toList.length := by
    rw [toList_temporaryName, List.length_append]
    exact Nat.le_add_left _ _
  refine ⟨?_, ?_, ?_, ?_⟩
  · rw [toList_temporaryName, List.mem_append]
    exact fun h => h.elim hslash (by decide)
  all_goals
    intro h
    rw [h] at hlength
    exact absurd hlength (by decide)

/-- The file that is written first has another place than the container. -/
theorem placeNamed_temporary_ne (d : Disk) (file : Path) :
    d.placeNamed (temporary file) ≠ d.placeNamed file := by
  obtain ⟨directory, htemporary, hdirectory⟩ :=
    d.placeNamed_withFileName (p := file) (isName_temporaryName file)
  change d.placeNamed (file.withFileName (temporaryName file)) ≠ _
  rw [htemporary]
  cases hname : file.fileName? with
  | none =>
    rw [hdirectory hname]
    exact fun h => absurd (congrArg List.length h) (by simp)
  | some name =>
    obtain ⟨directory', hfile⟩ := d.placeNamed_of_fileName? hname
    rw [hfile]
    intro h
    have hlast : temporaryName file = name := by simpa using (List.append_inj' h rfl).2
    rw [temporaryName, hname, ← String.toList_inj, Option.getD_some, String.toList_append] at hlast
    exact absurd (congrArg List.length hlast) (by simp)

/-! ### Operations on files -/

theorem onFiles_apply {α : Type} (f : W → Except Fault α × W) (s : Session W) :
    onFiles f s = ((f s.world).1.mapError .storage, { s with world := (f s.world).2 }) :=
  Act.onWorld_apply _ s

theorem onFiles_ends {α : Type} {f : W → Except Fault α × W} {s : Session W}
    {p : α → Session W → Prop} {q : Session W → Prop}
    (hok : ∀ a, (f s.world).1 = .ok a → p a { s with world := (f s.world).2 })
    (herr : ∀ fault, (f s.world).1 = .error fault → q { s with world := (f s.world).2 }) :
    (onFiles f).Ends s p q := by
  rw [Act.Ends, Act.Ensures, onFiles_apply]
  rcases hf : f s.world with ⟨fault | a, w⟩ <;> rw [hf] at hok herr
  · exact herr fault rfl
  · exact hok a rfl

/-! ### Storing -/

/-- A tree in which only the file that is written first may have changed. -/
abbrev Spares (file : Path) (d d' : Disk) : Prop := Keeps [d.placeNamed (temporary file)] d d'

theorem Spares.trans {file : Path} {d d₁ d' : Disk} (h : Spares file d d₁) (h' : Spares file d₁ d') :
    Spares file d d' := by
  rw [Spares, h.placeNamed] at h'
  exact Keeps.trans h h'

/-- What the tree is after a container was stored in `file`. -/
structure Stored (c : Container) (password : Password) (file : Path) (d d' : Disk) : Prop where
  keeps : Keeps [d.placeNamed (temporary file), d.placeNamed file] d d'
  sealed : ∃ sealedText, Sealing.openText sealedText password.bytes = .ok c.toJson ∧
    d'.existing file = .ok (d.placeNamed file, .file (mark ++ sealedText))
  moved : ∀ place node, d'.existing (temporary file) ≠ .ok (place, node)

theorem Stored.of_spares {c : Container} {password : Password} {file : Path} {d d₁ d' : Disk}
    (h : Spares file d d₁) (h' : Stored c password file d₁ d') : Stored c password file d d' := by
  have hkeeps := h'.keeps
  have hsealed := h'.sealed
  rw [h.placeNamed, h.placeNamed] at hkeeps
  rw [h.placeNamed] at hsealed
  exact ⟨(Keeps.mono h (by simp)).trans hkeeps, hsealed, h'.moved⟩

/-- Moving the file that was written first to its place stores the container. -/
theorem stored_of_rename {c : Container} {password : Password} {file : Path} {d d' : Disk}
    {sealedText : Bytes} (hsealed : Sealing.openText sealedText password.bytes = .ok c.toJson)
    (hwritten : d.fileAt (d.placeNamed (temporary file)) = some (mark ++ sealedText))
    (hrename : d.rename (temporary file) file = (.ok (), d')) : Stored c password file d d' := by
  obtain ⟨hkeeps, ⟨content, hcontent, hexisting⟩, hmoved⟩ :=
    moved_of_rename hrename (placeNamed_temporary_ne d file)
  obtain rfl : content = mark ++ sealedText := Option.some.inj (hcontent.symm.trans hwritten)
  exact ⟨hkeeps, ⟨sealedText, hsealed, hexisting⟩, hmoved⟩

/-- Writing beside the container spares it. -/
theorem write_ends (hfs : fs.Follows disk) (file : Path) (content : Bytes) (s : Session W) :
    (onFiles (fs.write (temporary file) content)).Ends s
      (fun _ t => Spares file (disk s.world) (disk t.world) ∧
        (disk t.world).fileAt ((disk s.world).placeNamed (temporary file)) = some content)
      (fun t => Spares file (disk s.world) (disk t.world)) := by
  refine onFiles_ends (fun _ h => write_eq_ok (hfs.write_ok _ _ _ h)) fun fault h => ?_
  rcases hfs.write_error _ _ _ _ h with hsame | ⟨place, torn, hplace, hput⟩
  · rw [hsame]
    exact .refl _ _
  · obtain ⟨rfl, hfree, -⟩ := writable_eq_ok hplace
    rw [hput]
    exact keeps_put_file hfree

/-- The file that was written first is moved to its place, or removed if that fails. -/
theorem move_ends (hfs : fs.Follows disk) {c : Container} {password : Password} (file : Path)
    {sealedText : Bytes} (hsealed : Sealing.openText sealedText password.bytes = .ok c.toJson)
    (s : Session W) (hwritten : (disk s.world).fileAt ((disk s.world).placeNamed (temporary file)) =
      some (mark ++ sealedText)) :
    (try onFiles (fs.rename (temporary file) file)
      catch e =>
        modify fun s => { s with world := (fs.remove (temporary file) s.world).2 }
        throw e : Act W Unit).Ends s
      (fun _ t => Stored c password file (disk s.world) (disk t.world))
      (fun t => Spares file (disk s.world) (disk t.world)) := by
  have hmove : (onFiles (fs.rename (temporary file) file)).Ends s
      (fun _ t => Stored c password file (disk s.world) (disk t.world))
      (fun t => disk t.world = disk s.world) := by
    refine onFiles_ends (fun _ h => ?_) fun fault h => hfs.rename_error _ _ _ _ h
    exact stored_of_rename hsealed hwritten (hfs.rename_ok _ _ _ h)
  refine .tryCatch hmove (fun _ _ ht => ht) fun e t ht => ?_
  change Spares file (disk s.world) (disk (fs.remove (temporary file) t.world).2)
  rw [← ht]
  rcases hremove : (fs.remove (temporary file) t.world).1 with fault | _
  · rw [hfs.remove_error _ _ _ hremove]
    exact .refl _ _
  · exact remove_eq_ok (hfs.remove_ok _ _ hremove)

/-- A container is stored, or nothing but the file that is written first has changed. -/
theorem storeFile_ends (hfs : fs.Follows disk) (c : Container) (path : Path) (password : Password)
    (s : Session W) :
    (storeFile fs c path password).Ends s
      (fun _ t => Stored c password (containerPath fs path s.world) (disk s.world) (disk t.world))
      (fun t => Spares (containerPath fs path s.world) (disk s.world) (disk t.world)) := by
  rw [storeFile]
  refine .bind_look ?_
  generalize containerPath fs path s.world = file
  have hrest : ∀ t₁ : Session W, Keeps [] (disk s.world) (disk t₁.world) →
      (do
        let sealedText ← Sealing.sealFresh c.toJson password.bytes
        onFiles (fs.write (temporary file) (mark ++ sealedText))
        try onFiles (fs.rename (temporary file) file)
        catch e =>
          modify fun s => { s with world := (fs.remove (temporary file) s.world).2 }
          throw e
        reportFile "keystore stored" file c : Act W Unit).Ends t₁
          (fun _ t => Stored c password file (disk s.world) (disk t.world))
          (fun t => Spares file (disk s.world) (disk t.world)) := by
    intro t₁ ht₁
    have hspares : Spares file (disk s.world) (disk t₁.world) := ht₁.mono (by simp)
    refine .bind (Sealing.sealFresh_ends c.toJson password.bytes t₁) ?_ fun _ h => h.elim
    rintro sealedText t₂ ⟨hsealed, ht₂, -⟩
    rw [← ht₂] at hspares
    refine .bind (write_ends hfs file _ t₂) ?_ fun t ht => hspares.trans ht
    rintro _ t₃ ⟨hwritten, hcontent⟩
    rw [← hwritten.placeNamed] at hcontent
    have hspares' := hspares.trans hwritten
    refine .bind (move_ends hfs file hsealed t₃ hcontent) (fun _ t₄ ht₄ => ?_) fun t ht =>
      hspares'.trans ht
    refine .report fun t ht => ?_
    rw [ht.world]
    exact ht₄.of_spares hspares'
  dsimp only
  split
  · rename_i parent _
    split
    · refine .bind (onFiles_ends (fun _ _ => ?_) fun _ _ => ?_) (fun _ t₁ ht₁ => hrest t₁ ht₁)
        fun t (ht : Keeps [] (disk s.world) (disk t.world)) => ht.mono (by simp)
      · exact hfs.createDirectories parent s.world
      · exact hfs.createDirectories parent s.world
    · exact hrest s (.refl _ _)
  · exact hrest s (.refl _ _)

/-- How storing goes in the working directory, where no directory is created: it ends as the move
does. -/
theorem storeFile_here {path file : Path} {s : Session W} {written moved : Bytes → W}
    {r : Bytes → Except Fault Unit} (hfile : containerPath fs path s.world = file)
    (hparent : file.parent? = some ⟨""⟩)
    (hwrite : ∀ content, fs.write (temporary file) content s.world = (.ok (), written content))
    (hmove : ∀ content, fs.rename (temporary file) file (written content) = (r content, moved content))
    (c : Container) (password : Password) :
    (storeFile fs c path password).Ends s
      (fun _ t => ∃ content fields, r content = .ok () ∧ t.world = moved content ∧
        t.journal = s.journal ++ [⟨.debug, "keystore stored", fields⟩])
      fun _ => ∃ content fault, r content = .error fault := by
  rw [storeFile]
  refine .bind_look ?_
  rw [hfile, hparent]
  refine .bind (Sealing.sealFresh_ends _ _ s) ?_ fun _ h => h.elim
  rintro sealedText t ⟨-, ht, hj⟩
  generalize mark ++ sealedText = content
  have hwritten : (onFiles (fs.write (temporary file) content)).Ends t
      (fun _ u => u.world = written content ∧ u.journal = s.journal) fun _ => False := by
    rw [Act.Ends, Act.Ensures, onFiles_apply, ht, hwrite]
    exact ⟨rfl, hj⟩
  refine .bind hwritten ?_ fun _ h => h.elim
  rintro _ u ⟨hu, hj⟩
  have hmoved : (onFiles (fs.rename (temporary file) file)).Ends u
      (fun _ v => r content = .ok () ∧ v.world = moved content ∧ v.journal = s.journal)
      fun _ => ∃ content fault, r content = .error fault := by
    rw [Act.Ends, Act.Ensures, onFiles_apply, hu, hmove]
    cases hr : r content with
    | ok _ => exact ⟨rfl, rfl, hj⟩
    | error fault => exact ⟨content, fault, hr⟩
  refine .bind (.tryCatch hmoved (fun _ _ h => h) fun e v hv => ?_) ?_ fun _ h => h
  · exact hv
  · rintro _ v ⟨hr, hv, hj⟩
    exact ⟨content, _, hr, hv, congrArg (· ++ _) hj⟩

/-! ### Reading back -/

theorem containerPath_stored (hfs : fs.Follows disk) {c : Container} {path : Path}
    {password : Password} {w w' : W}
    (h : Stored c password (containerPath fs path w) (disk w) (disk w')) :
    containerPath fs path w' = containerPath fs path w := by
  rw [containerPath, containerPath, hfs.isDirectory, hfs.isDirectory]
  by_cases hdirectory : (disk w).isDirectory path = true
  · obtain ⟨place, hplace⟩ := isDirectory_iff.1 hdirectory
    rw [if_pos hdirectory, if_pos (isDirectory_iff.2 ⟨place, h.keeps.existing_directory hplace⟩)]
  · rw [containerPath, hfs.isDirectory, if_neg hdirectory] at h
    obtain ⟨sealedText, -, hfile⟩ := h.sealed
    rw [if_neg hdirectory, if_neg]
    rw [isDirectory_iff]
    rintro ⟨place, hplace⟩
    rw [hfile] at hplace
    cases hplace

/-- What was sealed into a file is read from it. -/
theorem readFile_sealed {c : Container} {password : Password} {sealedText : Bytes} (file : Path)
    (hsealed : Sealing.openText sealedText password.bytes = .ok c.toJson) :
    readFile file password (mark ++ sealedText) = .ok c := by
  rw [readFile, if_pos List.take_left, List.drop_left]
  exact bind_eq_ok_iff.2 ⟨_, hsealed, Container.parse_toJson c⟩

/-- What is loaded depends on the file alone. -/
theorem loadFile_apply (fs : FileSystem W) (path : Path) (password : Password) (s : Session W) :
    (loadFile fs path password s).1 =
      ((fs.read (containerPath fs path s.world) s.world).mapError .storage >>=
        readFile (containerPath fs path s.world) password) := by
  rw [loadFile, Act.bind_apply, Act.look_apply]
  dsimp only
  rw [Act.bind_apply, onFiles_apply]
  dsimp only
  cases fs.read (containerPath fs path s.world) s.world with
  | error fault => rfl
  | ok content =>
    rw [mapError_ok]
    dsimp only
    rw [Act.bind_apply, Act.liftM_apply]
    change _ = readFile (containerPath fs path s.world) password content
    cases readFile (containerPath fs path s.world) password content <;> rfl

/-- A stored container is loaded as it was. -/
theorem loadFile_of_existing (hfs : fs.Follows disk) {c : Container} {path : Path}
    {password : Password} {s : Session W} {place : Location} {sealedText : Bytes}
    (hsealed : Sealing.openText sealedText password.bytes = .ok c.toJson)
    (hfile : (disk s.world).existing (containerPath fs path s.world) =
      .ok (place, .file (mark ++ sealedText))) :
    (loadFile fs path password s).1 = .ok c := by
  rw [loadFile_apply, hfs.read, read_eq_ok hfile]
  exact readFile_sealed (containerPath fs path s.world) hsealed

/-- A container is stored as a whole or not at all.  The file of a container is meant by its place
here: a path through a directory that is still missing names a place all the same. -/
theorem store_atomic (hfs : fs.Follows disk) (c : Container) (path : Path) (password : Password)
    (s : Session W) :
    ((files fs).store c path password).Ends s
      (fun _ t =>
        ((files fs).contains path t).1 = .ok true ∧ ((files fs).load path password t).1 = .ok c ∧
        fs.isFile (temporary (containerPath fs path s.world)) t.world = false ∧
        fs.isDirectory (temporary (containerPath fs path s.world)) t.world = false)
      (fun t =>
        (disk t.world).fileAt ((disk s.world).placeNamed (containerPath fs path s.world)) =
          (disk s.world).fileAt ((disk s.world).placeNamed (containerPath fs path s.world)) ∧
        (fs.isFile (containerPath fs path s.world) s.world = true →
          fs.isFile (containerPath fs path s.world) t.world = true ∧
          fs.read (containerPath fs path s.world) t.world =
            fs.read (containerPath fs path s.world) s.world)) := by
  refine (storeFile_ends hfs c path password s).imp (fun _ t ht => ?_) fun t ht => ?_
  · obtain ⟨sealedText, hsealed, hfile⟩ := ht.sealed
    have hpath := containerPath_stored hfs ht
    have hfile' := hfile
    rw [← hpath] at hfile'
    refine ⟨?_, loadFile_of_existing hfs hsealed hfile', ?_, ?_⟩
    · have hthere : fs.isFile (containerPath fs path t.world) t.world = true := by
        rw [hfs.isFile, isFile_iff]
        exact ⟨_, _, hfile'⟩
      exact congrArg Except.ok hthere
    · rw [hfs.isFile, ← Bool.not_eq_true, isFile_iff]
      rintro ⟨place, content, htemporary⟩
      exact ht.moved _ _ htemporary
    · rw [hfs.isDirectory, ← Bool.not_eq_true, isDirectory_iff]
      rintro ⟨place, htemporary⟩
      exact ht.moved _ _ htemporary
  · have hne := (placeNamed_temporary_ne (disk s.world) (containerPath fs path s.world)).symm
    refine ⟨ht.file _ (by simpa using hne), fun hfile => ?_⟩
    rw [hfs.isFile, isFile_iff] at hfile
    obtain ⟨place, content, hexisting⟩ := hfile
    obtain rfl := placeNamed_of_existing hexisting
    have hexisting' := ht.existing_file hexisting (by simpa using hne)
    rw [hfs.isFile, hfs.read, hfs.read, read_eq_ok hexisting, read_eq_ok hexisting', isFile_iff]
    exact ⟨⟨_, _, hexisting'⟩, rfl⟩

/-- Where a container is not stored, its path leads to a file just if it did before.  A path that goes
up from a missing directory is another matter: that directory may be all that it takes to lead to a
file, and creating it changes no file. -/
theorem store_isFile (hfs : fs.Follows disk) (c : Container) (path : Path) (password : Password)
    (s : Session W) (hrooted : (disk s.world).Rooted)
    (hpath : (disk s.world).Grounded (containerPath fs path s.world)) :
    ((files fs).store c path password).Ends s (fun _ _ => True) fun t =>
      fs.isFile (containerPath fs path s.world) t.world =
        fs.isFile (containerPath fs path s.world) s.world := by
  refine (storeFile_ends hfs c path password s).imp (fun _ _ _ => trivial) fun t ht => ?_
  have hne := (placeNamed_temporary_ne (disk s.world) (containerPath fs path s.world)).symm
  rw [hfs.isFile, hfs.isFile]
  exact ht.isFile_eq hrooted hpath (by simpa using hne)

/-! A container is stored, or the move to its place is refused. -/

/-- A container with one entry. -/
def sample : Container := Table.empty.insert "root" (.trusted [0x30] 7)

/-- A file stands where the container will be stored; moving another one there may be planned to
fail. -/
def planned (refused : Bool) : Session Planned where
  world := ⟨Disk.fresh.put ["tmp", "keyring", "k"] (.file [1, 2, 3]), [false, refused]⟩
  entropy := ⟨fun _ => 0, 0⟩
  now := 0
  journal := []

theorem storeFile_planned (refused : Bool) (password : Password) :
    (storeFile Planned.fileSystem sample ⟨"k"⟩ password).Ends (planned refused)
      (fun _ _ => refused = false) fun _ => refused = true := by
  have hfile : containerPath Planned.fileSystem ⟨"k"⟩ (planned refused).world = ⟨"k"⟩ := rfl
  have htemporary : temporary ⟨"k"⟩ = ⟨"k.tmp"⟩ := by decide +kernel
  have hparent : Path.parent? ⟨"k"⟩ = some ⟨""⟩ := by decide +kernel
  have hwrite : ∀ content,
      Planned.fileSystem.write (temporary ⟨"k"⟩) content (planned refused).world =
        (.ok (), ⟨(planned refused).world.disk.put ["tmp", "keyring", "k.tmp"] (.file content),
          [refused]⟩) := by
    rw [htemporary]
    exact fun _ => rfl
  have hmove : ∀ content, Planned.fileSystem.rename (temporary ⟨"k"⟩) ⟨"k"⟩
      ⟨(planned refused).world.disk.put ["tmp", "keyring", "k.tmp"] (.file content),
        [refused]⟩ = _ :=
    fun _ => rfl
  have hends := storeFile_here hfile hparent hwrite hmove sample password
  rw [htemporary] at hends
  refine Act.Ends.imp hends ?_ ?_
  · rintro _ _ ⟨_, _, hr, -⟩
    cases refused with
    | false => rfl
    | true => cases hr
  · rintro _ ⟨_, _, hr⟩
    cases refused with
    | false => cases hr
    | true => rfl

theorem store_atomic_planned :
    let stored := (files Planned.fileSystem).store sample ⟨"k"⟩ ⟨"password"⟩ (planned false)
    let refused := (files Planned.fileSystem).store sample ⟨"k"⟩ ⟨"password"⟩ (planned true)
    (stored.1 = .ok () ∧
      ((files Planned.fileSystem).load ⟨"k"⟩ ⟨"password"⟩ stored.2).1 = .ok sample) ∧
    (∃ e, refused.1 = .error e) ∧ Planned.fileSystem.read ⟨"k"⟩ refused.2.world = .ok [1, 2, 3] := by
  have hstored := store_atomic Planned.follows_fileSystem sample ⟨"k"⟩ ⟨"password"⟩ (planned false)
  have hrefused := store_atomic Planned.follows_fileSystem sample ⟨"k"⟩ ⟨"password"⟩ (planned true)
  have hstored' : ((files Planned.fileSystem).store sample ⟨"k"⟩ ⟨"password"⟩).Ends _ _ _ :=
    storeFile_planned false ⟨"password"⟩
  have hrefused' : ((files Planned.fileSystem).store sample ⟨"k"⟩ ⟨"password"⟩).Ends _ _ _ :=
    storeFile_planned true ⟨"password"⟩
  refine ⟨?_, ?_⟩
  · rcases hr :
      ((files Planned.fileSystem).store sample ⟨"k"⟩ ⟨"password"⟩ (planned false)).1 with e | _
    · exact absurd (hstored'.of_error hr) (by decide)
    · exact ⟨rfl, (hstored.of_ok hr).2.1⟩
  · rcases hr :
      ((files Planned.fileSystem).store sample ⟨"k"⟩ ⟨"password"⟩ (planned true)).1 with e | _
    · exact ⟨⟨e, rfl⟩, ((hrefused.of_error hr).2 rfl).2⟩
    · exact absurd (hrefused'.of_ok hr) (by decide)

end Keyring.Backend

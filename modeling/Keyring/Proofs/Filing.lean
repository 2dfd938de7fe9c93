import Keyring.Proofs.Backend
import Keyring.Proofs.Quiet
import Keyring.Proofs.Service.Operation

/-!
# What is filed under a path

A container is *filed* under a path if the file that the path stands for holds it, sealed under a
password (`Backend.Filed`).  Loading answers from what is filed (`loadFile_filed`).  Storing files a
container or leaves what is filed under the path as it was, and in either case changes files in its
territory only (`Backend.territory`, `storeFile_filed`): what has its place elsewhere stays filed
(`Filed.of_keeps`).

A path that ends in a slash stands for no file, so that nothing is ever stored under it unless it
names a directory (`storeFile_slash`).
-/

namespace Keyring.Backend

open Files Files.Disk Service.Operation
variable {W : Type} {fs : FileSystem W} {disk : W → Disk}

/-- The container is in the file that the path stands for, sealed under the password. -/
def Filed (d : Disk) (path : Path) (c : Container) (password : Password) : Prop :=
  ∃ place content, d.existing (containerPath fileSystem path d) = .ok (place, .file content) ∧
    readFile (containerPath fileSystem path d) password content = .ok c

/-- The places of the files that storing under a path may change, whether or not the path names a
directory. -/
def territory (d : Disk) (path : Path) : List Location :=
  [path, path.join ⟨defaultName⟩].flatMap fun file =>
    [d.placeNamed (temporary file), d.placeNamed file]

/-- What is filed under a path has its place outside the territory of another one. -/
def Apart (d : Disk) (path other : Path) : Prop :=
  ∀ file ∈ [path, path.join ⟨defaultName⟩], d.placeNamed file ∉ territory d other

theorem containerPath_mem (path : Path) (w : W) :
    containerPath fs path w ∈ [path, path.join ⟨defaultName⟩] := by
  rw [containerPath]
  split <;> simp

theorem mem_territory {d : Disk} {path file : Path} (h : file ∈ [path, path.join ⟨defaultName⟩]) :
    ∀ place ∈ [d.placeNamed (temporary file), d.placeNamed file], place ∈ territory d path :=
  fun _ hplace => List.mem_flatMap.2 ⟨file, h, hplace⟩

theorem territory_of_keeps {changed : List Location} {d d' : Disk} (h : Keeps changed d d')
    (path : Path) : territory d' path = territory d path := by
  simp only [territory, h.placeNamed]

theorem containerPath_disk (hfs : fs.Follows disk) (path : Path) (w : W) :
    containerPath fs path w = containerPath fileSystem path (disk w) := by
  rw [containerPath, containerPath, hfs.isDirectory]
  rfl

/-- A path that stands for a file goes on to stand for it as long as the file is kept. -/
theorem containerPath_of_keeps {changed : List Location} {d d' : Disk} {path : Path}
    {place : Location} {content : Bytes} (h : Keeps changed d d')
    (hfile : d.existing (containerPath fileSystem path d) = .ok (place, .file content))
    (hplace : place ∉ changed) :
    containerPath fileSystem path d' = containerPath fileSystem path d := by
  by_cases hdirectory : d.isDirectory path = true
  · obtain ⟨q, hq⟩ := isDirectory_iff.1 hdirectory
    have hdirectory' : d'.isDirectory path = true := isDirectory_iff.2 ⟨q, h.existing_directory hq⟩
    exact (if_pos hdirectory').trans (if_pos hdirectory).symm
  · have hpath : containerPath fileSystem path d = path := if_neg hdirectory
    rw [hpath] at hfile ⊢
    -- the file is still there, so the path does not name a directory now
    have hfile' := h.existing_file hfile hplace
    refine if_neg fun hdirectory' => ?_
    obtain ⟨q, hq⟩ := isDirectory_iff.1 hdirectory'
    rw [hfile'] at hq
    cases hq

/-! ### What stays filed -/

namespace Filed

variable {d d' : Disk} {path : Path} {c c' : Container} {password : Password}

theorem unique (h : Filed d path c password) (h' : Filed d path c' password) : c' = c := by
  obtain ⟨place, content, hfile, hread⟩ := h
  obtain ⟨place', content', hfile', hread'⟩ := h'
  obtain ⟨rfl, rfl⟩ : place = place' ∧ content = content' := by simpa [hfile] using hfile'
  exact Except.ok.inj (hread'.symm.trans hread)

theorem isFile (h : Filed d path c password) :
    d.isFile (containerPath fileSystem path d) = true := by
  obtain ⟨place, content, hfile, -⟩ := h
  exact isFile_iff.2 ⟨place, content, hfile⟩

/-- What is filed stays filed where nothing but other files are changed. -/
theorem of_keeps {changed : List Location} (h : Keeps changed d d')
    (hplace : d.placeNamed (containerPath fileSystem path d) ∉ changed)
    (hfiled : Filed d path c password) : Filed d' path c password := by
  obtain ⟨place, content, hfile, hread⟩ := hfiled
  obtain rfl := placeNamed_of_existing hfile
  rw [Filed, containerPath_of_keeps h hfile hplace]
  exact ⟨_, content, h.existing_file hfile hplace, hread⟩

theorem of_apart {other : Path} (h : Keeps (territory d other) d d') (hapart : Apart d path other)
    (hfiled : Filed d path c password) : Filed d' path c password :=
  hfiled.of_keeps h (hapart _ (containerPath_mem path d))

theorem of_stored (hfs : fs.Follows disk) {w w' : W}
    (h : Stored c password (containerPath fs path w) (disk w) (disk w')) :
    Filed (disk w') path c password := by
  obtain ⟨sealedText, hsealed, hfile⟩ := h.sealed
  rw [← containerPath_stored hfs h, containerPath_disk hfs] at hfile
  exact ⟨_, _, hfile, readFile_sealed _ hsealed⟩

end Filed

/-! ### Loading and storing -/

/-- Loading gives what is filed, and fails only if nothing is. -/
theorem loadFile_filed (hfs : fs.Follows disk) (path : Path) (password : Password) (s : Session W) :
    (loadFile fs path password).Ends s
      (fun c t => Act.Continues s t ∧ Filed (disk s.world) path c password)
      fun t => Act.Continues s t ∧ ∀ c, ¬ Filed (disk s.world) path c password := by
  refine .bind_look ?_
  rw [containerPath_disk hfs]
  have hread : (onFiles fun w => (fs.read (containerPath fileSystem path (disk s.world)) w, w)).Ends s
      (fun content t => Act.Continues s t ∧
        ∃ place, (disk s.world).existing (containerPath fileSystem path (disk s.world)) =
          .ok (place, .file content))
      fun t => Act.Continues s t ∧ ∀ c, ¬ Filed (disk s.world) path c password := by
    refine onFiles_ends (fun content h => ?_) fun fault h => ⟨.refl s, fun c hfiled => ?_⟩
    · rw [hfs.read] at h
      exact ⟨.refl s, read_eq_ok_iff.1 h⟩
    · obtain ⟨place, content, hfile, -⟩ := hfiled
      rw [hfs.read, read_eq_ok hfile] at h
      cases h
  refine .bind hread (fun content t ⟨ht, place, hfile⟩ => ?_) fun _ h => h
  refine .bind (p := fun c u => Act.Continues s u ∧ Filed (disk s.world) path c password) ?_ ?_
    fun _ h => h
  · refine Act.Ensures.lift ?_
    cases hc : readFile (containerPath fileSystem path (disk s.world)) password content with
    | ok c => exact ⟨ht, place, content, hfile, hc⟩
    | error e =>
      refine ⟨ht, fun c ⟨place', content', hfile', hc'⟩ => ?_⟩
      obtain ⟨rfl, rfl⟩ : place = place' ∧ content = content' := by simpa [hfile] using hfile'
      rw [hc] at hc'
      cases hc'
  · rintro c u ⟨hu, hc⟩
    exact .bind_report fun v hv => .pure ⟨hu.trans hv, hc⟩

/-- The journal only grows. -/
def Lengthens (s t : Session W) : Prop := s.journal <+: t.journal

instance : Course (Lengthens : Session W → Session W → Prop) := ⟨Act.Continues.journal, .trans⟩

theorem along_onFiles {α : Type} (f : W → Except Fault α × W) :
    Along Lengthens (onFiles f) :=
  .of_ends fun _ => onFiles_ends (fun _ _ => List.prefix_refl _) fun _ _ => List.prefix_refl _

theorem along_storeFile (c : Container) (path : Path) (password : Password) :
    Along Lengthens (storeFile fs c path password) := by
  have hrest : ∀ file, Along Lengthens (do
      let sealedText ← Sealing.sealFresh c.toJson password.bytes
      onFiles (fs.write (temporary file) (mark ++ sealedText))
      try onFiles (fs.rename (temporary file) file)
      catch e =>
        modify fun s => { s with world := (fs.remove (temporary file) s.world).2 }
        throw e
      reportFile "keystore stored" file c : Act W Unit) := by
    intro file
    refine .bind (.of_quiet (Sealing.quiet_sealFresh _ _)) fun sealedText => .bind (along_onFiles _) ?_
    refine fun _ => .bind (.tryCatch (along_onFiles _) fun e => ?_) fun _ => .of_quiet (.report _ _ _)
    exact fun _ => List.prefix_refl _
  unfold storeFile
  refine .bind (fun _ => List.prefix_refl _) fun file => ?_
  dsimp only
  split
  · split
    · exact .bind (along_onFiles _) fun _ => hrest file
    · exact hrest file
  · exact hrest file

/-- Storing files a container, or leaves what is filed under the path as it was; no file outside the
territory of the path is changed. -/
theorem storeFile_filed (hfs : fs.Follows disk) (c : Container) (path : Path) (password : Password)
    (s : Session W) :
    (storeFile fs c path password).Ends s
      (fun _ t => Lengthens s t ∧ Keeps (territory (disk s.world) path) (disk s.world) (disk t.world) ∧
        Filed (disk t.world) path c password)
      (fun t => Lengthens s t ∧ Keeps (territory (disk s.world) path) (disk s.world) (disk t.world) ∧
        ∀ c' password', Filed (disk s.world) path c' password' →
          Filed (disk t.world) path c' password') := by
  have hpath : containerPath fs path s.world ∈ _ := containerPath_mem path s.world
  have hterritory := mem_territory (d := disk s.world) hpath
  have hjournal : (storeFile fs c path password).Ensures s fun _ t => Lengthens s t :=
    along_storeFile c path password s
  refine (storeFile_ends hfs c path password s).and hjournal |>.imp ?_ ?_
  · rintro _ t ⟨ht, hj⟩
    exact ⟨hj, ht.keeps.mono hterritory, .of_stored hfs ht⟩
  · rintro t ⟨ht, hj⟩
    have hkeeps : Keeps (territory (disk s.world) path) (disk s.world) (disk t.world) :=
      Keeps.mono ht fun place hplace => hterritory place (by simp_all)
    refine ⟨hj, hkeeps, fun c' password' hfiled => hfiled.of_keeps ht ?_⟩
    rw [← containerPath_disk hfs, List.mem_singleton]
    exact (placeNamed_temporary_ne _ _).symm

/-! ### Paths that end in a slash -/

/-- Under a path that ends in a slash nothing is stored, unless it names a directory. -/
theorem storeFile_slash (hfs : fs.Follows disk) (c : Container) {path : Path} (password : Password)
    {s : Session W} (hslash : endsInSlash path = true)
    (hdirectory : (disk s.world).isDirectory path = false) :
    (storeFile fs c path password).Ends s (fun _ _ => False) fun _ => True := by
  have hpath : containerPath fs path s.world = path := by
    rw [containerPath, hfs.isDirectory, if_neg (by simp [hdirectory])]
  refine (storeFile_ends hfs c path password s).imp (fun _ t ht => ?_) fun _ _ => trivial
  -- what is stored would be found under the path, which can only name a directory
  obtain ⟨sealedText, -, hfile⟩ := ht.sealed
  rw [hpath] at hfile
  cases (existing_of_endsInSlash hslash hfile).1

end Keyring.Backend

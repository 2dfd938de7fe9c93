import Keyring.Proofs.Filing

/-!
# What storing does to other files

`Backend.store_neighbours` : whether a container is stored or not, all regular files keep their
content but for its own file and the one that is written first beside it; what was loaded under other
paths before is loaded afterwards (`Backend.Neighbours`).

The file beside it is not spared.  It has a name of its own, but not one that nobody else may use:
a container that is stored under that name is lost (`Backend.not_neighbours_beside`).
-/

namespace Keyring.Backend

open Files Files.Disk
variable {W : Type} {fs : FileSystem W} {disk : W → Disk} {exempt : List Location}
  {s t : Session W}

/-- From one session to another, regular files keep their content unless they are at one of some
places; and a path that stands for a file elsewhere goes on to stand for it, so that the same is
loaded under it. -/
structure Neighbours (fs : FileSystem W) (disk : W → Disk) (exempt : List Location)
    (s t : Session W) : Prop where
  content : ∀ place content, place ∉ exempt → (disk s.world).fileAt place = some content →
    (disk t.world).fileAt place = some content
  file : ∀ path place content, place ∉ exempt →
    (disk s.world).existing (containerPath fs path s.world) = .ok (place, .file content) →
    containerPath fs path t.world = containerPath fs path s.world ∧
      fs.read (containerPath fs path t.world) t.world =
        fs.read (containerPath fs path s.world) s.world
  load : ∀ path place content, place ∉ exempt →
    (disk s.world).existing (containerPath fs path s.world) = .ok (place, .file content) →
    ∀ password, ((files fs).load path password t).1 = ((files fs).load path password s).1

theorem Neighbours.of_keeps (hfs : fs.Follows disk)
    (h : Keeps exempt (disk s.world) (disk t.world)) : Neighbours fs disk exempt s t := by
  have hfile : ∀ path place content, place ∉ exempt →
      (disk s.world).existing (containerPath fs path s.world) = .ok (place, .file content) →
      containerPath fs path t.world = containerPath fs path s.world ∧
        fs.read (containerPath fs path t.world) t.world =
          fs.read (containerPath fs path s.world) s.world := by
    intro path place content hplace hexisting
    have hpath : containerPath fs path t.world = containerPath fs path s.world := by
      rw [containerPath_disk hfs] at hexisting
      rw [containerPath_disk hfs, containerPath_disk hfs, containerPath_of_keeps h hexisting hplace]
    have hexisting' := h.existing_file hexisting hplace
    refine ⟨hpath, ?_⟩
    rw [hpath, hfs.read, hfs.read, read_eq_ok hexisting, read_eq_ok hexisting']
  refine ⟨fun place content hplace hcontent => ?_, hfile, ?_⟩
  · rw [h.file place hplace, hcontent]
  · intro path place content hplace hexisting password
    obtain ⟨hpath, hread⟩ := hfile path place content hplace hexisting
    change (loadFile fs path password t).1 = (loadFile fs path password s).1
    rw [loadFile_apply, loadFile_apply, hread, hpath]

/-- However storing ends, it changes no files but its own and the one beside it. -/
theorem storeFile_keeps (hfs : fs.Follows disk) (c : Container) (path : Path) (password : Password)
    (s : Session W) :
    Keeps [(disk s.world).placeNamed (temporary (containerPath fs path s.world)),
        (disk s.world).placeNamed (containerPath fs path s.world)]
      (disk s.world) (disk (storeFile fs c path password s).2.world) := by
  refine Act.Ends.session (R := fun t => Keeps _ (disk s.world) (disk t.world)) ?_
  exact (storeFile_ends hfs c path password s).imp (fun _ _ ht => ht.keeps) fun _ ht =>
    Keeps.mono ht (by simp)

/-- **Storing a container disturbs no files but its own and the one beside it**, over any file system
whose operations do what they are for or fail, and whether or not it succeeds. -/
theorem store_neighbours (hfs : fs.Follows disk) (c : Container) (path : Path) (password : Password)
    (s : Session W) :
    Neighbours fs disk
      [(disk s.world).placeNamed (temporary (containerPath fs path s.world)),
        (disk s.world).placeNamed (containerPath fs path s.world)]
      s ((files fs).store c path password s).2 :=
  .of_keeps hfs (storeFile_keeps hfs c path password s)

/-! ### Files beside the one that is stored -/

/-- Another file stands in the directory; moving the container to its place may be planned to fail. -/
def accompanied (refused : Bool) : Session Planned where
  world := ⟨Disk.fresh.put ["tmp", "keyring", "other"] (.file [1, 2, 3]), [false, refused]⟩
  entropy := ⟨fun _ => 0, 0⟩
  now := 0
  journal := []

theorem read_accompanied (refused : Bool) {t : Session Planned}
    (h : Neighbours Planned.fileSystem Planned.disk
      [["tmp", "keyring", "k.tmp"], ["tmp", "keyring", "k"]] (accompanied refused) t) :
    Planned.fileSystem.read ⟨"other"⟩ t.world = .ok [1, 2, 3] := by
  have hother : (accompanied refused).world.disk.existing ⟨"other"⟩ =
      .ok (["tmp", "keyring", "other"], .file [1, 2, 3]) := rfl
  have hfile : containerPath Planned.fileSystem ⟨"other"⟩ (accompanied refused).world =
      ⟨"other"⟩ := rfl
  obtain ⟨hpath, hread⟩ := h.file ⟨"other"⟩ _ _ (by decide) hother
  rw [hpath, hfile] at hread
  exact hread.trans (read_eq_ok hother)

/-- The file is kept where the container is stored and where that fails. -/
theorem store_neighbours_planned :
    Planned.fileSystem.Follows Planned.disk ∧
    let stored := (files Planned.fileSystem).store sample ⟨"k"⟩ ⟨"password"⟩ (accompanied false)
    let refused := (files Planned.fileSystem).store sample ⟨"k"⟩ ⟨"password"⟩ (accompanied true)
    Planned.fileSystem.read ⟨"other"⟩ stored.2.world = .ok [1, 2, 3] ∧
      Planned.fileSystem.read ⟨"other"⟩ refused.2.world = .ok [1, 2, 3] := by
  have htemporary : temporary ⟨"k"⟩ = ⟨"k.tmp"⟩ := by decide +kernel
  have hstored := store_neighbours Planned.follows_fileSystem sample ⟨"k"⟩ ⟨"password"⟩
    (accompanied false)
  have hrefused := store_neighbours Planned.follows_fileSystem sample ⟨"k"⟩ ⟨"password"⟩
    (accompanied true)
  have hfile : ∀ refused,
      containerPath Planned.fileSystem ⟨"k"⟩ (accompanied refused).world = ⟨"k"⟩ := fun _ => rfl
  rw [hfile, htemporary] at hstored hrefused
  exact ⟨Planned.follows_fileSystem, read_accompanied false hstored, read_accompanied true hrefused⟩

/-- A file has the name of the one that is written first. -/
def beside : Session Disk where
  world := ⟨[(["k.tmp"], .file [1, 2, 3])], []⟩
  entropy := ⟨fun _ => 0, 0⟩
  now := 0
  journal := []

theorem storeFile_beside (password : Password) (e : Error) :
    (storeFile Disk.fileSystem sample ⟨"k"⟩ password beside).1 ≠ .error e := by
  have hfile : containerPath Disk.fileSystem ⟨"k"⟩ beside.world = ⟨"k"⟩ := rfl
  have htemporary : temporary ⟨"k"⟩ = ⟨"k.tmp"⟩ := by decide +kernel
  have hparent : Path.parent? ⟨"k"⟩ = some ⟨""⟩ := by decide +kernel
  have hwrite : ∀ content, Disk.fileSystem.write (temporary ⟨"k"⟩) content beside.world =
      (.ok (), beside.world.put ["k.tmp"] (.file content)) := by
    rw [htemporary]
    exact fun _ => rfl
  have hmove : ∀ content, Disk.fileSystem.rename (temporary ⟨"k"⟩) ⟨"k"⟩
      (beside.world.put ["k.tmp"] (.file content)) = (.ok (),
        (Disk.rename ⟨"k.tmp"⟩ ⟨"k"⟩ (beside.world.put ["k.tmp"] (.file content))).2) := by
    rw [htemporary]
    exact fun _ => rfl
  intro he
  have hends := storeFile_here (s := beside) (r := fun _ => .ok ()) hfile hparent hwrite hmove sample
    password
  obtain ⟨_, _, hr⟩ := hends.of_error he
  cases hr

/-- **A file with the name of the one that is written first is lost.** -/
theorem not_neighbours_beside :
    ¬ ∀ (c : Container) (path : Path) (password : Password) (s : Session Disk),
      Neighbours Disk.fileSystem id [s.world.placeNamed (containerPath Disk.fileSystem path s.world)] s
        ((files Disk.fileSystem).store c path password s).2 := by
  intro h
  have hkept := (h sample ⟨"k"⟩ ⟨"password"⟩ beside).content ["k.tmp"] [1, 2, 3]
    (by decide +kernel) rfl
  have hstored := storeFile_ends Disk.follows_fileSystem sample ⟨"k"⟩ ⟨"password"⟩ beside
  rcases hr : (storeFile Disk.fileSystem sample ⟨"k"⟩ ⟨"password"⟩ beside).1 with e | _
  · exact storeFile_beside ⟨"password"⟩ e hr
  · -- the file was moved away, so it is not found under its old name
    obtain ⟨hkeeps, -, hmoved⟩ := hstored.of_ok hr
    have htemporary : temporary ⟨"k"⟩ = ⟨"k.tmp"⟩ := by decide +kernel
    have hthere : beside.world.existing ⟨"k.tmp"⟩ =
        .ok (["k.tmp"], .file [1, 2, 3]) := rfl
    rw [← htemporary] at hthere
    exact hmoved _ _ (hkeeps.existing hthere (fileAt_eq_some_iff.1 hkept))

end Keyring.Backend

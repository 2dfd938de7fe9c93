import Keyring.Proofs.Act
import Keyring.Proofs.Files.Names

/-!
# What operations keep of a file tree

`Disk.Keeps changed d d'` : from the tree `d` to the tree `d'`, directories stay directories and
regular files stay as they are, but for those at the places `changed`.  A path that leads somewhere
then leads to the same place (`Keeps.existing_directory`, `Keeps.existing_file`).

* `Disk.write_eq_ok`, `Disk.moved_of_rename`, `Disk.remove_eq_ok` : what operations that succeed
  have done, in terms of the places that their paths name, and `Disk.read_of_write` : what was written
  is read;
* `Disk.keeps_createDirectories` : creating directories only adds directories.
-/

namespace Keyring.Files.Disk

variable {d d' d'' : Disk} {p : Path} {place : Location}

/-- The content of the regular file at a place. -/
def fileAt (d : Disk) (place : Location) : Option Bytes :=
  match d.find? place with
  | some (.file content) => some content
  | _ => none

theorem fileAt_eq_some_iff {content : Bytes} :
    d.fileAt place = some content ↔ d.find? place = some (.file content) := by
  rw [fileAt]
  split <;> simp_all

theorem fileAt_congr (h : d'.find? place = d.find? place) : d'.fileAt place = d.fileAt place := by
  rw [fileAt, fileAt, h]

theorem ne_nil_of_find?_ne (h : d.find? place ≠ some .directory) : place ≠ [] := by
  rintro rfl
  exact h rfl

/-! ### Where names lead -/

theorem follow_append (d : Disk) (place : Location) (names later : List String) :
    d.follow place (names ++ later) = d.follow place names >>= fun q => d.follow q later := by
  induction names generalizing place with
  | nil => rfl
  | cons name names ih =>
    rw [List.cons_append, follow, follow]
    repeat' split
    all_goals first | rfl | exact ih _

/-- A directory has an entry that a name leads to; dots lead to a directory always. -/
def HasEntry (d : Disk) (place : Location) (name : String) : Prop :=
  isDots name = true ∨ name.utf8ByteSize ≤ maxName ∧ (d.find? (place ++ [name])).isSome

theorem step_of_not_isDots {name : String} (h : isDots name = false) (place : Location) :
    step place name = place ++ [name] := by
  simp only [isDots, Bool.or_eq_false_iff, beq_eq_false_iff_ne, ne_eq] at h
  rw [step, if_neg h.1, if_neg h.2]

/-- A name is followed inside a directory if there is such an entry, and leads to the place it names. -/
theorem follow_cons_eq_ok_iff {name : String} {names : List String} {q : Location} :
    d.follow place (name :: names) = .ok q ↔ d.find? place = some .directory ∧
      d.HasEntry place name ∧ d.follow (step place name) names = .ok q := by
  rw [follow, HasEntry]
  rcases hplace : d.find? place with _ | _ | _
  · simp
  · simp
  · by_cases hdot : name = "."
    · simp [hdot, isDots, step]
    · by_cases hup : name = ".."
      · simp [hup, isDots, step]
      · have hdots : isDots name = false := by simp [isDots, hdot, hup]
        rw [step_of_not_isDots hdots]
        by_cases hlength : name.utf8ByteSize ≤ maxName
        · cases hentry : d.find? (place ++ [name]) <;>
            simp [hdot, hup, hdots, hlength, Nat.not_lt.2 hlength]
        · simp [hdot, hup, hdots, hlength, Nat.not_le.1 hlength]

/-- Whether a name leads on depends on what stands where it leads. -/
theorem HasEntry.of_isSome {name : String} (h : d.HasEntry place name)
    (hnext : (d'.find? (step place name)).isSome) : d'.HasEntry place name := by
  by_cases hdots : isDots name = true
  · exact .inl hdots
  · rw [step_of_not_isDots (by simpa using hdots)] at hnext
    exact .inr ⟨(h.resolve_left hdots).1, hnext⟩

/-- Following names leads to the place they name, if it leads anywhere. -/
theorem eq_foldl_of_follow {names : List String} {q : Location} (h : d.follow place names = .ok q) :
    q = names.foldl step place := by
  induction names generalizing place with
  | nil => exact (Except.ok.inj h).symm
  | cons name names ih => exact ih (follow_cons_eq_ok_iff.1 h).2.2

/-! ### Where paths lead -/

theorem existing_eq_ok_iff {node : Node} :
    d.existing p = .ok (place, node) ↔ checkPath p = .ok () ∧
      d.follow (d.origin p) (names p ++ if endsInSlash p then ["."] else []) = .ok place ∧
      d.find? place = some node := by
  rw [existing]
  constructor
  · intro h
    obtain ⟨_, hpath, h⟩ := bind_eq_ok_iff.1 h
    obtain ⟨q, hfollow, h⟩ := bind_eq_ok_iff.1 h
    split at h
    · rename_i hfound
      obtain ⟨rfl, rfl⟩ := Prod.mk.inj (Except.ok.inj h)
      exact ⟨hpath, hfollow, hfound⟩
    · cases h
  · rintro ⟨hpath, hfollow, hfound⟩
    refine bind_eq_ok_iff.2 ⟨(), hpath, bind_eq_ok_iff.2 ⟨place, hfollow, ?_⟩⟩
    rw [hfound]
    rfl

/-- A path leads to the place it names, if it leads anywhere. -/
theorem placeNamed_of_existing {node : Node} (h : d.existing p = .ok (place, node)) :
    d.placeNamed p = place := by
  obtain ⟨-, hfollow, -⟩ := existing_eq_ok_iff.1 h
  rw [eq_foldl_of_follow hfollow, placeNamed, List.foldl_append]
  split <;> rfl

theorem holder_eq_ok_iff {name : String} :
    d.holder p = .ok (place, name) ↔ checkPath p = .ok () ∧
      d.follow (d.origin p) (names p).dropLast = .ok place ∧ d.find? place = some .directory ∧
      (names p).getLast?.getD "." = name := by
  rw [holder]
  constructor
  · intro h
    obtain ⟨_, hpath, h⟩ := bind_eq_ok_iff.1 h
    obtain ⟨q, hfollow, h⟩ := bind_eq_ok_iff.1 h
    split at h
    · rename_i hfound
      obtain ⟨rfl, rfl⟩ := Prod.mk.inj (Except.ok.inj h)
      exact ⟨hpath, hfollow, hfound, rfl⟩
    · cases h
    · cases h
  · rintro ⟨hpath, hfollow, hfound, rfl⟩
    refine bind_eq_ok_iff.2 ⟨(), hpath, bind_eq_ok_iff.2 ⟨place, hfollow, ?_⟩⟩
    rw [hfound]
    rfl

theorem isDirectory_iff :
    d.isDirectory p = true ↔ ∃ place, d.existing p = .ok (place, .directory) := by
  rw [isDirectory]
  split <;> simp_all

theorem isFile_iff :
    d.isFile p = true ↔ ∃ place content, d.existing p = .ok (place, .file content) := by
  rw [isFile]
  split <;> simp_all

theorem read_eq_ok_iff {content : Bytes} :
    d.read p = .ok content ↔ ∃ place, d.existing p = .ok (place, .file content) := by
  rw [read]
  constructor
  · intro h
    obtain ⟨⟨place, node⟩, hexisting, h⟩ := bind_eq_ok_iff.1 h
    cases node with
    | file found =>
      obtain rfl := Except.ok.inj h
      exact ⟨place, hexisting⟩
    | directory => cases h
  · rintro ⟨place, h⟩
    rw [h]
    rfl

theorem read_eq_ok {content : Bytes} (h : d.existing p = .ok (place, .file content)) :
    d.read p = .ok content :=
  read_eq_ok_iff.2 ⟨place, h⟩

/-- The empty path leads nowhere. -/
theorem text_ne_of_existing {node : Node} (h : d.existing p = .ok (place, node)) : p.text ≠ "" := by
  intro hempty
  obtain ⟨hpath, -, -⟩ := existing_eq_ok_iff.1 h
  rw [checkPath, hempty] at hpath
  cases hpath

/-- What a path that ends in a slash leads to is a directory, where its names lead too. -/
theorem existing_of_endsInSlash {node : Node} (h : endsInSlash p = true)
    (he : d.existing p = .ok (place, node)) :
    node = .directory ∧ d.follow (d.origin p) (names p) = .ok place := by
  obtain ⟨-, hfollow, hnode⟩ := existing_eq_ok_iff.1 he
  rw [h, if_pos rfl, follow_append] at hfollow
  obtain ⟨q, hnames, hdot⟩ := bind_eq_ok_iff.1 hfollow
  obtain ⟨hdirectory, -, hq⟩ := follow_cons_eq_ok_iff.1 hdot
  obtain rfl : q = place := Except.ok.inj hq
  exact ⟨Option.some.inj (hnode.symm.trans hdirectory), hnames⟩

theorem isFile_of_endsInSlash (h : endsInSlash p = true) : d.isFile p = false := by
  rw [← Bool.not_eq_true, isFile_iff]
  rintro ⟨place, content, he⟩
  cases (existing_of_endsInSlash h he).1

/-- A path that leads to a file leads nowhere with one more slash at its end. -/
theorem not_existing_slashed {content : Bytes} (h : d.existing p = .ok (place, .file content))
    (q : Location) (node : Node) : d.existing p.slashed ≠ .ok (q, node) := by
  intro hslashed
  obtain ⟨rfl, hnames⟩ := existing_of_endsInSlash (endsInSlash_slashed p) hslashed
  obtain ⟨-, hfollow, hfile⟩ := existing_eq_ok_iff.1 h
  by_cases hslash : endsInSlash p = true
  · cases (existing_of_endsInSlash hslash h).1
  · have hne := text_ne_of_existing h
    rw [if_neg hslash, List.append_nil] at hfollow
    rw [names_slashed, origin, Path.isAbsolute_slashed hne, ← origin, hfollow] at hnames
    obtain rfl := Except.ok.inj hnames
    have := (existing_eq_ok_iff.1 hslashed).2.2
    rw [hfile] at this
    cases this

/-- `name` is the last name of a path, the name of an entry of the directory at `place`. -/
structure Holds (d : Disk) (p : Path) (place : Location) (name : String) : Prop where
  holder : d.holder p = .ok (place, name)
  notDots : isDots name = false
  length : name.utf8ByteSize ≤ maxName

namespace Holds

variable {name : String}

theorem names (h : Holds d p place name) : names p = (names p).dropLast ++ [name] := by
  obtain ⟨-, -, -, hlast⟩ := holder_eq_ok_iff.1 h.holder
  rcases hnames : Disk.names p with _ | ⟨first, later⟩
  · rw [hnames] at hlast
    obtain rfl : "." = name := hlast
    exact absurd h.notDots (by decide)
  · rw [hnames, List.getLast?_eq_some_getLast (List.cons_ne_nil _ _)] at hlast
    obtain rfl : (first :: later).getLast (List.cons_ne_nil _ _) = name := hlast
    exact (List.dropLast_concat_getLast _).symm

theorem placeNamed (h : Holds d p place name) : d.placeNamed p = place ++ [name] := by
  obtain ⟨-, hfollow, -, -⟩ := holder_eq_ok_iff.1 h.holder
  rw [Disk.placeNamed, h.names, List.foldl_append, ← eq_foldl_of_follow hfollow]
  exact step_of_not_isDots h.notDots place

/-- A path with such a name finds the entry of that name; with a slash at its end, only a directory. -/
theorem existing_eq_ok_iff {q : Location} {node : Node} (h : Holds d p place name) :
    d.existing p = .ok (q, node) ↔ q = place ++ [name] ∧ d.find? q = some node ∧
      (endsInSlash p = true → node = .directory) := by
  obtain ⟨hpath, hfollow, hplace, -⟩ := holder_eq_ok_iff.1 h.holder
  have hentry : ∀ later, d.follow (d.origin p) (Disk.names p ++ later) = .ok q ↔
      (d.find? (place ++ [name])).isSome ∧ d.follow (place ++ [name]) later = .ok q := by
    intro later
    rw [h.names, List.append_assoc, follow_append, hfollow]
    refine follow_cons_eq_ok_iff.trans ?_
    rw [step_of_not_isDots h.notDots]
    simp [hplace, HasEntry, h.notDots, h.length]
  rw [Disk.existing_eq_ok_iff, hentry]
  by_cases hslash : endsInSlash p = true
  · simp only [hpath, hslash, if_true, true_and, forall_const]
    rw [follow_cons_eq_ok_iff]
    constructor
    · rintro ⟨⟨-, hdirectory, -, hq⟩, hnode⟩
      obtain rfl : place ++ [name] = q := Except.ok.inj hq
      exact ⟨rfl, hnode, Option.some.inj (hnode.symm.trans hdirectory)⟩
    · rintro ⟨rfl, hnode, rfl⟩
      exact ⟨⟨by rw [hnode]; rfl, hnode, .inl rfl, rfl⟩, hnode⟩
  · simp only [hpath, hslash, true_and]
    constructor
    · rintro ⟨⟨-, hq⟩, hnode⟩
      obtain rfl : place ++ [name] = q := Except.ok.inj hq
      exact ⟨rfl, hnode, fun hs => absurd hs (by simp)⟩
    · rintro ⟨rfl, hnode, -⟩
      exact ⟨⟨by rw [hnode]; rfl, rfl⟩, hnode⟩

end Holds

/-! ### What a change keeps -/

/-- From one tree to another, directories stay directories, and regular files stay as they are
everywhere but at the given places. -/
structure Keeps (changed : List Location) (d d' : Disk) : Prop where
  workingDirectory : d'.workingDirectory = d.workingDirectory
  directory (place : Location) (h : d.find? place = some .directory) :
    d'.find? place = some .directory
  file (place : Location) (h : place ∉ changed) : d'.fileAt place = d.fileAt place

namespace Keeps

variable {changed changed' : List Location}

theorem refl (changed : List Location) (d : Disk) : Keeps changed d d :=
  ⟨rfl, fun _ h => h, fun _ _ => rfl⟩

theorem trans (h : Keeps changed d d') (h' : Keeps changed d' d'') : Keeps changed d d'' where
  workingDirectory := h'.workingDirectory.trans h.workingDirectory
  directory place hplace := h'.directory place (h.directory place hplace)
  file place hplace := (h'.file place hplace).trans (h.file place hplace)

theorem mono (h : Keeps changed d d') (hsub : ∀ place ∈ changed, place ∈ changed') :
    Keeps changed' d d' :=
  ⟨h.workingDirectory, h.directory, fun place hplace => h.file place fun hc => hplace (hsub place hc)⟩

theorem origin (h : Keeps changed d d') (p : Path) : d'.origin p = d.origin p := by
  rw [Disk.origin, Disk.origin, h.workingDirectory]

theorem placeNamed (h : Keeps changed d d') (p : Path) : d'.placeNamed p = d.placeNamed p := by
  rw [Disk.placeNamed, Disk.placeNamed, h.origin]

/-- Names that could be followed can still be, if there is still something where they lead. -/
theorem follow (h : Keeps changed d d') {names : List String} {q : Location}
    (hfollow : d.follow place names = .ok q) (hq : (d'.find? q).isSome) :
    d'.follow place names = .ok q := by
  induction names generalizing place with
  | nil => exact hfollow
  | cons name names ih =>
    obtain ⟨hplace, hentry, hnames⟩ := follow_cons_eq_ok_iff.1 hfollow
    have hnext : (d'.find? (step place name)).isSome := by
      cases names with
      | nil => rwa [Except.ok.inj hnames]
      | cons next names =>
        rw [h.directory _ (follow_cons_eq_ok_iff.1 hnames).1]
        rfl
    exact follow_cons_eq_ok_iff.2 ⟨h.directory place hplace, hentry.of_isSome hnext, ih hnames⟩

/-- What still stands where a path leads is still found there. -/
theorem existing (h : Keeps changed d d') {node : Node} (he : d.existing p = .ok (place, node))
    (hplace : d'.find? place = some node) : d'.existing p = .ok (place, node) := by
  obtain ⟨hpath, hfollow, -⟩ := existing_eq_ok_iff.1 he
  refine existing_eq_ok_iff.2 ⟨hpath, ?_, hplace⟩
  rw [h.origin]
  exact h.follow hfollow (by rw [hplace]; rfl)

theorem existing_directory (h : Keeps changed d d') (he : d.existing p = .ok (place, .directory)) :
    d'.existing p = .ok (place, .directory) :=
  h.existing he (h.directory place (existing_eq_ok_iff.1 he).2.2)

theorem existing_file (h : Keeps changed d d') {content : Bytes}
    (he : d.existing p = .ok (place, .file content)) (hplace : place ∉ changed) :
    d'.existing p = .ok (place, .file content) := by
  refine h.existing he (fileAt_eq_some_iff.1 ?_)
  rw [h.file place hplace]
  exact fileAt_eq_some_iff.2 (existing_eq_ok_iff.1 he).2.2

theorem holds (h : Keeps changed d d') {name : String} (hp : Holds d p place name) :
    Holds d' p place name := by
  obtain ⟨hpath, hfollow, hplace, hlast⟩ := holder_eq_ok_iff.1 hp.holder
  have hdirectory := h.directory place hplace
  refine ⟨holder_eq_ok_iff.2 ⟨hpath, ?_, hdirectory, hlast⟩, hp.notDots, hp.length⟩
  rw [h.origin]
  exact h.follow hfollow (by rw [hdirectory]; rfl)

end Keeps

/-! ### What the operations do -/

/-- Putting a file where no directory is. -/
theorem keeps_put_file {content : Bytes} (h : d.find? place ≠ some .directory) :
    Keeps [place] d (d.put place (.file content)) where
  workingDirectory := rfl
  directory other hother := by
    rwa [find?_put_of_ne]
    rintro rfl
    exact h hother
  file other hother := fileAt_congr (find?_put_of_ne d _ (by simpa using hother))

/-- Putting a directory where nothing is. -/
theorem keeps_put_directory (h : d.find? place = none) : Keeps [] d (d.put place .directory) where
  workingDirectory := rfl
  directory other hother := by
    rwa [find?_put_of_ne]
    rintro rfl
    rw [h] at hother
    cases hother
  file other _ := by
    by_cases he : other = place
    · have hne : place ≠ [] := by
        rintro rfl
        cases h
      subst he
      simp [fileAt, find?_put_self d _ hne, h]
    · exact fileAt_congr (find?_put_of_ne d _ he)

theorem find?_erase_self (d : Disk) (h : place ≠ []) : (d.erase place).find? place = none := by
  have hlookup : ∀ xs : List (Location × Node), (xs.filter (·.1 != place)).lookup place = none := by
    intro xs
    rw [List.lookup_eq_none_iff]
    intro x hx
    rw [bne_comm]
    exact (List.mem_filter.1 hx).2
  rw [find?, if_neg h]
  exact hlookup d.nodes

/-- Removing a file. -/
theorem keeps_erase (h : d.find? place ≠ some .directory) : Keeps [place] d (d.erase place) where
  workingDirectory := rfl
  directory other hother := by
    rwa [find?_erase_of_ne]
    rintro rfl
    exact h hother
  file other hother := fileAt_congr (find?_erase_of_ne d (by simpa using hother))

/-- A change that succeeds is the change that was meant. -/
theorem change_eq_ok {r : Except Fault Disk} (h : d.change r = (.ok (), d')) : r = .ok d' := by
  cases r with
  | ok found => rw [← (Prod.mk.inj h).2]
  | error fault => cases (Prod.mk.inj h).1

theorem keeps_change {changed : List Location} {r : Except Fault Disk}
    (h : ∀ found, r = .ok found → Keeps changed d found) : Keeps changed d (d.change r).2 := by
  cases r with
  | ok found => exact h found rfl
  | error fault => exact .refl _ _

theorem placeOf_eq_ok_iff {directory : Location} {name : String} :
    placeOf directory name = .ok place ↔
      name.utf8ByteSize ≤ maxName ∧ directory ++ [name] = place := by
  rw [placeOf]
  split
  · simp [*, Nat.not_le.2 ‹_›]
  · simp [*, Nat.not_lt.1 ‹_›]

/-- A place for a file is an entry of a directory, and no directory stands there. -/
theorem writable_eq_ok (h : d.writable p = .ok place) :
    d.placeNamed p = place ∧ d.find? place ≠ some .directory ∧
      ∃ directory name, Holds d p directory name := by
  rw [writable] at h
  obtain ⟨⟨directory, name⟩, hholder, h⟩ := bind_eq_ok_iff.1 h
  dsimp only at h
  split at h
  · cases h
  · rename_i hdots
    simp only [Bool.or_eq_true, not_or, Bool.not_eq_true] at hdots
    obtain ⟨q, hq, h⟩ := bind_eq_ok_iff.1 h
    obtain ⟨hlength, rfl⟩ := placeOf_eq_ok_iff.1 hq
    have hp : Holds d p directory name := ⟨hholder, hdots.1, hlength⟩
    split at h
    · cases h
    · rename_i hfree
      obtain rfl := Except.ok.inj h
      exact ⟨hp.placeNamed, hfree, directory, name, hp⟩

/-- A path that ends in a slash is no place for a file. -/
theorem endsInSlash_of_writable (h : d.writable p = .ok place) : endsInSlash p = false := by
  rw [writable] at h
  obtain ⟨⟨directory, name⟩, -, h⟩ := bind_eq_ok_iff.1 h
  dsimp only at h
  by_cases hslash : endsInSlash p = true
  · rw [hslash, Bool.or_true, if_pos rfl] at h
    cases h
  · simpa using hslash

/-- What a move needs, and what it does. -/
theorem rename_eq_ok {source target : Path} (h : d.rename source target = (.ok (), d')) :
    ∃ content, d.fileAt (d.placeNamed source) = some content ∧
      d' = (d.erase (d.placeNamed source)).put (d.placeNamed target) (.file content) ∧
      d.find? (d.placeNamed target) ≠ some .directory ∧ endsInSlash target = false ∧
      (∃ directory name, Holds d source directory name) ∧
      ∃ directory name, Holds d target directory name := by
  have hfound := change_eq_ok h
  obtain ⟨⟨sourceDirectory, sourceName⟩, hsource, hfound⟩ := bind_eq_ok_iff.1 hfound
  obtain ⟨⟨targetDirectory, targetName⟩, htarget, hfound⟩ := bind_eq_ok_iff.1 hfound
  dsimp only at hfound
  split at hfound
  · cases hfound
  · rename_i hdots
    simp only [Bool.or_eq_true, not_or, Bool.not_eq_true] at hdots
    obtain ⟨q, hq, hfound⟩ := bind_eq_ok_iff.1 hfound
    obtain ⟨hlength, rfl⟩ := placeOf_eq_ok_iff.1 hq
    have hs : Holds d source sourceDirectory sourceName := ⟨hsource, hdots.1, hlength⟩
    split at hfound
    · rename_i content hcontent
      obtain ⟨q, hq, hfound⟩ := bind_eq_ok_iff.1 hfound
      obtain ⟨hlength, rfl⟩ := placeOf_eq_ok_iff.1 hq
      have ht : Holds d target targetDirectory targetName := ⟨htarget, hdots.2, hlength⟩
      split at hfound
      · cases hfound
      · rename_i hslash
        split at hfound
        · cases hfound
        · rename_i hfree
          rw [hs.placeNamed, ht.placeNamed]
          exact ⟨content, fileAt_eq_some_iff.2 hcontent, (Except.ok.inj hfound).symm, hfree,
            by simpa using hslash, ⟨_, _, hs⟩, ⟨_, _, ht⟩⟩
    · cases hfound

/-- A file that was written is there, under the name it was written under. -/
theorem write_eq_ok {content : Bytes} (h : d.write p content = (.ok (), d')) :
    Keeps [d.placeNamed p] d d' ∧ d'.fileAt (d.placeNamed p) = some content := by
  obtain ⟨place, hplace, h⟩ := bind_eq_ok_iff.1 (change_eq_ok h)
  obtain rfl := Except.ok.inj h
  obtain ⟨rfl, hfree, -⟩ := writable_eq_ok hplace
  exact ⟨keeps_put_file hfree,
    fileAt_eq_some_iff.2 (find?_put_self d _ (ne_nil_of_find?_ne hfree))⟩

/-- A file that was written is read under the same path. -/
theorem read_of_write {content : Bytes} (h : d.write p content = (.ok (), d')) :
    d'.read p = .ok content := by
  obtain ⟨place, hplace, hput⟩ := bind_eq_ok_iff.1 (change_eq_ok h)
  obtain rfl := Except.ok.inj hput
  obtain ⟨rfl, hfree, directory, name, hp⟩ := writable_eq_ok hplace
  have hkeeps : Keeps [d.placeNamed p] d (d.put (d.placeNamed p) (.file content)) :=
    keeps_put_file hfree
  refine read_eq_ok ((hkeeps.holds hp).existing_eq_ok_iff.2 ⟨hp.placeNamed, ?_, fun hslash => ?_⟩)
  · exact find?_put_self d _ (ne_nil_of_find?_ne hfree)
  · rw [endsInSlash_of_writable hplace] at hslash
    cases hslash

/-- A file that was moved is found under its new name and, unless both name the same place, not
under the old one. -/
theorem moved_of_rename {source target : Path} (h : d.rename source target = (.ok (), d'))
    (hne : d.placeNamed source ≠ d.placeNamed target) :
    Keeps [d.placeNamed source, d.placeNamed target] d d' ∧
      (∃ content, d.fileAt (d.placeNamed source) = some content ∧
        d'.existing target = .ok (d.placeNamed target, .file content)) ∧
      ∀ place node, d'.existing source ≠ .ok (place, node) := by
  obtain ⟨content, hcontent, rfl, hfree, hslash, ⟨_, _, hsource⟩, _, _, htarget⟩ := rename_eq_ok h
  have hthere : d.find? (d.placeNamed source) ≠ some .directory := by
    rw [fileAt_eq_some_iff.1 hcontent]
    simp
  have herase : Keeps [d.placeNamed source, d.placeNamed target] d
      (d.erase (d.placeNamed source)) := (keeps_erase hthere).mono (by simp)
  have hfree' : (d.erase (d.placeNamed source)).find? (d.placeNamed target) ≠ some .directory := by
    rwa [find?_erase_of_ne d hne.symm]
  have hput : Keeps [d.placeNamed source, d.placeNamed target] (d.erase (d.placeNamed source))
      ((d.erase (d.placeNamed source)).put (d.placeNamed target) (.file content)) :=
    (keeps_put_file hfree').mono (by simp)
  have hkeeps := herase.trans hput
  refine ⟨hkeeps, ⟨content, hcontent, ?_⟩, fun place node hexisting => ?_⟩
  · refine (hkeeps.holds htarget).existing_eq_ok_iff.2 ⟨htarget.placeNamed, ?_, by simp [hslash]⟩
    exact find?_put_self _ _ (ne_nil_of_find?_ne hfree)
  · obtain ⟨rfl, hnode, -⟩ := (hkeeps.holds hsource).existing_eq_ok_iff.1 hexisting
    rw [← hsource.placeNamed, find?_put_of_ne _ _ hne,
      find?_erase_self d (ne_nil_of_find?_ne hthere)] at hnode
    cases hnode

/-- A file that was removed was there. -/
theorem remove_eq_ok (h : d.remove p = (.ok (), d')) : Keeps [d.placeNamed p] d d' := by
  obtain ⟨⟨place, node⟩, hexisting, h⟩ := bind_eq_ok_iff.1 (change_eq_ok h)
  obtain rfl := placeNamed_of_existing hexisting
  obtain ⟨-, -, hnode⟩ := existing_eq_ok_iff.1 hexisting
  cases node with
  | file content =>
    obtain rfl := Except.ok.inj h
    exact keeps_erase (by simp [hnode])
  | directory => cases h

/-! ### Creating directories -/

theorem keeps_createDirectory (d : Disk) (p : Path) : Keeps [] d (d.createDirectory p).2 := by
  refine keeps_change fun found hfound => ?_
  obtain ⟨⟨directory, name⟩, -, hfound⟩ := bind_eq_ok_iff.1 hfound
  dsimp only at hfound
  split at hfound
  · cases hfound
  · obtain ⟨q, -, hfound⟩ := bind_eq_ok_iff.1 hfound
    split at hfound
    · cases hfound
    · rename_i hfree
      obtain rfl := Except.ok.inj hfound
      exact keeps_put_directory (by simpa using hfree)

theorem keeps_createDirectoriesIn (fuel : Nat) (p : Path) (d : Disk) :
    Keeps [] d (createDirectoriesIn fuel p d).2 := by
  induction fuel generalizing p d with
  | zero => exact .refl _ _
  | succ fuel ih =>
    have hfirst := keeps_createDirectory d p
    rw [createDirectoriesIn]
    split
    · exact .refl _ _
    · split
      · rename_i hmade
        rwa [hmade] at hfirst
      · rename_i hmade
        rw [hmade] at hfirst
        split
        · exact hfirst
        · rename_i d₁ _ parent _
          have habove := hfirst.trans (ih parent d₁)
          split
          · rename_i habove'
            rwa [habove'] at habove
          · rename_i d₂ habove'
            rw [habove'] at habove
            have hlast := habove.trans (keeps_createDirectory d₂ p)
            split
            · rename_i hlast'
              rwa [hlast'] at hlast
            · exact hlast
      · rename_i hmade
        rwa [hmade] at hfirst

/-- Creating directories changes no file, and leaves the directories there are. -/
theorem keeps_createDirectories (d : Disk) (p : Path) : Keeps [] d (d.createDirectories p).2 :=
  keeps_createDirectoriesIn _ p d

end Keyring.Files.Disk

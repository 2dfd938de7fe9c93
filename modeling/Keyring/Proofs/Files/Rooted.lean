import Keyring.Proofs.Files.Tree

/-!
# Where paths led before a change

A change of a file tree that keeps what was there may still make a path lead somewhere: the path may
go through a directory that was missing.

* `Disk.Rooted` : everything in a tree stands in a directory;
* `Disk.Grounded` : the double dots of a path stand behind names that lead somewhere;
* `Disk.Keeps.isFile_eq` : in such a tree, such a path leads to a file after a change just if it did
  before, unless its place is one that was changed.

What stands below a directory is not there before the directory is (`Rooted.directory_above`), so that
only a path that leaves the missing directory again can lead to something that was there
(`Rooted.follow`).
-/

namespace Keyring.Files.Disk

variable {d d' : Disk} {p : Path} {place : Location}

/-- Everything in a tree stands in a directory. -/
def Rooted (d : Disk) : Prop := ∀ x ∈ d.nodes, d.find? x.1.dropLast = some .directory

instance (d : Disk) : Decidable d.Rooted :=
  inferInstanceAs (Decidable (∀ x ∈ d.nodes, d.find? x.1.dropLast = some .directory))

/-- The double dots of a path stand behind names that lead somewhere. -/
def Grounded (d : Disk) (p : Path) : Prop :=
  ∃ before after place, names p = before ++ after ∧ ".." ∉ after ∧
    d.follow (d.origin p) before = .ok place

/-- A path may go up from a directory that is there, and on through one that is missing. -/
example : fresh.Grounded ⟨"../missing/k"⟩ :=
  ⟨[".."], ["missing", "k"], ["tmp"], by decide +kernel, by decide, rfl⟩

/-- A name leads up only if it is the double dots. -/
theorem above_step {name : String} (h : name ≠ "..") (place : Location) :
    place <+: step place name := by
  rw [step, if_neg h]
  split
  · exact List.prefix_refl _
  · exact List.prefix_append _ _

theorem above_foldl_step {names : List String} (h : ".." ∉ names) (place : Location) :
    place <+: names.foldl step place := by
  induction names generalizing place with
  | nil => exact List.prefix_refl _
  | cons name names ih =>
    rw [List.mem_cons, not_or] at h
    obtain ⟨hname, hnames⟩ := h
    exact (above_step (Ne.symm hname) place).trans (ih hnames _)

namespace Rooted

variable {q : Location} {node : Node}

theorem directory_of_entry (h : d.Rooted) {name : String}
    (hnode : d.find? (place ++ [name]) = some node) : d.find? place = some .directory := by
  rw [find?, if_neg (by simp), List.lookup_eq_some_iff] at hnode
  obtain ⟨front, back, hnodes, -⟩ := hnode
  have hplace := h (place ++ [name], node) (hnodes ▸ List.mem_append_cons_self)
  rwa [List.dropLast_concat] at hplace

theorem isSome_of_append (h : d.Rooted) {later : Location}
    (hq : (d.find? (place ++ later)).isSome) : (d.find? place).isSome := by
  induction later generalizing place with
  | nil => rwa [List.append_nil] at hq
  | cons name later ih =>
    rw [List.append_cons] at hq
    obtain ⟨node, hnode⟩ := Option.isSome_iff_exists.1 (ih hq)
    rw [h.directory_of_entry hnode]
    rfl

/-- Above whatever there is stand directories. -/
theorem directory_above (h : d.Rooted) (habove : place <+: q) (hne : place ≠ q)
    (hq : (d.find? q).isSome) : d.find? place = some .directory := by
  obtain ⟨_ | ⟨name, later⟩, rfl⟩ := habove
  · exact absurd (List.append_nil place).symm hne
  · rw [List.append_cons] at hq
    obtain ⟨node, hnode⟩ := Option.isSome_iff_exists.1 (h.isSome_of_append hq)
    exact h.directory_of_entry hnode

/-- Names without double dots that lead to something in another tree lead to it in this one, if it is
there. -/
theorem follow (h : d.Rooted) {names : List String} (hdots : ".." ∉ names)
    (hfollow : d'.follow place names = .ok q) (hq' : d'.find? q = some node)
    (hq : d.find? q = some node) : d.follow place names = .ok q := by
  induction names generalizing place with
  | nil => exact hfollow
  | cons name names ih =>
    obtain ⟨hplace', hentry, hnames⟩ := follow_cons_eq_ok_iff.1 hfollow
    rw [List.mem_cons, not_or] at hdots
    obtain ⟨hname, hdots⟩ := hdots
    have hthere : (d.find? q).isSome := by
      rw [hq]
      rfl
    have hbelow : step place name <+: q := by
      rw [eq_foldl_of_follow hnames]
      exact above_foldl_step hdots _
    have hplace : d.find? place = some .directory := by
      by_cases hend : place = q
      · rw [hend, hq, ← hq', ← hend, hplace']
      · exact h.directory_above ((above_step (Ne.symm hname) place).trans hbelow) hend hthere
    have hnext : (d.find? (step place name)).isSome := by
      obtain ⟨later, hlater⟩ := hbelow
      exact h.isSome_of_append (hlater ▸ hthere)
    exact follow_cons_eq_ok_iff.2 ⟨hplace, hentry.of_isSome hnext, ih hdots hnames⟩

end Rooted

namespace Keeps

variable {changed : List Location}

/-- What a path leads to after a change was there before, and the path led to it. -/
theorem existing_file_before (h : Keeps changed d d') (hrooted : d.Rooted) (hp : d.Grounded p)
    {content : Bytes} (he : d'.existing p = .ok (place, .file content)) (hplace : place ∉ changed) :
    d.existing p = .ok (place, .file content) := by
  obtain ⟨hpath, hfollow, hfile'⟩ := existing_eq_ok_iff.1 he
  have hfile : d.find? place = some (.file content) := by
    rw [← fileAt_eq_some_iff, ← h.file place hplace, fileAt_eq_some_iff]
    exact hfile'
  obtain ⟨before, after, start, hnames, hdots, hstart⟩ := hp
  rw [hnames, List.append_assoc, follow_append, h.origin] at hfollow
  obtain ⟨q, hbefore, hafter⟩ := bind_eq_ok_iff.1 hfollow
  obtain rfl : q = start := (eq_foldl_of_follow hbefore).trans (eq_foldl_of_follow hstart).symm
  refine existing_eq_ok_iff.2 ⟨hpath, ?_, hfile⟩
  rw [hnames, List.append_assoc, follow_append, hstart]
  refine hrooted.follow ?_ hafter hfile' hfile
  rw [List.mem_append, not_or]
  exact ⟨hdots, by split <;> simp⟩

/-- A path leads to a file just if it did before, unless the place that it names is changed. -/
theorem isFile_eq (h : Keeps changed d d') (hrooted : d.Rooted) (hp : d.Grounded p)
    (hplace : d.placeNamed p ∉ changed) : d'.isFile p = d.isFile p := by
  rw [Bool.eq_iff_iff, isFile_iff, isFile_iff]
  refine exists_congr fun place => exists_congr fun content => ⟨fun he => ?_, fun he => ?_⟩
  · refine h.existing_file_before hrooted hp he ?_
    rwa [← placeNamed_of_existing he, h.placeNamed]
  · refine h.existing_file he ?_
    rwa [← placeNamed_of_existing he]

end Keeps

/-- A path that goes up from a missing directory leads to a file that was there, once the directory is
created. -/
example :
    let d := fresh.put ["tmp", "keyring", "k"] (.file [])
    d.Rooted ∧ d.isFile ⟨"missing/../k"⟩ = false ∧
      (d.createDirectory ⟨"missing"⟩).2.isFile ⟨"missing/../k"⟩ = true := by
  decide +kernel

end Keyring.Files.Disk

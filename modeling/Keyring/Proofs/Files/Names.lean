import Keyring.Files.Disk

/-!
# Names of places

There are no links in a file tree, so the place that a path names (`Disk.placeNamed`) is found by
following its names one by one, whatever stands on the way.

* `Disk.placeNamed_of_fileName?` : the name at the end of a path is the last name of its place;
* `Disk.placeNamed_withFileName` : a path with another name at its end names an entry of that name;
* `Path.same_slashed` : one more slash at the end of a path (`Path.slashed`) does not matter when
  paths are compared.

What stands between slashes is treated piece by piece (`Disk.stepPiece`), since that is how a path finds
the name at its end.
-/

namespace Keyring

/-! ### Pieces of texts -/

namespace Text

variable {separator : Char}

theorem split_ne_nil (cs : List Char) : split separator cs ≠ [] := by
  cases cs with
  | nil => exact List.cons_ne_nil _ _
  | cons c cs =>
    rw [split]
    split
    · exact List.cons_ne_nil _ _
    · split <;> exact List.cons_ne_nil _ _

theorem split_of_notMem {cs : List Char} (h : separator ∉ cs) : split separator cs = [cs] := by
  induction cs with
  | nil => rfl
  | cons c cs ih =>
    rw [split, if_neg (List.ne_of_not_mem_cons h).symm, ih (List.not_mem_of_not_mem_cons h)]

/-- The pieces on both sides of a separator. -/
theorem split_append (cs ds : List Char) :
    split separator (cs ++ separator :: ds) = split separator cs ++ split separator ds := by
  induction cs with
  | nil => simp [split]
  | cons c cs ih =>
    rw [List.cons_append, split, split, ih]
    split
    · rfl
    · rcases hpieces : split separator cs with _ | ⟨piece, pieces⟩
      · exact absurd hpieces (split_ne_nil cs)
      · rfl

/-- There is more than one empty piece in a text that is not empty. -/
theorem eq_nil_of_split_eq {cs : List Char} (h : split separator cs = [[]]) : cs = [] := by
  cases cs with
  | nil => rfl
  | cons c cs =>
    rw [split] at h
    split at h
    · exact absurd (List.cons.inj h).2 (split_ne_nil cs)
    · split at h <;> cases h

theorem notMem_of_mem_split {cs piece : List Char} (h : piece ∈ split separator cs) :
    separator ∉ piece := by
  induction cs generalizing piece with
  | nil =>
    obtain rfl := List.mem_singleton.1 h
    exact List.not_mem_nil
  | cons c cs ih =>
    rw [split] at h
    split at h
    · rcases List.mem_cons.1 h with rfl | h
      · exact List.not_mem_nil
      · exact ih h
    · rename_i hc
      rcases hpieces : split separator cs with _ | ⟨first, pieces⟩
      · exact absurd hpieces (split_ne_nil cs)
      · rw [hpieces] at h ih
        rcases List.mem_cons.1 h with rfl | h
        · exact List.not_mem_cons_of_ne_of_not_mem (Ne.symm hc) (ih List.mem_cons_self)
        · exact ih (List.mem_cons_of_mem _ h)

end Text

namespace Files

namespace Disk

/-! ### Places that paths name -/

/-- Where a name leads from a place. -/
def step (place : Location) (name : String) : Location :=
  if name = "." then place else if name = ".." then place.dropLast else place ++ [name]

/-- The place that a path names. There are no links, so it does not depend on what stands in the
tree. -/
def placeNamed (d : Disk) (p : Path) : Location := (names p).foldl step (d.origin p)

/-- Where a piece of a path leads from a place. -/
def stepPiece (place : Location) (piece : List Char) : Location :=
  if isIdle piece then place else step place (String.ofList piece)

theorem foldl_step_names (pieces : List (List Char)) (place : Location) :
    ((pieces.filter (· ≠ [])).map String.ofList).foldl step place = pieces.foldl stepPiece place := by
  induction pieces generalizing place with
  | nil => rfl
  | cons piece pieces ih =>
    by_cases hnil : piece = []
    · rw [List.filter_cons_of_neg (by simpa using hnil), List.foldl_cons, ih, hnil]
      rfl
    · rw [List.filter_cons_of_pos (by simpa using hnil), List.map_cons, List.foldl_cons,
        List.foldl_cons, ih]
      by_cases hdot : piece = ['.']
      · rw [hdot]
        rfl
      · have hidle : isIdle piece = false := by simp [isIdle, hnil, hdot]
        rw [stepPiece, if_neg (by simp [hidle])]

theorem foldl_stepPiece_idle {pieces : List (List Char)} (h : ∀ piece ∈ pieces, isIdle piece = true)
    (place : Location) : pieces.foldl stepPiece place = place := by
  induction pieces with
  | nil => rfl
  | cons piece pieces ih =>
    obtain ⟨hpiece, hpieces⟩ := List.forall_mem_cons.1 h
    rw [List.foldl_cons, stepPiece, if_pos hpiece, ih hpieces]

theorem placeNamed_eq_foldl (d : Disk) (p : Path) :
    d.placeNamed p = (splitSlash p.text.toList).foldl stepPiece (d.origin p) :=
  foldl_step_names _ _

end Disk

open Disk

/-- What stands behind the last piece that is not idle. -/
theorem dropIdleEnd_append (pieces : List (List Char)) :
    ∃ idle, (∀ piece ∈ idle, isIdle piece = true) ∧ pieces = dropIdleEnd pieces ++ idle := by
  refine ⟨(pieces.reverse.takeWhile isIdle).reverse, fun piece h => ?_, ?_⟩
  · exact List.all_eq_true.1 List.all_takeWhile piece (List.mem_reverse.1 h)
  · rw [dropIdleEnd, ← List.reverse_append, List.takeWhile_append_dropWhile, List.reverse_reverse]

theorem isIdle_getLast_dropIdleEnd {pieces : List (List Char)} {piece : List Char}
    (h : (dropIdleEnd pieces).getLast? = some piece) : isIdle piece = false := by
  rw [dropIdleEnd, List.getLast?_reverse] at h
  have := List.head?_dropWhile_not isIdle pieces.reverse
  rw [h] at this
  simpa using this

namespace Path

variable {p : Path} {name : String}

theorem splitSlash_eq_append_body (p : Path) :
    ∃ pieces, splitSlash p.text.toList = pieces ++ p.body := by
  rw [body]
  split
  · refine ⟨(splitSlash p.text.toList).take 1, ?_⟩
    rw [← List.drop_one, List.take_append_drop]
  · exact ⟨[], rfl⟩

/-- The name at the end of a path is a name in a directory. -/
theorem fileName?_eq_some (h : p.fileName? = some name) :
    ∃ pieces piece idle, splitSlash p.text.toList = pieces ++ piece :: idle ∧
      String.ofList piece = name ∧ isIdle piece = false ∧ piece ≠ ['.', '.'] ∧
      ∀ piece ∈ idle, isIdle piece = true := by
  rw [fileName?] at h
  split at h
  · cases h
  · rename_i piece hlast
    split at h
    · cases h
    · rename_i hup
      obtain rfl := Option.some.inj h
      obtain ⟨before, hbefore⟩ := p.splitSlash_eq_append_body
      obtain ⟨idle, hidle, hbody⟩ := dropIdleEnd_append p.body
      obtain ⟨ahead, hahead⟩ := List.getLast?_eq_some_iff.1 hlast
      refine ⟨before ++ ahead, piece, idle, ?_, rfl, isIdle_getLast_dropIdleEnd hlast, hup, hidle⟩
      rw [hbefore, hbody, hahead]
      simp only [List.append_assoc, List.cons_append, List.nil_append]

theorem notMem_of_fileName?_eq_some (h : p.fileName? = some name) : '/' ∉ name.toList := by
  obtain ⟨pieces, piece, idle, hsplit, rfl, -⟩ := fileName?_eq_some h
  have hmem : piece ∈ splitSlash p.text.toList := hsplit ▸ List.mem_append_right _ List.mem_cons_self
  rw [String.toList_ofList]
  exact Text.notMem_of_mem_split hmem

/-! ### A slash at the end -/

/-- The path with one more slash at its end. -/
def slashed (p : Path) : Path := ⟨p.text ++ "/"⟩

theorem splitSlash_slashed (p : Path) :
    splitSlash p.slashed.text.toList = splitSlash p.text.toList ++ [[]] := by
  rw [slashed, String.toList_append]
  exact Text.split_append p.text.toList []

theorem anchor_slashed (h : p.text ≠ "") : p.slashed.anchor = p.anchor := by
  have hpieces : splitSlash p.text.toList ≠ [[]] := fun hs =>
    h (String.toList_inj.1 (Text.eq_nil_of_split_eq hs))
  rw [anchor, anchor, splitSlash_slashed]
  match splitSlash p.text.toList, hpieces with
  | [], _ => rfl
  | [[]], h => exact absurd rfl h
  | [] :: _ :: _, _ => rfl
  | (c :: cs) :: pieces, _ =>
    by_cases hc : c :: cs = ['.']
    · rw [hc]
      rfl
    · simp [hc]

/-- One more slash at the end does not matter when paths are compared. -/
theorem same_slashed (h : p.text ≠ "") : p.same p.slashed = true := by
  have hcomponents : p.slashed.components = p.components := by
    rw [components, components, body, body, anchor_slashed h, splitSlash_slashed]
    have hne : splitSlash p.text.toList ≠ [] := Text.split_ne_nil _
    cases p.anchor <;> simp [isIdle, List.tail_append_of_ne_nil hne]
  rw [same, hcomponents]
  exact beq_self_eq_true _

theorem isAbsolute_slashed (h : p.text ≠ "") : p.slashed.isAbsolute = p.isAbsolute := by
  rw [isAbsolute, isAbsolute, slashed, String.toList_append]
  cases htext : p.text.toList with
  | nil => exact absurd (String.toList_inj.1 htext) h
  | cons c cs => rfl

end Path

namespace Disk

theorem names_slashed (p : Path) : names p.slashed = names p := by
  rw [names, Path.splitSlash_slashed, List.filter_append]
  simp [names]

theorem endsInSlash_slashed (p : Path) : endsInSlash p.slashed = true := by
  simp [endsInSlash, Path.slashed, String.toList_append]

end Disk

/-! ### Names at the end of paths -/

/-- A name that an entry of a directory can have, as far as its characters go. -/
structure IsName (name : String) : Prop where
  slashFree : '/' ∉ name.toList
  ne_empty : name ≠ ""
  ne_dot : name ≠ "."
  ne_up : name ≠ ".."

variable {p : Path} {name : String}

theorem IsName.step (h : IsName name) (place : Location) : step place name = place ++ [name] := by
  rw [Disk.step, if_neg h.ne_dot, if_neg h.ne_up]

theorem IsName.stepPiece (h : IsName name) (place : Location) :
    stepPiece place name.toList = place ++ [name] := by
  have hidle : isIdle name.toList = false := by
    have hnil : name.toList ≠ [] := fun hn => h.ne_empty (String.toList_inj.1 hn)
    have hdot : name.toList ≠ ['.'] := fun hn => h.ne_dot (String.toList_inj.1 hn)
    simp [isIdle, hnil, hdot]
  rw [Disk.stepPiece, if_neg (by simp [hidle]), String.ofList_toList, h.step]

theorem Path.not_isAbsolute (h : '/' ∉ name.toList) : (⟨name⟩ : Path).isAbsolute = false := by
  rw [isAbsolute]
  cases hname : name.toList with
  | nil => rfl
  | cons c cs =>
    rw [hname] at h
    simpa using (List.ne_of_not_mem_cons h).symm

/-- A name below a path: there is one slash before it at least, unless the path is empty. -/
theorem Path.toList_join (h : '/' ∉ name.toList) :
    p.text.toList = [] ∧ (p.join ⟨name⟩).text.toList = name.toList ∨
      p.text.toList ≠ [] ∧ ∃ before, (p.text.toList = before ∨ p.text.toList = before ++ ['/']) ∧
        (p.join ⟨name⟩).text.toList = before ++ '/' :: name.toList := by
  rw [join, not_isAbsolute h, Bool.false_or]
  by_cases hempty : p.text.isEmpty = true
  · rw [if_pos hempty]
    exact .inl ⟨by simpa using hempty, rfl⟩
  · rw [if_neg hempty]
    refine .inr ⟨by simpa using hempty, ?_⟩
    split
    · rename_i hlast
      obtain ⟨before, hbefore⟩ := List.getLast?_eq_some_iff.1 (by simpa using hlast)
      exact ⟨before, .inr hbefore, by simp [String.toList_append, hbefore]⟩
    · exact ⟨p.text.toList, .inl rfl, by simp [String.toList_append]⟩

theorem Path.isAbsolute_join (h : '/' ∉ name.toList) :
    (p.join ⟨name⟩).isAbsolute = p.isAbsolute := by
  rcases Path.toList_join (p := p) h with ⟨hp, hjoin⟩ | ⟨hne, before, hp, hjoin⟩
  · have hname : (name.toList.head? == some '/') = false := not_isAbsolute h
    rw [isAbsolute, isAbsolute, hjoin, hp, hname]
    rfl
  · rw [isAbsolute, isAbsolute, hjoin]
    rcases hp with hp | hp
    · rw [hp] at hne ⊢
      cases before with
      | nil => exact absurd rfl hne
      | cons c before => rfl
    · rw [hp]
      cases before <;> rfl

/-- The pieces of a path with a name below it lead through the path to the name. -/
theorem Path.foldl_join (h : '/' ∉ name.toList) (place : Location) :
    (splitSlash (p.join ⟨name⟩).text.toList).foldl stepPiece place =
      stepPiece ((splitSlash p.text.toList).foldl stepPiece place) name.toList := by
  have hname : splitSlash name.toList = [name.toList] := Text.split_of_notMem h
  rcases Path.toList_join (p := p) h with ⟨hp, hjoin⟩ | ⟨-, before, hp, hjoin⟩
  · rw [hjoin, hp, hname]
    rfl
  · have hsplit : splitSlash (before ++ '/' :: name.toList) = splitSlash before ++ [name.toList] := by
      rw [← hname]
      exact Text.split_append before name.toList
    rw [hjoin, hsplit, List.foldl_append]
    rcases hp with hp | hp
    · rw [hp]
      rfl
    · -- a slash at the end makes one more piece, which is idle
      have hslash : splitSlash (before ++ ['/']) = splitSlash before ++ [[]] :=
        Text.split_append before []
      rw [hp, hslash, List.foldl_append]
      rfl

namespace Disk

/-- A name below a path is a name in the place of the path. -/
theorem placeNamed_join (d : Disk) (h : IsName name) :
    d.placeNamed (p.join ⟨name⟩) = d.placeNamed p ++ [name] := by
  rw [placeNamed_eq_foldl, placeNamed_eq_foldl, Path.foldl_join h.slashFree, h.stepPiece, origin,
    origin, Path.isAbsolute_join h.slashFree]

/-- The name at the end of a path is the last one of its place. -/
theorem placeNamed_of_fileName? (d : Disk) (h : p.fileName? = some name) :
    ∃ directory, d.placeNamed p = directory ++ [name] := by
  obtain ⟨pieces, piece, idle, hsplit, rfl, hpiece, hup, hidle⟩ := Path.fileName?_eq_some h
  refine ⟨pieces.foldl stepPiece (d.origin p), ?_⟩
  have hne : String.ofList piece ≠ ".." := by
    intro hn
    rw [← String.toList_inj, String.toList_ofList] at hn
    exact hup hn
  have hdot : String.ofList piece ≠ "." := by
    intro hn
    rw [← String.toList_inj, String.toList_ofList] at hn
    rw [hn] at hpiece
    cases hpiece
  rw [placeNamed_eq_foldl, hsplit, List.foldl_append, List.foldl_cons, foldl_stepPiece_idle hidle,
    stepPiece, if_neg (by simp [hpiece]), step, if_neg hdot, if_neg hne]

/-- A path with another name at its end names an entry of that name; of the place of the path itself
if it ends in no name. -/
theorem placeNamed_withFileName (d : Disk) (h : IsName name) :
    ∃ directory, d.placeNamed (p.withFileName name) = directory ++ [name] ∧
      (p.fileName? = none → directory = d.placeNamed p) := by
  rw [Path.withFileName]
  split
  · rename_i parent hlast _
    exact ⟨d.placeNamed parent, d.placeNamed_join h, fun hnone => by rw [hlast] at hnone; cases hnone⟩
  · exact ⟨d.placeNamed p, d.placeNamed_join h, fun _ => rfl⟩

end Disk

end Files
end Keyring

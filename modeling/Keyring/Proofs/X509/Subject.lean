import Keyring.Proofs.Act
import Keyring.Proofs.Text.Split
import Keyring.X509.Subject
import Mathlib.Data.List.Forall2
import Mathlib.Data.List.Induction
import Mathlib.Data.List.Nodup
import Mathlib.Data.List.TakeWhile

/-!
# What subjects list

A text of a subject says one attribute between each two commas (`Subject.Says`).  Is that what the parsed
subject lists (`Subject.Lists`)?

* `Subject.parse_lists_iff` : it is just if no two attributes have the same type.  Of several of one type
  the subject keeps the place of the first and the value of the last;
* `Subject.not_lists_repeated` : a text with two organizational units of which one is lost.

The subject is built by pushing the attributes one by one, so what it is follows by induction from the
last attribute: `Subject.map_fst_push` and `Subject.lookup_push` say what one of them changes.
-/

namespace Keyring

/-! ### Blanks -/

namespace Text

theorem trimList_blank_append {blanks : List Char} (h : ∀ c ∈ blanks, isBlank c = true)
    (cs : List Char) : trimList (blanks ++ cs) = trimList cs := by
  rw [trimList, List.dropWhile_append_of_pos h, trimList]

theorem trimList_append_blank {blanks : List Char} (h : ∀ c ∈ blanks, isBlank c = true)
    (cs : List Char) : trimList (cs ++ blanks) = trimList cs := by
  rw [trimList, trimList, List.dropWhile_append]
  split
  · rename_i hcs
    rw [List.isEmpty_iff.1 hcs, ← List.append_nil blanks, List.dropWhile_append_of_pos h]
    rfl
  · have hreverse : ∀ c ∈ blanks.reverse, isBlank c = true := fun c hc => h c (List.mem_reverse.1 hc)
    rw [List.reverse_append, List.dropWhile_append_of_pos hreverse]

/-- Trimming takes off nothing but blanks. -/
theorem exists_blanks_trimList (cs : List Char) : ∃ before behind, cs = before ++ trimList cs ++ behind ∧
    (∀ c ∈ before, isBlank c = true) ∧ ∀ c ∈ behind, isBlank c = true := by
  refine ⟨cs.takeWhile isBlank, ((cs.dropWhile isBlank).reverse.takeWhile isBlank).reverse, ?_,
    fun c => List.mem_takeWhile_imp, fun c hc => List.mem_takeWhile_imp (List.mem_reverse.1 hc)⟩
  rw [trimList, List.append_assoc, ← List.reverse_append, List.takeWhile_append_dropWhile,
    List.reverse_reverse, List.takeWhile_append_dropWhile]

end Text

theorem mapM_eq_ok_iff {ε α β : Type} {f : α → Except ε β} {xs : List α} {ys : List β} :
    xs.mapM f = .ok ys ↔ List.Forall₂ (fun x y => f x = .ok y) xs ys := by
  induction xs generalizing ys with
  | nil => simp [pure, Except.pure, eq_comm]
  | cons x xs ih =>
    rw [List.mapM_cons, bind_eq_ok_iff]
    constructor
    · rintro ⟨y, hy, h⟩
      obtain ⟨ys', hys, h⟩ := bind_eq_ok_iff.1 h
      obtain rfl := Except.ok.inj h
      exact .cons hy (ih.1 hys)
    · rintro (_ | ⟨hy, hys⟩)
      exact ⟨_, hy, bind_eq_ok_iff.2 ⟨_, ih.2 hys, rfl⟩⟩

namespace X509.Subject

/-! ### What a text says -/

/-- A piece of a text says an attribute: the name of the type stands before the first equals sign, the
value behind it, each between blanks. -/
def Says (piece : List Char) (a : SubjectType × String) : Prop :=
  ∃ name value, piece = name ++ '=' :: value ∧ '=' ∉ name ∧
    SubjectType.ofName? (Text.trimList name) = some a.1 ∧
    String.ofList (Text.trimList value) = a.2

/-- A subject lists the attributes that a text says: one for each piece between commas, in the same
order. -/
def Lists (text : String) (s : Subject) : Prop := List.Forall₂ Says (Text.split ',' text.toList) s

theorem Says.unique {piece : List Char} {a b : SubjectType × String} (ha : Says piece a)
    (hb : Says piece b) : a = b := by
  obtain ⟨name, value, hpiece, hname, htype, hvalue⟩ := ha
  obtain ⟨name', value', hpiece', hname', htype', hvalue'⟩ := hb
  obtain ⟨rfl, rfl⟩ := Text.sides_unique (hpiece.symm.trans hpiece') hname hname'
  exact Prod.ext (Option.some.inj (htype.symm.trans htype')) (hvalue.symm.trans hvalue')

theorem Lists.unique {text : String} {s s' : Subject} (h : Lists text s) (h' : Lists text s') :
    s = s' :=
  List.right_unique_forall₂' (R := Says) (fun _ _ _ => Says.unique) h h'

/-- An attribute is read from a piece that says it. -/
theorem says_of_ofPiece {piece : List Char} {a : SubjectType × String} (h : ofPiece piece = .ok a) :
    Says piece a := by
  obtain ⟨before, behind, hpiece, hbefore, hbehind⟩ := Text.exists_blanks_trimList piece
  rw [ofPiece] at h
  split at h
  · cases h
  · rename_i name value hsplit
    obtain ⟨htrim, hname⟩ := Text.splitFirst?_eq_some_iff.1 hsplit
    dsimp only at h
    split at h
    · cases h
    · rename_i type htype
      split at h
      · cases h
      · obtain rfl := Except.ok.inj h
        -- blanks around the piece go to the name and to the value, where they do not matter
        refine ⟨before ++ name, value ++ behind, ?_, ?_, ?_, ?_⟩
        · rw [hpiece, htrim]
          simp
        · rw [List.mem_append]
          exact fun hmem => hmem.elim (fun hmem => absurd (hbefore _ hmem) (by decide)) hname
        · rw [Text.trimList_blank_append hbefore, htype]
        · rw [Text.trimList_append_blank hbehind]

/-- Attributes pushed one by one. -/
def pushAll (attributes : List (SubjectType × String)) : Subject :=
  attributes.foldl (fun s (type, value) => push s type value) []

/-- What is parsed is what the text says, pushed attribute by attribute. -/
theorem lists_of_parse {text : String} {s : Subject} (h : parse text = .ok s) :
    ∃ said, Lists text said ∧ s = pushAll said := by
  obtain ⟨said, hsaid, h⟩ := bind_eq_ok_iff.1 h
  rw [attributes] at hsaid
  split at hsaid
  · cases hsaid
  · exact ⟨said, (mapM_eq_ok_iff.1 hsaid).imp fun _ _ => says_of_ofPiece, (Except.ok.inj h).symm⟩

/-! ### Pushing attributes -/

theorem push_of_notMem {s : Subject} {type : SubjectType} (value : String)
    (h : type ∉ s.map Prod.fst) : push s type value = s ++ [(type, value)] := by
  induction s with
  | nil => rfl
  | cons a s ih =>
    rw [List.map_cons] at h
    rw [push, if_neg (List.ne_of_not_mem_cons h).symm, ih (List.not_mem_of_not_mem_cons h)]
    rfl

/-- The types after an attribute was pushed. -/
theorem map_fst_push (s : Subject) (type : SubjectType) (value : String) :
    (push s type value).map Prod.fst =
      if type ∈ s.map Prod.fst then s.map Prod.fst else s.map Prod.fst ++ [type] := by
  split
  · rename_i hmem
    induction s with
    | nil => cases hmem
    | cons a s ih =>
      rw [push]
      split
      · rfl
      · rename_i htype
        rw [List.map_cons, ih (List.mem_of_ne_of_mem (Ne.symm htype) hmem)]
        rfl
  · rename_i hmem
    rw [push_of_notMem value hmem, List.map_append]
    rfl

theorem lookup_cons_eq (a : SubjectType × String) (s : Subject) (type : SubjectType) :
    List.lookup type (a :: s) = if type = a.1 then some a.2 else s.lookup type := by
  rw [List.lookup_cons]
  by_cases h : type = a.1
  · rw [if_pos h, h, beq_self_eq_true]
  · rw [if_neg h, beq_false_of_ne h]

/-- The values after an attribute was pushed. -/
theorem lookup_push (s : Subject) (type t : SubjectType) (value : String) :
    (push s type value).lookup t = if t = type then some value else s.lookup t := by
  induction s with
  | nil => exact lookup_cons_eq (type, value) [] t
  | cons a s ih =>
    rw [push, lookup_cons_eq]
    split
    · rename_i htype
      rw [lookup_cons_eq, htype]
      by_cases ht : t = type
      · rw [if_pos ht, if_pos ht]
      · rw [if_neg ht, if_neg ht, if_neg ht]
    · rename_i htype
      rw [lookup_cons_eq, ih]
      by_cases ht : t = a.1
      · rw [if_pos ht, if_pos ht, if_neg (ht ▸ htype)]
      · rw [if_neg ht, if_neg ht]

theorem pushAll_concat (said : List (SubjectType × String)) (a : SubjectType × String) :
    pushAll (said ++ [a]) = push (pushAll said) a.1 a.2 := by
  rw [pushAll, List.foldl_append, pushAll]
  rfl

/-- Each type has the place of its first attribute. -/
theorem map_fst_pushAll (said : List (SubjectType × String)) :
    (pushAll said).map Prod.fst = (said.map Prod.fst).eraseDups := by
  induction said using List.reverseRecOn with
  | nil => rfl
  | append_singleton said a ih =>
    rw [pushAll_concat, map_fst_push, ih, List.map_append, List.eraseDups_append, List.map_singleton]
    by_cases hmem : a.1 ∈ said.map Prod.fst
    · rw [if_pos (List.mem_eraseDups.2 hmem)]
      simp [List.removeAll, hmem]
    · rw [if_neg fun h => hmem (List.mem_eraseDups.1 h)]
      simp [List.removeAll, hmem, List.eraseDups_cons]

/-- Each type has the value of its last attribute. -/
theorem lookup_pushAll (said : List (SubjectType × String)) (type : SubjectType) :
    (pushAll said).lookup type = said.reverse.lookup type := by
  induction said using List.reverseRecOn with
  | nil => rfl
  | append_singleton said a ih =>
    rw [pushAll_concat, lookup_push, ih, List.reverse_append, List.reverse_singleton,
      List.singleton_append, lookup_cons_eq]

theorem nodup_pushAll (said : List (SubjectType × String)) :
    ((pushAll said).map Prod.fst).Nodup := by
  induction said using List.reverseRecOn with
  | nil => exact .nil
  | append_singleton said a ih =>
    rw [pushAll_concat, map_fst_push]
    split
    · exact ih
    · rename_i hmem
      exact List.nodup_append_comm.2 (List.nodup_cons.2 ⟨hmem, ih⟩)

/-- Pushing keeps all attributes just if no two of them have the same type. -/
theorem pushAll_eq_self_iff {said : List (SubjectType × String)} :
    pushAll said = said ↔ (said.map Prod.fst).Nodup := by
  constructor
  · intro h
    rw [← h]
    exact nodup_pushAll said
  · intro h
    induction said using List.reverseRecOn with
    | nil => rfl
    | append_singleton said a ih =>
      rw [List.map_append, List.nodup_append_comm] at h
      obtain ⟨hmem, hsaid⟩ := List.nodup_cons.1 h
      rw [pushAll_concat, ih hsaid, push_of_notMem _ hmem]

/-- **A subject lists what its text says just if no two attributes have the same type.**  In any case it
has each type once, at the place of its first attribute and with the value of its last. -/
theorem parse_lists_iff {text : String} {s : Subject} (h : parse text = .ok s) :
    ∃ said, Lists text said ∧ (Lists text s ↔ (said.map Prod.fst).Nodup) ∧
      s.map Prod.fst = (said.map Prod.fst).eraseDups ∧
      ∀ type, s.lookup type = said.reverse.lookup type := by
  obtain ⟨said, hsaid, rfl⟩ := lists_of_parse h
  refine ⟨said, hsaid, ?_, map_fst_pushAll said, lookup_pushAll said⟩
  rw [← pushAll_eq_self_iff]
  constructor
  · exact fun hlists => hlists.unique hsaid
  · intro hsame
    rw [hsame]
    exact hsaid

/-- Where an organizational unit is repeated, the first place and the last value are left of the two. -/
theorem parse_lists_repeated :
    ∃ said, Lists "OU=a,O=Edge,OU=b" said ∧
      (Lists "OU=a,O=Edge,OU=b" [(.organizationalUnit, "b"), (.organization, "Edge")] ↔
        (said.map Prod.fst).Nodup) ∧
      [.organizationalUnit, .organization] = (said.map Prod.fst).eraseDups ∧
      ∀ type, List.lookup type [(.organizationalUnit, "b"), (.organization, "Edge")] =
        said.reverse.lookup type :=
  parse_lists_iff rfl

/-- So the first of the two units is lost, and the second stands before the organization, which was
written before it. -/
theorem not_lists_repeated :
    parse "OU=a,O=Edge,OU=b" = .ok [(.organizationalUnit, "b"), (.organization, "Edge")] ∧
      ¬ Lists "OU=a,O=Edge,OU=b" [(.organizationalUnit, "b"), (.organization, "Edge")] := by
  refine ⟨rfl, fun h => ?_⟩
  have hlength := h.length_eq
  revert hlength
  decide +kernel

end X509.Subject

end Keyring

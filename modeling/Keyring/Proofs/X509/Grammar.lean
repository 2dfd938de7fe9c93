import Keyring.Proofs.Files.Names
import Keyring.Proofs.X509.Subject
import Mathlib

/-!
# The grammar of subjects

Which texts are subjects, and what is said of the others.

* `Subject.IsAttribute` : what may stand between two commas: the name of a type, an equals sign and a
  value that is not blank;
* `Subject.Faulty` : what is wrong with everything else;
* `Subject.Respelled` : the same attributes with other blanks around their parts and with the names of
  their types in other letters;
* `Subject.ofArgument_exact` : a text is taken if it is not blank and consists of attributes, and is
  refused for the first of its pieces that is none.  Respelling it does not matter.

Everything follows from two equations for one piece, `Subject.ofPiece_of_notMem` and
`Subject.ofPiece_append`: without an equals sign there is no attribute, and with one only the trimmed
texts on its sides count.
-/

namespace Keyring

namespace Text

/-- A text stands between blanks. -/
def Padded (core text : List Char) : Prop :=
  ∃ before behind, text = before ++ core ++ behind ∧ (∀ c ∈ before, isBlank c = true) ∧
    ∀ c ∈ behind, isBlank c = true

theorem Padded.trimList_eq {core text : List Char} (h : Padded core text) :
    trimList text = trimList core := by
  obtain ⟨before, behind, rfl, hbefore, hbehind⟩ := h
  rw [trimList_append_blank hbehind, trimList_blank_append hbefore]

theorem Padded.notMem {core text : List Char} (h : Padded core text) {c : Char}
    (hc : isBlank c = false) (hcore : c ∉ core) : c ∉ text := by
  obtain ⟨before, behind, rfl, hbefore, hbehind⟩ := h
  intro hmem
  rcases List.mem_append.1 hmem with hmem | hmem
  · rcases List.mem_append.1 hmem with hmem | hmem
    · simp [hbefore c hmem] at hc
    · exact hcore hmem
  · simp [hbehind c hmem] at hc

/-- Blanks in front and behind, put around a text. -/
theorem Padded.of_all {core text : List Char} (before behind : List Char)
    (htext : text = before ++ core ++ behind) (h : (before ++ behind).all isBlank = true) :
    Padded core text := by
  obtain ⟨hbefore, hbehind⟩ := List.forall_mem_append.1 (List.all_eq_true.1 h)
  exact ⟨before, behind, htext, hbefore, hbehind⟩

theorem padded_trimList (text : List Char) : Padded (trimList text) text :=
  exists_blanks_trimList text

/-- Nothing is left of blanks, and of nothing else. -/
theorem trimList_eq_nil_iff {text : List Char} : trimList text = [] ↔ ∀ c ∈ text, isBlank c = true := by
  constructor
  · intro h
    obtain ⟨before, behind, htext, hbefore, hbehind⟩ := padded_trimList text
    rw [htext, h, List.append_nil]
    exact List.forall_mem_append.2 ⟨hbefore, hbehind⟩
  · intro h
    rw [← List.append_nil text, trimList_blank_append h]
    rfl

/-- Where a trimmed text is split, the sides differ from those of the whole text in blanks. -/
theorem splitFirst?_trimList {separator : Char} (hseparator : isBlank separator = false)
    {left : List Char} (hleft : separator ∉ left) (right : List Char) :
    ∃ left' right', splitFirst? separator (trimList (left ++ separator :: right)) =
        some (left', right') ∧
      trimList left' = trimList left ∧ trimList right' = trimList right := by
  have hpadded := padded_trimList (left ++ separator :: right)
  have hmem : separator ∈ trimList (left ++ separator :: right) := by
    refine Decidable.byContradiction fun hnot => hpadded.notMem hseparator hnot ?_
    simp
  obtain ⟨left', right', htrim, hleft'⟩ := List.eq_append_cons_of_mem hmem
  obtain ⟨before, behind, htext, hbefore, hbehind⟩ := hpadded
  refine ⟨left', right', splitFirst?_eq_some_iff.2 ⟨htrim, hleft'⟩, ?_⟩
  -- the whole text is split in one way, so the blanks in front go left and those behind go right
  have hwhole : left ++ separator :: right = (before ++ left') ++ separator :: (right' ++ behind) := by
    rw [htrim] at htext
    simpa using htext
  have hbefore' : separator ∉ before := by
    intro hsep
    simp [hbefore separator hsep] at hseparator
  obtain ⟨rfl, rfl⟩ := sides_unique hwhole hleft (by simp [hbefore', hleft'])
  exact ⟨(trimList_blank_append hbefore _).symm, (trimList_append_blank hbehind _).symm⟩

/-- Putting a character into upper case makes a letter of a letter, and keeps all others. -/
theorem toUpper_cases (c : Char) :
    c.isAlpha = true ∧ c.toUpper.isAlpha = true ∨ c.toUpper = c := by
  by_cases h : c.isLower = true
  · have halpha : c.isAlpha = true := by simp [Char.isAlpha, h]
    exact .inl ⟨halpha, (Char.isAlpha_toUpper_eq_isAlpha c).trans halpha⟩
  · exact .inr (Char.toUpper_eq_of_not_isLower h)

theorem isBlank_of_isAlpha {c : Char} (h : c.isAlpha = true) : isBlank c = false := by
  simp only [Char.isAlpha, Char.isUpper, Char.isLower, Bool.or_eq_true, Bool.and_eq_true,
    decide_eq_true_eq] at h
  have hrange : 65 ≤ c.toNat ∧ c.toNat ≤ 122 := by
    rcases h with ⟨hlow, hhigh⟩ | ⟨hlow, hhigh⟩
    · exact ⟨hlow, Nat.le_trans hhigh (by decide)⟩
    · exact ⟨Nat.le_trans (by decide) hlow, hhigh⟩
  simp [isBlank]
  omega

theorem isBlank_toUpper (c : Char) : isBlank c.toUpper = isBlank c := by
  rcases toUpper_cases c with ⟨hletter, hupper⟩ | h
  · rw [isBlank_of_isAlpha hletter, isBlank_of_isAlpha hupper]
  · rw [h]

theorem trimList_map_toUpper (cs : List Char) :
    trimList (cs.map Char.toUpper) = (trimList cs).map Char.toUpper := by
  have hblank : isBlank ∘ Char.toUpper = isBlank := funext isBlank_toUpper
  simp only [trimList, List.dropWhile_map, hblank, ← List.map_reverse]

/-- Changing the case of letters brings no equals sign in. -/
theorem notMem_of_map_toUpper {cs ds : List Char} (h : cs.map Char.toUpper = ds.map Char.toUpper)
    (hcs : '=' ∉ cs) : '=' ∉ ds := by
  have hequals : ∀ c : Char, c.toUpper = '=' → c = '=' := by
    intro c hc
    rcases toUpper_cases c with ⟨-, hupper⟩ | h
    · rw [hc] at hupper
      simp at hupper
    · rw [← h, hc]
  intro hmem
  have hupper : '=' ∈ cs.map Char.toUpper := h ▸ List.mem_map_of_mem hmem
  obtain ⟨c, hc, hsame⟩ := List.mem_map.1 hupper
  exact hcs (hequals c hsame ▸ hc)

end Text

theorem exists_mapM_eq_ok_iff {ε α β : Type} {f : α → Except ε β} {xs : List α} :
    (∃ ys, xs.mapM f = .ok ys) ↔ ∀ x ∈ xs, ∃ y, f x = .ok y := by
  induction xs with
  | nil => simp [pure, Except.pure]
  | cons x xs ih =>
    rw [List.forall_mem_cons, ← ih]
    constructor
    · rintro ⟨ys, hys⟩
      cases mapM_eq_ok_iff.1 hys with
      | cons hx hxs => exact ⟨⟨_, hx⟩, _, mapM_eq_ok_iff.2 hxs⟩
    · rintro ⟨⟨y, hy⟩, ys, hys⟩
      exact ⟨y :: ys, mapM_eq_ok_iff.2 (.cons hy (mapM_eq_ok_iff.1 hys))⟩

/-- Going through a list fails at the first element that fails. -/
theorem mapM_eq_error {ε α β : Type} {f : α → Except ε β} {xs : List α} {e : ε}
    (h : xs.mapM f = .error e) : ∃ before x after, xs = before ++ x :: after ∧
      (∀ y ∈ before, ∃ b, f y = .ok b) ∧ f x = .error e := by
  induction xs with
  | nil => cases h
  | cons x xs ih =>
    rw [List.mapM_cons] at h
    rcases bind_eq_error_iff.1 h with hx | ⟨b, hb, h⟩
    · exact ⟨[], x, xs, rfl, List.forall_mem_nil _, hx⟩
    · rcases bind_eq_error_iff.1 h with hxs | ⟨bs, -, h⟩
      · obtain ⟨before, y, after, rfl, hbefore, hy⟩ := ih hxs
        exact ⟨x :: before, y, after, rfl, List.forall_mem_cons.2 ⟨⟨b, hb⟩, hbefore⟩, hy⟩
      · cases h

namespace X509

/-! ### Names of types -/

namespace SubjectType

/-- The names of types. -/
def names : List String := ["CN", "C", "O", "OU", "ST", "S", "L", "SERIALNUMBER", "DC"]

/-- The name of a type, in any case. -/
def IsName (name : List Char) : Prop := String.ofList (name.map Char.toUpper) ∈ names

theorem ofName?_isSome_iff {name : List Char} : (ofName? name).isSome ↔ IsName name := by
  rw [ofName?, List.lookup_isSome_iff]
  simp [IsName, names]

/-- The case of letters does not matter to a name. -/
theorem ofName?_congr {name name' : List Char}
    (h : name.map Char.toUpper = name'.map Char.toUpper) : ofName? name = ofName? name' := by
  rw [ofName?, ofName?, h]

end SubjectType

namespace Subject

/-! ### One piece -/

/-- What may stand between two commas: the name of a type, an equals sign and a value, where blanks
around the name do not count and the value is not all blanks. -/
def IsAttribute (piece : List Char) : Prop :=
  ∃ name value, piece = name ++ '=' :: value ∧ '=' ∉ name ∧
    SubjectType.IsName (Text.trimList name) ∧ ∃ c ∈ value, Text.isBlank c = false

/-- What is wrong with a piece.  A type is only looked for where there is an equals sign, and a value
where the type is known. -/
inductive Faulty : List Char → SubjectFault → Prop where
  | noEquals {piece : List Char} (h : '=' ∉ piece) :
    Faulty piece (.noEquals (String.ofList (Text.trimList piece)))
  | unknownType {name value : List Char} (hname : '=' ∉ name)
    (h : ¬ SubjectType.IsName (Text.trimList name)) :
    Faulty (name ++ '=' :: value) (.unknownType (String.ofList (Text.trimList name)))
  | noValue {name value : List Char} (hname : '=' ∉ name)
    (htype : SubjectType.IsName (Text.trimList name)) (h : ∀ c ∈ value, Text.isBlank c = true) :
    Faulty (name ++ '=' :: value) (.noValue (String.ofList (Text.trimList name)))

/-- A piece written in another way: with other blanks around the name of the type and around the
value, and with the name in other letters. -/
inductive Respells : List Char → List Char → Prop where
  | piece {name name' value left left' right right' : List Char} (hname : '=' ∉ name)
    (hcase : name.map Char.toUpper = name'.map Char.toUpper) (hleft : Text.Padded name left)
    (hleft' : Text.Padded name' left') (hright : Text.Padded value right)
    (hright' : Text.Padded value right') :
    Respells (left ++ '=' :: right) (left' ++ '=' :: right')

theorem isBlank_equals : Text.isBlank '=' = false := by decide

theorem ofPiece_of_notMem {piece : List Char} (h : '=' ∉ piece) :
    ofPiece piece = .error (.noEquals (String.ofList (Text.trimList piece))) := by
  have htrim : '=' ∉ Text.trimList piece := by
    obtain ⟨before, behind, hpiece, -, -⟩ := Text.padded_trimList piece
    intro hmem
    rw [hpiece] at h
    simp [hmem] at h
  rw [ofPiece, Text.splitFirst?_eq_none_iff.2 htrim]

/-- With an equals sign, the trimmed texts on its sides decide. -/
theorem ofPiece_append {name : List Char} (value : List Char) (hname : '=' ∉ name) :
    ofPiece (name ++ '=' :: value) =
      match SubjectType.ofName? (Text.trimList name) with
      | none => .error (.unknownType (String.ofList (Text.trimList name)))
      | some type =>
        if Text.trimList value = [] then .error (.noValue (String.ofList (Text.trimList name)))
        else .ok (type, String.ofList (Text.trimList value)) := by
  obtain ⟨left, right, hsplit, hleft, hright⟩ :=
    Text.splitFirst?_trimList isBlank_equals hname value
  rw [ofPiece, hsplit]
  dsimp only
  rw [hleft, hright]
  cases SubjectType.ofName? (Text.trimList name) with
  | none => rfl
  | some type => simp only [List.isEmpty_iff]

/-- The first equals sign ends the name, and one further right belongs to the value. -/
theorem isAttribute_append_iff {name : List Char} (value : List Char) (hname : '=' ∉ name) :
    IsAttribute (name ++ '=' :: value) ↔
      SubjectType.IsName (Text.trimList name) ∧ ∃ c ∈ value, Text.isBlank c = false := by
  constructor
  · rintro ⟨name', value', hpiece, hname', h⟩
    obtain ⟨rfl, rfl⟩ := Text.sides_unique hpiece hname hname'
    exact h
  · intro h
    exact ⟨name, value, rfl, hname, h⟩

/-- Attributes are taken, and everything else is refused for what is wrong with it. -/
theorem ofPiece_spec (piece : List Char) :
    (IsAttribute piece ∧ ∃ a, ofPiece piece = .ok a) ∨
      ¬ IsAttribute piece ∧ ∃ fault, ofPiece piece = .error fault ∧ Faulty piece fault := by
  by_cases hmem : '=' ∈ piece
  · obtain ⟨name, value, rfl, hname⟩ := List.eq_append_cons_of_mem hmem
    rw [isAttribute_append_iff value hname, ofPiece_append value hname,
      ← SubjectType.ofName?_isSome_iff]
    cases htype : SubjectType.ofName? (Text.trimList name) with
    | none =>
      have hunknown : ¬ SubjectType.IsName (Text.trimList name) := by
        simp [← SubjectType.ofName?_isSome_iff, htype]
      exact .inr ⟨by simp, _, rfl, .unknownType hname hunknown⟩
    | some type =>
      have hknown : SubjectType.IsName (Text.trimList name) := by
        simp [← SubjectType.ofName?_isSome_iff, htype]
      by_cases hvalue : Text.trimList value = []
      · have hblank := Text.trimList_eq_nil_iff.1 hvalue
        refine .inr ⟨?_, _, if_pos hvalue, .noValue hname hknown hblank⟩
        rintro ⟨-, c, hc, hnot⟩
        simp [hblank c hc] at hnot
      · refine .inl ⟨⟨rfl, ?_⟩, _, if_neg hvalue⟩
        simpa [Text.trimList_eq_nil_iff] using hvalue
  · refine .inr ⟨?_, _, ofPiece_of_notMem hmem, .noEquals hmem⟩
    rintro ⟨name, value, rfl, -⟩
    simp at hmem

theorem exists_ofPiece_eq_ok_iff {piece : List Char} :
    (∃ a, ofPiece piece = .ok a) ↔ IsAttribute piece := by
  rcases ofPiece_spec piece with ⟨hattribute, hok⟩ | ⟨hattribute, fault, herror, -⟩
  · exact iff_of_true hok hattribute
  · exact iff_of_false (by simp [herror]) hattribute

theorem faulty_of_ofPiece {piece : List Char} {fault : SubjectFault}
    (h : ofPiece piece = .error fault) : Faulty piece fault := by
  rcases ofPiece_spec piece with ⟨-, a, hok⟩ | ⟨-, fault', herror, hfaulty⟩
  · rw [hok] at h
    cases h
  · rw [herror] at h
    obtain rfl := Except.error.inj h
    exact hfaulty

theorem Respells.mem {piece piece' : List Char} (h : Respells piece piece') : '=' ∈ piece' := by
  cases h
  simp

/-- Spelling an attribute in another way gives the same attribute. -/
theorem Respells.ofPiece_eq {piece piece' : List Char} (h : Respells piece piece')
    {a : SubjectType × String} (ha : ofPiece piece = .ok a) : ofPiece piece' = .ok a := by
  cases h with
  | @piece name name' value left left' right right' hname hcase hleft hleft' hright hright' =>
    have hname' := Text.notMem_of_map_toUpper hcase hname
    have htype : SubjectType.ofName? (Text.trimList left) =
        SubjectType.ofName? (Text.trimList left') := by
      rw [hleft.trimList_eq, hleft'.trimList_eq]
      refine SubjectType.ofName?_congr ?_
      rw [← Text.trimList_map_toUpper, hcase, Text.trimList_map_toUpper]
    rw [ofPiece_append _ (hleft.notMem isBlank_equals hname)] at ha
    rw [ofPiece_append _ (hleft'.notMem isBlank_equals hname'), ← htype, hright'.trimList_eq]
    rw [hright.trimList_eq] at ha
    cases htype : SubjectType.ofName? (Text.trimList left) with
    | none =>
      rw [htype] at ha
      cases ha
    | some type =>
      rw [htype] at ha
      dsimp only at ha ⊢
      split at ha
      · cases ha
      · rename_i hvalue
        rw [if_neg hvalue]
        exact ha

/-! ### Whole texts -/

/-- The same attributes spelled in another way, piece by piece. -/
def Respelled (text text' : String) : Prop :=
  List.Forall₂ Respells (Text.split ',' text.toList) (Text.split ',' text'.toList)

/-- What a text is refused for: it is blank, or it has a piece that is no attribute.  The first of these
pieces is the one that is reported. -/
inductive Refused (text : String) : SubjectFault → Prop where
  | blank (h : Text.isBlankText text = true) : Refused text .empty
  | piece {before after : List (List Char)} {piece : List Char} {fault : SubjectFault}
    (htext : Text.isBlankText text = false)
    (hpieces : Text.split ',' text.toList = before ++ piece :: after)
    (hbefore : ∀ earlier ∈ before, IsAttribute earlier) (h : Faulty piece fault) :
    Refused text fault

theorem refused_of_attributes {text : String} {fault : SubjectFault}
    (h : attributes text = .error fault) : Refused text fault := by
  rw [attributes] at h
  split at h
  · rename_i hblank
    obtain rfl := Except.error.inj h
    exact .blank hblank
  · rename_i hblank
    obtain ⟨before, piece, after, hpieces, hbefore, hfault⟩ := mapM_eq_error h
    exact .piece (by simpa using hblank) hpieces
      (fun earlier hmem => exists_ofPiece_eq_ok_iff.1 (hbefore earlier hmem))
      (faulty_of_ofPiece hfault)

theorem exists_attributes_eq_ok_iff {text : String} :
    (∃ said, attributes text = .ok said) ↔ Text.isBlankText text = false ∧
      ∀ piece ∈ Text.split ',' text.toList, IsAttribute piece := by
  rw [attributes]
  by_cases hblank : Text.isBlankText text = true
  · simp [hblank]
  · rw [if_neg hblank, exists_mapM_eq_ok_iff]
    simp only [exists_ofPiece_eq_ok_iff]
    simp [hblank]

theorem Respelled.isBlankText_eq {text text' : String} (h : Respelled text text') :
    Text.isBlankText text' = false := by
  rw [Bool.eq_false_iff]
  intro hblank
  have hall := List.all_eq_true.1 hblank
  have hcomma : ',' ∉ text'.toList := fun hmem => absurd (hall ',' hmem) (by decide)
  -- a blank text is a piece of its own, and pieces that were respelled have an equals sign
  rw [Respelled, Text.split_of_notMem hcomma] at h
  obtain ⟨piece, -, hpiece, -, -⟩ := List.forall₂_cons_right_iff.1 h
  exact absurd (hall '=' hpiece.mem) (by decide)

theorem Respelled.attributes_eq {text text' : String} (h : Respelled text text')
    {said : List (SubjectType × String)} (hsaid : attributes text = .ok said) :
    attributes text' = .ok said := by
  obtain ⟨hblank, -⟩ := exists_attributes_eq_ok_iff.1 ⟨said, hsaid⟩
  rw [attributes, if_neg (by simp [hblank])] at hsaid
  rw [attributes, if_neg (by simp [h.isBlankText_eq])]
  have hpieces := mapM_eq_ok_iff.1 hsaid
  refine mapM_eq_ok_iff.2 ?_
  rw [Respelled] at h
  generalize Text.split ',' text.toList = pieces at h hpieces
  generalize Text.split ',' text'.toList = pieces' at h ⊢
  clear hsaid
  induction h generalizing said with
  | nil => exact hpieces
  | cons hpiece _ ih =>
    cases hpieces with
    | cons ha hlater => exact .cons (hpiece.ofPiece_eq ha) (ih hlater)

/-- A subject is what is made of the attributes. -/
theorem ofArgument_eq (text : String) :
    ofArgument text = match attributes text with
      | .ok said => .ok (pushAll said)
      | .error fault => .error (.invalidArgument fault.text) := by
  rw [ofArgument, parse]
  cases attributes text <;> rfl

/-- **A text is a subject if it is not blank and all its pieces are attributes.**  Otherwise the argument
is refused for being blank, or for the first piece that is no attribute.  The subject does not depend on
the case of the names of types, nor on blanks around names, values and commas. -/
theorem ofArgument_exact (text : String) :
    ((∃ s, ofArgument text = .ok s) ↔ Text.isBlankText text = false ∧
      ∀ piece ∈ Text.split ',' text.toList, IsAttribute piece) ∧
    ((¬ ∃ s, ofArgument text = .ok s) →
      ∃ fault, Refused text fault ∧ ofArgument text = .error (.invalidArgument fault.text)) ∧
    ∀ text' s, Respelled text text' → ofArgument text = .ok s → ofArgument text' = .ok s := by
  rw [← exists_attributes_eq_ok_iff, ofArgument_eq]
  refine ⟨?_, fun h => ?_, fun text' s hrespelled h => ?_⟩
  · cases attributes text <;> simp
  · cases hsaid : attributes text with
    | ok said => simp [hsaid] at h
    | error fault => exact ⟨fault, refused_of_attributes hsaid, rfl⟩
  · cases hsaid : attributes text with
    | ok said =>
      rw [hsaid] at h
      rw [ofArgument_eq, hrespelled.attributes_eq hsaid]
      exact h
    | error fault =>
      rw [hsaid] at h
      cases h

theorem respelled_gateway : Respelled "CN=gateway,O=Edge" " cn = gateway , o=Edge" := by
  have hgateway : Respells "CN=gateway".toList " cn = gateway ".toList :=
    @Respells.piece "CN".toList "cn".toList "gateway".toList "CN".toList " cn ".toList
      "gateway".toList " gateway ".toList (by decide) (by decide) (.of_all [] [] rfl rfl)
      (.of_all [' '] [' '] rfl rfl) (.of_all [] [] rfl rfl) (.of_all [' '] [' '] rfl rfl)
  have hedge : Respells "O=Edge".toList " o=Edge".toList :=
    @Respells.piece "O".toList "o".toList "Edge".toList "O".toList " o".toList "Edge".toList
      "Edge".toList (by decide) (by decide) (.of_all [] [] rfl rfl) (.of_all [' '] [] rfl rfl)
      (.of_all [] [] rfl rfl) (.of_all [] [] rfl rfl)
  exact .cons hgateway (.cons hedge .nil)

/-- Blanks and small letters do not matter to a subject of two attributes.  An empty piece is one that
is refused, in front of one with an unknown type. -/
theorem ofArgument_exact_respelled :
    ofArgument " cn = gateway , o=Edge" =
        .ok [(.commonName, "gateway"), (.organization, "Edge")] ∧
      ∃ fault, Refused "CN=a,,XX=b" fault ∧
        ofArgument "CN=a,,XX=b" = .error (.invalidArgument fault.text) := by
  obtain ⟨-, -, hrespelled⟩ := ofArgument_exact "CN=gateway,O=Edge"
  obtain ⟨-, hrefused, -⟩ := ofArgument_exact "CN=a,,XX=b"
  refine ⟨hrespelled _ _ respelled_gateway rfl, hrefused ?_⟩
  rintro ⟨s, hs⟩
  cases hs

end Subject

end X509

end Keyring

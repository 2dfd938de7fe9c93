import Keyring.Proofs.Config.Store
import Keyring.Proofs.Json.Objects

/-!
# Which files are configurations

A file is loaded if and only if it holds an object of settings: a literal under each key, which is a
truth value, an integer of 64 bits or a string.

* `SettingsText` : the texts of such objects, with every setting that they hold.  A literal is what
  `Value.LiteralText` says: an integer has neither a point nor an exponent, and zero has no sign;
* `parse_eq_document_iff` : these are the texts of the documents that are objects of settings;
* `Properties.parse_eq_ok_iff` : a configuration is made of them and of nothing else, and of several
  settings under one key it takes the last.  Those before it have to be settings as well;
* `loadFile_exact` : so are configuration files.
-/

namespace Keyring.Json

/-- The document of a JSON text. -/
def parse (text : Bytes) : Except Error Value := Reader.readAll (Reader.value depthLimit) text

end Keyring.Json

namespace Keyring.Config

open Json Reader

/-! ### Texts of settings -/

namespace Value

/-- A value and a text that is read as it. -/
inductive LiteralText : Value → Bytes → Prop where
  | boolean (b : Bool) : LiteralText (.boolean b) (Writer.ascii (if b then "true" else "false"))
  | integer (n : Integer) : LiteralText (.integer n) (Writer.integer n.val)
  | string {escaped : Bytes} {s : String} (h : Unescapes escaped (Bytes.ofString s)) :
      LiteralText (.string s) (0x22 :: (escaped ++ [0x22]))

/-- A literal behind blanks. -/
inductive SettingText (v : Value) : Bytes → Prop where
  | mk {blanks literal : Bytes} (hblanks : Blanks blanks) (h : v.LiteralText literal) :
      SettingText v (blanks ++ literal)

end Value

/-- The settings of an object, in their order, under keys that may be repeated. -/
abbrev Settings := List (String × Value)

/-- Settings as a document. -/
def Settings.document (settings : Settings) : Json.Value :=
  .object (settings.map fun s => (s.1, s.2.document))

/-- An object of settings with blanks around it. -/
inductive SettingsText (settings : Settings) : Bytes → Prop where
  | mk {blanks text blanks' : Bytes} (hblanks : Blanks blanks)
      (h : ObjectText Value.SettingText settings text) (hblanks' : Blanks blanks') :
      SettingsText settings (blanks ++ (text ++ blanks'))

/-! ### What is given -/

/-- What is left of a text behind a document, if that is a setting or an object of settings. -/
structure Given (text : Bytes) (doc : Json.Value) (rest : Bytes) : Prop where
  scalar (v : Value) (h : Value.ofJson? doc = some v) :
    doc = v.document ∧ ∃ t, text = t ++ rest ∧ v.SettingText t
  object (settings : Settings) (h : doc = settings.document) :
    ∃ blanks t, Blanks blanks ∧ text = blanks ++ (t ++ rest) ∧
      ObjectText Value.SettingText settings t

namespace Given

variable {text rest : Bytes} {doc : Json.Value}

/-- The document of a setting is as given by its literal. -/
theorem of_literal {v : Value} {blanks literal : Bytes} (hblanks : Blanks blanks)
    (h : v.LiteralText literal) (hdoc : doc = v.document) (htext : text = blanks ++ (literal ++ rest)) :
    Given text doc rest where
  scalar w hw := by
    rw [hdoc, Value.ofJson?_document] at hw
    obtain rfl := Option.some.inj hw
    exact ⟨hdoc, _, by rw [htext, List.append_assoc], .mk hblanks h⟩
  object settings hsettings := by
    have hnone : Value.ofJson? settings.document = none := rfl
    rw [← hsettings, hdoc, Value.ofJson?_document] at hnone
    cases hnone

/-- Nothing is left to say of a document that is neither. -/
theorem of_other (hscalar : Value.ofJson? doc = none) (hobject : ∀ ms, doc ≠ .object ms) :
    Given text doc rest where
  scalar v hv := by
    rw [hscalar] at hv
    cases hv
  object settings h := absurd h (hobject _)

/-- An object is one of settings only if its members were read from settings. -/
theorem of_object {blanks : Bytes} {ms : List (String × Json.Value)} (hblanks : Blanks blanks)
    (h : ∀ settings : Settings, ms = settings.map (fun s => (s.1, s.2.document)) →
      ∃ t, text = t ++ rest ∧ ObjectText Value.SettingText settings t) :
    Given (blanks ++ text) (.object ms) rest where
  scalar v hv := by cases hv
  object settings hsettings := by
    obtain ⟨t, rfl, ht⟩ := h settings (Json.Value.object.inj hsettings)
    exact ⟨blanks, t, hblanks, rfl, ht⟩

/-- A number that is read is an integer only if it was written as one. -/
theorem of_number {negative : Bool} {blanks : Bytes} {x : Number} (hblanks : Blanks blanks)
    (h : IsFloat x ∨ ∃ written, text = written ++ rest ∧ WrittenAs negative written x) :
    Given (blanks ++ ((if negative then [0x2d] else []) ++ text)) (.number x) rest := by
  rcases h with ⟨_, _, rfl⟩ | ⟨written, rfl, hx⟩
  · exact of_other rfl fun _ => by simp
  cases x with
  | float _ _ => exact of_other rfl fun _ => by simp
  | natural n =>
    obtain ⟨rfl, rfl⟩ := hx
    by_cases hn : (n : Int) < 0x8000000000000000
    · exact of_literal hblanks (.integer ⟨n, by omega, hn⟩) rfl rfl
    · -- from 2 ^ 63 on a number is kept, but no setting
      exact of_other (by unfold Value.ofJson?; exact dif_neg hn) fun _ => by simp
  | negative n =>
    obtain ⟨rfl, hzero, hn, rfl⟩ := hx
    obtain ⟨m, rfl⟩ := Nat.exists_eq_succ_of_ne_zero hzero
    exact of_literal hblanks (.integer ⟨.negSucc m, by omega, by omega⟩) rfl rfl

end Given

/-- A value behind a colon is read from the text of the setting that it is. -/
theorem gives_setting {depth : Nat}
    (h : ∀ text, Gives (Json.Reader.value depth) text (Given text)) (text : Bytes) :
    Gives (Json.Reader.value depth) text fun doc rest =>
      ∀ v : Value, doc = v.document → ∃ t, text = t ++ rest ∧ v.SettingText t :=
  (h text).imp fun _ _ hgiven v hv => (hgiven.scalar v (hv ▸ v.ofJson?_document)).2

/-- **Settings are read only from their literals**, and objects of settings only from their texts. -/
theorem gives_value (depth : Nat) (text : Bytes) :
    Gives (Json.Reader.value depth) text (Given text) := by
  induction depth generalizing text with
  | zero => exact .failAhead _
  | succ depth ih =>
    unfold Json.Reader.value
    refine .bind_peekPastSpace fun blanks rest htext hblanks => ?_
    cases rest with
    | nil => exact .failAhead _
    | cons b rest =>
      rw [htext]
      dsimp only [List.head?_cons]
      -- a case for each byte that a value may start with, in the reader's order
      split
      · exact .bind_skip (.bind_pure fun _ _ _ _ => .of_other rfl fun _ => by simp)
      split
      · rename_i hb
        refine .bind_skip (.bind (gives_word _ _) fun _ rest' hrest => .pure ?_)
        rw [List.tail_cons] at hrest
        exact .of_literal hblanks (.boolean true) rfl (by rw [hb, hrest]; rfl)
      split
      · rename_i hb
        refine .bind_skip (.bind (gives_word _ _) fun _ rest' hrest => .pure ?_)
        rw [List.tail_cons] at hrest
        exact .of_literal hblanks (.boolean false) rfl (by rw [hb, hrest]; rfl)
      split
      · rename_i hb
        refine .bind_skip (.bind_pure ((gives_number true rest).imp fun x rest' hx => ?_))
        have hgiven := Given.of_number hblanks hx
        rwa [if_pos rfl, ← hb] at hgiven
      split
      · refine .bind_pure ((gives_number false (b :: rest)).imp fun x rest' hx => ?_)
        have hgiven := Given.of_number hblanks hx
        rwa [if_neg Bool.false_ne_true] at hgiven
      split
      · rename_i hb
        refine .bind_skip (.bind_pure ((gives_string rest).imp fun s rest' hs => ?_))
        obtain ⟨escaped, rfl, hs⟩ := hs
        exact .of_literal hblanks (.string hs) rfl (by simp [hb])
      split
      · -- a list is neither a setting nor an object of settings
        split
        · exact .failAhead _
        · refine .closing (p := fun doc _ => ∃ items, doc = .list items) ?_ ?_
          · exact .bind_skip (.bind_fuel (.bind_pure fun _ xs _ _ => ⟨xs, rfl⟩))
          · rintro _ rest' ⟨items, rfl⟩ _ _ _ _
            exact .of_other rfl fun _ => by simp
      split
      · rename_i hb
        split
        · exact .failAhead _
        · rw [hb]
          have hobject := gives_object (fun found m => m :: found)
            (fun found => Json.Value.object found.reverse) (gives_setting ih) [] rest
          refine hobject.imp ?_
          rintro _ rest' ⟨ms, rfl, hms⟩
          exact .of_object hblanks (by simpa using hms)
      · exact .failAhead _

theorem Value.gives_reader (depth : Nat) (text : Bytes) : Gives (Value.reader depth) text fun v rest =>
    ∃ t, text = t ++ rest ∧ v.SettingText t := by
  unfold Value.reader
  refine .bind (.located (gives_value depth text)) fun doc rest hgiven => ?_
  split
  · rename_i v hv
    exact .pure (hgiven.scalar v hv).2
  · exact .mismatch _

/-- **A configuration is read only from a text of settings**, of which the last one counts under each
key. -/
theorem Properties.gives_reader (depth : Nat) (text : Bytes) :
    Gives (Properties.reader depth) text fun p rest =>
      ∃ settings blanks t, p = Table.ofList settings ∧ Blanks blanks ∧ text = blanks ++ (t ++ rest) ∧
        ObjectText Value.SettingText settings t := by
  unfold Properties.reader
  refine .located (.bind_peekPastSpace fun blanks rest htext hblanks => ?_)
  cases rest with
  | nil => exact .failAhead _
  | cons b rest =>
    dsimp only [List.head?_cons]
    split
    · exact .failAhead _
    · rename_i hb
      obtain rfl := Option.some.inj hb
      rcases depth with - | - | depth
      · exact .failAhead _
      · exact .failAhead _
      -- values are read as settings at once, not as documents that may be some
      have hvalue : ∀ text, Gives (Value.reader (depth + 1)) text fun v rest =>
          ∀ w, v = id w → ∃ t, text = t ++ rest ∧ w.SettingText t := by
        intro text
        refine (Value.gives_reader (depth + 1) text).imp ?_
        rintro _ _ h w rfl
        exact h
      have hobject := gives_object (fun (found : Properties) m => found.insert m.1 m.2) id hvalue
        Table.empty rest
      simp only [id, bind_pure] at hobject
      refine hobject.imp ?_
      rintro _ rest' ⟨ms, rfl, hms⟩
      obtain ⟨t, ht, hobject⟩ := hms ms (by simp)
      exact ⟨ms, blanks, t, rfl, hblanks, by rw [htext, ht], hobject⟩
    · unfold wrongType
      refine .bind_peek ?_
      split
      · exact .mismatch _
      · exact .mismatch _
      · exact .bind_mismatch

/-! ### What is read -/

theorem Value.LiteralText.reads_value {v : Value} {literal : Bytes} (h : v.LiteralText literal)
    (depth : Nat) {rest : Bytes} (hrest : stops rest = true) :
    Reads (Json.Reader.value (depth + 1)) literal v.document rest := by
  cases h with
  | boolean b => exact (readsBack_document (.boolean b) depth).reads rest hrest
  | integer n => exact (readsBack_document (.integer n) depth).reads rest hrest
  | string h =>
    exact .peekByte rfl (by decide) (.bind_skip (.bind_pure (h.reads_string rest)))

theorem Value.SettingText.reads_value {v : Value} {text : Bytes} (h : v.SettingText text) (depth : Nat)
    {rest : Bytes} (hrest : stops rest = true) :
    Reads (Json.Reader.value (depth + 1)) text v.document rest := by
  obtain ⟨hblanks, h⟩ := h
  exact reads_value_spaces hblanks (h.reads_value depth hrest)

theorem Value.SettingText.reads_reader {v : Value} {text : Bytes} (h : v.SettingText text) (depth : Nat)
    {rest : Bytes} (hrest : stops rest = true) : Reads (Value.reader (depth + 1)) text v rest := by
  refine .bind_last (.located (h.reads_value depth hrest)) ?_
  rw [Value.ofJson?_document]
  exact .pure v rest

namespace SettingsText

variable {settings : Settings} {content : Bytes}

/-- The document of a text of settings is made of all of them. -/
theorem parse_eq (h : SettingsText settings content) : Json.parse content = .ok settings.document := by
  obtain ⟨hblanks, hobject, hblanks'⟩ := h
  rename_i blanks text blanks'
  have hread := hobject.reads_object (fun found m => m :: found)
    (fun found => Json.Value.object found.reverse) (fun h _ hrest => h.reads_value 126 hrest) [] blanks'
  rw [← List.append_assoc]
  refine readAll_eq_of_reads_spaces hblanks' (.spaces hblanks ?_)
  obtain ⟨hobject⟩ := hobject
  refine .peekByte rfl (by decide) ?_
  -- the reader collects the members from the last one to the first
  have hdocument : Json.Value.object ((settings.map fun x => (x.1, x.2.document)).foldl
      (fun found m => m :: found) []).reverse = settings.document := by simp [Settings.document]
  rw [hdocument] at hread
  simp +decide only [if_false, if_true]
  exact hread

/-- A text of settings is read as a configuration. -/
theorem parse_properties (h : SettingsText settings content) :
    Properties.parse content = .ok (Table.ofList settings) := by
  obtain ⟨hblanks, hobject, hblanks'⟩ := h
  rename_i blanks text blanks'
  have hread := hobject.reads_object (fun (found : Properties) m => found.insert m.1 m.2) id
    (fun h _ hrest => h.reads_reader 126 hrest) Table.empty blanks'
  rw [← List.append_assoc]
  refine readAll_eq_of_reads_spaces hblanks' (.located (.spaces hblanks ?_))
  obtain ⟨hobject⟩ := hobject
  refine .peekByte rfl (by decide) ?_
  simp only [id, bind_pure, List.map_id'] at hread
  exact hread

end SettingsText

/-- **Texts of settings** are those of the documents that are objects of settings. -/
theorem parse_eq_document_iff {settings : Settings} {content : Bytes} :
    Json.parse content = .ok settings.document ↔ SettingsText settings content := by
  refine ⟨fun h => ?_, SettingsText.parse_eq⟩
  obtain ⟨blanks', hgiven, hblanks'⟩ := readAll_eq_ok (gives_value depthLimit content) h
  obtain ⟨blanks, t, hblanks, rfl, ht⟩ := hgiven.object settings rfl
  exact .mk hblanks ht hblanks'

/-- **Configurations are read from texts of settings**, and from nothing else. -/
theorem Properties.parse_eq_ok_iff {p : Properties} {content : Bytes} :
    Properties.parse content = .ok p ↔
      ∃ settings : Settings, SettingsText settings content ∧ p = Table.ofList settings := by
  constructor
  · intro h
    obtain ⟨blanks', ⟨settings, blanks, t, hp, hblanks, rfl, ht⟩, hblanks'⟩ :=
      readAll_eq_ok (Properties.gives_reader depthLimit content) h
    exact ⟨settings, .mk hblanks ht hblanks', hp⟩
  · rintro ⟨settings, h, rfl⟩
    exact h.parse_properties

/-- A value that is shadowed by a later one has to be a setting all the same. -/
example : (Properties.parse (Bytes.ofString "\x7b\"limit\":-0,\"limit\":15\x7d")).toOption = none := by
  rfl

/-! ### Files -/

/-- Of several settings under one key, the last one counts. -/
theorem Settings.find?_ofList (settings : Settings) (key : String) :
    (Table.ofList settings).find? key = settings.reverse.lookup key := by
  rw [Table.lookup_eq, Table.ofList]
  induction settings using List.reverseRecOn with
  | nil => rfl
  | append_singleton settings s ih =>
    rw [List.foldl_append, List.reverse_append, List.foldl_cons, List.foldl_nil, Table.find?_insert, ih]
    rfl

section

variable {W : Type} {fs : Files.FileSystem W} {path : Files.Path} {w : W} {content : Bytes}

theorem loadFile_eq (h : fs.read path w = .ok content) {p : Properties} :
    loadFile fs path w = .ok p ↔ Bytes.IsText content ∧ Properties.parse content = .ok p := by
  simp only [loadFile, h, mapError_ok, bind, Except.bind]
  rcases htext : Bytes.toString? content with - | s
  · have hnot : ¬ Bytes.IsText content := fun h => h.toString?_ne_none htext
    simp [hnot, throw, throwThe, MonadExceptOf.throw]
  · have hcontent : Bytes.IsText content := ⟨s, (Bytes.eq_ofString_of_toString? htext).symm⟩
    rcases Properties.parse content with e | q
    · simp [hcontent, Except.mapError]
    · simp [hcontent, Except.mapError]

theorem kind_of_loadFile {e : Error} (h : loadFile fs path w = .error e) :
    e.kind = .invalidConfiguration := by
  have hkind : ∀ {α β : Type} {x : Except α β} {text : α → String},
      x.mapError (fun a => .invalidConfiguration (text a)) = .error e →
        e.kind = .invalidConfiguration := by
    intro α β x text h
    cases x with
    | error a => rw [← Except.error.inj h]; rfl
    | ok b => cases h
  rcases bind_eq_error_iff.1 h with h | ⟨content, -, h⟩
  · exact hkind h
  split at h
  · rw [← Except.error.inj h]
    rfl
  · exact hkind h

/-- **Exactly the files of settings are loaded.**  A file is loaded if and only if it is a text and the
document in it is an object of settings, all members counted; what is loaded then has the last setting
under each key.  The settings can be told from the text: they are the literals that stand in it, each of
its own kind.  All other files are refused as invalid configurations. -/
theorem loadFile_exact (h : fs.read path w = .ok content) :
    (∀ p, loadFile fs path w = .ok p ↔ Bytes.IsText content ∧ ∃ settings : Settings,
      Json.parse content = .ok settings.document ∧
        ∀ key, p.find? key = settings.reverse.lookup key) ∧
    (∀ settings : Settings, Json.parse content = .ok settings.document ↔
      SettingsText settings content) ∧
    ∀ e, loadFile fs path w = .error e → e.kind = .invalidConfiguration := by
  refine ⟨fun p => ?_, fun settings => parse_eq_document_iff, fun e => kind_of_loadFile⟩
  rw [loadFile_eq h, Properties.parse_eq_ok_iff]
  refine and_congr_right fun _ => exists_congr fun settings => ?_
  rw [parse_eq_document_iff]
  -- a table is what it finds
  refine and_congr_right fun _ => ⟨?_, fun hfind => ?_⟩
  · rintro rfl key
    exact settings.find?_ofList key
  · exact Table.ext_find? fun key => by rw [hfind, settings.find?_ofList]

/-- Blanks, escapes, the least integer and a key that is spelled in two ways. -/
def spaced : Bytes :=
  Bytes.ofString
    ("\n\x7b \"limit\" :15, \"on\":true,\"name\" : \"\\uD83D\\ude00\\n\" ,"
      ++ "\"li\\u006dit\":-9223372036854775808\x7d\t")

theorem loadFile_exact_spaced :
    let fs := Files.Disk.fileSystem
    let w := (fs.write ⟨"keyring.json"⟩ spaced .fresh).2
    let least : Value := .integer ⟨-0x8000000000000000, by decide⟩
    let settings : Settings :=
      [("limit", .integer ⟨15, by decide⟩), ("on", .boolean true), ("name", .string "😀\n"),
        ("limit", least)]
    fs.read ⟨"keyring.json"⟩ w = .ok spaced ∧ SettingsText settings spaced ∧
      ∃ p, loadFile fs ⟨"keyring.json"⟩ w = .ok p ∧ p.find? "limit" = some least := by
  intro fs w least settings
  have hread : fs.read ⟨"keyring.json"⟩ w = .ok spaced := by rfl
  have hparse : Json.parse spaced = .ok settings.document := by rfl
  obtain ⟨hload, htext, -⟩ := loadFile_exact hread
  exact ⟨hread, (htext settings).1 hparse, Table.ofList settings,
    (hload _).2 ⟨⟨_, rfl⟩, settings, hparse, settings.find?_ofList⟩, by decide⟩

end

end Keyring.Config

import Keyring.Config.Store
import Keyring.Proofs.Files.Laws
import Keyring.Proofs.Json.Texts

/-!
# Configuration files read back

* `Value.reads_written` : a value is read back as one of its own kind, although the file does not say
  which kind that is;
* `Properties.parse_toPrettyJson` : so are all the properties of a configuration, under their keys;
* `loadFile_saveFile` : a configuration that was saved in a file is loaded from it.

That the kinds are told apart by the text alone is `Value.ofJson?_document`: the three of them are
written as different kinds of documents.
-/

namespace Keyring.Config

open Json Reader

namespace Value

/-- A value as a document. -/
def document : Value → Json.Value
  | .boolean b => .bool b
  | .integer ⟨.ofNat n, _⟩ => .number (.natural n)
  | .integer ⟨.negSucc n, _⟩ => .number (.negative (n + 1))
  | .string s => .string s

/-- The kind of a value is that of its document. -/
theorem ofJson?_document (v : Value) : ofJson? v.document = some v := by
  cases v with
  | boolean b => rfl
  | string s => rfl
  | integer n =>
    obtain ⟨n, hlow, hhigh⟩ := n
    cases n with
    | ofNat n =>
      have hn : (n : Int) < 0x8000000000000000 := hhigh
      unfold ofJson?
      exact dif_pos hn
    | negSucc n =>
      have hn : -0x8000000000000000 ≤ -((n + 1 : Nat) : Int) := by omega
      unfold ofJson?
      exact dif_pos hn

/-- A value is written as its document is. -/
theorem readsBack_document (v : Value) (depth : Nat) :
    ReadsBack (Json.Reader.value (depth + 1)) v.toJson v.document := by
  cases v with
  | boolean b => exact readsBack_value_bool depth b
  | string s => exact readsBack_value_string depth s
  | integer n =>
    obtain ⟨n, hlow, hhigh⟩ := n
    cases n with
    | ofNat n =>
      have hn : (n : Int) < 0x8000000000000000 := hhigh
      refine readsBack_value_natural depth ?_
      simp only [UInt64.size]
      omega
    | negSucc n =>
      have hn : n + 1 ≤ 0x8000000000000000 := by omega
      exact readsBack_value_negative depth (Nat.succ_ne_zero n) hn

/-- A value is read back behind the blank that a colon has after it. -/
theorem reads_written (v : Value) (depth : Nat) {rest : Bytes} (hrest : stops rest = true) :
    Reads (reader (depth + 1)) (0x20 :: v.toJson) v rest := by
  have hblank : ∀ b ∈ [(0x20 : UInt8)], isSpace b = true := List.forall_mem_singleton.2 rfl
  have hread := reads_value_spaces hblank ((v.readsBack_document depth).reads rest hrest)
  refine .bind_last (.located hread) ?_
  rw [ofJson?_document]
  exact .pure v rest

theorem isText_toJson (v : Value) : Bytes.IsText v.toJson := by
  cases v with
  | boolean b =>
    have hascii : (toJson (.boolean b)).all (· < 0x80) = true := by cases b <;> rfl
    exact Bytes.isText_of_ascii (by simpa using hascii)
  | integer n => exact Writer.isText_integer n.val
  | string s => exact Writer.isText_string s

end Value

namespace Properties

/-- The properties as they are read, one after the other, make the configuration. -/
theorem membersRead_properties (p : Properties) (depth : Nat) :
    MembersRead
      (fun (found : Properties) key => do
        Json.Reader.colon
        return found.insert key (← Value.reader (depth + 1)))
      Table.empty (p.toList.map fun x => (x.1, 0x20 :: x.2.toJson)) p := by
  have hread := @MembersRead.foldl Properties (String × Value)
    (fun found key => do Json.Reader.colon; return found.insert key (← Value.reader (depth + 1)))
    (fun x => (x.1, 0x20 :: x.2.toJson)) (fun found x => found.insert x.1 x.2) p.toList Table.empty
    fun _ x _ rest hrest => .bind (reads_colon _) (.bind_pure (x.2.reads_written depth hrest))
  have hlist := p.ofList_toList
  rw [Table.ofList] at hlist
  rwa [hlist] at hread

/-- The properties are written with a blank in front of each value, and with each key on a line of its
own. -/
theorem toPrettyJson_eq (p : Properties) :
    ∃ ending, (∀ b ∈ ending, isSpace b = true) ∧
      p.toPrettyJson = 0x7b :: (Writer.separated [0x2c]
        ((p.toList.map fun x => (x.1, 0x20 :: x.2.toJson)).map fun m =>
          Writer.margin ++ Writer.memberText m) ++ ending) ++ [0x7d] := by
  obtain ⟨ending, hending, htext⟩ :=
    Writer.prettyObject_eq (p.toList.map fun x => (x.1, x.2.toJson))
  refine ⟨ending, hending, ?_⟩
  rw [toPrettyJson, htext, List.map_map, List.map_map]
  rfl

theorem reads_written (p : Properties) (rest : Bytes) :
    Reads (reader depthLimit) p.toPrettyJson p rest := by
  obtain ⟨ending, hending, htext⟩ := p.toPrettyJson_eq
  have hmargin : ∀ b ∈ Writer.margin, isSpace b = true := List.all_eq_true.1 rfl
  rw [htext]
  refine .located (.peekByte rfl (by decide) (reads_nested ?_ (reads_endObject rest)))
  -- the object takes one of the 128 levels, and a value one of those that are left
  exact .spacedMembers hmargin hending (membersRead_properties p 126)

/-- Reading what was written. -/
theorem parse_toPrettyJson (p : Properties) : parse p.toPrettyJson = .ok p :=
  readAll_eq_of_reads (reads_written p [])

theorem isText_toPrettyJson (p : Properties) : Bytes.IsText p.toPrettyJson := by
  refine Writer.isText_prettyObject fun m hm => ?_
  obtain ⟨x, -, rfl⟩ := List.mem_map.1 hm
  exact x.2.isText_toJson

end Properties

/-! ### Files -/

section

variable {W : Type} {fs : Files.FileSystem W} {disk : W → Files.Disk}

/-- Saving a configuration is writing it, and a note that this was done. -/
theorem saveFile_apply (fs : Files.FileSystem W) (path : Files.Path) (serviceId : Option String)
    (p : Properties) (s : Session W) :
    saveFile fs path serviceId p s =
      match fs.write path p.toPrettyJson s.world with
      | (.ok (), w) =>
        (.ok (), { s with
          world := w
          journal := s.journal ++ [⟨.debug, "configuration updated",
            [("path", path.text), ("service", serviceId.getD anonymous)]⟩] })
      | (.error fault, w) =>
        (.error (.configurationStore ("Failed to write " ++ path.text ++ ": " ++ fault.text)),
          { s with world := w }) := by
  rw [saveFile, Act.bind_apply, Act.onWorld_apply]
  rcases fs.write path p.toPrettyJson s.world with ⟨_ | _, w⟩ <;> rfl

/-- A file that holds a written configuration is loaded as it. -/
theorem loadFile_of_read {path : Files.Path} {w : W} {p : Properties}
    (h : fs.read path w = .ok p.toPrettyJson) : loadFile fs path w = .ok p := by
  have htext : ¬ (Bytes.toString? p.toPrettyJson).isNone = true := by
    rw [Option.isNone_iff_eq_none]
    exact p.isText_toPrettyJson.toString?_ne_none
  simp only [loadFile, h, mapError_ok, bind, Except.bind, htext, p.parse_toPrettyJson]
  rfl

/-- **Configuration files are read back.**  If saving a configuration succeeds, then loading the file
succeeds and gives that configuration, whatever its keys and values are and whatever was in the file
before: no value is taken for one of another kind, however it spells. -/
theorem loadFile_saveFile (hfs : fs.Follows disk) (path : Files.Path) (serviceId : Option String)
    (p : Properties) (s : Session W) (h : (saveFile fs path serviceId p s).1 = .ok ()) :
    loadFile fs path (saveFile fs path serviceId p s).2.world = .ok p := by
  have hwrite := hfs.write_ok path p.toPrettyJson s.world
  rw [saveFile_apply] at h ⊢
  rcases hw : fs.write path p.toPrettyJson s.world with ⟨fault | _, w⟩
  · rw [hw] at h
    cases h
  · -- the note that is taken leaves the world as the write left it
    rw [hw] at hwrite
    apply loadFile_of_read
    rw [hfs.read]
    exact Files.Disk.read_of_write (hwrite rfl)

/-- Strings that spell other kinds, the least integer, an empty string and a key with a quote, a line
end and a letter outside ASCII. -/
def spelling : Properties :=
  Table.ofList [("truth", .string "true"), ("number", .string "12"),
    ("least", .integer ⟨-0x8000000000000000, by decide⟩), ("switch", .boolean true), ("none", .string ""),
    ("\"schlüssel\"\n", .integer ⟨12, by decide⟩)]

theorem loadFile_saveFile_spelling :
    let s : Session Files.Disk := ⟨.fresh, ⟨fun _ => 0, 0⟩, 0, []⟩
    let saved := saveFile Files.Disk.fileSystem ⟨"keyring.json"⟩ none spelling s
    saved.1 = .ok () ∧
      loadFile Files.Disk.fileSystem ⟨"keyring.json"⟩ saved.2.world = .ok spelling := by
  intro s saved
  have hsaved : saved.1 = .ok () := by
    rw [show saved = _ from saveFile_apply _ _ _ _ _]
    rfl
  exact ⟨hsaved, loadFile_saveFile Files.Disk.follows_fileSystem _ none spelling s hsaved⟩

end

end Keyring.Config

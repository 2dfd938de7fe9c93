import Keyring.Pem
import Keyring.Proofs.Text.Base64

/-!
# Blocks in any layout

A block may be written in many ways: its lines end in either byte or in both, and its content is broken
into lines anywhere.  Other lines may stand in front of blocks and among them.

* `Spells` : the texts that are a block, with any label;
* `Lists` : a text consists of such blocks and of other lines, up to some place;
* `Reading.ofLines_spelled` : reading a block gives it, in front of what is read behind it, or passes
  over it if nobody knows its label;
* `Reading.ofLines_of_lists` : hence reading a text gives the blocks that it lists, and then what is
  read from that place on.

A line is read with what ends it (`Reading.lines_behind`), and whole lines are read apart from what stands
behind them (`Reading.lines_append`).  So a block is three parts: the line before its content, the lines
of that, of which none starts like a mark since no character of a content is a dash, and the line behind
it (`Reading.lines_spelled`).
-/

namespace Keyring.Pem

open Text

/-- A byte that ends a line. -/
def EndsLine (b : UInt8) : Prop := b = 0x0a ∨ b = 0x0d

instance : DecidablePred EndsLine := fun b => inferInstanceAs (Decidable (b = 0x0a ∨ b = 0x0d))

/-- Bytes of which none ends a line. -/
def OneLine (bs : Bytes) : Prop := ∀ b ∈ bs, b ≠ 0x0a ∧ b ≠ 0x0d

instance : DecidablePred OneLine := fun bs =>
  inferInstanceAs (Decidable (∀ b ∈ bs, b ≠ 0x0a ∧ b ≠ 0x0d))

/-- What ends a line, with all that stands behind it: a byte, or the end of the text. -/
inductive Behind : Bytes → Bytes → Prop
  | lineEnd {b : UInt8} {after : Bytes} (hb : EndsLine b) : Behind (b :: after) after
  | textEnd : Behind [] []

/-- A label stands on one line, and its last character is told apart from the dashes behind it. -/
structure IsLabel (label : Bytes) : Prop where
  oneLine : OneLine label
  last : ∀ b ∈ label.getLast?, b ≠ 0x2d ∧ b ≠ 0x20

theorem isLabel (l : Label) : IsLabel l.bytes := by
  cases l <;> exact ⟨by decide +kernel, by decide +kernel⟩

/-- What stands between the lines with the marks, from the end of the first one: the characters of a
content, with blanks and line ends anywhere among them. -/
structure Body (content body : Bytes) : Prop where
  head : ∃ b ∈ body.head?, EndsLine b
  last : ∃ b ∈ body.getLast?, EndsLine b
  characters : body.filter (fun b => !Base64.isBlank b) = Base64.encode content

/-- A text is a block, up to the end of its last line.  Spaces may stand behind the first mark, and
anything behind the last one. -/
inductive Spells : Block → Bytes → Prop
  | mk {label content spaces body last : Bytes} (hlabel : IsLabel label)
    (hspaces : ∀ b ∈ spaces, b = 0x20) (hbody : Body content body) (hlast : OneLine last) :
    Spells ⟨label, content⟩
      (beginMark ++ label ++ dashes ++ spaces ++ body ++ (endMark ++ label ++ dashes ++ last))

/-- A text consists of blocks, and of lines in front of them and among them that start no block, up to
a line where `rest` starts. -/
inductive Lists (rest : Bytes) : Bytes → List Block → Prop
  | nil : Lists rest rest []
  | line {line tail after : Bytes} {blocks : List Block} (hline : OneLine line)
    (hmark : ¬ beginMark <+: line) (htail : Behind tail after) (h : Lists rest after blocks) :
    Lists rest (line ++ tail) blocks
  | block {b : Block} {text tail after : Bytes} {blocks : List Block} (hb : Spells b text)
    (htail : Behind tail after) (h : Lists rest after blocks) : Lists rest (text ++ tail) (b :: blocks)

/-- Blocks with other labels are passed over. -/
def Block.isKnown (b : Block) : Bool := Label.all.any (·.bytes == b.label)

theorem Block.isKnown_of_label {b : Block} {l : Label} (h : b.label = l.bytes) : b.isKnown = true := by
  rw [isKnown, h]
  cases l <;> decide +kernel

namespace Reading

/-! ### Lines -/

/-- A line up to the first byte that ends one. -/
theorem lines_end {line : Bytes} (h : OneLine line) {e : UInt8} (he : EndsLine e) (rest : Bytes) :
    lines (line ++ e :: rest) = (line ++ [e]) :: lines rest := by
  have hends : e = 0x0a ∨ e = 0x0d := he
  induction line with
  | nil => simp [lines, hends]
  | cons b line ih =>
    obtain ⟨⟨hlf, hcr⟩, hline⟩ := List.forall_mem_cons.1 h
    simp [lines, hlf, hcr, ih hline]

/-- A byte that ends no line goes in front of the next one. -/
theorem lines_cons {b : UInt8} (h : ¬ EndsLine b) {rest line : Bytes} {more : List Bytes}
    (hrest : lines rest = line :: more) : lines (b :: rest) = (b :: line) :: more := by
  have hb : ¬ (b = 0x0a ∨ b = 0x0d) := h
  rw [lines, if_neg hb, hrest]

theorem lines_ne_nil {bs : Bytes} (h : bs ≠ []) : lines bs ≠ [] := by
  cases bs with
  | nil => exact absurd rfl h
  | cons b bs =>
    rw [lines]
    split
    · exact List.cons_ne_nil _ _
    · split <;> exact List.cons_ne_nil _ _

theorem flatten_lines (bs : Bytes) : (lines bs).flatten = bs := by
  induction bs with
  | nil => rfl
  | cons b bs ih =>
    rw [lines]
    split
    · rw [List.flatten_cons, ih]
      rfl
    · split
      · rename_i hnil
        rw [← ih, hnil]
        rfl
      · rename_i line more hcons
        rw [← ih, hcons]
        rfl

/-- Whole lines in front of others. -/
theorem lines_append {bs : Bytes} (h : ∀ b ∈ bs.getLast?, EndsLine b) (rest : Bytes) :
    lines (bs ++ rest) = lines bs ++ lines rest := by
  induction bs with
  | nil => rfl
  | cons b bs ih =>
    have hbs : ∀ b' ∈ bs.getLast?, EndsLine b' := by
      intro b' hb'
      refine h b' ?_
      rw [Option.mem_def] at hb' ⊢
      rw [List.getLast?_cons, hb', Option.getD_some]
    by_cases hb : EndsLine b
    · have hline : ∀ more, lines (b :: more) = [b] :: lines more :=
        lines_end (List.forall_mem_nil _) hb
      rw [List.cons_append, hline, hline, ih hbs, List.cons_append]
    · -- a byte that ends no line is not the last one
      have hne : bs ≠ [] := by
        rintro rfl
        exact hb (h b rfl)
      obtain ⟨line, more, hlines⟩ := List.exists_cons_of_ne_nil (lines_ne_nil hne)
      have happend : lines (bs ++ rest) = line :: (more ++ lines rest) := by
        rw [ih hbs, hlines, List.cons_append]
      rw [List.cons_append, lines_cons hb happend, lines_cons hb hlines, List.cons_append]

theorem lines_of_oneLine {line : Bytes} (h : OneLine line) (hne : line ≠ []) :
    lines line = [line] := by
  induction line with
  | nil => exact absurd rfl hne
  | cons b line ih =>
    obtain ⟨⟨hlf, hcr⟩, hline⟩ := List.forall_mem_cons.1 h
    have hb : ¬ EndsLine b := fun hb => hb.elim hlf hcr
    cases line with
    | nil => simp [lines, hlf, hcr]
    | cons b' line => exact lines_cons hb (ih hline (List.cons_ne_nil _ _))

/-- A line with what ends it. -/
theorem lines_behind {line tail after : Bytes} (h : OneLine line) (hne : line ≠ [])
    (htail : Behind tail after) :
    ∃ ending, (∀ b ∈ ending, EndsLine b) ∧ lines (line ++ tail) = (line ++ ending) :: lines after := by
  cases htail with
  | @lineEnd e _ he => exact ⟨[e], by simpa using he, lines_end h he after⟩
  | textEnd => exact ⟨[], List.forall_mem_nil _, by simpa [lines] using lines_of_oneLine h hne⟩

/-! ### Marks -/

theorem oneLine_marks : OneLine beginMark ∧ OneLine endMark ∧ OneLine dashes := by
  decide +kernel

/-- What ends a line is no part of a mark. -/
theorem not_beginMark_prefix {line ending : Bytes} (h : ¬ beginMark <+: line)
    (hending : ∀ b ∈ ending, EndsLine b) : ¬ beginMark <+: line ++ ending := by
  intro hstarts
  rcases List.prefix_or_prefix_of_prefix hstarts (List.prefix_append line ending) with hline | hline
  · exact h hline
  · obtain ⟨more, hmore⟩ := hline
    cases more with
    | nil =>
      rw [List.append_nil] at hmore
      exact h (hmore ▸ List.prefix_refl line)
    | cons b more =>
      rw [← hmore, List.prefix_append_right_inj] at hstarts
      obtain ⟨hlf, hcr⟩ := oneLine_marks.1 b (by simp [← hmore])
      exact (hending b (hstarts.mem List.mem_cons_self)).elim hlf hcr

/-- The line behind a content does not start like the one before it. -/
theorem not_beginMark_prefix_endMark (line : Bytes) : ¬ beginMark <+: endMark ++ line := by
  have hmarks : ¬ beginMark <+: endMark ∧ ¬ endMark <+: beginMark := by decide +kernel
  intro h
  exact (List.prefix_or_prefix_of_prefix h (List.prefix_append endMark line)).elim hmarks.1 hmarks.2

/-- Both marks start with a dash, so a line that does not is none of them. -/
theorem not_isPrefixOf_of_head {line : Bytes} (h : line.head? ≠ some 0x2d) (label : Bytes) :
    beginMark.isPrefixOf line = false ∧ (endMark ++ label ++ dashes).isPrefixOf line = false := by
  obtain ⟨begins, hbegin⟩ : ∃ begins, beginMark = 0x2d :: begins :=
    ⟨beginMark.tail, by decide +kernel⟩
  obtain ⟨ends, hend⟩ : ∃ ends, endMark = 0x2d :: ends := ⟨endMark.tail, by decide +kernel⟩
  rw [hbegin, hend]
  cases line with
  | nil => exact ⟨rfl, rfl⟩
  | cons b line =>
    have hne : b ≠ 0x2d := fun hb => h (congrArg some hb)
    have hb : (0x2d == b) = false := beq_false_of_ne hne.symm
    simp only [List.cons_append, List.isPrefixOf, hb, Bool.false_and, and_self]

/-- What may stand behind the label on its line. -/
def isTail (b : UInt8) : Bool := b == 0x2d || b == 0x20 || b == 0x0a || b == 0x0d

/-- A line whose last dashes are five says what stands in front of these, if no blanks and dashes are
the end of that. -/
theorem label?_append {front tail : Bytes} (hfront : ∀ b ∈ front.reverse.takeWhile isTail, b ≠ 0x2d)
    (htail : ∀ b ∈ tail, isTail b = true) (hhead : tail.head? = some 0x2d)
    (hcount : tail.count 0x2d = 5) :
    label? (front ++ tail) = some (front.drop beginMark.length) := by
  have htaken : (front ++ tail).reverse.takeWhile isTail =
      tail.reverse ++ front.reverse.takeWhile isTail := by
    rw [List.reverse_append, List.takeWhile_append_of_pos fun b hb => htail b (List.mem_reverse.1 hb)]
  generalize front.reverse.takeWhile isTail = gap at hfront htaken
  have hdashes : (tail.reverse ++ gap).count 0x2d = 5 := by
    rw [List.count_append, List.count_reverse, hcount,
      List.count_eq_zero_of_not_mem fun hmem => hfront _ hmem rfl]
  have hdrop : (tail.reverse ++ gap).reverse.dropWhile (· != 0x2d) = tail := by
    obtain ⟨more, rfl⟩ : ∃ more, tail = 0x2d :: more := List.head?_eq_some_iff.1 hhead
    rw [List.reverse_append, List.reverse_reverse, List.dropWhile_append_of_pos fun b hb =>
      bne_iff_ne.2 (hfront b (List.mem_reverse.1 hb))]
    rfl
  unfold isTail at htaken
  rw [label?, htaken, if_pos hdashes, hdrop]
  dsimp only
  rw [List.length_append, Nat.add_sub_cancel, List.take_left]

/-- The line before a content says its label. -/
theorem label?_eq {label spaces : Bytes} (hlabel : IsLabel label) (hspaces : ∀ b ∈ spaces, b = 0x20)
    {e : UInt8} (he : EndsLine e) :
    label? (beginMark ++ label ++ (dashes ++ spaces ++ [e])) = some label := by
  have hdashes : (∀ b ∈ dashes, isTail b = true) ∧ dashes.count 0x2d = 5 := by decide +kernel
  have hspace : isTail 0x20 = true ∧ (0x20 : UInt8) ≠ 0x2d := by decide
  have hend : isTail e = true ∧ e ≠ 0x2d := by
    rcases he with rfl | rfl <;> decide
  rw [label?_append, List.drop_left]
  · -- in front of the dashes stands the end of the label, or the blank behind the mark
    rcases List.eq_nil_or_concat label with rfl | ⟨init, b, rfl⟩
    · decide +kernel
    · obtain ⟨hlf, hcr⟩ := hlabel.oneLine b (by simp)
      obtain ⟨hdash, hblank⟩ := hlabel.last b (by simp)
      simp [isTail, hlf, hcr, hdash, hblank]
  · intro b hb
    rcases List.mem_append.1 hb with hb | hb
    · rcases List.mem_append.1 hb with hb | hb
      · exact hdashes.1 b hb
      · exact hspaces b hb ▸ hspace.1
    · exact List.mem_singleton.1 hb ▸ hend.1
  · rfl
  · have hnone : spaces.count 0x2d = 0 := List.count_eq_zero_of_not_mem fun hmem =>
      hspace.2 (hspaces _ hmem).symm
    rw [List.count_append, List.count_append, hdashes.2, hnone,
      List.count_eq_zero_of_not_mem fun hmem => hend.2 (List.mem_singleton.1 hmem).symm]

/-! ### Blocks -/

/-- Lines that start with no dash are gathered. -/
theorem ofLines_append {lines : List Bytes} (h : ∀ line ∈ lines, line.head? ≠ some 0x2d)
    (label gathered : Bytes) (rest : List Bytes) :
    ofLines (some label) gathered (lines ++ rest) =
      ofLines (some label) (gathered ++ lines.flatten) rest := by
  induction lines generalizing gathered with
  | nil => simp
  | cons line lines ih =>
    obtain ⟨hline, hlines⟩ := List.forall_mem_cons.1 h
    obtain ⟨hbegin, hend⟩ := not_isPrefixOf_of_head hline label
    rw [List.cons_append, ofLines, hbegin]
    simp only [Bool.false_eq_true, if_false, hend, ih hlines]
    simp

/-- Outside of a content a line is passed over that does not start like the one before a content. -/
theorem ofLines_other {line : Bytes} (h : ¬ beginMark <+: line) (gathered : Bytes)
    (rest : List Bytes) : ofLines none gathered (line :: rest) = ofLines none gathered rest := by
  have hbegin : beginMark.isPrefixOf line = false :=
    Bool.eq_false_iff.2 fun hstarts => h (List.isPrefixOf_iff_prefix.1 hstarts)
  rw [ofLines, hbegin]
  rfl

/-- Between the marks there is no dash. -/
theorem ne_dash_of_body {content body : Bytes} (h : Body content body) {b : UInt8} (hb : b ∈ body) :
    b ≠ 0x2d := by
  cases hblank : Base64.isBlank b with
  | true =>
    rintro rfl
    exact absurd hblank (by decide)
  | false =>
    have hmem : b ∈ body.filter fun b => !Base64.isBlank b :=
      List.mem_filter.2 ⟨hb, by rw [hblank]; rfl⟩
    rw [h.characters] at hmem
    exact (Base64.mem_encode hmem).2.1

/-- The lines of a block in front of others: the one before its content, those of the content, and the
one behind it. -/
theorem lines_spelled {label content spaces body last tail after : Bytes} (hlabel : IsLabel label)
    (hspaces : ∀ b ∈ spaces, b = 0x20) (hbody : Body content body) (hlast : OneLine last)
    (htail : Behind tail after) :
    ∃ e inner ending, EndsLine e ∧ (∀ b ∈ inner, b ≠ 0x2d) ∧ Base64.decode inner = .ok content ∧
      lines (beginMark ++ label ++ dashes ++ spaces ++ body ++
          (endMark ++ label ++ dashes ++ last) ++ tail) =
        (beginMark ++ label ++ (dashes ++ spaces ++ [e])) ::
          (lines inner ++ (endMark ++ label ++ dashes ++ (last ++ ending)) :: lines after) := by
  obtain ⟨e, hhead, he⟩ := hbody.head
  obtain ⟨inner, rfl⟩ : ∃ inner, body = e :: inner := List.head?_eq_some_iff.1 hhead
  obtain ⟨hbegin, hend, hdashes⟩ := oneLine_marks
  have hfirst : OneLine (beginMark ++ label ++ dashes ++ spaces) := by
    refine List.forall_mem_append.2 ⟨List.forall_mem_append.2 ⟨List.forall_mem_append.2
      ⟨hbegin, hlabel.oneLine⟩, hdashes⟩, fun b hb => ?_⟩
    rw [hspaces b hb]
    decide
  have hclosing : OneLine (endMark ++ label ++ dashes ++ last) :=
    List.forall_mem_append.2 ⟨List.forall_mem_append.2 ⟨List.forall_mem_append.2
      ⟨hend, hlabel.oneLine⟩, hdashes⟩, hlast⟩
  have hne : endMark ++ label ++ dashes ++ last ≠ [] := by
    have hdash : dashes ≠ [] := by decide +kernel
    simp [hdash]
  obtain ⟨ending, -, hlines⟩ := lines_behind hclosing hne htail
  have hinner : ∀ b ∈ inner.getLast?, EndsLine b := by
    intro b hb
    obtain ⟨b', hlast, hends⟩ := hbody.last
    rw [Option.mem_def] at hb hlast
    rw [List.getLast?_cons, hb, Option.getD_some] at hlast
    exact Option.some.inj hlast ▸ hends
  have hblank : Base64.isBlank e = true := by
    rcases he with rfl | rfl <;> decide
  refine ⟨e, inner, ending, he, fun b hb => ne_dash_of_body hbody (List.mem_cons_of_mem e hb), ?_, ?_⟩
  · refine Base64.decode_eq_ok ?_
    rw [← hbody.characters, List.filter_cons_of_neg (by simp [hblank])]
  · have hopening := lines_end hfirst he (inner ++ (endMark ++ label ++ dashes ++ last ++ tail))
    rw [lines_append hinner, hlines] at hopening
    simpa only [List.append_assoc, List.cons_append] using hopening

/-- **A block is read, in front of what is read behind it,** or passed over if nobody knows its
label. -/
theorem ofLines_spelled {b : Block} {text tail after : Bytes} (hb : Spells b text)
    (htail : Behind tail after) :
    ofLines none [] (lines (text ++ tail)) =
      ⟨[b].filter Block.isKnown ++ (ofLines none [] (lines after)).blocks,
        (ofLines none [] (lines after)).fault⟩ := by
  obtain @⟨label, content, spaces, body, last, hlabel, hspaces, hbody, hlast⟩ := hb
  obtain ⟨e, inner, ending, he, hdash, hdecode, hlines⟩ :=
    lines_spelled hlabel hspaces hbody hlast htail
  have hheads : ∀ line ∈ lines inner, line.head? ≠ some 0x2d := by
    intro line hline hhead
    have hmem : (0x2d : UInt8) ∈ (lines inner).flatten :=
      List.mem_flatten.2 ⟨line, hline, List.mem_of_mem_head? hhead⟩
    rw [flatten_lines] at hmem
    exact hdash _ hmem rfl
  have hbegin : beginMark.isPrefixOf (beginMark ++ label ++ (dashes ++ spaces ++ [e])) = true := by
    simp [List.append_assoc]
  have hmark : beginMark.isPrefixOf (endMark ++ label ++ dashes ++ (last ++ ending)) = false := by
    rw [Bool.eq_false_iff, List.append_assoc, List.append_assoc]
    exact fun h => not_beginMark_prefix_endMark _ (List.isPrefixOf_iff_prefix.1 h)
  have hclose : (endMark ++ label ++ dashes).isPrefixOf
      (endMark ++ label ++ dashes ++ (last ++ ending)) = true :=
    List.isPrefixOf_iff_prefix.2 (List.prefix_append _ _)
  rw [hlines, ofLines, hbegin, if_pos rfl, label?_eq hlabel hspaces he]
  dsimp only
  rw [ofLines_append hheads, ofLines, hmark, if_neg Bool.false_ne_true]
  dsimp only
  rw [if_pos hclose, List.nil_append, flatten_lines, hdecode]
  dsimp only
  cases hknown : Block.isKnown ⟨label, content⟩ with
  | true =>
    have hlabels : Label.all.any (·.bytes == label) = true := hknown
    rw [if_pos hlabels, List.filter_cons_of_pos hknown]
    rfl
  | false =>
    have hlabels : Label.all.any (·.bytes == label) = false := hknown
    rw [hlabels, if_neg Bool.false_ne_true, List.filter_cons_of_neg (by simp [hknown])]
    rfl

/-! ### Texts -/

/-- **The blocks that a text lists are read,** but for those with labels that nobody knows, and then
what is behind them. -/
theorem ofLines_of_lists {rest text : Bytes} {blocks : List Block} (h : Lists rest text blocks) :
    ofLines none [] (lines text) =
      ⟨blocks.filter Block.isKnown ++ (ofLines none [] (lines rest)).blocks,
        (ofLines none [] (lines rest)).fault⟩ := by
  induction h with
  | nil => rfl
  | @line line tail after blocks hline hmark htail _ ih =>
    cases htail with
    | @lineEnd e _ he =>
      have hother : ¬ beginMark <+: line ++ [e] := not_beginMark_prefix hmark (by simpa using he)
      rw [lines_end hline he, ofLines_other hother, ih]
    | textEnd =>
      rw [List.append_nil]
      by_cases hne : line = []
      · rw [hne, ih]
      · rw [lines_of_oneLine hline hne, ofLines_other hmark]
        exact ih
  | @block b text tail after blocks hb htail _ ih =>
    rw [ofLines_spelled hb htail, ih, ← List.append_assoc, ← List.filter_append]
    rfl

/-- A text that lists blocks up to its end is read as these. -/
theorem ofText_of_lists {text : String} {blocks : List Block}
    (h : Lists [] (Bytes.ofString text) blocks) : ofText text = ⟨blocks.filter Block.isKnown, none⟩ := by
  rw [ofText, ofLines_of_lists h]
  simp [lines, ofLines]

end Reading

end Keyring.Pem

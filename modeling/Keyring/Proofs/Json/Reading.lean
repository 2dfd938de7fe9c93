import Keyring.Json.Reader

/-!
# What readers read

`Reader.Reads r text a rest` : from every position, the reader `r` reads `text` in front of `rest` as
`a` and stops there.  There is one rule for each way to build a reader, so that a statement about a
reader is proved along its text: `Reads.bind` splits the text in two, `Reads.bind_skip` takes a byte off
it, and the rules for looking (`Reads.peek`, `Reads.peekPastSpace`) leave it as it is.

Positions are left open, since only errors tell them.
-/

namespace Keyring.Json

/-- Nothing is passed in front of a byte that does not satisfy `p`. -/
theorem Cursor.dropWhile_of_head {p : UInt8 → Bool} {bs : Bytes} {position : Position}
    (h : ∀ b, bs.head? = some b → p b = false) :
    Cursor.dropWhile p ⟨bs, position⟩ = ⟨bs, position⟩ := by
  cases bs with
  | nil => rfl
  | cons b bs =>
    have hb : p b = false := h b rfl
    simp [Cursor.dropWhile, Cursor.dropWhile.go, hb]

/-- The bytes that satisfy `p` are passed, up to the first one that does not. -/
theorem Cursor.dropWhile_append {p : UInt8 → Bool} {bs rest : Bytes} (hbs : ∀ b ∈ bs, p b = true)
    (hrest : ∀ b, rest.head? = some b → p b = false) (position : Position) :
    ∃ q, Cursor.dropWhile p ⟨bs ++ rest, position⟩ = ⟨rest, q⟩ := by
  induction bs generalizing position with
  | nil => exact ⟨position, dropWhile_of_head hrest⟩
  | cons b bs ih =>
    obtain ⟨hb, hbs⟩ := List.forall_mem_cons.1 hbs
    obtain ⟨q, hq⟩ := ih hbs (position.after b)
    refine ⟨q, ?_⟩
    rw [← hq]
    simp only [dropWhile, List.cons_append, dropWhile.go, hb, if_true]

namespace Reader

variable {α β : Type}

theorem bind_apply (r : Reader α) (f : α → Reader β) (c : Cursor) :
    (r >>= f) c = match r c with
      | (.ok a, c) => f a c
      | (.error e, c) => (.error e, c) := by
  change ExceptT.bindCont f (r c).1 (r c).2 = _
  rcases r c with ⟨_ | _, d⟩ <;> rfl

theorem peekPastSpace_cons {blank : UInt8} (h : isSpace blank = true) (bs : Bytes) (p : Position) :
    peekPastSpace ⟨blank :: bs, p⟩ = peekPastSpace ⟨bs, p.after blank⟩ := by
  have hdrop : Cursor.dropWhile isSpace ⟨blank :: bs, p⟩ =
      Cursor.dropWhile isSpace ⟨bs, p.after blank⟩ := by
    simp only [Cursor.dropWhile, Cursor.dropWhile.go, h, if_true]
  change (Except.ok (Cursor.dropWhile isSpace _).rest.head?, Cursor.dropWhile isSpace _) =
    (Except.ok (Cursor.dropWhile isSpace _).rest.head?, Cursor.dropWhile isSpace _)
  rw [hdrop]

/-- From every position, `r` reads `text` in front of `rest` as `a`. -/
def Reads (r : Reader α) (text : Bytes) (a : α) (rest : Bytes) : Prop :=
  ∀ p, ∃ q, r ⟨text ++ rest, p⟩ = (.ok a, ⟨rest, q⟩)

namespace Reads

variable {r : Reader α} {f : α → Reader β} {a : α} {b : β} {text text' rest : Bytes}

theorem pure (a : α) (rest : Bytes) : Reads (Pure.pure a) [] a rest := fun p => ⟨p, rfl⟩

theorem bind (h : Reads r text a (text' ++ rest)) (hf : Reads (f a) text' b rest) :
    Reads (r >>= f) (text ++ text') b rest := by
  intro p
  obtain ⟨q, hq⟩ := h p
  obtain ⟨q', hq'⟩ := hf q
  refine ⟨q', ?_⟩
  rw [bind_apply, List.append_assoc, hq]
  exact hq'

/-- A reader that passes nothing, and then another one. -/
theorem bind_ahead (h : Reads r [] a (text ++ rest)) (hf : Reads (f a) text b rest) :
    Reads (r >>= f) text b rest := by
  rw [← List.nil_append text]
  exact bind h hf

/-- A reader, and then one that passes nothing. -/
theorem bind_last (h : Reads r text a rest) (hf : Reads (f a) [] b rest) :
    Reads (r >>= f) text b rest := by
  rw [← List.append_nil text]
  exact bind h hf

/-- Changing what was read. -/
theorem bind_pure {g : α → β} (h : Reads r text a rest) :
    Reads (r >>= fun a => Pure.pure (g a)) text (g a) rest :=
  bind_last h (.pure (g a) rest)

/-! #### Looking and passing -/

/-- A step that only looks. -/
theorem look {x : Reader α} (hx : ∀ p, x ⟨text ++ rest, p⟩ = (.ok a, ⟨text ++ rest, p⟩))
    (h : Reads (f a) text b rest) : Reads (x >>= f) text b rest := by
  intro p
  obtain ⟨q, hq⟩ := h p
  refine ⟨q, ?_⟩
  rw [bind_apply, hx]
  exact hq

theorem get {f : Cursor → Reader β} (h : ∀ p, Reads (f ⟨text ++ rest, p⟩) text b rest) :
    Reads (MonadState.get >>= f) text b rest :=
  fun p => h p p

theorem fuel {f : Nat → Reader β} (h : Reads (f ((text ++ rest).length + 1)) text b rest) :
    Reads (Reader.fuel >>= f) text b rest :=
  look (fun _ => rfl) h

theorem peek {f : Option UInt8 → Reader β} (h : Reads (f (text ++ rest).head?) text b rest) :
    Reads (Reader.peek >>= f) text b rest :=
  look (fun _ => rfl) h

theorem peekPastSpace {f : Option UInt8 → Reader β}
    (hs : ∀ b, (text ++ rest).head? = some b → isSpace b = false)
    (h : Reads (f (text ++ rest).head?) text b rest) :
    Reads (Reader.peekPastSpace >>= f) text b rest := by
  refine look (fun p => ?_) h
  change (Except.ok (Cursor.dropWhile isSpace ⟨text ++ rest, p⟩).rest.head?,
    Cursor.dropWhile isSpace ⟨text ++ rest, p⟩) = _
  rw [Cursor.dropWhile_of_head hs]

/-- A look past blanks, where the next byte is none. -/
theorem peekByte {f : Option UInt8 → Reader β} {byte : UInt8}
    (hbyte : (text ++ rest).head? = some byte) (hs : isSpace byte = false)
    (h : Reads (f (some byte)) text b rest) : Reads (Reader.peekPastSpace >>= f) text b rest := by
  refine peekPastSpace (fun c hc => ?_) (by rwa [hbyte])
  rw [hbyte] at hc
  obtain rfl := Option.some.inj hc
  exact hs

/-- Blanks in front of a look past blanks make no difference. -/
theorem spaces {f : Option UInt8 → Reader β} {blanks : Bytes}
    (hblanks : ∀ b ∈ blanks, isSpace b = true) (h : Reads (Reader.peekPastSpace >>= f) text b rest) :
    Reads (Reader.peekPastSpace >>= f) (blanks ++ text) b rest := by
  induction blanks with
  | nil => exact h
  | cons blank blanks ih =>
    obtain ⟨hblank, hblanks⟩ := List.forall_mem_cons.1 hblanks
    intro p
    obtain ⟨q, hq⟩ := ih hblanks (p.after blank)
    refine ⟨q, ?_⟩
    rw [bind_apply] at hq ⊢
    rw [List.cons_append, List.cons_append, peekPastSpace_cons hblank]
    exact hq

theorem skip (byte : UInt8) (rest : Bytes) : Reads Reader.skip [byte] () rest :=
  fun p => ⟨p.after byte, rfl⟩

theorem bind_skip {f : Unit → Reader β} {byte : UInt8} (h : Reads (f ()) text b rest) :
    Reads (Reader.skip >>= f) (byte :: text) b rest :=
  bind (skip byte _) h

theorem bind_next {f : Option UInt8 → Reader β} {byte : UInt8}
    (h : Reads (f (some byte)) text b rest) : Reads (Reader.next >>= f) (byte :: text) b rest := by
  have hnext : ∀ rest, Reads Reader.next [byte] (some byte) rest := fun _ p => ⟨p.after byte, rfl⟩
  exact bind (hnext _) h

/-! #### Frames -/

theorem located (h : Reads r text a rest) : Reads (Reader.located r) text a rest := by
  intro p
  obtain ⟨q, hq⟩ := h p
  exact ⟨q, by rw [Reader.located, hq]⟩

theorem closing {finish : Reader Unit} (h : Reads r text a (text' ++ rest))
    (hfinish : Reads finish text' () rest) :
    Reads (Reader.closing r finish) (text ++ text') a rest := by
  intro p
  obtain ⟨q, hq⟩ := h p
  obtain ⟨q', hq'⟩ := hfinish q
  refine ⟨q', ?_⟩
  rw [Reader.closing, List.append_assoc, hq]
  show (finish >>= fun _ => (Pure.pure a : Reader α)) _ = _
  rw [bind_apply, hq']
  rfl

end Reads

/-- A reader of a whole text, behind which only blanks may follow. -/
def whole (r : Reader α) : Reader α := do
  let a ← r
  match ← Reader.peekPastSpace with
  | some _ => failAhead .trailingCharacters
  | none => return a

theorem readAll_eq (r : Reader α) (text : Bytes) :
    readAll r text = (whole r (Cursor.start text)).1 := rfl

/-- A text that is read up to blanks is accepted as a whole. -/
theorem readAll_eq_of_reads_spaces {r : Reader α} {text blanks : Bytes} {a : α}
    (hblanks : ∀ b ∈ blanks, isSpace b = true) (h : Reads r text a blanks) :
    readAll r (text ++ blanks) = .ok a := by
  have hwhole : Reads (whole r) (text ++ blanks) a [] := by
    rw [← List.append_nil blanks] at h
    refine .bind h ?_
    rw [← List.append_nil blanks]
    exact .spaces hblanks (.peekPastSpace (fun b hb => by cases hb) (.pure a []))
  obtain ⟨q, hq⟩ := hwhole ⟨1, 0⟩
  rw [List.append_nil] at hq
  exact congrArg Prod.fst hq

/-- A text that is read up to its end is accepted as a whole. -/
theorem readAll_eq_of_reads {r : Reader α} {text : Bytes} {a : α} (h : Reads r text a []) :
    readAll r text = .ok a := by
  have hread := readAll_eq_of_reads_spaces (by simp) h
  rwa [List.append_nil] at hread

end Reader

end Keyring.Json

import Keyring.Proofs.Json.Reading
import Keyring.Json.Document

/-!
# What has been read

`Reader.Gives r text post` : wherever `text` stands, if the reader `r` succeeds on it, what was read and
what is left of the text satisfy `post`.  This is the other direction of `Reader.Reads`, which says that
a reader succeeds: there is again one rule for each way to build a reader, and a reader that only fails
gives anything (`Gives.failAt` and the rules behind it).

`readAll_eq_ok` : a text that is accepted as a whole was read up to blanks.
-/

namespace Keyring.Json

/-- What is passed satisfies `p`, and what is left does not start with a byte that does. -/
theorem Cursor.exists_of_dropWhile (p : UInt8 → Bool) (text : Bytes) (position : Position) :
    ∃ passed rest q, text = passed ++ rest ∧ (∀ b ∈ passed, p b = true) ∧
      (∀ b, rest.head? = some b → p b = false) ∧
      Cursor.dropWhile p ⟨text, position⟩ = ⟨rest, q⟩ := by
  have hsplit : text = text.takeWhile p ++ text.dropWhile p := (List.takeWhile_append_dropWhile).symm
  have hpassed : ∀ b ∈ text.takeWhile p, p b = true := List.all_eq_true.1 List.all_takeWhile
  have hrest : ∀ b, (text.dropWhile p).head? = some b → p b = false := by
    intro b hb
    have hnot := List.head?_dropWhile_not p text
    rw [hb] at hnot
    simpa using hnot
  obtain ⟨q, hq⟩ := dropWhile_append hpassed hrest position
  rw [← hsplit] at hq
  exact ⟨_, _, q, hsplit, hpassed, hrest, hq⟩

namespace Reader

variable {α β : Type}

/-- Wherever `text` stands, what `r` reads of it and leaves satisfies `post`, if it succeeds. -/
def Gives (r : Reader α) (text : Bytes) (post : α → Bytes → Prop) : Prop :=
  ∀ p a c, r ⟨text, p⟩ = (.ok a, c) → post a c.rest

namespace Gives

variable {r : Reader α} {f : α → Reader β} {text : Bytes} {post p : α → Bytes → Prop}
  {q : β → Bytes → Prop}

theorem imp (h : Gives r text p) (hp : ∀ a rest, p a rest → post a rest) : Gives r text post :=
  fun position a c hr => hp a c.rest (h position a c hr)

theorem pure {a : α} (h : post a text) : Gives (Pure.pure a) text post := by
  intro position b c hr
  obtain ⟨hb, rfl⟩ := Prod.mk.inj hr
  obtain rfl := Except.ok.inj hb
  exact h

theorem bind (h : Gives r text p) (hf : ∀ a rest, p a rest → Gives (f a) rest q) :
    Gives (r >>= f) text q := by
  intro position b c hr
  rw [bind_apply] at hr
  rcases hread : r ⟨text, position⟩ with ⟨e | a, ⟨rest, position'⟩⟩
  · rw [hread] at hr
    cases hr
  · rw [hread] at hr
    exact hf a rest (h position a _ hread) position' b c hr

/-- Changing what was read. -/
theorem bind_pure {g : α → β} (h : Gives r text fun a rest => q (g a) rest) :
    Gives (r >>= fun a => Pure.pure (g a)) text q :=
  bind h fun _ _ ha => pure ha

/-! #### Failing -/

theorem failAt (position : Position) (cause : Cause) :
    Gives (Reader.failAt position cause : Reader α) text post := fun _ _ _ hr => by cases hr

theorem failHere (cause : Cause) : Gives (Reader.failHere cause : Reader α) text post :=
  fun _ _ _ hr => by cases hr

theorem failAhead (cause : Cause) : Gives (Reader.failAhead cause : Reader α) text post :=
  fun _ _ _ hr => by cases hr

theorem mismatch (cause : Cause) : Gives (Reader.mismatch cause : Reader α) text post :=
  fun _ _ _ hr => by cases hr

/-- What is read to be named in an error is not given. -/
theorem bind_mismatch {g : α → Cause} :
    Gives (r >>= fun a => (Reader.mismatch (g a) : Reader β)) text q :=
  bind (p := fun _ _ => True) (fun _ _ _ _ => trivial) fun _ _ _ => mismatch _

/-! #### Looking and passing -/

theorem bind_get {f : Cursor → Reader β} (h : ∀ position, Gives (f ⟨text, position⟩) text q) :
    Gives (MonadState.get >>= f) text q :=
  fun position => h position position

theorem bind_set {c : Cursor} {f : PUnit → Reader β} (h : Gives (f ⟨⟩) c.rest q) :
    Gives (MonadStateOf.set c >>= f) text q :=
  fun _ => h c.position

theorem bind_fuel {f : Nat → Reader β} (h : Gives (f (text.length + 1)) text q) :
    Gives (Reader.fuel >>= f) text q := h

theorem bind_peek {f : Option UInt8 → Reader β} (h : Gives (f text.head?) text q) :
    Gives (Reader.peek >>= f) text q := h

theorem bind_skip {f : Unit → Reader β} (h : Gives (f ()) text.tail q) :
    Gives (Reader.skip >>= f) text q := by
  intro position b c hr
  cases text with
  | nil => exact h position b c hr
  | cons byte text => exact h (position.after byte) b c hr

theorem skip {post : Unit → Bytes → Prop} (h : post () text.tail) : Gives Reader.skip text post :=
  bind_skip (f := Pure.pure) (pure h)

theorem bind_next {f : Option UInt8 → Reader β} (h : Gives (f text.head?) text.tail q) :
    Gives (Reader.next >>= f) text q :=
  bind (p := fun byte rest => byte = text.head? ∧ rest = text.tail)
    (bind_peek (bind_skip (pure ⟨rfl, rfl⟩))) fun byte rest hbyte => by
      obtain ⟨rfl, rfl⟩ := hbyte
      exact h

/-- Behind blanks, the next byte is none. -/
theorem bind_peekPastSpace {f : Option UInt8 → Reader β}
    (h : ∀ blanks rest, text = blanks ++ rest → (∀ b ∈ blanks, isSpace b = true) →
      Gives (f rest.head?) rest q) :
    Gives (Reader.peekPastSpace >>= f) text q := by
  intro position b c hr
  obtain ⟨blanks, rest, position', htext, hblanks, -, hdrop⟩ :=
    Cursor.exists_of_dropWhile isSpace text position
  refine h blanks rest htext hblanks position' b c ?_
  rw [← hr]
  change _ = f (Cursor.dropWhile isSpace ⟨text, position⟩).rest.head?
    (Cursor.dropWhile isSpace ⟨text, position⟩)
  rw [hdrop]

/-! #### Frames -/

theorem located (h : Gives r text post) : Gives (Reader.located r) text post := by
  intro position a c hr
  rw [Reader.located] at hr
  split at hr
  · cases hr
  · exact h position a c hr

theorem closing {finish : Reader Unit} (h : Gives r text p)
    (hfinish : ∀ a rest, p a rest → Gives finish rest fun _ rest' => post a rest') :
    Gives (Reader.closing r finish) text post := by
  intro position a c hr
  rw [Reader.closing] at hr
  split at hr
  · rename_i b d hread
    have hb : p b d.rest := h position b d hread
    exact bind (hfinish b d.rest hb) (fun _ rest' hpost => pure hpost) d.position a c hr
  · cases hr

end Gives

/-- What a reader reads is what it gives. -/
theorem Reads.gives {r : Reader α} {text rest : Bytes} {a : α} (h : Reads r text a rest) :
    Gives r (text ++ rest) fun b rest' => b = a ∧ rest' = rest := by
  intro p b c hr
  obtain ⟨q, hq⟩ := h p
  rw [hq] at hr
  obtain ⟨hb, rfl⟩ := Prod.mk.inj hr
  exact ⟨(Except.ok.inj hb).symm, rfl⟩

/-- A text that is accepted was read, up to blanks. -/
theorem readAll_eq_ok {r : Reader α} {text : Bytes} {post : α → Bytes → Prop} (h : Gives r text post)
    {a : α} (ha : readAll r text = .ok a) :
    ∃ blanks, post a blanks ∧ ∀ b ∈ blanks, isSpace b = true := by
  have hwhole : Gives (whole r) text fun a _ =>
      ∃ blanks, post a blanks ∧ ∀ b ∈ blanks, isSpace b = true := by
    refine .bind h fun a rest hrest => .bind_peekPastSpace fun blanks rest' heq hblanks => ?_
    cases rest' with
    | nil =>
      rw [List.append_nil] at heq
      exact .pure ⟨rest, hrest, heq ▸ hblanks⟩
    | cons b rest' => exact .failAhead _
  rw [readAll_eq] at ha
  rcases hread : whole r (Cursor.start text) with ⟨e | a', c⟩
  · rw [hread] at ha
    cases ha
  · rw [hread] at ha
    obtain rfl : a' = a := Except.ok.inj ha
    exact hwhole _ _ _ hread

end Reader

end Keyring.Json

import Keyring.Error
import Keyring.Journal

/-!
# Sessions

An `Act` is an operation that may fail and that works on a `Session`: the outside world, a supply of
random bytes, the clock and the journal. A failed act keeps what it did to the session.

The world is a parameter, so that any store may stand behind the keystore; the supply is an
arbitrary infinite sequence of bytes (`Entropy`), of which each draw uses up the next ones.

An `Edit` works on a value in place as well. If it fails, it leaves the value as far as it came with it.
-/

namespace Keyring

/-- A supply of random bytes and how many of them are used up. -/
structure Entropy where
  byte : Nat → UInt8
  used : Nat

/-- The next bytes of a supply. -/
def Entropy.next (e : Entropy) (count : Nat) : Bytes :=
  (List.range count).map fun i => e.byte (e.used + i)

@[simp] theorem Entropy.length_next (e : Entropy) (count : Nat) : (e.next count).length = count := by
  simp [next]

/-- What operations work on. -/
structure Session (W : Type) where
  /-- The stores behind the keystore. -/
  world : W
  entropy : Entropy
  /-- Seconds since the start of 1970. -/
  now : Nat
  /-- The events so far, in order. -/
  journal : List Event

/-- An operation on a session. -/
abbrev Act (W : Type) := ExceptT Error (StateM (Session W))

namespace Act

variable {W α : Type}

/-- Reports an event. -/
def report (level : Level) (message : String) (fields : List (String × String)) : Act W Unit :=
  modify fun s => { s with journal := s.journal ++ [⟨level, message, fields⟩] }

/-- Draws random bytes. -/
def draw (count : Nat) : Act W Bytes := do
  let s ← get
  set { s with entropy := { s.entropy with used := s.entropy.used + count } }
  return s.entropy.next count

/-- The current time in seconds. -/
def now : Act W Nat := do return (← get).now

/-- Changes the world by an operation that may fail. -/
def onWorld (f : W → Except Error α × W) : Act W α := do
  let s ← get
  let (result, world) := f s.world
  set { s with world }
  match result with
  | .ok a => return a
  | .error e => throw e

/-- Looks at the world. -/
def look (f : W → α) : Act W α := do return f (← get).world

/-- Replaces the error of a failed act. -/
def mapError (f : Error → Error) (act : Act W α) : Act W α :=
  tryCatch act fun e => throw (f e)

end Act

/-! ### Values that are changed in place -/

/-- An operation on a value in place: it may fail, and leaves a value and a session either way. -/
abbrev Edit (σ W : Type) := ExceptT Error (StateT σ (StateM (Session W)))

namespace Edit

variable {σ W α : Type}

/-- An act as an edit, which leaves the value alone. -/
def perform (act : Act W α) : Edit σ W α := fun value session =>
  let (result, session) := act session
  ((result, value), session)

/-- The value. -/
def value : Edit σ W σ := fun value session => ((.ok value, value), session)

/-- Puts another value in its place. -/
def replace (new : σ) : Edit σ W Unit := fun _ session => ((.ok (), new), session)

/-- Edits a copy of a value: what becomes of it, if the edit succeeds. -/
def onCopy (edit : Edit σ W Unit) (value : σ) : Act W σ := fun session =>
  let ((result, copy), session) := edit value session
  (result.map fun _ => copy, session)

theorem bind_apply {β : Type} (edit : Edit σ W α) (f : α → Edit σ W β) (v : σ) (s : Session W) :
    (edit >>= f) v s = match edit v s with
      | ((.ok a, v'), t) => f a v' t
      | ((.error e, v'), t) => ((.error e, v'), t) := by
  change ExceptT.bindCont f (edit v s).1.1 (edit v s).1.2 (edit v s).2 = _
  rcases edit v s with ⟨⟨_ | _, v'⟩, t⟩ <;> rfl

theorem value_apply (v : σ) (s : Session W) : value v s = ((.ok v, v), s) := rfl

theorem perform_apply (act : Act W α) (v : σ) (s : Session W) :
    perform act v s = (((act s).1, v), (act s).2) :=
  rfl

end Edit

/-! ### Parts of a world -/

/-- A part of a world: how to look at it and how to replace it. -/
structure Focus (V W : Type) where
  look : V → W
  put : W → V → V

/-- An act on a part of a world as an act on the world. -/
def Act.within {V W α : Type} (f : Focus V W) (act : Act W α) : Act V α := fun s =>
  let (result, t) := act { s with world := f.look s.world }
  (result, { t with world := f.put t.world s.world })

end Keyring

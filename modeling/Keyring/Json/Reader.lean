import Keyring.Bytes
import Keyring.Json.Error

/-!
# Readers

A `Reader` consumes bytes from a `Cursor` and may fail, keeping the cursor where it failed; `readAll`
runs one over a whole text.

A value of the wrong shape has no position of its own: it is reported where the innermost enclosing
list or object that is read in one piece ends, or could be read no further (`Reader.located`,
`Reader.closing`).
-/

namespace Keyring.Json

/-- What is left to read and where that begins. -/
structure Cursor where
  rest : Bytes
  position : Position

namespace Cursor

/-- The start of a text. -/
def start (text : Bytes) : Cursor := ⟨text, ⟨1, 0⟩⟩

/-- One byte further, if there is one. -/
def next (c : Cursor) : Cursor :=
  match c.rest with
  | [] => c
  | b :: rest => ⟨rest, c.position.after b⟩

/-- Past all bytes that satisfy `p`. -/
def dropWhile (p : UInt8 → Bool) (c : Cursor) : Cursor := go c.rest c.position
where
  /-- The same on the parts of a cursor. -/
  go : Bytes → Position → Cursor
    | [], position => ⟨[], position⟩
    | b :: rest, position =>
      if p b then go rest (position.after b) else ⟨b :: rest, position⟩

end Cursor

/-- A step of reading. -/
abbrev Reader := ExceptT Error (StateM Cursor)

/-- How deep lists and objects may nest, plus one. -/
def depthLimit : Nat := 128

namespace Reader

variable {α : Type}

/-- The next byte, left in place. -/
def peek : Reader (Option UInt8) := do return (← get).rest.head?

/-- Passes one byte. -/
def skip : Reader Unit := modify Cursor.next

/-- The next byte, passed. -/
def next : Reader (Option UInt8) := do
  let byte ← peek
  skip
  return byte

/-- Fails at a position. -/
def failAt (position : Position) (cause : Cause) : Reader α := throw ⟨cause, some position⟩

/-- Fails behind the bytes passed so far. -/
def failHere (cause : Cause) : Reader α := do failAt (← get).position cause

/-- Fails behind the next byte. -/
def failAhead (cause : Cause) : Reader α := do failAt (← get).next.position cause

/-- Fails over a value of the wrong shape, to be located by the reader around. -/
def mismatch (cause : Cause) : Reader α := throw ⟨cause, none⟩

/-- Gives an error without a position the position where reading stands. -/
def located (r : Reader α) : Reader α := fun c =>
  match r c with
  | (.error ⟨cause, none⟩, c) => (.error ⟨cause, some c.position⟩, c)
  | done => done

/-- Reads a body and then, whatever came of it, its end; the body's error goes first. -/
def closing (body : Reader α) (finish : Reader Unit) : Reader α := fun c =>
  match body c with
  | (.ok a, c) => (do finish; return a : Reader α) c
  | (.error e, c) => (.error e, (finish c).2)

/-- Blank, line feed, carriage return, tab. -/
def isSpace (b : UInt8) : Bool := b == 0x20 || b == 0x0a || b == 0x0d || b == 0x09

/-- Passes blanks and looks at the byte behind them. -/
def peekPastSpace : Reader (Option UInt8) := do
  modify (Cursor.dropWhile isSpace)
  peek

/-- As much fuel as any loop over the rest of the text needs. -/
def fuel : Reader Nat := do return (← get).rest.length + 1

/-- Runs a reader over a whole text, behind which only blanks may follow. -/
def readAll (r : Reader α) (text : Bytes) : Except Error α :=
  (do
    let a ← r
    match ← peekPastSpace with
    | some _ => failAhead .trailingCharacters
    | none => return a : Reader α).run (Cursor.start text) |>.1

end Reader

end Keyring.Json

import Keyring.Json.Reader

/-!
# JSON tokens

Readers for the parts of a JSON text that hold no others: `word`, `number` and `string`. A number
is kept as it is if it has neither point nor exponent and fits 64 bits, else as a binary magnitude.
-/

namespace Keyring.Json.Reader

/-! ### Words and numbers -/

/-- The rest of a literal word. -/
def word : Bytes → Reader Unit
  | [] => return
  | expected :: rest => do
    match ← next with
    | none => failHere .endInValue
    | some b => if b = expected then word rest else failHere .expectedWord

/-- A decimal digit. -/
def isDigit (b : UInt8) : Bool := 0x30 ≤ b && b ≤ 0x39

/-- The value of a decimal digit. -/
def digitValue (b : UInt8) : Nat := (b - 0x30).toNat

/-- The digits that come next, passed. -/
def digits : Reader (List Nat) := do
  let ds := (← get).rest.takeWhile isDigit
  modify (Cursor.dropWhile isDigit)
  return ds.map digitValue

/-- Appends digits to a number as long as it stays at most `limit`; also the digits left over. -/
def accumulate (limit : Nat) : Nat → List Nat → Nat × List Nat
  | n, [] => (n, [])
  | n, d :: ds => if n * 10 + d ≤ limit then accumulate limit (n * 10 + d) ds else (n, d :: ds)

/-- The largest significand that is kept exactly. -/
def maxSignificand : Nat := UInt64.size - 1

/-- The largest exponent that is kept. -/
def maxExponent : Nat := 0x7fffffff

/-- A float from its decimal parts. -/
def float (negative : Bool) (significand : Nat) (exponent : Int) : Reader Number :=
  match Number.Binary64.ofDecimal? significand exponent with
  | some x => return .float negative x
  | none => failHere .numberOutOfRange

/-- From the letter of an exponent on. -/
def exponentPart (negative : Bool) (significand : Nat) (shift : Int) : Reader Number := do
  skip
  let sign ← peek
  if sign = some 0x2b ∨ sign = some 0x2d then skip
  let start := (← get).position
  match ← peek with
  | none => failHere .endInValue
  | some b =>
    if !isDigit b then
      skip
      failHere .invalidNumber
    else
      let ds ← digits
      let (exponent, left) := accumulate maxExponent 0 ds
      if left.isEmpty then
        float negative significand (if sign = some 0x2d then shift - exponent else shift + exponent)
      else if significand ≠ 0 ∧ sign ≠ some 0x2d then
        failAt { start with column := start.column + (ds.length - left.length) + 1 }
          .numberOutOfRange
      else return .float negative .zero

/-- From the decimal point on. -/
def fractionPart (negative : Bool) (significand : Nat) (shift : Int) : Reader Number := do
  skip
  let ds ← digits
  if ds.isEmpty then
    match ← peek with
    | none => failAhead .endInValue
    | some _ => failAhead .invalidNumber
  else
    let (significand, left) := accumulate maxSignificand significand ds
    let shift := shift - (ds.length - left.length : Nat)
    match ← peek with
    | some 0x65 | some 0x45 => exponentPart negative significand shift
    | _ => float negative significand shift

/-- What follows the integer digits, of which `dropped` did not fit the significand. -/
def numberTail (negative : Bool) (significand dropped : Nat) : Reader Number := do
  match ← peek with
  | some 0x2e => fractionPart negative significand dropped
  | some 0x65 | some 0x45 => exponentPart negative significand dropped
  | _ =>
    if dropped ≠ 0 then float negative significand dropped
    else if !negative then return .natural significand
    else if significand = 0 ∨ significand > 0x8000000000000000 then float true significand 0
    else return .negative significand

/-- A number behind its sign. -/
def number (negative : Bool) : Reader Number := do
  match ← peek with
  | none => failHere .endInValue
  | some b =>
    if b = 0x30 then
      skip
      match ← peek with
      | some b => if isDigit b then failAhead .invalidNumber else numberTail negative 0 0
      | none => numberTail negative 0 0
    else if isDigit b then
      let ds ← digits
      let (significand, left) := accumulate maxSignificand 0 ds
      numberTail negative significand left.length
    else
      skip
      failHere .invalidNumber

/-! ### Strings -/

/-- The value of a hexadecimal digit of either case. -/
def hexValue? (b : UInt8) : Option Nat :=
  if isDigit b then some (b - 0x30).toNat
  else if 0x61 ≤ b && b ≤ 0x66 then some (b - 0x57).toNat
  else if 0x41 ≤ b && b ≤ 0x46 then some (b - 0x37).toNat
  else none

/-- Four hexadecimal digits. -/
def hexUnit : Reader Nat := do
  let c ← get
  match c.rest with
  | d1 :: d2 :: d3 :: d4 :: _ =>
    set c.next.next.next.next
    match hexValue? d1, hexValue? d2, hexValue? d3, hexValue? d4 with
    | some n1, some n2, some n3, some n4 => return ((n1 * 16 + n2) * 16 + n3) * 16 + n4
    | _, _, _, _ => failHere .invalidEscape
  | _ =>
    set (c.dropWhile fun _ => true)
    failHere .endInString

/-- A byte that must come next inside an escape. -/
def inEscape (expected : UInt8) : Reader Unit := do
  match ← peek with
  | none => failHere .endInString
  | some b =>
    skip
    if b ≠ expected then failHere .endInEscape

/-- The character of a numeric escape, two units long beyond the first 65536 characters. -/
def codePoint : Reader Bytes := do
  let n ← hexUnit
  if 0xdc00 ≤ n ∧ n ≤ 0xdfff then failHere .loneSurrogate
  else if 0xd800 ≤ n ∧ n ≤ 0xdbff then
    inEscape 0x5c
    inEscape 0x75
    let low ← hexUnit
    if 0xdc00 ≤ low ∧ low ≤ 0xdfff then
      return Bytes.ofString
        (String.singleton (Char.ofNat ((n - 0xd800) * 0x400 + (low - 0xdc00) + 0x10000)))
    else failHere .loneSurrogate
  else return Bytes.ofString (String.singleton (Char.ofNat n))

/-- The character that a letter stands for behind a backslash. -/
def escapeLetter? (b : UInt8) : Option UInt8 :=
  if b = 0x22 ∨ b = 0x5c ∨ b = 0x2f then some b
  else if b = 0x62 then some 0x08
  else if b = 0x66 then some 0x0c
  else if b = 0x6e then some 0x0a
  else if b = 0x72 then some 0x0d
  else if b = 0x74 then some 0x09
  else none

/-- An escape behind its backslash. -/
def escape : Reader Bytes := do
  match ← next with
  | none => failHere .endInString
  | some b =>
    if b = 0x75 then codePoint
    else
      match escapeLetter? b with
      | some c => return [c]
      | none => failHere .invalidEscape

/-- The bytes of a string up to its closing quote; a text of `fuel` bytes holds no more. -/
def stringBody : (fuel : Nat) → Reader Bytes
  | 0 => failHere .endInString
  | fuel + 1 => do
    match ← peek with
    | none => failHere .endInString
    | some b =>
      if b = 0x22 then return []
      else
        skip
        if b = 0x5c then
          let c ← escape
          return c ++ (← stringBody fuel)
        else if b < 0x20 then failHere .controlCharacter
        else return b :: (← stringBody fuel)

/-- A string behind its opening quote. -/
def string : Reader String := do
  let bytes ← stringBody ((← get).rest.length + 1)
  match Bytes.toString? bytes with
  | some s =>
    skip
    return s
  | none => failHere .invalidCodePoint

end Keyring.Json.Reader

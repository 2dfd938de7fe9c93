import Keyring.Json.Token

/-!
# JSON documents

Readers for the frames of lists and objects (`items`, `members`, `nested`) and for whole values
(`value`).
-/

namespace Keyring.Json.Reader

variable {α σ : Type}

/-! ### Lists and objects -/

/-- The end of a list, and what is wrong if it does not come. -/
def endList : Reader Unit := do
  match ← peekPastSpace with
  | some 0x5d => skip
  | some 0x2c =>
    skip
    match ← peekPastSpace with
    | some 0x5d => failAhead .trailingComma
    | _ => failAhead .trailingCharacters
  | some _ => failAhead .trailingCharacters
  | none => failAhead .endInList

/-- The end of an object, and what is wrong if it does not come. -/
def endObject : Reader Unit := do
  match ← peekPastSpace with
  | some 0x7d => skip
  | some 0x2c => failAhead .trailingComma
  | some _ => failAhead .trailingCharacters
  | none => failAhead .endInObject

/-- Whether another item of a list follows; passes the comma before it. -/
def hasItem (first : Bool) : Reader Bool := do
  match ← peekPastSpace with
  | none => failAhead .endInList
  | some 0x5d => return false
  | some b =>
    if first then return true
    else if b = 0x2c then
      skip
      match ← peekPastSpace with
      | some 0x5d => failAhead .trailingComma
      | some _ => return true
      | none => failAhead .endInValue
    else failAhead .expectedCommaOrBracket

/-- Whether another member of an object follows; passes the comma before it and the opening quote of
its key. -/
def hasMember (first : Bool) : Reader Bool := do
  match ← peekPastSpace with
  | none => failAhead .endInObject
  | some 0x7d => return false
  | some b =>
    if first then
      if b = 0x22 then
        skip
        return true
      else failAhead .keyNotString
    else if b = 0x2c then
      skip
      match ← peekPastSpace with
      | some 0x22 =>
        skip
        return true
      | some 0x7d => failAhead .trailingComma
      | some _ => failAhead .keyNotString
      | none => failAhead .endInValue
    else failAhead .expectedCommaOrBrace

/-- The colon behind a key. -/
def colon : Reader Unit := do
  match ← peekPastSpace with
  | some 0x3a => skip
  | some _ => failAhead .expectedColon
  | none => failAhead .endInObject

/-- The items of a list up to its end, each read by `item`. -/
def items (item : Reader α) : (fuel : Nat) → (first : Bool) → Reader (List α)
  | 0, _ => failAhead .endInList
  | fuel + 1, first => do
    if ← hasItem first then
      let a ← item
      return a :: (← items item fuel false)
    else return []

/-- The members of an object up to its end: `member` takes over behind each key. -/
def members (member : σ → String → Reader σ) :
    (fuel : Nat) → (first : Bool) → σ → Reader σ
  | 0, _, _ => failAhead .endInObject
  | fuel + 1, first, state => do
    if ← hasMember first then
      let key ← string
      members member fuel false (← member state key)
    else return state

/-- A list or object behind the look at its opening bracket: `body` reads its content with the
depth that is left. -/
def nested (depth : Nat) (body : (depth : Nat) → Reader α) (finish : Reader Unit) : Reader α :=
  match depth with
  | 0 | 1 => failAhead .tooDeep
  | depth + 1 => closing (do skip; body depth) finish

/-- Any value, in lists and objects nested less deep than `depth`. -/
def value : (depth : Nat) → Reader Value
  | 0 => failAhead .tooDeep
  | depth + 1 => do
    match ← peekPastSpace with
    | none => failAhead .endInValue
    | some b =>
      if b = 0x6e then
        skip
        word [0x75, 0x6c, 0x6c]
        return .null
      else if b = 0x74 then
        skip
        word [0x72, 0x75, 0x65]
        return .bool true
      else if b = 0x66 then
        skip
        word [0x61, 0x6c, 0x73, 0x65]
        return .bool false
      else if b = 0x2d then
        skip
        return .number (← number true)
      else if isDigit b then return .number (← number false)
      else if b = 0x22 then
        skip
        return .string (← string)
      else if b = 0x5b then
        if depth = 0 then failAhead .tooDeep
        else
          closing (do skip; return .list (← items (value depth) (← fuel) true)) endList
      else if b = 0x7b then
        if depth = 0 then failAhead .tooDeep
        else
          closing
            (do
              skip
              let member (found : List (String × Value)) (key : String) :
                  Reader (List (String × Value)) := do
                colon
                return (key, ← value depth) :: found
              return .object (← members member (← fuel) true []).reverse)
            endObject
      else failAhead .expectedValue

/-- Fails over the value that comes next, which is no list or object that was expected. A scalar is
read to be named; of a list or an object nothing is. -/
def wrongType (depth : Nat) (expected : String) : Reader α := do
  match ← peek with
  | some 0x5b => mismatch (.wrongType "sequence" expected)
  | some 0x7b => mismatch (.wrongType "map" expected)
  | _ => mismatch (.wrongType (← value depth).found expected)

end Keyring.Json.Reader

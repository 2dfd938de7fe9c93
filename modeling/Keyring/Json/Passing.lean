import Keyring.Json.Token

/-!
# Values that nobody needs

`skipValue` passes a value without keeping it. It is laxer than reading: numbers may be of any size,
escapes need not form characters, and values may nest to any depth.
-/

namespace Keyring.Json.Reader

/-- A number that is only passed, from its first digit on. -/
def skipNumber : Reader Unit := do
  match ← next with
  | some 0x30 =>
    match ← peek with
    | some b => if isDigit b then failAhead .invalidNumber
    | none => return
  | some b => if isDigit b then discard digits else failHere .invalidNumber
  | none => failHere .invalidNumber
  match ← peek with
  | some 0x2e =>
    skip
    if (← digits).isEmpty then failAhead .invalidNumber
    match ← peek with
    | some 0x65 | some 0x45 => skipExponent
    | _ => return
  | some 0x65 | some 0x45 => skipExponent
  | _ => return
where
  /-- The exponent of such a number, from its letter on. -/
  skipExponent : Reader Unit := do
    skip
    match ← peek with
    | some 0x2b | some 0x2d => skip
    | _ => pure ()
    match ← next with
    | some b => if isDigit b then discard digits else failHere .invalidNumber
    | none => failHere .invalidNumber

/-- A string that is only passed, behind its opening quote: its escapes need not form characters. -/
def skipString : (fuel : Nat) → Reader Unit
  | 0 => failHere .endInString
  | fuel + 1 => do
    match ← peek with
    | none => failHere .endInString
    | some b =>
      if b = 0x22 then skip
      else if b = 0x5c then
        skip
        match ← next with
        | none => failHere .endInString
        | some b =>
          if b = 0x75 then discard hexUnit
          else if (escapeLetter? b).isNone then failHere .invalidEscape
        skipString fuel
      else if b < 0x20 then failHere .controlCharacter
      else
        skip
        skipString fuel

/-- A list or an object that is being passed. -/
inductive Frame where
  | list
  | object

/-- What the passing of a value expects next. -/
inductive Phase where
  /-- A value. -/
  | value
  /-- What may follow an opening bracket. -/
  | opened
  /-- What may follow a value inside the innermost frame. -/
  | follow

/-- Passes a value inside `frames`, the innermost first, to any depth. -/
def skipValueIn : (fuel : Nat) → Phase → List Frame → Reader Unit
  | 0, _, _ => failAhead .endInValue
  | fuel + 1, .value, frames => do
    match ← peekPastSpace with
    | none => failAhead .endInValue
    | some b =>
      if b = 0x5b then
        skip
        skipValueIn fuel .opened (.list :: frames)
      else if b = 0x7b then
        skip
        skipValueIn fuel .opened (.object :: frames)
      else
        if b = 0x6e then
          skip
          word [0x75, 0x6c, 0x6c]
        else if b = 0x74 then
          skip
          word [0x72, 0x75, 0x65]
        else if b = 0x66 then
          skip
          word [0x61, 0x6c, 0x73, 0x65]
        else if b = 0x2d then
          skip
          skipNumber
        else if isDigit b then skipNumber
        else if b = 0x22 then
          skip
          skipString (← Reader.fuel)
        else failAhead .expectedValue
        skipValueIn fuel .follow frames
  | _ + 1, .opened, [] => return
  | _ + 1, .follow, [] => return
  | fuel + 1, .opened, frame :: frames => do
    match ← peekPastSpace, frame with
    | none, .list => failAhead .endInList
    | none, .object => failAhead .endInObject
    | some 0x5d, .list =>
      skip
      skipValueIn fuel .follow frames
    | some 0x7d, .object =>
      skip
      skipValueIn fuel .follow frames
    | some _, frame =>
      skipKey frame
      skipValueIn fuel .value (frame :: frames)
  | fuel + 1, .follow, frame :: frames => do
    match ← peekPastSpace, frame with
    | none, .list => failAhead .endInList
    | none, .object => failAhead .endInObject
    | some 0x5d, .list =>
      skip
      skipValueIn fuel .follow frames
    | some 0x7d, .object =>
      skip
      skipValueIn fuel .follow frames
    | some 0x2c, frame =>
      skip
      skipKey frame
      skipValueIn fuel .value (frame :: frames)
    | some _, .list => failAhead .expectedCommaOrBracket
    | some _, .object => failAhead .expectedCommaOrBrace
where
  /-- Passes the key that starts a member of an object. -/
  skipKey : Frame → Reader Unit
    | .list => return
    | .object => do
      match ← peekPastSpace with
      | some 0x22 =>
        skip
        skipString (← Reader.fuel)
        match ← peekPastSpace with
        | some 0x3a => skip
        | some _ => failAhead .expectedColon
        | none => failAhead .endInObject
      | some _ => failAhead .keyNotString
      | none => failAhead .endInObject

/-- Passes a value without keeping it. Every byte is looked at in at most two phases. -/
def skipValue : Reader Unit := do skipValueIn (2 * (← fuel)) .value []

end Keyring.Json.Reader

import Keyring.Bytes

/-!
# Base64

Bytes written with six bits a character. `encode` pads the last group of four characters. `decode`
passes over blanks, takes the padding or its absence, and does not look at the bits that a last group
has too many.
-/

namespace Keyring.Text.Base64

/-- Why a text is not Base64. -/
inductive Error where
  | invalidCharacter (byte : UInt8)
  /-- Something follows the padding. -/
  | prematurePadding
  /-- The last group is too short, or padded where it should not be. -/
  | invalidTrailingPadding
  deriving DecidableEq, Repr

/-- What is wrong, in words. -/
def Error.message : Error → String
  | .invalidCharacter byte => "InvalidCharacter(" ++ toString byte.toNat ++ ")"
  | .prematurePadding => "PrematurePadding"
  | .invalidTrailingPadding => "InvalidTrailingPadding"

/-! ### Writing -/

/-- The character of a number below 64. -/
def digit (n : UInt8) : UInt8 :=
  if n < 26 then 0x41 + n
  else if n < 52 then 0x61 + (n - 26)
  else if n < 62 then 0x30 + (n - 52)
  else if n = 62 then 0x2b
  else 0x2f

/-- The padding character. -/
def padding : UInt8 := 0x3d

/-- The characters of a byte string. -/
def encode : Bytes → Bytes
  | [] => []
  | [a] => [digit (a >>> 2), digit ((a &&& 3) <<< 4), padding, padding]
  | [a, b] =>
    [digit (a >>> 2), digit ((a &&& 3) <<< 4 ||| b >>> 4), digit ((b &&& 0xf) <<< 2), padding]
  | a :: b :: c :: rest =>
    digit (a >>> 2) :: digit ((a &&& 3) <<< 4 ||| b >>> 4) ::
      digit ((b &&& 0xf) <<< 2 ||| c >>> 6) :: digit (c &&& 0x3f) :: encode rest

/-! ### Reading -/

/-- A character that stands for bits: a digit, or padding. -/
inductive Symbol where
  | digit (value : UInt8)
  | pad
  deriving DecidableEq, Repr

/-- The blanks that are passed over. -/
def isBlank (b : UInt8) : Bool := (9 ≤ b && b ≤ 13) || b == 0x20

/-- What a character stands for. -/
def symbol? (b : UInt8) : Option Symbol :=
  if 0x41 ≤ b && b ≤ 0x5a then some (.digit (b - 0x41))
  else if 0x61 ≤ b && b ≤ 0x7a then some (.digit (b - 0x61 + 26))
  else if 0x30 ≤ b && b ≤ 0x39 then some (.digit (b - 0x30 + 52))
  else if b = 0x2b then some (.digit 62)
  else if b = 0x2f then some (.digit 63)
  else if b = padding then some .pad
  else none

/-- The bytes of complete groups of four digits, and of a last group that ends in padding or lacks
it. -/
def groups : List Symbol → Except Error Bytes
  | [] => .ok []
  | .digit a :: .digit b :: .digit c :: .digit d :: rest => do
    return (a <<< 2 ||| b >>> 4) :: (b <<< 4 ||| c >>> 2) :: (c <<< 6 ||| d) :: (← groups rest)
  | [.digit a, .digit b, .digit c] | [.digit a, .digit b, .digit c, .pad] =>
    .ok [a <<< 2 ||| b >>> 4, b <<< 4 ||| c >>> 2]
  | [.digit a, .digit b] | [.digit a, .digit b, .pad, .pad] => .ok [a <<< 2 ||| b >>> 4]
  | _ => .error .invalidTrailingPadding

/-- The bytes of at most eight symbols, behind which nothing follows. -/
def finish (block : List Symbol) : Except Error Bytes :=
  if 4 < block.length ∧ (block.take 4).contains .pad then .error .prematurePadding
  else groups block

/-- Reads symbols in blocks of eight, of which `block` has some already. Only the last block may hold
padding. -/
def blocks (block : List Symbol) : Bytes → Except Error Bytes
  | [] => finish block
  | b :: rest =>
    if isBlank b then blocks block rest
    else
      match symbol? b with
      | none => .error (.invalidCharacter b)
      | some s =>
        if block.length = 8 then
          if block.contains .pad then .error .prematurePadding
          else do return (← groups block) ++ (← blocks [s] rest)
        else blocks (block ++ [s]) rest

/-- The bytes that the characters stand for. -/
def decode (characters : Bytes) : Except Error Bytes := blocks [] characters

end Keyring.Text.Base64

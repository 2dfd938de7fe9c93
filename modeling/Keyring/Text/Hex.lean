import Keyring.Bytes
import Keyring.Text.Quoted

/-!
# Hexadecimal

Bytes written as two digits each. `encode` writes lower case, `decode` reads both cases and says
what is wrong with a text that is no such encoding.
-/

namespace Keyring.Text.Hex

/-- Why a text is not hexadecimal. -/
inductive Error where
  /-- A digit is left over. -/
  | oddLength
  /-- The byte at this position is no digit. -/
  | invalidDigit (byte : UInt8) (position : Nat)
  deriving DecidableEq, Repr

/-- What is wrong, in words; a byte is shown as the character of its number. -/
def Error.message : Error → String
  | .oddLength => "Odd number of digits"
  | .invalidDigit byte position =>
    "Invalid character " ++ Quoted.char (Char.ofNat byte.toNat) ++ " at position " ++
      toString position

/-- The lower-case digit of a number below sixteen. -/
def digit (n : UInt8) : UInt8 := if n < 10 then 0x30 + n else 0x57 + n

/-- The number that a digit of either case stands for. -/
def value? (byte : UInt8) : Option UInt8 :=
  if 0x30 ≤ byte && byte ≤ 0x39 then some (byte - 0x30)
  else if 0x61 ≤ byte && byte ≤ 0x66 then some (byte - 0x57)
  else if 0x41 ≤ byte && byte ≤ 0x46 then some (byte - 0x37)
  else none

/-- Two digits for each byte, as ASCII bytes. -/
def encode (bs : Bytes) : Bytes := bs.flatMap fun (b : UInt8) => [digit (b >>> 4), digit (b &&& 0xf)]

/-- Reads pairs of digits; `position` is that of the first. -/
def pairs (position : Nat) : Bytes → Except Error Bytes
  | high :: low :: rest => do
    let some h := value? high | throw (.invalidDigit high position)
    let some l := value? low | throw (.invalidDigit low (position + 1))
    return ((h <<< 4) ||| l) :: (← pairs (position + 2) rest)
  | _ => .ok []

/-- The bytes that the digits stand for. -/
def decode (digits : Bytes) : Except Error Bytes :=
  if digits.length % 2 = 1 then .error .oddLength else pairs 0 digits

/-- The digits of a byte string as a text. -/
def text (bs : Bytes) : String :=
  String.ofList ((encode bs).map fun (b : UInt8) => Char.ofNat b.toNat)

end Keyring.Text.Hex

import Keyring.Calendar
import Keyring.X509.Name

/-!
# Certificates

An X.509 `Certificate` with its parts. `Certificate.decode?` accepts strict DER and verifies
nothing; `Certificate.encode` writes a certificate of version 3.
-/

namespace Keyring.X509

open Der

/-- The version of a certificate. -/
inductive Version where
  | v1
  | v2
  | v3
  deriving DecidableEq, Repr

/-- An algorithm with its parameters. -/
structure Algorithm where
  oid : Oid
  parameters : Option Item
  deriving DecidableEq, Repr

/-- A string of bits: the count of those that do not count at its end, and the bytes. -/
structure Bits where
  unused : UInt8
  bytes : Bytes
  deriving DecidableEq, Repr

/-- A public key with its algorithm. -/
structure PublicKeyInfo where
  algorithm : Algorithm
  key : Bits
  deriving DecidableEq, Repr

/-- An extension with its encoded value. -/
structure Extension where
  id : Oid
  critical : Bool
  value : Bytes
  deriving DecidableEq, Repr

/-- A certificate; times are seconds since the start of 1970. -/
structure Certificate where
  version : Version
  serial : Bytes
  issuer : Name
  notBefore : Nat
  notAfter : Nat
  subject : Name
  publicKey : PublicKeyInfo
  extensions : List Extension
  algorithm : Algorithm
  signature : Bits
  deriving DecidableEq, Repr

/-! ### Parts -/

namespace Algorithm

/-- An algorithm as bytes. -/
def encode (a : Algorithm) : Bytes :=
  sequence (a.oid.encode :: (a.parameters.map Item.encode).toList)

/-- Reads an algorithm. -/
def decoder : Decoder Algorithm :=
  Decoder.within rules Tag.sequence do
    let oid ← Decoder.oid rules
    match ← Decoder.peek with
    | none => return ⟨oid, none⟩
    | some _ => return ⟨oid, some (← Decoder.item rules)⟩

end Algorithm

namespace Bits

/-- The bits of a content: at most seven of the last byte do not count. -/
def ofContent? : Bytes → Option Bits
  | [] => none
  | unused :: bytes => if 7 < unused ∨ unused ≠ 0 ∧ bytes = [] then none else some ⟨unused, bytes⟩

/-- A string of bits under its own tag. -/
def encode (b : Bits) : Bytes := tagged Tag.bitString (b.unused :: b.bytes)

/-- Reads a string of bits under a tag. -/
def decoder (tag : UInt8) : Decoder Bits := do
  match ofContent? (← Decoder.content rules tag) with
  | some b => return b
  | none => failure

end Bits

namespace PublicKeyInfo

/-- A public key as bytes. -/
def encode (k : PublicKeyInfo) : Bytes := sequence [k.algorithm.encode, k.key.encode]

/-- Reads a public key. -/
def decoder : Decoder PublicKeyInfo :=
  Decoder.within rules Tag.sequence do return ⟨← Algorithm.decoder, ← Bits.decoder Tag.bitString⟩

end PublicKeyInfo

namespace Extension

/-- An extension as bytes. -/
def encode (e : Extension) : Bytes :=
  sequence <| e.id.encode ::
    (if e.critical then [tagged Tag.boolean [0xff]] else []) ++ [octetString e.value]

/-- Reads an extension. -/
def decoder : Decoder Extension :=
  Decoder.within rules Tag.sequence do
    let id ← Decoder.oid rules
    let critical ←
      match ← Decoder.content? rules Tag.boolean with
      | none | some [0x00] => pure false
      | some [0xff] => pure true
      | some _ => failure
    return ⟨id, critical, ← Decoder.content rules Tag.octetString⟩

end Extension

/-! ### Times -/

namespace Time

open Calendar

/-- The number of a run of decimal digits. -/
def number? (digits : Bytes) : Option Nat :=
  if digits.all fun b => 0x30 ≤ b && b ≤ 0x39 then
    some (digits.foldl (fun n b => n * 10 + (b - 0x30).toNat) 0)
  else none

/-- The numbers of pairs of digits. -/
def pairs? : Bytes → Option (List Nat)
  | [] => some []
  | a :: b :: rest => do return (← number? [a, b]) :: (← pairs? rest)
  | [_] => none

/-- The point in time of pairs of digits behind a year. -/
def ofPairs? (year : Nat) : List Nat → Option Nat
  | [month, day, hour, minute, second] =>
    let d : Date := ⟨year, month, day, hour, minute, second⟩
    if d.isValid then some d.toSeconds else none
  | _ => none

/-- The point in time of a text that ends in a letter for the time zone. -/
def ofText? (tag : UInt8) (text : Bytes) : Option Nat :=
  if text.getLast? ≠ some 0x5a then none
  else
    match pairs? text.dropLast with
    | some (y :: z :: rest) =>
      if tag = Tag.utcTime then ofPairs? (if 50 ≤ y then 1900 + y else 2000 + y) (z :: rest)
      else if tag = Tag.generalizedTime then ofPairs? (y * 100 + z) rest
      else none
    | _ => none

/-- Reads a point in time. -/
def decoder : Decoder Nat := do
  let i ← Decoder.item rules
  match ofText? i.tag i.content with
  | some seconds => return seconds
  | none => failure

/-- Two decimal digits. -/
def twoDigits (n : Nat) : Bytes := [UInt8.ofNat (0x30 + n / 10 % 10), UInt8.ofNat (0x30 + n % 10)]

/-- A point in time as bytes, the year with two digits up to 2049. -/
def encode (seconds : Nat) : Bytes :=
  let d := Date.ofSeconds seconds
  let rest := [d.month, d.day, d.hour, d.minute, d.second].flatMap twoDigits ++ [0x5a]
  if d.year < 2050 then tagged Tag.utcTime (twoDigits (d.year % 100) ++ rest)
  else tagged Tag.generalizedTime (twoDigits (d.year / 100) ++ twoDigits (d.year % 100) ++ rest)

end Time

/-! ### Whole certificates -/

namespace Certificate

/-- Passes items with contextual tags of smaller numbers than the given one. -/
def skipContextual (number : UInt8) : Decoder Unit := do go (← get).length
where
  /-- At most `fuel` items. -/
  go : (fuel : Nat) → Decoder Unit
    | 0 => return
    | fuel + 1 => do
      match ← Decoder.peek with
      | none => return
      | some tag =>
        if Tag.isContextual tag ∧ Tag.number tag < number then
          discard (Decoder.item rules)
          go fuel

/-- The next part with a contextual tag of the given number, if there is one. -/
def contextual (number : UInt8) {α : Type} (part : Decoder α) : Decoder (Option α) := do
  skipContextual number
  match ← Decoder.peek with
  | none => return none
  | some tag =>
    if Tag.isContextual tag ∧ Tag.number tag = number then some <$> part else return none

/-- Reads a version, which is the first one if missing. -/
def versionDecoder : Decoder Version := do
  let version ← contextual 0 (Decoder.within rules (Tag.explicit 0) (Decoder.natural rules))
  match version with
  | none | some 0 => return .v1
  | some 1 => return .v2
  | some 2 => return .v3
  | some _ => failure

/-- Whether a content is an integer in the fewest bytes. -/
def isMinimalInteger : Bytes → Bool
  | [] => false
  | [_] => true
  | a :: b :: _ => !((a == 0 && b < 0x80) || (a == 0xff && 0x80 ≤ b))

/-- The most bytes of a serial number. -/
def maxSerialLength : Nat := 21

/-- Reads a serial number, of either sign. -/
def serialDecoder : Decoder Bytes := do
  let serial ← Decoder.content rules Tag.integer
  if isMinimalInteger serial ∧ serial.length ≤ maxSerialLength then return serial else failure

/-- Reads a certificate up to its outer algorithm, which with the signature is taken from outside.
Unique identifiers are read over, and the inner algorithm need not be the outer one. -/
def bodyDecoder : Decoder (Algorithm → Bits → Certificate) :=
  Decoder.within rules Tag.sequence do
    let version ← versionDecoder
    let serial ← serialDecoder
    discard Algorithm.decoder
    let issuer ← Name.decoder
    let (notBefore, notAfter) ←
      Decoder.within rules Tag.sequence do return (← Time.decoder, ← Time.decoder)
    let subject ← Name.decoder
    let publicKey ← PublicKeyInfo.decoder
    discard (contextual 1 (Bits.decoder (Tag.implicit 1)))
    discard (contextual 2 (Bits.decoder (Tag.implicit 2)))
    let extensions ← contextual 3 <| Decoder.within rules (Tag.explicit 3) <|
      Decoder.within rules Tag.sequence (Decoder.many Extension.decoder)
    return fun algorithm signature =>
      ⟨version, serial, issuer, notBefore, notAfter, subject, publicKey, extensions.getD [],
        algorithm, signature⟩

/-- The certificate that a byte string encodes. -/
def decode? (bs : Bytes) : Option Certificate :=
  Decoder.whole
    (Decoder.within rules Tag.sequence do
      return (← bodyDecoder) (← Algorithm.decoder) (← Bits.decoder Tag.bitString))
    bs

theorem decode?_nil : decode? [] = none := rfl

/-- What the signature of a certificate covers. -/
def encodeBody (c : Certificate) : Bytes :=
  sequence
    [tagged (Tag.explicit 0) (natural 2), tagged Tag.integer c.serial, c.algorithm.encode,
      c.issuer.encode, sequence [Time.encode c.notBefore, Time.encode c.notAfter],
      c.subject.encode, c.publicKey.encode,
      tagged (Tag.explicit 3) (sequence (c.extensions.map Extension.encode))]

/-- A certificate of version 3 as bytes. -/
def encode (c : Certificate) : Bytes :=
  sequence [c.encodeBody, c.algorithm.encode, c.signature.encode]

end Certificate

end Keyring.X509

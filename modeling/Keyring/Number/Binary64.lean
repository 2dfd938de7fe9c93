/-!
# Binary floating-point magnitudes

The finite magnitudes of IEEE 754 double precision in exact arithmetic: rounding a quotient to the
nearest magnitude, reading a decimal significand and exponent, and the shortest decimal text that
rounds back to the magnitude.
-/

namespace Keyring.Number

/-- The magnitude `mantissa * 2 ^ exponent`, with a mantissa below `2 ^ 53` that is at least
`2 ^ 52` unless the exponent is the least one. -/
structure Binary64 where
  mantissa : Nat
  exponent : Int
  deriving DecidableEq, Repr

namespace Binary64

/-- The least exponent. -/
def minExponent : Int := -1074

/-- Zero. -/
def zero : Binary64 := ⟨0, minExponent⟩

/-- `num * 2 ^ shift` as a quotient of natural numbers. -/
def scaled (num den : Nat) (shift : Int) : Nat × Nat :=
  if 0 ≤ shift then (num <<< shift.toNat, den) else (num, den <<< (-shift).toNat)

/-- The quotient rounded to the nearest magnitude, a tie to the even mantissa; nothing if that is
too large. -/
def ofQuotient? (num den : Nat) : Option Binary64 :=
  if num = 0 ∨ den = 0 then some zero
  else
    let low : Int := max minExponent ((Nat.log2 num : Int) - Nat.log2 den - 53)
    let q (e : Int) := let s := scaled num den (-e); s.1 / s.2
    let e := if 1 <<< 53 ≤ q low then low + 1 else low
    let s := scaled num den (-e)
    let floor := s.1 / s.2
    let rest := 2 * (s.1 % s.2)
    let m := if rest < s.2 ∨ (rest = s.2 ∧ floor % 2 = 0) then floor else floor + 1
    let x : Binary64 := if m = 1 <<< 53 then ⟨1 <<< 52, e + 1⟩ else ⟨m, e⟩
    if x.exponent > 971 then none else some x

/-- The magnitude as a quotient of natural numbers. -/
def quotient (x : Binary64) : Nat × Nat := scaled x.mantissa 1 x.exponent

/-- The magnitude nearest to a power of ten. -/
def powerOfTen (n : Nat) : Binary64 := (ofQuotient? (Nat.pow 10 n) 1).getD zero

/-- Product, rounded. -/
def mul? (x y : Binary64) : Option Binary64 :=
  ofQuotient? (x.quotient.1 * y.quotient.1) (x.quotient.2 * y.quotient.2)

/-- Quotient, rounded; it cannot be too large when `y` is at least one. -/
def div (x y : Binary64) : Binary64 :=
  (ofQuotient? (x.quotient.1 * y.quotient.2) (x.quotient.2 * y.quotient.1)).getD zero

/-- Scales a magnitude by a power of ten in steps of at most `10 ^ 308`, rounding each; nothing if
the result is too large. Four steps down reach zero from any magnitude. -/
def scaleByTen? (x : Binary64) (exponent : Int) : (steps : Nat) → Option Binary64
  | 0 => some zero
  | steps + 1 =>
    if exponent.natAbs ≤ 308 then
      let power := powerOfTen exponent.natAbs
      if 0 ≤ exponent then x.mul? power else some (x.div power)
    else if x.mantissa = 0 then some zero
    else if 0 ≤ exponent then none
    else (x.div (powerOfTen 308)).scaleByTen? (exponent + 308) steps

/-- Reads `significand * 10 ^ exponent`. -/
def ofDecimal? (significand : Nat) (exponent : Int) : Option Binary64 :=
  (ofQuotient? significand 1).bind fun x => x.scaleByTen? exponent 5

/-! ### Shortest text -/

/-- Whether `digits * 10 ^ power` rounds to the magnitude. -/
def covers (x : Binary64) (digits : Nat) (power : Int) : Bool :=
  let point :=
    if 0 ≤ power then (digits * Nat.pow 10 power.toNat, 1)
    else (digits, Nat.pow 10 (-power).toNat)
  let below := if x.mantissa = 1 <<< 52 ∧ x.exponent ≠ minExponent then 1 else 2
  let low := scaled (4 * x.mantissa - below) 4 x.exponent
  let high := scaled (4 * x.mantissa + 2) 4 x.exponent
  let even := x.mantissa % 2 = 0
  let atLeast := low.1 * point.2 < point.1 * low.2 ∨ (even ∧ low.1 * point.2 = point.1 * low.2)
  let atMost := point.1 * high.2 < high.1 * point.2 ∨ (even ∧ point.1 * high.2 = high.1 * point.2)
  decide (atLeast ∧ atMost)

/-- The multiple of `10 ^ power` nearest to the magnitude among its two neighbours that round to
it, counted in that unit. -/
def onGrid? (x : Binary64) (power : Int) : Option Nat :=
  let q := x.quotient
  let s := if 0 ≤ power then (q.1, q.2 * Nat.pow 10 power.toNat)
    else (q.1 * Nat.pow 10 (-power).toNat, q.2)
  let floor := s.1 / s.2
  let nearer := if 2 * (s.1 % s.2) ≤ s.2 then (floor, floor + 1) else (floor + 1, floor)
  if x.covers nearer.1 power then some nearer.1
  else if x.covers nearer.2 power then some nearer.2
  else none

/-- Searches ever finer grids. -/
def search (x : Binary64) (power : Int) : (fuel : Nat) → Nat × Int
  | 0 => (0, 0)
  | fuel + 1 =>
    match x.onGrid? power with
    | some n => if n = 0 then x.search (power - 1) fuel else (n, power)
    | none => x.search (power - 1) fuel

/-- The shortest digits and the power of ten of the last one, without trailing zeros. -/
def shortest (x : Binary64) : Nat × Int :=
  if x.mantissa = 0 then (0, 0) else x.search 309 660

/-- The shortest text: positional while the point falls within sixteen digits or four zeros after
it, else with an exponent. -/
def text (x : Binary64) : String :=
  let (n, power) := x.shortest
  let digits := Nat.toDigits 10 n
  let len : Int := digits.length
  let point := len + power
  let zeros (k : Int) := List.replicate k.toNat '0'
  let body : List Char :=
    if n = 0 then "0.0".toList
    else if 0 ≤ power ∧ point ≤ 16 then digits ++ zeros power ++ ".0".toList
    else if 0 < point ∧ point ≤ 16 then
      digits.take point.toNat ++ '.' :: digits.drop point.toNat
    else if -5 < point ∧ point ≤ 0 then "0.".toList ++ zeros (-point) ++ digits
    else
      digits.take 1 ++ (if digits.length = 1 then [] else '.' :: digits.drop 1) ++ 'e' ::
        (toString (point - 1)).toList
  String.ofList body

end Binary64

end Keyring.Number

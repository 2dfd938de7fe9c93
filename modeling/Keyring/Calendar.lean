import Keyring.Bytes

/-!
# Calendar

Points in time as seconds since the start of 1970, without leap seconds, and their dates in the
Gregorian calendar.
-/

namespace Keyring.Calendar

/-- A date and a time of day. -/
structure Date where
  year : Nat
  month : Nat
  day : Nat
  hour : Nat
  minute : Nat
  second : Nat
  deriving DecidableEq, Repr

/-- Whether a year has a day more. -/
def isLeap (year : Nat) : Bool := year % 4 == 0 && (year % 100 != 0 || year % 400 == 0)

/-- The days of a month. -/
def daysInMonth (year month : Nat) : Nat :=
  if month = 2 then if isLeap year then 29 else 28
  else if month = 4 ∨ month = 6 ∨ month = 9 ∨ month = 11 then 30
  else 31

/-- The days before a year, counted from the start of the year 1. -/
def daysBeforeYear (year : Nat) : Nat :=
  let y := year - 1
  365 * y + y / 4 - y / 100 + y / 400

/-- The days of a year before a month. -/
def daysBeforeMonth (year month : Nat) : Nat :=
  ((List.range (month - 1)).map fun i => daysInMonth year (i + 1)).foldl (· + ·) 0

/-- The seconds of a day. -/
def secondsPerDay : Nat := 86400

namespace Date

/-- Whether there is such a date, from 1970 on. -/
def isValid (d : Date) : Bool :=
  1970 ≤ d.year && 1 ≤ d.month && d.month ≤ 12 && 1 ≤ d.day && d.day ≤ daysInMonth d.year d.month &&
    d.hour ≤ 23 && d.minute ≤ 59 && d.second ≤ 59

/-- The seconds from the start of 1970 to a date. -/
def toSeconds (d : Date) : Nat :=
  let days := daysBeforeYear d.year - daysBeforeYear 1970 + daysBeforeMonth d.year d.month + d.day - 1
  ((days * 24 + d.hour) * 60 + d.minute) * 60 + d.second

/-- The month and the day of a day within its year, looked for from a month on. -/
def monthDay (year : Nat) : (fuel month day : Nat) → Nat × Nat
  | 0, month, day => (month, day + 1)
  | fuel + 1, month, day =>
    if day < daysInMonth year month then (month, day + 1)
    else monthDay year fuel (month + 1) (day - daysInMonth year month)

/-- The date of a point in time. -/
def ofSeconds (seconds : Nat) : Date :=
  let days := seconds / secondsPerDay + daysBeforeYear 1970
  let guess := days * 400 / 146097 + 1
  let year := if days < daysBeforeYear guess then guess - 1
    else if daysBeforeYear (guess + 1) ≤ days then guess + 1 else guess
  let (month, day) := monthDay year 11 1 (days - daysBeforeYear year)
  let time := seconds % secondsPerDay
  ⟨year, month, day, time / 3600, time / 60 % 60, time % 60⟩

end Date

/-! ### Representable points in time -/

/-- The first representable second: the start of the year -9999, twenty-five times four hundred years
before the year 1. -/
def firstSecond : Int := -((25 * 146097 + daysBeforeYear 1970) * secondsPerDay)

/-- The last representable second: the end of the year 9999. -/
def lastSecond : Nat := (Date.mk 9999 12 31 23 59 59).toSeconds

example : firstSecond = -377705116800 ∧ lastSecond = 253402300799 := by decide

theorem firstSecond_le_zero : firstSecond ≤ 0 := by decide

/-- A representable point in time. -/
structure Moment where
  /-- The seconds since the start of 1970, less than none before. -/
  seconds : Int
  first_le : firstSecond ≤ seconds
  le_last : seconds ≤ lastSecond
  deriving DecidableEq

namespace Moment

@[ext] theorem ext {m n : Moment} (h : m.seconds = n.seconds) : m = n := by
  cases m
  cases n
  cases h
  rfl

/-- The moment that a clock shows which counts from the start of 1970, unless it is behind the last
one. -/
def ofClock? (seconds : Nat) : Option Moment :=
  if h : seconds ≤ lastSecond then
    some ⟨seconds, Int.le_trans firstSecond_le_zero (Int.natCast_nonneg seconds), Int.ofNat_le.2 h⟩
  else none

/-- The moment some days after another, unless it is behind the last one. -/
def addDays? (m : Moment) (days : Nat) : Option Moment :=
  if h : m.seconds + (days * secondsPerDay : Nat) ≤ lastSecond then
    some ⟨m.seconds + (days * secondsPerDay : Nat),
      Int.le_trans m.first_le (Int.le_add_of_nonneg_right (Int.natCast_nonneg _)), h⟩
  else none

theorem ofClock?_eq_some_iff {seconds : Nat} {m : Moment} :
    ofClock? seconds = some m ↔ m.seconds = seconds := by
  rw [ofClock?]
  split
  · rw [Option.some.injEq, Moment.ext_iff, eq_comm]
  · rename_i h
    have hlast := m.le_last
    simp only [reduceCtorEq, false_iff]
    omega

theorem ofClock?_eq_none_iff {seconds : Nat} : ofClock? seconds = none ↔ lastSecond < seconds := by
  rw [ofClock?]
  split
  · simp only [reduceCtorEq, false_iff]
    omega
  · simp only [true_iff]
    omega

theorem addDays?_eq_some_iff {m n : Moment} {days : Nat} :
    m.addDays? days = some n ↔ n.seconds = m.seconds + (days * secondsPerDay : Nat) := by
  rw [addDays?]
  split
  · rw [Option.some.injEq, Moment.ext_iff, eq_comm]
  · rename_i h
    have hlast := n.le_last
    simp only [reduceCtorEq, false_iff]
    omega

theorem exists_addDays?_iff {m : Moment} {days : Nat} :
    (∃ n, m.addDays? days = some n) ↔ m.seconds + (days * secondsPerDay : Nat) ≤ lastSecond := by
  rw [addDays?]
  split
  · rename_i h
    simpa using h
  · rename_i h
    simpa using h

end Moment

end Keyring.Calendar

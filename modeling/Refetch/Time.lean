/-
# Lengths of time and points in time, to the nanosecond

A `Duration` is what 64 bit seconds and a fraction can hold and is never negative. An `Instant`
counts nanoseconds from the start of 1970, and the distance between two of them is an integer of
either sign.
-/

namespace Refetch

/-- A length of time. -/
structure Duration where
  nanos : Nat
  bounded : nanos < UInt64.size * 1000000000 := by decide
  deriving DecidableEq

namespace Duration

/-- No time at all. -/
def zero : Duration := { nanos := 0 }

instance : Inhabited Duration := ⟨zero⟩

instance : Repr Duration := ⟨fun d n => reprPrec d.nanos n⟩

/-- The length with that many nanoseconds, if it is not too long. -/
def ofNanos? (nanos : Nat) : Option Duration :=
  if h : nanos < UInt64.size * 1000000000 then some { nanos, bounded := h } else none

/-- The length made of whole seconds and nanoseconds, if it is not too long. -/
def make? (secs nanos : Nat) : Option Duration := ofNanos? (secs * 1000000000 + nanos)

/-- Whole milliseconds that fit 64 bits. -/
def ofMillis (ms : UInt64) : Duration where
  nanos := ms.toNat * 1000000
  bounded := by
    have : ms.toNat < UInt64.size := ms.toNat_lt
    omega

/-- The whole seconds. -/
def secs (d : Duration) : Nat := d.nanos / 1000000000

/-- The nanoseconds below a whole second. -/
def subsecNanos (d : Duration) : Nat := d.nanos % 1000000000

/-- Whole milliseconds, a part of one counted as one. -/
def ceilMillis (d : Duration) : Nat := (d.nanos + 999999) / 1000000

/-- The longer of two lengths. -/
def longer (a b : Duration) : Duration := if a.nanos ≤ b.nanos then b else a

/-- The digits of a fraction that has the given number of places, without zeros at the end. -/
def fractionDigits (places fraction : Nat) : List Char :=
  let digits := Nat.toDigits 10 fraction
  let padded := List.replicate (places - digits.length) '0' ++ digits
  (padded.reverse.dropWhile (· == '0')).reverse

/-- A whole number of units and a fraction with the given number of places. -/
def inUnit (places whole fraction : Nat) (unit : String) : String :=
  if fraction = 0 then s!"{whole}{unit}"
  else s!"{whole}.{String.ofList (fractionDigits places fraction)}{unit}"

/-- The text in the largest unit of which there is one: seconds, milli-, micro- or nanoseconds. -/
def text (d : Duration) : String :=
  if 1000000000 ≤ d.nanos then inUnit 9 d.secs d.subsecNanos "s"
  else if 1000000 ≤ d.nanos then inUnit 6 (d.nanos / 1000000) (d.nanos % 1000000) "ms"
  else if 1000 ≤ d.nanos then inUnit 3 (d.nanos / 1000) (d.nanos % 1000) "µs"
  else s!"{d.nanos}ns"

end Duration

/-- A point in time, in nanoseconds from the start of 1970. -/
structure Instant where
  nanos : Int
  deriving DecidableEq, Repr, Inhabited

namespace Instant

/-- The nanoseconds from one point in time to a later one; negative to an earlier one. -/
def since (at_ last : Instant) : Int := at_.nanos - last.nanos

/-- The point in time a number of microseconds later. -/
def addMicros (i : Instant) (us : Int) : Instant := ⟨i.nanos + us * 1000⟩

/-- The point in time a number of whole seconds after the start of 1970. -/
def ofSeconds (secs : Int) : Instant := ⟨secs * 1000000000⟩

/-- The whole seconds from the start of 1970. -/
def seconds (i : Instant) : Int := i.nanos.fdiv 1000000000

/-- Year, month and day of a day counted from the start of 1970. Years are counted from March, so
that the leap day ends a year, in cycles of 400 years of 146097 days. -/
def civilOfDays (days : Int) : Int × Nat × Nat :=
  let shifted := days + 719468
  let cycle := shifted.fdiv 146097
  let dayOfCycle := (shifted.fmod 146097).toNat
  let yearOfCycle :=
    (dayOfCycle - dayOfCycle / 1460 + dayOfCycle / 36524 - dayOfCycle / 146096) / 365
  let dayOfYear := dayOfCycle - (365 * yearOfCycle + yearOfCycle / 4 - yearOfCycle / 100)
  let monthFromMarch := (5 * dayOfYear + 2) / 153
  let day := dayOfYear - (153 * monthFromMarch + 2) / 5 + 1
  let month := if monthFromMarch < 10 then monthFromMarch + 3 else monthFromMarch - 9
  let year := (yearOfCycle : Int) + cycle * 400 + (if month ≤ 2 then 1 else 0)
  (year, month, day)

/-- A natural with at least the given number of digits. -/
def padded (width n : Nat) : String :=
  let digits := Nat.toDigits 10 n
  String.ofList (List.replicate (width - digits.length) '0' ++ digits)

/-- A year with four digits; one that has not four digits carries its sign. -/
def yearText (year : Int) : String :=
  if 0 ≤ year ∧ year ≤ 9999 then padded 4 year.toNat
  else if year < 0 then "-" ++ padded 4 (-year).toNat
  else "+" ++ padded 4 year.toNat

/-- The fraction of a second with three, six or nine places, the fewest that lose nothing. -/
def fractionText (nanos : Nat) : String :=
  if nanos = 0 then ""
  else if nanos % 1000000 = 0 then "." ++ padded 3 (nanos / 1000000)
  else if nanos % 1000 = 0 then "." ++ padded 6 (nanos / 1000)
  else "." ++ padded 9 nanos

/-- Date and time of day in universal time, `2024-01-01T00:00:00Z`. -/
def text (i : Instant) : String :=
  let (year, month, day) := civilOfDays (i.seconds.fdiv 86400)
  let second := (i.seconds.fmod 86400).toNat
  let date := s!"{yearText year}-{padded 2 month}-{padded 2 day}"
  let time := s!"{padded 2 (second / 3600)}:{padded 2 (second / 60 % 60)}:{padded 2 (second % 60)}"
  s!"{date}T{time}{fractionText (i.nanos.fmod 1000000000).toNat}Z"

end Instant

end Refetch

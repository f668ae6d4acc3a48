/-
BearerTokens.Time.Calendar — days as dates of the Gregorian calendar.

A day is counted from 1970-01-01. The conversion counts years from March, so
that the leap day is the last of its year and the months before a given one
have a length that is linear in the month.
-/
namespace BearerTokens.Time

/-- A date. -/
structure Date where
  year : Int
  month : Nat
  day : Nat
deriving DecidableEq, Repr

/-- The days before the given month of a year that starts in March. -/
def daysBeforeMonth (m : Nat) : Nat := (153 * m + 2) / 5

/-- The days in one turn of the calendar, 400 years. -/
def daysPerEra : Int := 146097

/-- The number of days from 1970-01-01 to a date. -/
def Date.toDays (d : Date) : Int :=
  let y := if d.month ≤ 2 then d.year - 1 else d.year
  let era := Int.fdiv y 400
  let yearOfEra := y - era * 400
  let month := (d.month + 9) % 12
  let dayOfYear : Int := daysBeforeMonth month + d.day - 1
  let dayOfEra := yearOfEra * 365 + Int.fdiv yearOfEra 4 - Int.fdiv yearOfEra 100 + dayOfYear
  era * daysPerEra + dayOfEra - 719468

/-- The date of a day. -/
def Date.ofDays (days : Int) : Date :=
  let z := days + 719468
  let era := Int.fdiv z daysPerEra
  let dayOfEra := (z - era * daysPerEra).toNat
  let yearOfEra := (dayOfEra - dayOfEra / 1460 + dayOfEra / 36524 - dayOfEra / 146096) / 365
  let dayOfYear := dayOfEra - (365 * yearOfEra + yearOfEra / 4 - yearOfEra / 100)
  let m := (5 * dayOfYear + 2) / 153
  let day := dayOfYear - daysBeforeMonth m + 1
  let month := if m < 10 then m + 3 else m - 9
  let y : Int := yearOfEra + era * 400
  ⟨if month ≤ 2 then y + 1 else y, month, day⟩

end BearerTokens.Time

/-!
The proleptic Gregorian calendar: days counted from 1970-01-01, and back.

Years are counted from March, so that a leap day is the last day of its year, and in eras of 400
years, which all have the same number of days.
-/

namespace RouterMetrics

/-- A calendar date, not necessarily one that exists. -/
structure CivilDate where
  year : Int
  month : Nat
  day : Nat
deriving Repr, DecidableEq

namespace CivilDate

/-- A year with a 29th of February. -/
def isLeapYear (y : Int) : Bool := y % 4 == 0 && (y % 100 != 0 || y % 400 == 0)

/-- The number of days of a month. -/
def daysInMonth (y : Int) (m : Nat) : Nat :=
  if m == 2 then if isLeapYear y then 29 else 28
  else if m == 4 || m == 6 || m == 9 || m == 11 then 30
  else 31

/-- The years the calendar is kept for. -/
def yearRange : Int × Int := (-262143, 262142)

/-- A date that exists in a year the calendar is kept for. -/
def isValid (d : CivilDate) : Bool :=
  yearRange.1 ≤ d.year && d.year ≤ yearRange.2 && 1 ≤ d.month && d.month ≤ 12 && 1 ≤ d.day &&
    d.day ≤ daysInMonth d.year d.month

/-- The days from 1970-01-01 to a date. -/
def toDays (d : CivilDate) : Int :=
  let y : Int := if d.month ≤ 2 then d.year - 1 else d.year
  let era := y / 400
  let yearOfEra := y % 400
  let monthFromMarch : Int := (d.month + 9) % 12
  let dayOfYear : Int := (153 * monthFromMarch + 2) / 5 + d.day - 1
  let dayOfEra := yearOfEra * 365 + yearOfEra / 4 - yearOfEra / 100 + dayOfYear
  era * 146097 + dayOfEra - 719468

/-- The date a number of days after 1970-01-01. -/
def ofDays (days : Int) : CivilDate :=
  let z := days + 719468
  let era := z / 146097
  let dayOfEra := z % 146097
  let yearOfEra := (dayOfEra - dayOfEra / 1460 + dayOfEra / 36524 - dayOfEra / 146096) / 365
  let dayOfYear := dayOfEra - (365 * yearOfEra + yearOfEra / 4 - yearOfEra / 100)
  let monthFromMarch := (5 * dayOfYear + 2) / 153
  let day := dayOfYear - (153 * monthFromMarch + 2) / 5 + 1
  let month := if monthFromMarch < 10 then monthFromMarch + 3 else monthFromMarch - 9
  let year := yearOfEra + era * 400
  ⟨if month ≤ 2 then year + 1 else year, month.toNat, day.toNat⟩

end CivilDate

end RouterMetrics

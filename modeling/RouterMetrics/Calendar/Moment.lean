import RouterMetrics.Calendar
import RouterMetrics.Duration.Basic
import RouterMetrics.Text.Digit

/-!
The text of a moment: date and time in UTC, with as many thousandths, millionths or billionths of a
second as it needs.
-/

namespace RouterMetrics.Moment

/-- Nanoseconds in a day. -/
def nanosPerDay : Nat := 86400 * nanosPerSecond

/-- The start of a year. -/
def ofYear (year : Int) : Moment := CivilDate.toDays ⟨year, 1, 1⟩ * (nanosPerDay : Int)

/-- The first moment after the years the calendar is kept for. -/
def calendarEnd : Moment := ofYear (CivilDate.yearRange.2 + 1)

/-- The moment, when it has a date in the years the calendar is kept for. -/
def dated? (t : Moment) : Option Moment :=
  if ofYear CivilDate.yearRange.1 ≤ t ∧ t < calendarEnd then some t else none

/-- The moment, when a clock that starts in 1970 can show it as a date. -/
def shown? (t : Moment) : Option Moment := if 0 ≤ t ∧ t < calendarEnd then some t else none

/-- The text of a year. One that does not have four digits gets a sign. -/
def yearText (y : Int) : List Char :=
  if 0 ≤ y && y ≤ 9999 then Text.padded 4 y.toNat
  else (if y < 0 then '-' else '+') :: Text.padded 4 y.natAbs

/-- The text of a date. -/
def dateText (d : CivilDate) : List Char :=
  yearText d.year ++ '-' :: Text.padded 2 d.month ++ '-' :: Text.padded 2 d.day

/-- The text of a part of a second, in groups of three digits. -/
def fractionText (ns : Nat) : List Char :=
  if ns = 0 then []
  else if ns % 1000000 = 0 then '.' :: Text.padded 3 (ns / 1000000)
  else if ns % 1000 = 0 then '.' :: Text.padded 6 (ns / 1000)
  else '.' :: Text.padded 9 ns

/-- The text of a time of the day. -/
def clockText (ns : Nat) : List Char :=
  let seconds := ns / nanosPerSecond
  Text.padded 2 (seconds / 3600) ++ ':' :: Text.padded 2 (seconds / 60 % 60) ++
    ':' :: Text.padded 2 (seconds % 60) ++ fractionText (ns % nanosPerSecond)

/-- The text of a moment. -/
def text (t : Moment) : String :=
  let days := t / (nanosPerDay : Int)
  let rest := t % (nanosPerDay : Int)
  String.ofList (dateText (CivilDate.ofDays days) ++ 'T' :: clockText rest.toNat ++ ['Z'])

end RouterMetrics.Moment

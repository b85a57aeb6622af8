import RouterMetrics.Calendar
import RouterMetrics.Decimal.Numeral

/-!
Points in time as a device writes them: `2024-01-15 10:20:30`, `2024-01-15T10:20:30` and
`jan/15/2024 10:20:30`, all read as UTC.

A number takes as many digits as its field has places and may have white space before it. A year
takes four digits, or any number of them after a sign. Second 60 is the leap second and counts as
second 59. White space between date and time may be left out.
-/

namespace RouterMetrics.Value

/-- The values of a 64-bit signed word end below this number. -/
def signedLimit : Nat := 1 <<< 63

/-- At least one and at most `width` digits at the head of a text, `none` for as many as there
are. -/
def readDigits (width : Option Nat) (cs : List Char) : Option (Nat × List Char) :=
  let run := cs.takeWhile Char.isDigit
  let taken := match width with
    | some w => run.take w
    | none => run
  if taken.isEmpty || Text.numberOf taken ≥ signedLimit then none
  else some (Text.numberOf taken, cs.drop taken.length)

/-- A field of at most `width` digits after white space. -/
def readField (width : Nat) (cs : List Char) : Option (Nat × List Char) :=
  readDigits (some width) (Text.trimStart cs)

/-- A year after white space. -/
def readYear (cs : List Char) : Option (Int × List Char) :=
  match Text.trimStart cs with
  | '-' :: rest => (readDigits none rest).map fun (n, rest) => (-(n : Int), rest)
  | '+' :: rest => (readDigits none rest).map fun (n, rest) => ((n : Int), rest)
  | rest => (readDigits (some 4) rest).map fun (n, rest) => ((n : Int), rest)

/-- A fixed character at the head of a text. -/
def expect (c : Char) : List Char → Option (List Char)
  | [] => none
  | d :: rest => if d == c then some rest else none

/-- The short names of the months. -/
def monthNames : List String :=
  ["jan", "feb", "mar", "apr", "may", "jun", "jul", "aug", "sep", "oct", "nov", "dec"]

/-- A month's short name at the head of a text, in any case. -/
def readMonthName (cs : List Char) : Option (Nat × List Char) :=
  let name := String.ofList ((cs.take 3).map Char.toLower)
  match monthNames.idxOf? name with
  | some i => some (i + 1, cs.drop 3)
  | none => none

/-- Hour, minute and second to the end of the text, as seconds of the day. -/
def readClock (cs : List Char) : Option Nat := do
  let (hour, cs) ← readField 2 cs
  let cs ← expect ':' cs
  let (minute, cs) ← readField 2 cs
  let cs ← expect ':' cs
  let (second, cs) ← readField 2 cs
  if cs.isEmpty && hour < 24 && minute < 60 && second ≤ 60 then
    some (hour * 3600 + minute * 60 + min second 59)
  else none

/-- Year, month and day with hyphens. -/
def readDashedDate (cs : List Char) : Option (CivilDate × List Char) := do
  let (year, cs) ← readYear cs
  let cs ← expect '-' cs
  let (month, cs) ← readField 2 cs
  let cs ← expect '-' cs
  let (day, cs) ← readField 2 cs
  some (⟨year, month, day⟩, cs)

/-- Month name, day and year with slashes. -/
def readSlashedDate (cs : List Char) : Option (CivilDate × List Char) := do
  let (month, cs) ← readMonthName cs
  let cs ← expect '/' cs
  let (day, cs) ← readField 2 cs
  let cs ← expect '/' cs
  let (year, cs) ← readYear cs
  some (⟨year, month, day⟩, cs)

/-- The seconds since 1970 of a date that exists and a time of its day. -/
def secondsOf (date : CivilDate) (clock : Nat) : Option Int :=
  if date.isValid then some (date.toDays * 86400 + clock) else none

/-- The form `2024-01-15 10:20:30`. -/
def readSpaced (cs : List Char) : Option Int := do
  let (date, cs) ← readDashedDate cs
  secondsOf date (← readClock (Text.trimStart cs))

/-- The form `2024-01-15T10:20:30`. -/
def readJoined (cs : List Char) : Option Int := do
  let (date, cs) ← readDashedDate cs
  let cs ← expect 'T' cs
  secondsOf date (← readClock cs)

/-- The form `jan/15/2024 10:20:30`. -/
def readNamed (cs : List Char) : Option Int := do
  let (date, cs) ← readSlashedDate cs
  secondsOf date (← readClock (Text.trimStart cs))

/-- The whole seconds since 1970 that a text stands for, in the first of the three forms it has. -/
def unixSeconds (text : String) : Option Int :=
  let cs := Text.trim text.toList
  (readSpaced cs).orElse fun _ => (readJoined cs).orElse fun _ => readNamed cs

/-- `unixSeconds` as a double. -/
def timestamp (text : String) : Option Float := (unixSeconds text).map Decimal.ofInt

end RouterMetrics.Value

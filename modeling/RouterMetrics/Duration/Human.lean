import RouterMetrics.Duration.Basic
import RouterMetrics.Text.Digit

/-!
Durations as people write them: `1h 30m`, `1.5s`, `2days`.

A text is a sum of parts, each a whole or a decimal amount and the name of a unit; white space may
stand inside a number, around it and after a unit. A lone `0` needs no unit. A decimal amount must
come out exact: in nanoseconds for units below the hour, in seconds from the hour up; nanoseconds
themselves are whole. Amounts are words of 64 bits, also after the multiplication with their unit.

`Duration.human` writes the parts from years down to nanoseconds that are not zero.
-/

namespace RouterMetrics.Duration

/-- The units of a written duration. -/
inductive HumanUnit
  | nanosecond | microsecond | millisecond | second | minute | hour | day | week | month | year
deriving Repr, DecidableEq

namespace HumanUnit

/-- The names of a unit. -/
def names : HumanUnit → List String
  | .nanosecond => ["ns", "nsec", "nanos"]
  | .microsecond => ["us", "usec", "µs"]
  | .millisecond => ["ms", "msec", "millis"]
  | .second => ["s", "sec", "secs", "second", "seconds"]
  | .minute => ["m", "min", "mins", "minute", "minutes"]
  | .hour => ["h", "hr", "hrs", "hour", "hours"]
  | .day => ["d", "day", "days"]
  | .week => ["w", "wk", "wks", "week", "weeks"]
  | .month => ["M", "month", "months"]
  | .year => ["y", "yr", "yrs", "year", "years"]

/-- All units. -/
def all : List HumanUnit :=
  [.nanosecond, .microsecond, .millisecond, .second, .minute, .hour, .day, .week, .month, .year]

/-- The unit with a name. -/
def ofName? (name : String) : Option HumanUnit := all.find? fun u => u.names.contains name

/-- One unit in its counting unit: a number of seconds, or for the units below the second a number
of nanoseconds. A month is 30.44 days and a year 365.25 days. -/
def factor : HumanUnit → Nat
  | .nanosecond => 1
  | .microsecond => 1000
  | .millisecond => 1000000
  | .second => 1
  | .minute => 60
  | .hour => 3600
  | .day => 86400
  | .week => 604800
  | .month => 2630016
  | .year => 31557600

/-- Whether whole amounts are counted in seconds. -/
def countsSeconds : HumanUnit → Bool
  | .nanosecond | .microsecond | .millisecond => false
  | _ => true

/-- Whether decimal amounts are counted in seconds. -/
def fractionCountsSeconds : HumanUnit → Bool
  | .hour | .day | .week | .month | .year => true
  | _ => false

end HumanUnit

/-- A part of a written duration: the whole amount, the digits after the point as a fraction, and
the name of the unit. -/
structure HumanPart where
  whole : Nat
  fraction : Option (Nat × Nat)
  unit : String
deriving Repr, DecidableEq

/-- The values of a word end below this number. -/
def wordLimit : Nat := 1 <<< 64

/-- A letter that the name of a unit may have. -/
def isUnitLetter (c : Char) : Bool :=
  ('a' ≤ c && c ≤ 'z') || ('A' ≤ c && c ≤ 'Z') || c == 'µ'

/-- Digits with white space anywhere between them. -/
def spanNumber (cs : List Char) : List Char × List Char :=
  let (run, rest) := cs.span fun c => c.isDigit || Text.isBlank c
  (run.filter Char.isDigit, rest)

/-- The digits after a point as a fraction. -/
def fractionOf (digits : List Char) : Option (Nat × Nat) :=
  let n := Text.numberOf digits
  let d := Nat.pow 10 digits.length
  if digits.isEmpty || n ≥ wordLimit || d ≥ wordLimit then none else some (n, d)

/-- A part at the head of a text that starts with a digit. -/
def readHumanPart (cs : List Char) : Option (HumanPart × List Char) :=
  let (digits, rest) := spanNumber cs
  if digits.isEmpty || Text.numberOf digits ≥ wordLimit then none
  else
    let whole := Text.numberOf digits
    match rest with
    | '.' :: rest =>
      let (digits, rest) := spanNumber rest
      (fractionOf digits).map fun f =>
        let (name, rest) := rest.span isUnitLetter
        (⟨whole, some f, String.ofList name⟩, rest)
    | rest =>
      let (name, rest) := rest.span isUnitLetter
      some (⟨whole, none, String.ofList name⟩, rest)

/-- The parts of a text, with white space before, between and after them. Every part takes a
character, so as many steps as characters suffice. -/
def readHumanParts : Nat → List Char → Option (List HumanPart)
  | 0, _ => none
  | fuel + 1, cs =>
    match Text.trimStart cs with
    | [] => some []
    | c :: cs =>
      if c.isDigit then do
        let (p, rest) ← readHumanPart (c :: cs)
        let ps ← readHumanParts fuel rest
        some (p :: ps)
      else none

/-- An amount in its counting unit: whole seconds, or nanoseconds. -/
structure HumanAmount where
  seconds : Nat
  nanos : Nat

/-- A number of counting units. It must be a word. -/
def HumanAmount.of? (inSeconds : Bool) (n : Nat) : Option HumanAmount :=
  if n ≥ wordLimit then none else some (if inSeconds then ⟨n, 0⟩ else ⟨0, n⟩)

/-- A whole amount of a unit. -/
def wholeAmount (u : HumanUnit) (n : Nat) : Option HumanAmount :=
  HumanAmount.of? u.countsSeconds (n * u.factor)

/-- A decimal fraction of a unit, when it comes out exact. A nanosecond has none. -/
def fractionAmount (u : HumanUnit) (f : Nat × Nat) : Option HumanAmount :=
  let perUnit :=
    if u.countsSeconds && !u.fractionCountsSeconds then u.factor * nanosPerSecond else u.factor
  let n := f.1 * perUnit
  if u == .nanosecond || n ≥ wordLimit || n % f.2 != 0 then none
  else HumanAmount.of? u.fractionCountsSeconds (n / f.2)

/-- The amounts of a part. -/
def HumanPart.amounts (p : HumanPart) : Option (List HumanAmount) := do
  let u ← HumanUnit.ofName? p.unit
  let whole ← wholeAmount u p.whole
  match p.fraction with
  | none => some [whole]
  | some f => return [whole, ← fractionAmount u f]

/-- A duration and one more amount. Its nanoseconds must be a word together with those that the
duration has beyond its whole seconds. -/
def add? (d : Duration) (a : HumanAmount) : Option Duration :=
  if d.subsecond + a.nanos ≥ wordLimit then none
  else ofNs? (d.ns + a.seconds * nanosPerSecond + a.nanos)

/-- The duration a text writes. -/
def ofHuman? (text : String) : Option Duration :=
  let cs := text.toList
  if text == "0" then some zero
  else do
    let parts ← readHumanParts (cs.length + 1) cs
    if parts.isEmpty then none
    else
      let amounts ← parts.mapM HumanPart.amounts
      amounts.flatten.foldlM add? zero

/-- A part of a written duration, nothing for zero. -/
def humanItem (n : Nat) (unit : String) : List String :=
  if n == 0 then [] else [toString n ++ unit]

/-- A part whose unit takes an `s` above one. -/
def humanPlural (n : Nat) (unit : String) : List String :=
  humanItem n (if n > 1 then unit ++ "s" else unit)

/-- The written form of a duration, from years down to nanoseconds. -/
def human (d : Duration) : String :=
  let s := d.seconds
  let inYear := s % HumanUnit.year.factor
  let inMonth := inYear % HumanUnit.month.factor
  let inDay := inMonth % HumanUnit.day.factor
  let ns := d.subsecond
  let parts :=
    humanPlural (s / HumanUnit.year.factor) "year" ++
    humanPlural (inYear / HumanUnit.month.factor) "month" ++
    humanPlural (inMonth / HumanUnit.day.factor) "day" ++
    humanItem (inDay / 3600) "h" ++
    humanItem (inDay % 3600 / 60) "m" ++
    humanItem (inDay % 60) "s" ++
    humanItem (ns / 1000000) "ms" ++
    humanItem (ns / 1000 % 1000) "us" ++
    humanItem (ns % 1000) "ns"
  if parts.isEmpty then "0s" else " ".intercalate parts

end RouterMetrics.Duration

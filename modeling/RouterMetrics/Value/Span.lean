import RouterMetrics.Decimal.Numeral

/-!
Lengths of time as a device writes them, such as `1w2d3h4m5s6ms7us`: amounts with units, one after
the other. Reading stops where no amount with a unit follows.
-/

namespace RouterMetrics.Value

/-- The units of a written length of time. -/
inductive SpanUnit
  | week | day | hour | minute | second | millisecond | microsecond
deriving Repr, DecidableEq

namespace SpanUnit

/-- The seconds in one unit. -/
def seconds : SpanUnit → Float
  | .week => 604800.0
  | .day => 86400.0
  | .hour => 3600.0
  | .minute => 60.0
  | .second => 1.0
  | .millisecond => Decimal.nearest 1 (-3)
  | .microsecond => Decimal.nearest 1 (-6)

/-- A unit at the head of a text. The two-letter units go before the one-letter units that they
start with. -/
def read : List Char → Option (SpanUnit × List Char)
  | 'm' :: 's' :: cs => some (.millisecond, cs)
  | 'u' :: 's' :: cs => some (.microsecond, cs)
  | 'w' :: cs => some (.week, cs)
  | 'd' :: cs => some (.day, cs)
  | 'h' :: cs => some (.hour, cs)
  | 'm' :: cs => some (.minute, cs)
  | 's' :: cs => some (.second, cs)
  | _ => none

end SpanUnit

/-- An amount of a unit. The amount is kept as it is written, in digits of any script. -/
structure SpanPart where
  amount : List Char
  unit : SpanUnit
deriving Repr, DecidableEq

/-- The seconds of a part. Only ASCII digits count; an amount with other digits counts as zero. -/
def SpanPart.seconds (p : SpanPart) : Float :=
  (Decimal.readNumber p.amount).getD 0.0 * p.unit.seconds

/-- A part at the head of a text. -/
def readPart (cs : List Char) : Option (SpanPart × List Char) :=
  let (amount, rest) := cs.span Text.isDigit
  if amount.isEmpty then none
  else (SpanUnit.read rest).map fun (unit, rest) => (⟨amount, unit⟩, rest)

/-- The parts at the head of a text. Every part takes at least two characters, so as many steps as
there are characters suffice. -/
def readParts : Nat → List Char → List SpanPart
  | 0, _ => []
  | fuel + 1, cs =>
    match readPart cs with
    | none => []
    | some (p, rest) => p :: readParts fuel rest

/-- The parts a text starts with, after white space. -/
def spanParts (text : String) : List SpanPart :=
  let cs := Text.trim text.toList
  readParts cs.length cs

/-- The sum of the parts in seconds, from left to right. -/
def sumSeconds (parts : List SpanPart) : Float := parts.foldl (fun s p => s + p.seconds) 0.0

/-- The seconds of a written length of time. Zero when the text does not start with a part. -/
def spanSeconds (text : String) : Float := sumSeconds (spanParts text)

end RouterMetrics.Value

import RouterMetrics.Duration.Basic
import RouterMetrics.Text.Digit

/-!
The short text of a duration: one exact decimal number, of the largest unit that it has at least one
of.
-/

namespace RouterMetrics.Duration

/-- The units from the largest. One with `n` decimal places has `10 ^ n` nanoseconds. -/
def shortUnits : List (String × Nat) := [("s", 9), ("ms", 6), ("µs", 3)]

/-- A number of nanoseconds in a unit of `10 ^ places`, without zeros at the end. -/
def decimalOf (places ns : Nat) : List Char :=
  let fraction := (Text.padded places (ns % Nat.pow 10 places)).reverse.dropWhile (· == '0')
  Text.digits (ns / Nat.pow 10 places) ++
    if fraction.isEmpty then [] else '.' :: fraction.reverse

/-- The short text of a duration. Below a microsecond the nanoseconds are counted. -/
def short (d : Duration) : String :=
  match shortUnits.find? fun u => Nat.pow 10 u.2 ≤ d.ns with
  | some (unit, places) => String.ofList (decimalOf places d.ns) ++ unit
  | none => String.ofList (Text.digits d.ns) ++ "ns"

end RouterMetrics.Duration

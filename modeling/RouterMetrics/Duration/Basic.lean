/-!
Lengths of time and points in time, both counted in nanoseconds.

A duration holds up to `2 ^ 64` seconds; arithmetic that would leave this range is refused, so
every duration is one that the range admits. A moment is counted from 1970-01-01 UTC, before it
negatively.
-/

namespace RouterMetrics

/-- Nanoseconds in a second. -/
def nanosPerSecond : Nat := 1000000000

/-- Nanoseconds in a millisecond. -/
def nanosPerMilli : Nat := 1000000

/-- A length of time in nanoseconds, below `2 ^ 64` seconds. -/
structure Duration where
  ns : Nat
  fits : ns < (1 <<< 64) * 1000000000
deriving DecidableEq

namespace Duration

/-- The duration of a number of nanoseconds, when the range admits it. -/
def ofNs? (ns : Nat) : Option Duration :=
  if h : ns < (1 <<< 64) * 1000000000 then some ⟨ns, h⟩ else none

/-- No time at all. -/
def zero : Duration := ⟨0, by decide⟩

instance : Inhabited Duration := ⟨zero⟩

/-- The longest duration. -/
def longest : Duration := ⟨(1 <<< 64) * 1000000000 - 1, by decide⟩

/-- A number of milliseconds that fits a word of 64 bits. -/
def ofMillis (ms : Nat) (h : ms < 1 <<< 64 := by decide) : Duration :=
  ⟨ms * 1000000, by omega⟩

/-- A number of seconds, the longest duration when they do not fit a word of 64 bits. -/
def ofSeconds (s : Nat) : Duration := (ofNs? (s * nanosPerSecond)).getD longest

/-- The whole seconds of a duration. -/
def seconds (d : Duration) : Nat := d.ns / nanosPerSecond

/-- What a duration has beyond its whole seconds, in nanoseconds. -/
def subsecond (d : Duration) : Nat := d.ns % nanosPerSecond

/-- The whole milliseconds of a duration. -/
def millis (d : Duration) : Nat := d.ns / nanosPerMilli

/-- A multiple of a duration, when the range admits it. -/
def scale? (d : Duration) (k : Nat) : Option Duration := ofNs? (d.ns * k)

/-- A fraction of a duration, rounded down to the nanosecond. -/
def divide (d : Duration) (k : Nat) : Duration :=
  ⟨d.ns / k, Nat.lt_of_le_of_lt (Nat.div_le_self ..) d.fits⟩

/-- What is left of a duration after another one, zero when that is longer. -/
def minus (d e : Duration) : Duration :=
  ⟨d.ns - e.ns, Nat.lt_of_le_of_lt (Nat.sub_le ..) d.fits⟩

end Duration

/-- A point in time, in nanoseconds from 1970-01-01 UTC. -/
abbrev Moment := Int

namespace Moment

/-- The moment a duration after another one. -/
def after (t : Moment) (d : Duration) : Moment := t + d.ns

/-- The last moment that a clock can tell which was started not long before a moment: it counts its
seconds in 63 bits. -/
def lastFrom (start : Moment) : Moment := start + (((1 <<< 63) - 1000000) * nanosPerSecond : Nat)

/-- The nanoseconds from an earlier moment to a later one, zero in the other order. -/
def elapsed (since now : Moment) : Nat := (now - since).toNat

end Moment

end RouterMetrics

import RouterMetrics.Duration.Basic

/-!
The pause between attempts to reach a device that has failed: it grows by a fixed fraction of the
first pause with every failure, up to a largest pause.
-/

namespace RouterMetrics

/-- How long to wait after failures. The delay grows by `initial / divisor` with each. -/
structure Backoff where
  initial : Duration
  divisor : Nat
  max : Duration
  divisor_pos : 0 < divisor

namespace Backoff

/-- A policy whose divisor of zero counts as one. -/
def of (initial : Duration) (divisor : Nat) (max : Duration) : Backoff where
  initial := initial
  divisor := Nat.max 1 divisor
  max := max
  divisor_pos := Nat.lt_of_lt_of_le Nat.zero_lt_one (Nat.le_max_left ..)

/-- The delay in nanoseconds before it is cut at the largest one, rounded down. -/
def growth (b : Backoff) (failures : Nat) : Nat :=
  b.initial.ns * (b.divisor + failures) / b.divisor

/-- The delay after a number of failures. One that does not fit a word of nanoseconds is the
largest delay too. -/
def delay (b : Backoff) (failures : Nat) : Duration :=
  if h : b.growth failures < b.max.ns ∧ b.growth failures < 1 <<< 64 then
    ⟨b.growth failures, Nat.lt_trans h.1 b.max.fits⟩
  else b.max

end Backoff

end RouterMetrics

/-!
The fewest decimal digits that read back to a double.

A finite double is `m · 2 ^ q`. The reals that round to it form an interval around it, which
includes its ends exactly when `m` is even. On the decimal grid `10 ^ k` only the two neighbours of
the value matter: if a grid point lies in the interval at all, one of them does. So the grids are
tried from the coarsest to the finest, and of two neighbours that both read back the nearer is
taken.
-/

namespace RouterMetrics.Decimal

/-- A finite double without its sign: `m · 2 ^ q`, and whether the next smaller double is only half
a step away. -/
structure Binary where
  m : Nat
  q : Int
  narrowBelow : Bool
deriving Repr, DecidableEq

/-- The three forms of a double. -/
inductive Parts
  | finite (negative : Bool) (b : Binary)
  | infinite (negative : Bool)
  | notANumber

/-- Takes a double apart. -/
def Parts.ofFloat (x : Float) : Parts :=
  let bits := x.toBits.toNat
  let negative := bits / (1 <<< 63) == 1
  let field : Nat := bits / (1 <<< 52) % (1 <<< 11)
  let fraction : Nat := bits % (1 <<< 52)
  if field == 2047 then if fraction == 0 then .infinite negative else .notANumber
  else if field == 0 then .finite negative ⟨fraction, -1074, false⟩
  else .finite negative ⟨(1 <<< 52) + fraction, (field : Int) - 1075, fraction == 0 && field > 1⟩

/-- The digits `mantissa · 10 ^ exponent`. -/
structure Digits where
  mantissa : Nat
  exponent : Int
deriving Repr, DecidableEq

/-- Which neighbour is taken when a value lies exactly between the two. -/
inductive Tie
  | up
  | toEven
deriving Repr, DecidableEq

/-- A quarter of the last binary place, as a fraction of two naturals, so that the value and the
ends of its interval are whole multiples of it. -/
def Binary.unit (b : Binary) : Nat × Nat :=
  if 2 ≤ b.q then (1 <<< (b.q - 2).toNat, 1) else (1, 1 <<< (2 - b.q).toNat)

/-- The power of ten `10 ^ k` as a fraction. -/
def gridStep (k : Int) : Nat × Nat :=
  if 0 ≤ k then (Nat.pow 10 k.toNat, 1) else (1, Nat.pow 10 (-k).toNat)

/-- The ends of the interval of reals that round to the double, in quarters of its last place. -/
def Binary.interval (b : Binary) : Nat × Nat :=
  (4 * b.m - (if b.narrowBelow then 1 else 2), 4 * b.m + 2)

/-- The nearest point of the grid `10 ^ k` that reads back to the double, if there is one. -/
def Binary.onGrid (b : Binary) (tie : Tie) (k : Int) : Option Nat :=
  let (un, ud) := b.unit
  let (gn, gd) := gridStep k
  -- In units of `1 / (ud * gd)` a quarter place is `scale` and a grid step is `step`.
  let scale := un * gd
  let step := gn * ud
  let (low, high) := b.interval
  let reads (c : Nat) : Bool :=
    let p := c * step
    if b.m % 2 == 0 then low * scale ≤ p && p ≤ high * scale
    else low * scale < p && p < high * scale
  let value := 4 * b.m * scale
  let c := value / step
  let below := value - c * step
  let above := (c + 1) * step - value
  match c > 0 && reads c, reads (c + 1) with
  | true, true =>
    if below < above then some c
    else if above < below then some (c + 1)
    else match tie with
      | .up => some (c + 1)
      | .toEven => some (if c % 2 == 0 then c else c + 1)
  | true, false => some c
  | false, true => some (c + 1)
  | false, false => none

/-- The first of the grids `10 ^ k`, `10 ^ (k - 1)`, … on which a neighbour reads back. -/
def Binary.search (b : Binary) (tie : Tie) : Nat → Int → Digits
  | 0, k => ⟨0, k⟩
  | fuel + 1, k =>
    match b.onGrid tie k with
    | some c => ⟨c, k⟩
    | none => b.search tie fuel (k - 1)

/-- Moves the zeros at the end of the digits into the exponent. -/
def Digits.strip : Nat → Digits → Digits
  | 0, d => d
  | fuel + 1, d =>
    if d.mantissa % 10 == 0 && d.mantissa != 0 then
      Digits.strip fuel ⟨d.mantissa / 10, d.exponent + 1⟩
    else d

/-- The fewest digits that read back to a nonzero double. The search starts above the value, at a
power of ten estimated from its binary one, and 17 digits always suffice. -/
def Binary.shortest (b : Binary) (tie : Tie) : Digits :=
  if b.m == 0 then ⟨0, 0⟩
  else
    let estimate : Int := ((b.m.log2 : Int) + b.q) * 1233 / 4096 + 2
    (b.search tie 24 estimate).strip 24

end RouterMetrics.Decimal

/-!
Labels of domain names beyond ASCII, written in ASCII.

The ASCII characters of a label come first. The others follow in the order of their code points,
each as the distance from the one before in a walk over all places and code points; distances are
numbers of base 36 that end with a digit below a threshold, which adapts to the distances so far.
-/

namespace RouterMetrics.Net.Punycode

/-- The digit of base 36 for a number. -/
def digit (n : Nat) : Char :=
  if n < 26 then Char.ofNat ('a'.toNat + n) else Char.ofNat ('0'.toNat + (n - 26))

/-- The number of a digit of base 36. -/
def digitValue? (c : Char) : Option Nat :=
  if c.isLower then some (c.toNat - 'a'.toNat)
  else if c.isUpper then some (c.toNat - 'A'.toNat)
  else if c.isDigit then some (c.toNat - '0'.toNat + 26)
  else none

/-- The threshold of the digit at a place. -/
def threshold (place bias : Nat) : Nat := max 1 (min 26 (36 * (place + 1) - bias))

theorem threshold_pos (place bias : Nat) : 0 < threshold place bias :=
  Nat.lt_of_lt_of_le Nat.zero_lt_one (Nat.le_max_left ..)

/-- Halves a distance until it is small, counting the steps in base 36. -/
def settle (delta : Nat) : Nat × Nat :=
  if 455 < delta then
    let (k, d) := settle (delta / 35)
    (k + 36, d)
  else (0, delta)
termination_by delta
decreasing_by exact Nat.div_lt_self (by omega) (by omega)

/-- The bias after a distance, which was the first or not, with a number of places handled. -/
def adapt (delta places : Nat) (first : Bool) : Nat :=
  let delta := if first then delta / 700 else delta / 2
  let (k, delta) := settle (delta + delta / places)
  k + 36 * delta / (delta + 38)

/-- The digits of a distance from a place on. -/
def distance (bias place q : Nat) : List Char :=
  let t := threshold place bias
  if q < t then [digit q]
  else digit (t + (q - t) % (36 - t)) :: distance bias (place + 1) ((q - t) / (36 - t))
termination_by q
decreasing_by
  have := threshold_pos place bias
  exact Nat.lt_of_le_of_lt (Nat.div_le_self ..) (by omega)

/-- A walk in progress: the distance from the last character written, the bias, how many characters
are written, and the digits. -/
structure Walk where
  delta : Nat
  bias : Nat
  written : Nat
  digits : List Char

/-- Passes one place of a label for a code point, after a number of ASCII characters. -/
def Walk.pass (basic point : Nat) (w : Walk) (c : Char) : Walk :=
  if c.toNat < point then { w with delta := w.delta + 1 }
  else if c.toNat = point then
    ⟨0, adapt w.delta (w.written + 1) (w.written == basic), w.written + 1,
     w.digits ++ distance w.bias 0 w.delta⟩
  else w

/-- The code points from a first one on that a label has beyond ASCII, in their order. -/
def pointsOf (cs : List Char) : List Nat :=
  (((cs.filter fun c => c.toNat ≥ 0x80).map Char.toNat).mergeSort (· ≤ ·)).eraseDups

/-- The walk over all places for each code point. -/
def walk (cs : List Char) (basic : Nat) : Nat → List Nat → Walk → Walk
  | _, [], w => w
  | reached, point :: rest, w =>
    let w := { w with delta := w.delta + (point - reached) * (w.written + 1) }
    let w := cs.foldl (Walk.pass basic point) w
    walk cs basic (point + 1) rest { w with delta := w.delta + 1 }

/-- The ASCII form of a label. -/
def encode (cs : List Char) : List Char :=
  let basic := cs.filter fun c => c.toNat < 0x80
  let start := if basic.isEmpty then [] else basic ++ ['-']
  start ++ (walk cs basic.length 0x80 (pointsOf cs) ⟨0, 72, basic.length, []⟩).digits

/-- The numbers of a walk are below this one. -/
def wordSize : Nat := 1 <<< 32

/-- A distance at the head of some digits, and what follows it. -/
def readDistance (bias : Nat) : Nat → Nat → Nat → List Char → Option (Nat × List Char)
  | _, _, _, [] => none
  | place, weight, sum, c :: cs => do
    let d ← digitValue? c
    let t := threshold place bias
    let sum := sum + d * weight
    let next := weight * (36 - t)
    if d < t then some (sum, cs)
    else if next < wordSize then readDistance bias (place + 1) next sum cs
    else none

/-- Puts characters into a label by the distances that digits write. Each takes a digit, so as many
steps as digits suffice. -/
def insertAll : Nat → List Char → List Char → Nat → Nat → Nat → Option (List Char)
  | 0, _, _, _, _, _ => none
  | _, label, [], _, _, _ => some label
  | fuel + 1, label, digits, point, i, bias => do
    let (delta, rest) ← readDistance bias 0 1 0 digits
    let places := label.length + 1
    let reached := i + delta
    let point := point + reached / places
    let position := reached % places
    if !point.isValidChar then none
    else
      let label := label.take position ++ Char.ofNat point :: label.drop position
      insertAll fuel label rest point (position + 1) (adapt delta places (i == 0))

/-- The label with an ASCII form. A hyphen must stand behind something. -/
def decode (cs : List Char) : Option (List Char) :=
  let tail := (cs.reverse.takeWhile (· != '-')).reverse
  let basic := cs.take (cs.length - tail.length - 1)
  if basic.isEmpty && tail.length < cs.length then none
  else insertAll (tail.length + 1) basic tail 0x80 0 72

end RouterMetrics.Net.Punycode

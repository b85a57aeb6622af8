import RouterMetrics.Text.Digit

/-!
Decimal numerals and the double nearest to one.

A numeral is a sign, a whole number of digits and a power of ten. `Numeral.toFloat` rounds it to
the nearest double, ties to even. `readNumber` reads the written form that value texts use: an
optional sign, digits with at most one point and at least one digit, an optional exponent, or one
of the words for infinity and "not a number" in any case.
-/

namespace RouterMetrics.Decimal

/-- The number `± mantissa · 10 ^ exponent`. -/
structure Numeral where
  negative : Bool
  mantissa : Nat
  exponent : Int
deriving Repr, DecidableEq

/-- The double `m · 10 ^ e` rounds to. -/
def nearest (m : Nat) (e : Int) : Float :=
  if 0 ≤ e then Float.ofScientific m false e.toNat else Float.ofScientific m true (-e).toNat

/-- The double with the sign of a number changed when asked for. -/
def withSign (negative : Bool) (x : Float) : Float := if negative then -x else x

/-- The double a numeral rounds to. A negative zero keeps its sign. -/
def Numeral.toFloat (n : Numeral) : Float := withSign n.negative (nearest n.mantissa n.exponent)

/-- The double a whole number rounds to. -/
def ofInt (i : Int) : Float := withSign (i < 0) (nearest i.natAbs 0)

/-- Positive infinity. -/
def infinity : Float := Float.ofBits 0x7ff0000000000000

/-- The double that is not a number. -/
def notANumber : Float := Float.ofBits 0x7ff8000000000000

/-- A sign at the head of a text, as "is negative", and what follows it. -/
def spanSign : List Char → Bool × List Char
  | '-' :: cs => (true, cs)
  | '+' :: cs => (false, cs)
  | cs => (false, cs)

/-- The exponent part of a number: nothing, or a mark with a signed run of digits to the end of
the text. -/
def readExponent : List Char → Option Int
  | [] => some 0
  | c :: cs =>
    if c == 'e' || c == 'E' then
      let (negative, rest) := spanSign cs
      if !rest.isEmpty && rest.all Char.isDigit then
        let n : Int := Text.numberOf rest
        some (if negative then -n else n)
      else none
    else none

/-- Digits, an optional point with digits, and an exponent. -/
def readUnsigned (cs : List Char) : Option (Nat × Int) :=
  let (whole, rest) := Text.spanDigits cs
  let (fraction, rest) := match rest with
    | '.' :: r => Text.spanDigits r
    | r => ([], r)
  if whole.isEmpty && fraction.isEmpty then none
  else (readExponent rest).map fun e =>
    (Text.numberOf (whole ++ fraction), e - fraction.length)

/-- The number that a text writes, as a double. -/
def readNumber (cs : List Char) : Option Float :=
  let (negative, rest) := spanSign cs
  let word := String.ofList (rest.map Char.toLower)
  if word == "inf" || word == "infinity" then some (withSign negative infinity)
  else if word == "nan" then some notANumber
  else (readUnsigned rest).map fun (m, e) => Numeral.toFloat ⟨negative, m, e⟩

end RouterMetrics.Decimal

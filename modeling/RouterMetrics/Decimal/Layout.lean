import RouterMetrics.Decimal.Numeral
import RouterMetrics.Decimal.Shortest

/-!
How the shortest digits of a double are laid out: always with positions and without a superfluous
point (`plain`), or as a document's number, which always shows that it is not a whole number of
the integer type (`scientific`).
-/

namespace RouterMetrics.Decimal

/-- `n` zeros. -/
def zeros (n : Nat) : List Char := List.replicate n '0'

/-- Digits with positions and no exponent. A whole number has no point. -/
def Digits.positional (d : Digits) : List Char :=
  let text := Text.digits d.mantissa
  if 0 ≤ d.exponent then text ++ zeros d.exponent.toNat
  else
    let places := (-d.exponent).toNat
    if places < text.length then
      text.take (text.length - places) ++ '.' :: text.drop (text.length - places)
    else '0' :: '.' :: zeros (places - text.length) ++ text

/-- A double with positions, never an exponent: `100000`, `0.1`, `-0`, `inf`, `NaN`. -/
def plain (x : Float) : List Char :=
  let signed (negative : Bool) (cs : List Char) := if negative then '-' :: cs else cs
  match Parts.ofFloat x with
  | .notANumber => "NaN".toList
  | .infinite negative => signed negative "inf".toList
  | .finite negative b => signed negative (b.shortest .up).positional

/-- Digits with a point after the first one and a signed exponent. -/
def Digits.exponential (d : Digits) : List Char :=
  let text := Text.digits d.mantissa
  let power : Int := d.exponent + (text.length : Int) - 1
  let mantissa := match text with
    | [c] => [c]
    | c :: cs => c :: '.' :: cs
    | [] => []
  mantissa ++ 'e' :: (if power < 0 then '-' else '+') :: Text.digits power.natAbs

/-- A finite double as a document's number: with positions from `1e-5` up and below `1e16`, else
with an exponent, and with a point or an exponent in any case. -/
def scientific (x : Float) : Option (List Char) :=
  match Parts.ofFloat x with
  | .notANumber => none
  | .infinite _ => none
  | .finite negative b =>
    let d := b.shortest .toEven
    let top : Int := d.exponent + ((Text.digits d.mantissa).length : Int)
    let body :=
      if b.m == 0 then "0.0".toList
      else if -5 < top && top ≤ 16 then
        if 0 ≤ d.exponent then d.positional ++ ".0".toList else d.positional
      else d.exponential
    some (if negative then '-' :: body else body)

/-- `plain` as a string. -/
def plainText (x : Float) : String := String.ofList (plain x)

end RouterMetrics.Decimal

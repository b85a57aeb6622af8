import RouterMetrics.Decimal.Numeral

/-!
Link rates such as `1Gbps` or `2.5Mbps`, wherever in a text they stand. The amount is digits with
at most one point, then comes at most one letter for the scale, then `bps`.
-/

namespace RouterMetrics.Value

/-- The power of ten that the letter before `bps` stands for. An amount without a letter is read in
tenths. -/
def rateExponent : Option Char → Int
  | some c =>
    if c == 'G' || c == 'g' then 9
    else if c == 'M' || c == 'm' then 6
    else 3
  | none => -1

/-- A letter that scales a rate. -/
def isRateLetter (c : Char) : Bool :=
  c == 'G' || c == 'g' || c == 'M' || c == 'm' || c == 'K' || c == 'k'

/-- The amount and the letter of a rate at the head of a text. The amount may be empty or a lone
point. -/
def rateAtHead (cs : List Char) : Option (List Char × Option Char) :=
  let (whole, rest) := cs.span Text.isDigit
  let (fraction, rest) := match rest with
    | '.' :: r => let (f, r) := r.span Text.isDigit; ('.' :: f, r)
    | r => ([], r)
  let (letter, rest) := match rest with
    | c :: r => if isRateLetter c then (some c, r) else (none, c :: r)
    | [] => (none, [])
  match rest with
  | 'b' :: 'p' :: 's' :: _ => some (whole ++ fraction, letter)
  | _ => none

/-- The first rate in a text. -/
def findRate : List Char → Option (List Char × Option Char)
  | [] => none
  | c :: cs =>
    match rateAtHead (c :: cs) with
    | some found => some found
    | none => findRate cs

/-- A rate in bits per second: zero for an absent text, minus one for a text without a rate or
whose amount is no number. -/
def rate : Option String → Float
  | none => 0.0
  | some text =>
    match findRate text.toList with
    | none => -1.0
    | some (amount, letter) =>
      match Decimal.readNumber amount with
      | none => -1.0
      | some base =>
        base * Decimal.nearest 1 (rateExponent letter)

end RouterMetrics.Value

import RouterMetrics.Net.Domain.Joiner
import RouterMetrics.Net.Domain.Mapping
import RouterMetrics.Net.Percent
import RouterMetrics.Net.Punycode
import RouterMetrics.Text.Composed
import RouterMetrics.Text.Mark

/-!
The labels of a domain name, which stand between its points.

A label that has a character beyond ASCII is written in ASCII behind a sign. One that comes with the
sign must be what a label in the usual form is written as.
-/

namespace RouterMetrics.Net

/-- A character of ASCII. -/
def isAscii (c : Char) : Bool := c.toNat < 0x80

/-- A character that no label has, because it has a meaning elsewhere. -/
def isReserved (c : Char) : Bool := isAsciiControl c || isOneOf " %#/:<>?@[\\]^|" c

/-- The most characters that a label beyond ASCII may have. -/
def labelLimit : Nat := 1000

/-- The most characters that may follow the sign of a label. -/
def signedLimit : Nat := 2000

/-- The sign of a label that is written in ASCII for one that is not. -/
def sign : List Char := ['x', 'n', '-', '-']

/-- A label that starts with a mark. -/
def startsWithMark (label : List Char) : Bool := (label.head?.map Text.isMark).getD false

/-- A label whose characters stand where they may. -/
def isWellPlaced (label : List Char) : Bool :=
  !startsWithMark label && joinersFit [] label &&
    (label.all isAscii || label.length ≤ labelLimit)

/-- The label that stands behind a sign. Its characters must be such that nothing becomes of them,
and the sign must be needed. -/
def unsigned? (cs : List Char) : Option (List Char) :=
  if cs.getLast? == some '-' || signedLimit < cs.length then none
  else match Punycode.decode cs with
    | some label =>
      if label.all isAscii || sign.isPrefixOf label || !label.all staysMapped ||
          label.any (fun c => isReserved c || c == '.') || Text.composed label != label
        then none
      else some label
    | none => none

/-- A label as it is read, and as it is written in ASCII. -/
structure Label where
  shown : List Char
  written : List Char

/-- The label that mapped and composed characters write. -/
def Label.ofChars? (cs : List Char) : Option Label := do
  let label : Label ← if sign.isPrefixOf cs then
      (unsigned? (cs.drop sign.length)).map fun shown => ⟨shown, cs⟩
    else if cs.all isAscii then some ⟨cs, cs⟩
    else if labelLimit < cs.length then none
    else some ⟨cs, sign ++ Punycode.encode cs⟩
  if isWellPlaced label.shown then some label else none

end RouterMetrics.Net

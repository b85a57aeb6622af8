import RouterMetrics.Store
import RouterMetrics.Value.Rate
import RouterMetrics.Value.Span
import RouterMetrics.Value.Timestamp

/-!
The field translations that the catalog uses. Each takes the text of a field, none when the field
is absent, and gives a new value or leaves the field alone.
-/

namespace RouterMetrics.Catalog

/-- A double as a value. One that is not finite has no written form and becomes null. -/
def number (x : Float) : Json := if x.isFinite then .float x else .null

/-- A truth value as one or zero. -/
def oneOrZero (b : Bool) : Json := .int (if b then 1 else 0)

/-- A text that is there and not empty. -/
def present (value : Option String) : Option String := value.filter fun v => v != ""

/-- One for a link that is up. -/
def linkStatus : Translate := fun v => some (oneOrZero (v == some "link-ok"))

/-- One for `up`. -/
def upStatus : Translate := fun v => some (oneOrZero (v == some "up"))

/-- One for `true`, zero also when the field is absent. -/
def flag : Translate := fun v => some (oneOrZero (v == some "true"))

/-- One for `true`. An absent field stays absent. -/
def flagIfPresent : Translate := fun v => v.map fun v => oneOrZero (v == "true")

/-- A rate, zero for an absent field. -/
def rate : Translate := fun v => some (number (Value.rate v))

/-- A rate. An absent or empty field stays as it is. -/
def rateIfPresent : Translate := fun v => (present v).map fun v => number (Value.rate (some v))

/-- A length of time in seconds, zero for an absent or empty field. -/
def durationOrZero : Translate := fun v =>
  some (number (((present v).map Value.spanSeconds).getD 0.0))

/-- A length of time in seconds. An absent or empty field stays as it is. -/
def duration : Translate := fun v => (present v).map fun v => number (Value.spanSeconds v)

/-- A point in time in seconds since 1970, null when the text is none. An absent or empty field
stays as it is. -/
def datetime : Translate := fun v =>
  (present v).map fun v => ((Value.timestamp v).map number).getD .null

/-- A text without the percent signs it ends with, null for an absent or empty field. -/
def percent : Translate := fun v =>
  match present v with
  | some v => some (.text (String.ofList (v.toList.reverse.dropWhile (· == '%')).reverse))
  | none => some .null

/-- A name, or a word that says that there is none. -/
def ddnsName : Translate := fun v => some (.text ((present v).getD "ddns_disabled"))

/-- A text, empty for an absent field. -/
def emptyIfAbsent : Translate := fun v => some (.text (v.getD ""))

/-- The whole number of 64 bits with sign that a text writes. -/
def wholeNumber? (cs : List Char) : Option Int :=
  let (negative, digits) := Decimal.spanSign cs
  if digits.isEmpty || !digits.all Char.isDigit then none
  else
    let n : Int := Text.numberOf digits
    let i := if negative then -n else n
    let limit : Int := (1 <<< 63 : Nat)
    if -limit ≤ i && i < limit then some i else none

/-- The build time of a release in seconds since 1970, null when the text is none. -/
def buildTime : Translate := fun v =>
  some (((v.bind fun v => wholeNumber? (Text.trim v.toList)).map Json.int).getD .null)

end RouterMetrics.Catalog

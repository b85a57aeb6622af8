import RouterMetrics.Json.Basic

/-!
Records: what a device answers for one item, field by field.

A raw record has the device's own field names. A field name is normalized to the alphabet that
metric labels can use; a record is left out altogether when the device marks it as disabled; and
a field is read as a label text or as a number.
-/

namespace RouterMetrics

/-- One item with its named fields. -/
abbrev Record := Dict Json

/-- The separators that a device uses inside and around field names. -/
def isSeparator (c : Char) : Bool := c == '.' || c == '_' || c == '-'

/-- Drops the first character if it is a separator. -/
def dropSeparator : List Char → List Char
  | [] => []
  | c :: cs => if isSeparator c then cs else c :: cs

/-- The underscore in place of every other separator. -/
def underscore (c : Char) : Char := if c == '.' || c == '-' then '_' else c

/-- A field name without one separator at each end, its other separators made underscores. -/
def normalizeName (cs : List Char) : List Char :=
  (dropSeparator (dropSeparator cs).reverse).reverse.map underscore

/-- `normalizeName` on strings. -/
def normalizeKey (key : String) : String := String.ofList (normalizeName key.toList)

namespace Json

/-- The text a value has as a label: a text stands for itself, an absent value and null are empty,
everything else has its compact written form. -/
def label : Option Json → String
  | none => ""
  | some .null => ""
  | some (.text s) => s
  | some v => v.compact

/-- A boolean as a number. -/
def boolNumber (b : Bool) : Float := if b then Decimal.ofInt 1 else Decimal.ofInt 0

/-- The number a text holds between white space: a decimal number, or one of the two truth
values. -/
def textNumber (s : String) : Option Float :=
  let cs := Text.trim s.toList
  if cs = "true".toList then some (boolNumber true)
  else if cs = "false".toList then some (boolNumber false)
  else Decimal.readNumber cs

/-- The number a value holds. -/
def numeric : Json → Option Float
  | .int i => some (Decimal.ofInt i)
  | .float x => some x
  | .text s => textNumber s
  | .bool b => some (boolNumber b)
  | _ => none

/-- Whether a value says "yes": the boolean or its text. -/
def isTrue : Option Json → Bool
  | some (.text s) => s == "true"
  | some (.bool b) => b
  | _ => false

end Json

namespace Record

/-- The record is switched off on its device. -/
def isDisabled (r : Record) : Bool := Json.isTrue (r.get? "disabled")

/-- The text of a field, when it holds a text. -/
def text? (r : Record) (field : String) : Option String := (r.get? field).bind Json.asText?

/-- The text of a field, empty when it holds none. -/
def textD (r : Record) (field : String) : String := (r.text? field).getD ""

/-- The record with its field names normalized. Of several names with one normal form the last in
the order of the names is kept. -/
def normalizeKeys (r : Record) : Record :=
  Dict.ofList (r.toList.map fun e => (normalizeKey e.1, e.2))

/-- The record as a JSON object. -/
def toJson (r : Record) : Json := .object r.entries

/-- The record an object is. -/
def ofJson? : Json → Option Record
  | .object members => some (Dict.ofList members)
  | _ => none

end Record

end RouterMetrics

import RouterMetrics.Dict
import RouterMetrics.Decimal.Layout
import RouterMetrics.Metric

/-!
Metric families: the samples of one exported name, and their text form.

A family has one type. Its text has a line of help, unless that is empty, a line with the type, and
a line for each sample.
-/

namespace RouterMetrics

/-- The type of a family. -/
inductive FamilyKind
  | gauge | counter
deriving Repr, DecidableEq

/-- The name of a type. -/
def FamilyKind.name : FamilyKind → String
  | .gauge => "gauge"
  | .counter => "counter"

/-- The type that a series is exported with. -/
def FamilyKind.ofMetric : MetricKind → FamilyKind
  | .counter => .counter
  | .info => .gauge
  | .gauge => .gauge

/-- A value with the names and texts of its labels. -/
structure LabelledValue where
  labels : List (String × String)
  value : Float
deriving DecidableEq

/-- The samples of one exported name. -/
structure Family where
  name : String
  help : String
  kind : FamilyKind
  samples : List LabelledValue
deriving DecidableEq

namespace Family

/-! ## Text -/

/-- A character of a help text. -/
def helpChar (c : Char) : List Char :=
  if c = '\\' then ['\\', '\\'] else if c = '\n' then ['\\', 'n'] else [c]

/-- A character of a label's text, between quotes. -/
def labelChar (c : Char) : List Char := if c = '"' then ['\\', '"'] else helpChar c

/-- A text with its characters written one by one. -/
def escaped (f : Char → List Char) (s : String) : String := String.ofList (s.toList.flatMap f)

/-- The labels of a sample, nothing when there are none. -/
def labelsText (labels : List (String × String)) : String :=
  if labels.isEmpty then ""
  else
    let items := labels.map fun (k, v) => k ++ "=\"" ++ escaped labelChar v ++ "\""
    "\x7b" ++ ",".intercalate items ++ "\x7d"

/-- The line of a sample. -/
def sampleLine (name : String) (s : LabelledValue) : String :=
  name ++ labelsText s.labels ++ " " ++ Decimal.plainText s.value

/-- The lines of a family. -/
def lines (f : Family) : List String :=
  (if f.help.isEmpty then [] else ["# HELP " ++ f.name ++ " " ++ escaped helpChar f.help]) ++
    ("# TYPE " ++ f.name ++ " " ++ f.kind.name) :: f.samples.map (sampleLine f.name)

/-- The text of families, every line ended. -/
def text (families : List Family) : String :=
  "".intercalate ((families.flatMap lines).map (· ++ "\n"))

end Family

end RouterMetrics

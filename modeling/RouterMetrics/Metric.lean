/-!
Metric series: what is declared about one, and what is read from it at one moment.
-/

namespace RouterMetrics

/-- What kind of number a series holds: a constant one with its information in labels, a value at a
point in time, or a total that only grows. -/
inductive MetricKind
  | info | gauge | counter
deriving Repr, DecidableEq

namespace MetricKind

/-- The name of a kind. -/
def name : MetricKind → String
  | .info => "info"
  | .gauge => "gauge"
  | .counter => "counter"

/-- The kind with a name. -/
def ofName? (s : String) : Option MetricKind :=
  [MetricKind.info, .gauge, .counter].find? fun k => k.name == s

end MetricKind

/-- A declared series: which field of a record holds the value, and which fields are its labels.
Without fields of its own a series has the labels of its store. -/
structure SeriesDef where
  kind : MetricKind
  name : String
  help : String
  valueField : Option String
  labelFields : Option (List String)
deriving DecidableEq

/-- A series with label fields of its own. -/
def SeriesDef.by (labels : List String) (d : SeriesDef) : SeriesDef :=
  { d with labelFields := some labels }

/-- One measured value with the texts of its labels. -/
structure Sample where
  labels : List String
  value : Float
deriving DecidableEq

/-- The samples of a series at one moment. Every sample has its labels in the order of
`labelNames`. -/
structure Series where
  kind : MetricKind
  name : String
  help : String
  labelNames : List String
  samples : List Sample
deriving DecidableEq

namespace Series

/-- The text a sample has for a label of the series. -/
def labelOf (s : Series) (sample : Sample) (label : String) : Option String :=
  match s.labelNames.idxOf? label with
  | some i => sample.labels[i]?
  | none => none

/-- The first sample with a text for a label. -/
def find? (s : Series) (label value : String) : Option Sample :=
  s.samples.find? fun sample => s.labelOf sample label == some value

end Series

end RouterMetrics

import RouterMetrics.Exposition.Family

/-!
What is exported: the series of all collectors, merged into families by their exported names, and
statistics about the loads.

The first series of a name decides the help and the type of its family. A series of another type is
left out, and so are series without samples. Statistics are exported under names that no series
has.
-/

namespace RouterMetrics.Exposition

/-- The exported name of a series. Constant series and counters tell by their ends what they are. -/
def familyName (start : String) (kind : MetricKind) (name : String) : String :=
  let base := start ++ "_" ++ name
  match kind with
  | .info => base ++ "_info"
  | .gauge => base
  | .counter => if name.endsWith "_total" then base else base ++ "_total"

/-- A sample with its labels by name. Names and texts are paired as far as both go. -/
def labelled (names : List String) (s : Sample) : LabelledValue := ⟨names.zip s.labels, s.value⟩

/-- A series as a family of its own. -/
def familyOf (start : String) (s : Series) : Family where
  name := familyName start s.kind s.name
  help := s.help
  kind := .ofMetric s.kind
  samples := s.samples.map (labelled s.labelNames)

/-- The families with one more series. -/
def addSeries (start : String) (families : Dict Family) (s : Series) : Dict Family :=
  let f := familyOf start s
  if f.samples.isEmpty then families
  else match families.get? f.name with
    | none => families.insert f.name f
    | some g =>
      if g.kind = f.kind then families.insert f.name { g with samples := g.samples ++ f.samples }
      else families

/-- The families with one more that gives way to any other of its name. -/
def addStatistics (families : Dict Family) (f : Family) : Dict Family :=
  if families.contains f.name then families else families.insert f.name f

/-- The families of series and statistics, in the order of their names. -/
def gather (start : String) (series : List Series) (statistics : List Family) : List Family :=
  let families := series.foldl (addSeries start) Dict.empty
  (statistics.foldl addStatistics families).toList.map (·.2)

end RouterMetrics.Exposition

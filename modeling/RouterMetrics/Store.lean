import RouterMetrics.Duration.Basic
import RouterMetrics.Metric
import RouterMetrics.Record

/-!
The store of one metric group: the records of the last good answer and the series read from them.

Records are normalized on their way in. Each setting replaces the whole snapshot and stamps it.
A snapshot is shown only while it is fresh: not empty, and younger than one and a half polling
intervals.
-/

namespace RouterMetrics

/-- What a field becomes, given its text so far: a new value, or no change. -/
abbrev Translate := Option String → Option Json

/-- A change made to one field of every record. -/
structure Translation where
  field : String
  apply : Translate

/-- The records of one answer and when they were taken. -/
structure Snapshot where
  records : List Record
  stamp : Option Moment

/-- A series that cannot be shown because a record's value is no number. -/
structure CoercionError where
  series : String
  field : String
  value : String
deriving Repr, DecidableEq

/-- The text of a coercion error. -/
def CoercionError.message (e : CoercionError) : String :=
  "cannot coerce field '" ++ e.field ++ "' value '" ++ e.value ++ "' of series '" ++ e.series ++
    "' to a number"

/-- The last records of a metric group, with what is declared about them. The identity is a list of
labels that every record gets. -/
structure Store where
  identity : List (String × String)
  defaultLabels : List String
  translations : List Translation
  series : List SeriesDef
  interval : Duration
  snapshot : Snapshot

namespace Store

/-- A store that has no records yet. -/
def create (identity : List (String × String)) (defaultLabels : List String)
    (translations : List Translation) (series : List SeriesDef) (interval : Duration) : Store :=
  ⟨identity, defaultLabels, translations, series, interval, ⟨[], none⟩⟩

/-! ## Setting -/

/-- The record with the identity labels, in place of any field of the same name. -/
def withIdentity (identity : List (String × String)) (r : Record) : Record :=
  identity.foldl (fun r label => r.insert label.1 (.text label.2)) r

/-- The text a translation sees: none for an absent field. -/
def priorText (r : Record) (field : String) : Option String :=
  (r.get? field).map fun v => Json.label (some v)

/-- The record with one field translated. -/
def translate (r : Record) (t : Translation) : Record :=
  match t.apply (priorText r t.field) with
  | some v => r.insert t.field v
  | none => r

/-- The record as the store keeps it, none when it is disabled. -/
def normalize (s : Store) (raw : Record) : Option Record :=
  if raw.isDisabled then none
  else some (s.translations.foldl translate (withIdentity s.identity raw.normalizeKeys))

/-- The store with new records, taken at a moment. -/
def set (s : Store) (raw : List Record) (now : Moment) : Store :=
  { s with snapshot := ⟨raw.filterMap s.normalize, some now⟩ }

/-! ## Showing -/

/-- The age from which a snapshot is no longer shown, when three intervals are a duration. -/
def window? (s : Store) : Option Duration := (s.interval.scale? 3).map (·.divide 2)

/-- The snapshot is not empty and younger than the window. The window is not looked at when there
is nothing to show; `none` when it is looked at and cannot be told. -/
def fresh? (s : Store) (now : Moment) : Option Bool :=
  match s.snapshot.stamp with
  | none => some false
  | some stamp =>
    if s.snapshot.records.isEmpty then some false
    else s.window?.map fun w => decide (now - stamp < (w.ns : Int))

/-- The label names of a series: its own fields or those of the store, then the identity. -/
def labelNames (s : Store) (d : SeriesDef) : List String :=
  d.labelFields.getD s.defaultLabels ++ s.identity.map (·.1)

/-- The value of a record in a series: none when the field is absent or null. -/
def valueOf (d : SeriesDef) (r : Record) : Except CoercionError (Option Float) :=
  match d.kind, d.valueField with
  | .info, _ => .ok (some (Decimal.ofInt 1))
  | _, none => .ok (some (Decimal.ofInt 1))
  | _, some field =>
    match r.get? field with
    | none => .ok none
    | some .null => .ok none
    | some v =>
      match v.numeric with
      | some x => .ok (some x)
      | none => .error ⟨d.name, field, Json.label (some v)⟩

/-- The sample of a record in a series. -/
def sampleOf (names : List String) (d : SeriesDef) (r : Record) :
    Except CoercionError (Option Sample) :=
  (valueOf d r).map fun v => v.map fun x => ⟨names.map fun n => Json.label (r.get? n), x⟩

/-- The samples of records in their order, or the first error. -/
def samplesOf (names : List String) (d : SeriesDef) :
    List Record → Except CoercionError (List Sample)
  | [] => .ok []
  | r :: rest =>
    match sampleOf names d r with
    | .error e => .error e
    | .ok found => (samplesOf names d rest).map (found.toList ++ ·)

/-- A declared series read from a snapshot. -/
def emit (s : Store) (d : SeriesDef) (snapshot : Snapshot) : Except CoercionError Series :=
  let names := s.labelNames d
  (samplesOf names d snapshot.records).map fun samples => ⟨d.kind, d.name, d.help, names, samples⟩

/-- The series that can be read from the snapshot. -/
def shown (s : Store) : List Series := s.series.filterMap fun d => (s.emit d s.snapshot).toOption

/-- The series at a moment, none of them when the snapshot is not fresh. -/
def collect? (s : Store) (now : Moment) : Option (List Series) :=
  (s.fresh? now).map fun fresh => if fresh then s.shown else []

end Store

end RouterMetrics

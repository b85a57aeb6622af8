import RouterMetrics.Source
import RouterMetrics.Store

/-!
Metric groups and the collectors made of them.

A group is a name and one or more stages. A stage has a source, what is done with each record and
with all of them, and the series of its store. A collector loads its stages in order and stops at
the first whose fetch fails; the stores of that stage and the later ones stay as they were.
-/

namespace RouterMetrics

/-- What is done with one record of a device: the record to keep, none to leave it out, or an error
that leaves it out too. -/
abbrev RowRule := Option Device → Record → Except RecordError (Option Record)

/-- A source and the store that it feeds. A stage that publishes leases replaces the device's lease
table by its records. -/
structure Stage where
  source : Fetch
  labels : List String
  rowRule : RowRule
  batchRule : List Record → List Record
  publishesLeases : Bool
  translations : List Translation
  series : List SeriesDef

/-- A stage that keeps its records as they are. -/
def Stage.plain (source : Fetch) (labels : List String) (series : List SeriesDef) : Stage :=
  ⟨source, labels, fun _ r => .ok (some r), id, false, [], series⟩

/-- A name and its stages. -/
structure Group where
  name : String
  stages : List Stage

/-- A stage with its store. -/
structure LiveStage where
  stage : Stage
  store : Store

/-- A group with its stores. -/
structure Collector where
  name : String
  stages : List LiveStage

/-- The collector of a group, with the identity that its records get and its polling interval. -/
def Group.collector (g : Group) (identity : List (String × String)) (interval : Duration) :
    Collector :=
  ⟨g.name, g.stages.map fun st =>
    ⟨st, Store.create identity st.labels st.translations st.series interval⟩⟩

theorem Group.collector_stages (g : Group) (identity : List (String × String))
    (interval : Duration) : (g.collector identity interval).stages.map (·.stage) = g.stages := by
  simp [collector, Function.comp_def]

namespace Stage

/-- The records that the row rule keeps. -/
def keptRows (st : Stage) (d : Option Device) (rows : List Record) : List Record :=
  rows.filterMap fun r => ((st.rowRule d r).toOption).join

/-- The records that go into the store. -/
def process (st : Stage) (d : Option Device) (rows : List Record) : List Record :=
  st.batchRule (st.keptRows d rows)

/-- The device after a stage has got its records. -/
def publish (st : Stage) (d : Option Device) (records : List Record) : Option Device :=
  if st.publishesLeases then d.map fun d => d.setLeases records else d

end Stage

namespace Collector

variable {σ : Type}

/-- What a load leaves behind, and what it went through: the state after every stage that was stored
and the time of that. -/
structure Loaded (α σ : Type) where
  kept : α
  device : Option Device
  world : σ
  progress : List (Moment × α)

/-- What a load leaves behind with a change made to all states. -/
def Loaded.map {α β : Type} (f : α → β) (l : Loaded α σ) : Loaded β σ :=
  ⟨f l.kept, l.device, l.world, l.progress.map fun p => (p.1, f p.2)⟩

/-- Loads stages in order, stamping their records with a moment. -/
def loadStages (w : World σ) (now : Moment) :
    List LiveStage → Option Device → σ → Except LoadError Unit × Loaded (List LiveStage) σ
  | [], d, s => (.ok (), ⟨[], d, s, []⟩)
  | live :: rest, d, s =>
    match live.stage.source.run w d s with
    | (.error e, d, s) => (.error e, ⟨live :: rest, d, s, []⟩)
    | (.ok rows, d, s) =>
      let records := live.stage.process d rows
      let live := { live with store := live.store.set records now }
      let (result, after) := loadStages w now rest (live.stage.publish d records) s
      let after := after.map (live :: ·)
      (result, { after with progress := (w.clock s, live :: rest) :: after.progress })

/-- Loads a collector at the time its load starts. -/
def load (w : World σ) (c : Collector) (d : Option Device) (s : σ) :
    Except LoadError Unit × Loaded Collector σ :=
  let (result, after) := loadStages w (w.clock s) c.stages d s
  (result, after.map fun stages => { c with stages := stages })

/-- The series of a collector at a moment, `none` when a store cannot tell whether it is fresh. -/
def collect? (c : Collector) (now : Moment) : Option (List Series) :=
  (c.stages.mapM fun (live : LiveStage) => live.store.collect? now).map List.flatten

end Collector

end RouterMetrics

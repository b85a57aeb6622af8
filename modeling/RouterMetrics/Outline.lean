import RouterMetrics.Calendar.Moment
import RouterMetrics.Duration.Short
import RouterMetrics.Exporter
import RouterMetrics.Text.Quoted

/-!
Outlines: one line about a part of the exporter, for those who look into it.

An outline has a name and some parts with their texts. An open outline tells that there is more.
-/

namespace RouterMetrics

/-- A name, the texts of some parts, and whether there is more. -/
structure Outline where
  name : String
  parts : List (String × String)
  more : Bool

namespace Outline

/-- The text of an outline. -/
def text (o : Outline) : String :=
  let items := o.parts.map (fun p => p.1 ++ ": " ++ p.2) ++ if o.more then [".."] else []
  if items.isEmpty then o.name else o.name ++ " \x7b " ++ ", ".intercalate items ++ " \x7d"

/-- The text of a truth value. -/
def flag (b : Bool) : String := if b then "true" else "false"

/-- The text of a list. -/
def list (items : List String) : String := "[" ++ ", ".intercalate items ++ "]"

/-- The text of a pair of texts. -/
def pair (p : String × String) : String :=
  "(" ++ Text.quoted p.1 ++ ", " ++ Text.quoted p.2 ++ ")"

/-- The text of what there may be. -/
def optional {α : Type} (f : α → String) : Option α → String
  | some a => "Some(" ++ f a ++ ")"
  | none => "None"

end Outline

/-! ## Parts of the exporter -/

/-- The outline of a store. -/
def Store.outline (s : Store) : Outline :=
  ⟨"MetricStore",
    [("identity", Outline.list (s.identity.map Outline.pair)),
     ("series", toString s.series.length), ("interval", s.interval.short)], true⟩

/-- The outline of a translation. -/
def Translation.outline (t : Translation) : Outline :=
  ⟨"Translation", [("field", Text.quoted t.field)], true⟩

/-- The outline of a collector. -/
def Collector.outline (c : Collector) : Outline :=
  ⟨"GroupCollector", [("name", Text.quoted c.name), ("stages", toString c.stages.length)], false⟩

/-- The outline of a device's identity. -/
def Identity.outline (i : Identity) : Outline :=
  ⟨"DeviceIdentity",
    [("device_name", Text.quoted i.name), ("address", Text.quoted i.address)], false⟩

/-- The outline of the state of a connection. -/
def Connection.outline (c : Connection) : Outline :=
  ⟨"ConnectionState",
    [("connected", Outline.flag c.connected),
     ("last_failure", Outline.optional Moment.text c.lastFailure),
     ("successive_failure_count", toString c.failures)], false⟩

/-- The outline of a device's connection. -/
def Device.connectionOutline (d : Device) : Outline :=
  ⟨"DeviceConnection",
    [("device", Text.quoted d.identity.name), ("address", Text.quoted d.identity.address),
     ("state", d.connection.outline.text)], true⟩

/-- The outline of a device with a number of collectors on each cadence. -/
def Device.outline (d : Device) (fast slow : Nat) : Outline :=
  ⟨"DeviceEntry",
    [("identity", d.identity.outline.text), ("connection", d.connectionOutline.text),
     ("fast_collectors", toString fast), ("slow_collectors", toString slow)], true⟩

/-- The text of a cadence in an outline. -/
def Cadence.outlineName : Cadence → String
  | .fast => "Fast"
  | .slow => "Slow"
  | .system => "System"

/-- The outline of a job, whose device has a name. -/
def Job.outline (deviceName : String) (j : Job) : Outline :=
  ⟨"Job",
    [("device", Text.quoted deviceName), ("collectors", toString j.collectors.length),
     ("interval", j.interval.short), ("cadence", j.cadence.outlineName)], false⟩

/-- The outline of a scheduler. -/
def Scheduler.outline (s : Scheduler) : Outline :=
  ⟨"Scheduler",
    [("jobs", toString s.queue.length), ("reconnect_delay", s.reconnectDelay.short),
     ("stagger", s.stagger.short)], true⟩

/-- The outline of statistics. -/
def LoadStats.outline (_ : LoadStats) : Outline := ⟨"LoadStats", [], true⟩

/-- The outline of what is exported under a common start of names. -/
def Exposition.outline (start : String) (collectors : Nat) : Outline :=
  ⟨"Exposition", [("prefix", Text.quoted start), ("collectors", toString collectors)], true⟩

end RouterMetrics

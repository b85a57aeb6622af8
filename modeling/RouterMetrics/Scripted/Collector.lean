import RouterMetrics.Exporter
import RouterMetrics.Scripted

/-!
Scripted collectors: each load waits and then ends the way a list says, whose last entry repeats.
-/

namespace RouterMetrics

/-- How a scripted load ends: well, with an error, by a panic, or the way a call of its device
ends. -/
inductive ScriptedEnd
  | ok
  | error (e : LoadError)
  | panic
  | call (path : String)

/-- A collector on a script. Without entries all its loads end well. The names of the ends are those
that the log tells. -/
structure ScriptedCollector where
  name : String
  delay : Duration
  ends : List (String × ScriptedEnd)
  done : Nat

namespace ScriptedCollector

/-- The end of the next load. -/
def next (c : ScriptedCollector) : String × ScriptedEnd :=
  (c.ends[c.done]? <|> c.ends.getLast?).getD ("ok", .ok)

/-- The outcome of an end, with the device and the scene after it. -/
def outcome : ScriptedEnd → Option Device → Scene → LoadOutcome × Option Device × Scene
  | .ok, d, s => (.loaded, d, s)
  | .error e, d, s => (.ofResult (.error e), d, s)
  | .panic, d, s => (.panicked, d, s)
  | .call _, none, s => (.loaded, none, s)
  | .call path, some d, s =>
    let (result, d, s) := d.call Scene.world ⟨path, .list, Dict.empty⟩ s
    (.ofResult ((result.map fun _ => ()).mapError LoadError.ofFetch), some d, s)

/-- A load: it is written down when it starts. -/
def load (c : ScriptedCollector) (d : Option Device) (s : Scene) :
    LoadOutcome × Collector.Loaded ScriptedCollector Scene :=
  let (name, ending) := c.next
  let s := (s.note (.load c.name name s.now)).wait c.delay
  let (outcome, d, s) := outcome ending d s
  (outcome, ⟨{ c with done := c.done + 1 }, d, s, []⟩)

/-- How scripted collectors are loaded. -/
def loading : Loading ScriptedCollector Scene := ⟨(·.name), load⟩

end ScriptedCollector

end RouterMetrics

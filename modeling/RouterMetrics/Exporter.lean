import RouterMetrics.Group
import RouterMetrics.Schedule.Loop

/-!
The exporter at work: its devices, its collectors and its statistics, changed by the polling loop.

While the loop runs, everything that can be asked for is written down with the time from which it
holds, so that a question at any moment can be answered.
-/

namespace RouterMetrics

/-- Devices and collectors by their numbers, and the statistics. -/
structure Exporter (γ : Type) where
  devices : List Device
  collectors : List γ
  stats : LoadStats

/-- How collectors of a type are loaded. -/
structure Loading (γ σ : Type) where
  name : γ → String
  load : γ → Option Device → σ → LoadOutcome × Collector.Loaded γ σ

/-- How collectors of metric groups are loaded. -/
def Collector.loading {σ : Type} (w : World σ) : Loading Collector σ where
  name := (·.name)
  load := fun c d s =>
    let (result, after) := c.load w d s
    (.ofResult result, after)

/-- An exporter in its world, with its earlier states and the times from which they held, the
latest first. -/
structure Operation (γ σ : Type) where
  exporter : Exporter γ
  world : σ
  history : List (Moment × Exporter γ)

namespace Operation

variable {γ σ : Type}

/-- The start of an operation. -/
def start (w : World σ) (x : Exporter γ) (s : σ) : Operation γ σ := ⟨x, s, [(w.clock s, x)]⟩

/-- The operation with another state of the exporter from a moment on. -/
def change (o : Operation γ σ) (t : Moment) (x : Exporter γ) : Operation γ σ :=
  { o with exporter := x, history := (t, x) :: o.history }

/-- The state of the exporter at a moment. -/
def at? (o : Operation γ σ) (t : Moment) : Option (Exporter γ) :=
  (o.history.find? fun h => h.1 ≤ t).map (·.2)

/-- A device. -/
def device? (o : Operation γ σ) (device : Nat) : Option Device := o.exporter.devices[device]?

/-- The operation with a device changed. -/
def setDevice (x : Exporter γ) (device : Nat) (d : Device) : Exporter γ :=
  { x with devices := x.devices.set device d }

/-- The operation with a collector changed. -/
def setCollector (x : Exporter γ) (collector : Nat) (c : γ) : Exporter γ :=
  { x with collectors := x.collectors.set collector c }

/-- Attempts to connect a device. -/
def connect (w : World σ) (device : Nat) (o : Operation γ σ) : Operation γ σ :=
  match o.device? device with
  | none => o
  | some d =>
    let (_, d, s) := d.connect w o.world
    { o with world := s }.change (w.clock s) (setDevice o.exporter device d)

/-- Loads a collector. -/
def load (w : World σ) (l : Loading γ σ) (collector : Nat) (device : Option Nat)
    (o : Operation γ σ) : LoadOutcome × Operation γ σ :=
  match o.exporter.collectors[collector]? with
  | none => (.skipped, o)
  | some c =>
    let (outcome, after) := l.load c (device.bind o.device?) o.world
    let o := after.progress.foldl
      (fun o p => o.change p.1 (setCollector o.exporter collector p.2))
      { o with world := after.world }
    let x := setCollector o.exporter collector after.kept
    let x := match device, after.device with
      | some i, some d => setDevice x i d
      | _, _ => x
    (outcome, o.change (w.clock o.world) x)

/-- Records a load that has ended. -/
def record (w : World σ) (l : Loading γ σ) (collector : Nat) (device : Option Nat) (elapsed : Nat)
    (outcome : LoadOutcome) (o : Operation γ σ) : Operation γ σ :=
  match o.exporter.collectors[collector]? with
  | none => o
  | some c =>
    let now := w.clock o.world
    let key := LoadKey.of (l.name c) ((device.bind o.device?).map (·.identity))
    o.change now { o.exporter with stats := o.exporter.stats.add key elapsed outcome now }

/-- What the polling loop works in during an operation. -/
def surroundings (w : World σ) (l : Loading γ σ) : Surroundings (Operation γ σ) where
  clock := fun o => w.clock o.world
  sleepUntil := fun t o => { o with world := w.sleepUntil t o.world }
  connected := fun d o => ((o.device? d).map (·.connection.connected)).getD false
  connect := connect w
  load := load w l
  record := record w l

end Operation

end RouterMetrics

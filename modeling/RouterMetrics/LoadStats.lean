import RouterMetrics.Device.Basic
import RouterMetrics.Exposition.Family
import RouterMetrics.Source
import RouterMetrics.Text.Fingerprint

/-!
Statistics about loads: for each collector and device how often it was loaded and failed, how long
that took and when it was last run, and how many loads there were in all.

A load that was skipped only adds its time. Collectors and devices are told by the fingerprint of
their names, so loads of two collectors can be counted as those of one.
-/

namespace RouterMetrics

/-- What became of a load. -/
inductive LoadOutcome
  | loaded | skipped | failed | panicked
deriving Repr, DecidableEq

/-- What became of a load by its result. -/
def LoadOutcome.ofResult : Except LoadError Unit → LoadOutcome
  | .ok _ => .loaded
  | .error .skipped => .skipped
  | .error _ => .failed

/-- Whose load it was. A collector without a device has empty texts for it. -/
structure LoadKey where
  collector : String
  device : Identity
deriving Repr, DecidableEq

namespace LoadKey

/-- The key of a collector's load. -/
def of (collector : String) (device : Option Identity) : LoadKey :=
  ⟨collector, device.getD ⟨"", ""⟩⟩

/-- The labels of a key, in the order of their names. -/
def labels (k : LoadKey) : List (String × String) :=
  [("device_address", k.device.address), ("device_name", k.device.name), ("name", k.collector)]

/-- Keys are ordered by the texts of their labels. -/
def before (a b : LoadKey) : Bool := decide (a.labels.map (·.2) < b.labels.map (·.2))

/-- What a key is told by. Keys whose texts are the same one after the other are not told apart. -/
def fingerprint (k : LoadKey) : UInt64 :=
  Text.fingerprint [k.collector, k.device.name, k.device.address]

end LoadKey

/-- Values by keys, in the order of the keys. -/
abbrev Tally (α : Type) := List (LoadKey × α)

namespace Tally

/-- Changes the value of a key, which starts from a first value. Keys with one fingerprint share a
value, which stands under the first of them that came. -/
def change {α : Type} (first : α) (k : LoadKey) (f : α → α) (t : Tally α) : Tally α :=
  if t.any fun e => e.1.fingerprint == k.fingerprint then
    t.map fun e => if e.1.fingerprint == k.fingerprint then (e.1, f e.2) else e
  else t.takeWhile (fun e => e.1.before k) ++ (k, f first) :: t.dropWhile fun e => e.1.before k

/-- The value of a key, if it or a key with its fingerprint has come. -/
def get? {α : Type} (t : Tally α) (k : LoadKey) : Option α :=
  (t.find? fun e => e.1.fingerprint == k.fingerprint).map (·.2)

end Tally

/-- A length of time in seconds. -/
def secondsOf (ns : Nat) : Float :=
  Decimal.ofInt (ns / nanosPerSecond : Nat) +
    Decimal.ofInt (ns % nanosPerSecond : Nat) / Decimal.ofInt nanosPerSecond

/-- The time that loads took, how many were done and how many failed, and when the last one ended,
each by keys, and how many loads were not skipped. -/
structure LoadStats where
  start : String
  total : Nat
  seconds : Tally Float
  loaded : Tally Nat
  failed : Tally Nat
  lastRun : Tally Moment

/-- A name that no metric can have. -/
structure NameError where
  name : String
deriving Repr, DecidableEq

/-- The text of a name error. -/
def NameError.message (e : NameError) : String :=
  "Error: '" ++ e.name ++ "' is not a valid metric name"

/-- A character that a metric's name may start with. -/
def isMetricNameStart (c : Char) : Bool := c.isAlpha || c == '_' || c == ':'

/-- A name that a metric can have. -/
def isMetricName (name : String) : Bool :=
  match name.toList with
  | [] => false
  | c :: cs => isMetricNameStart c && cs.all fun c => isMetricNameStart c || c.isDigit

namespace LoadStats

/-- Statistics without loads, whose names have a common start. -/
def empty (start : String) : LoadStats := ⟨start, 0, [], [], [], []⟩

/-- Statistics without loads, when their names can be those of metrics. -/
def create (start : String) : Except NameError LoadStats :=
  let name := start ++ "_data_loads_total"
  if isMetricName name then .ok (empty start) else .error ⟨name⟩

/-- The statistics with the time of one more load. -/
def addTime (s : LoadStats) (k : LoadKey) (elapsed : Nat) : LoadStats :=
  { s with seconds := s.seconds.change (Decimal.ofInt 0) k (· + secondsOf elapsed) }

/-- The statistics with one more load that ended at a moment and was not skipped. -/
def addRun (s : LoadStats) (k : LoadKey) (now : Moment) : LoadStats :=
  { s with total := s.total + 1, lastRun := s.lastRun.change now k fun _ => now }

/-- The statistics with one more load that took some nanoseconds and ended at a moment. -/
def add (s : LoadStats) (k : LoadKey) (elapsed : Nat) (outcome : LoadOutcome) (now : Moment) :
    LoadStats :=
  let s := s.addTime k elapsed
  match outcome with
  | .skipped => s
  | .loaded => { s with loaded := s.loaded.change 0 k (· + 1) }.addRun k now
  | .failed => { s with failed := s.failed.change 0 k (· + 1) }.addRun k now
  | .panicked => { s with failed := s.failed.change 0 k (· + 1) }.addRun k now

/-! ## Families -/

/-- The seconds of a moment, counted in whole milliseconds. -/
def momentSeconds (t : Moment) : Float :=
  Decimal.ofInt (t / (nanosPerMilli : Int)) / Decimal.ofInt 1000

/-- The number of loads as a value. -/
def countValue (n : Nat) : Float := Decimal.ofInt n

/-- A family with the values of a tally. -/
def family {α : Type} (s : LoadStats) (name help : String) (kind : FamilyKind) (value : α → Float)
    (t : Tally α) : Family :=
  ⟨s.start ++ name, help, kind, t.map fun (k, x) => ⟨k.labels, value x⟩⟩

/-- The families of the statistics, without those that have no samples. -/
def families (s : LoadStats) : List Family :=
  [s.family "_data_load_count" "Total count of metrics loads since start" .counter countValue
      s.loaded,
   s.family "_data_load_errors" "Data load error count" .counter countValue s.failed,
   s.family "_data_load_last_run" "Last run timestamp of metrics load" .gauge momentSeconds
      s.lastRun,
   s.family "_data_load_time" "Time spent loading metrics in seconds" .counter id s.seconds,
   ⟨s.start ++ "_data_loads_total", "Load attempts across all collectors and devices", .counter,
      [⟨[], countValue s.total⟩]⟩].filter fun f => !f.samples.isEmpty

end LoadStats

end RouterMetrics

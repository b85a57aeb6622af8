import RouterMetrics.Catalog
import RouterMetrics.Config.Settings
import RouterMetrics.Schedule.Queue

/-!
What settings ask to be polled: the devices, and rounds of collectors that are loaded together.

An enabled device has a round on each cadence for which it names groups, and the update check has
a round that belongs to no device. All collectors are numbered in the order of the rounds, so each
of them is in exactly one job.
-/

namespace RouterMetrics

open Config

/-- Collectors that are loaded together: those of a device on a cadence, or of no device. -/
structure Round where
  device : Option Nat
  cadence : Cadence
  interval : Duration
  collectors : List Collector

/-- Devices, and rounds whose devices are told by their numbers. -/
structure Plan where
  devices : List Device
  rounds : List Round

namespace Plan

/-! ## From settings -/

/-- The identity of a configured device. -/
def identity (name : String) (d : DeviceSettings) : Identity := ⟨name, d.hostname⟩

/-- The round of a device on a cadence, none when it names no group for it. -/
def deviceRound (number : Nat) (identity : Identity) (cadence : Cadence) (interval : Duration)
    (groups : List String) : Except LoadError (List Round) := do
  let collectors ← groups.mapM fun name => Catalog.build name identity.labels interval
  return if collectors.isEmpty then [] else [⟨some number, cadence, interval, collectors⟩]

/-- The rounds of a device, the fast one first. -/
def deviceRounds (number : Nat) (name : String) (d : DeviceSettings) :
    Except LoadError (List Round) := do
  let fast ← deviceRound number (identity name d) .fast d.pollingInterval d.collectors
  let slow ← deviceRound number (identity name d) .slow d.slowPollingInterval d.slowCollectors
  return fast ++ slow

/-- The round of the update check, if the settings ask for one. -/
def updateRounds (s : SystemSettings) : List Round :=
  if s.checkForUpdates then
    [⟨none, .system, s.systemInterval,
      [(Catalog.latestVersion s.updateChannels).collector [] s.systemInterval]⟩]
  else []

/-- The plan of settings. Devices are numbered in the order of their names, without those that are
not enabled. -/
def ofSettings (s : Settings) : Except LoadError Plan := do
  let enabled := s.enabledDevices.zipIdx
  let rounds ← enabled.mapM fun ((name, d), number) => deviceRounds number name d
  return {
    devices := enabled.map fun ((name, d), number) =>
      .create number (identity name d) s.system.backoff
    rounds := rounds.flatten ++ updateRounds s.system }

/-! ## Numbers -/

/-- The collectors of all rounds. -/
def collectors (p : Plan) : List Collector := p.rounds.flatMap (·.collectors)

/-- The jobs of rounds whose collectors are numbered from a number on. -/
def jobsFrom : Nat → List Round → List Job
  | _, [] => []
  | first, r :: rest =>
    ⟨r.device, List.range' first r.collectors.length, r.interval, r.cadence⟩ ::
      jobsFrom (first + r.collectors.length) rest

/-- The jobs of a plan, one for each round. -/
def jobs (p : Plan) : List Job := jobsFrom 0 p.rounds

end Plan

end RouterMetrics

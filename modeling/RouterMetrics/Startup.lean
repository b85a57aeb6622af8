import RouterMetrics.Config
import RouterMetrics.Device.Rest
import RouterMetrics.Exporter
import RouterMetrics.Plan

/-!
Starting the exporter: what is made of settings before the polling loop takes over.

Every device is tried once, in the order of the names, before any job is queued.
-/

namespace RouterMetrics

open Config

/-- Why the exporter does not start: its configuration, the names of its statistics, the address of
a device, or a group that is not known. -/
inductive StartError
  | config (error : ConfigError)
  | name (error : NameError)
  | address (error : TransportError)
  | group (error : LoadError)
deriving DecidableEq

namespace Startup

/-- The exporter of a plan before anything has been polled. -/
def exporter (p : Plan) (stats : LoadStats) : Exporter Collector := ⟨p.devices, p.collectors, stats⟩

/-- The endpoints of the enabled devices. -/
def endpoints (s : Settings) (env : Environment) : Except TransportError (List Rest.Endpoint) :=
  s.enabledDevices.mapM fun d => Rest.Endpoint.ofSettings d.2 env s.system.socketTimeout

/-- Tries every device once. -/
def connectAll {σ : Type} (w : World σ) (o : Operation Collector σ) : Operation Collector σ :=
  (List.range o.exporter.devices.length).foldl (fun o device => o.connect w device) o

/-- Queues the jobs of a plan at a moment, when every one of them can be due. -/
def queue? (s : SystemSettings) (p : Plan) (now : Moment) : Option Scheduler :=
  Scheduler.ofJobs? s.reconnectDelay s.startupStagger p.jobs now

/-- Settings from the bytes of a file, with another address and port to listen on where they are
given. What is replaced must be fit for use, too. -/
def configure (file : Option ByteArray) (address : Option String) (port : Option Nat) :
    Except ConfigError Settings := do
  let s ← Config.load file
  let system := { s.system with
    exportAddress := address.getD s.system.exportAddress
    exportPort := port.getD s.system.exportPort }
  let s := { s with system := system }
  s.check.mapError .invalid
  return s

/-- The statistics and the plan of settings. -/
def prepare (s : Settings) : Except StartError (LoadStats × Plan) := do
  let stats ← (LoadStats.create s.system.namePrefix).mapError .name
  let plan ← (Plan.ofSettings s).mapError .group
  return (stats, plan)

/-- The statistics, the plan and the endpoints of settings. -/
def begin (s : Settings) (env : Environment) :
    Except StartError (LoadStats × Plan × List Rest.Endpoint) := do
  let (stats, plan) ← prepare s
  let endpoints ← (endpoints s env).mapError .address
  return (stats, plan, endpoints)

/-- The polling loop, if all its jobs can be due, and the operation it starts from. -/
def launch {σ : Type} (w : World σ) (s : SystemSettings) (p : Plan) (stats : LoadStats)
    (world : σ) : Option Scheduler × Operation Collector σ :=
  let o := connectAll w (Operation.start w (exporter p stats) world)
  (queue? s p (w.clock o.world), o)

end Startup

end RouterMetrics

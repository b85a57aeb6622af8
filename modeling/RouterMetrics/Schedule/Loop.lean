import RouterMetrics.LoadStats
import RouterMetrics.Schedule.Queue

/-!
The polling loop: one job at a time, in the order of the queue.

A job whose device is down tries to connect instead of loading, and is due again after the delay
for that; otherwise all its collectors are loaded in order, whatever becomes of each load, and it is
due again after its interval. A stop ends the loop before the next job, never inside one. A job that
would be due again when no clock can tell the time breaks the loop for good.
-/

namespace RouterMetrics

/-- What the loop works in: a clock, devices and collectors by their numbers, and the statistics. -/
structure Surroundings (σ : Type) where
  clock : σ → Moment
  sleepUntil : Moment → σ → σ
  connected : Nat → σ → Bool
  connect : Nat → σ → σ
  load : Nat → Option Nat → σ → LoadOutcome × σ
  record : Nat → Option Nat → Nat → LoadOutcome → σ → σ

namespace Scheduler

variable {σ : Type}

/-- Loads a collector and records how that went and how long it took. -/
def loadOne (e : Surroundings σ) (device : Option Nat) (s : σ) (collector : Nat) : σ :=
  let started := e.clock s
  let (outcome, s) := e.load collector device s
  e.record collector device (Moment.elapsed started (e.clock s)) outcome s

/-- Loads the collectors of a job in their order. -/
def loadAll (e : Surroundings σ) (job : Job) (s : σ) : σ :=
  job.collectors.foldl (loadOne e job.device) s

/-- Whether the device of a job is down. -/
def isDown (e : Surroundings σ) (job : Job) (s : σ) : Bool :=
  match job.device with
  | some d => !e.connected d s
  | none => false

/-- Runs a job. Gives the delay until it is due again. -/
def runJob (e : Surroundings σ) (reconnectDelay : Duration) (job : Job) (s : σ) : Duration × σ :=
  if isDown e job s then
    (reconnectDelay, match job.device with
      | some d => e.connect d s
      | none => s)
  else (job.interval, loadAll e job s)

/-- Runs the job at the head of the queue, at the time it is due or later, and queues it again. -/
def turn (e : Surroundings σ) (q : QueuedJob) (rest : List QueuedJob) (sch : Scheduler) (s : σ) :
    Scheduler × σ :=
  let (delay, s) := runJob e sch.reconnectDelay q.job (e.sleepUntil q.fireAt s)
  ({ sch with queue := rest }.push q.job (Moment.after (e.clock s) delay), s)

/-- A stop comes before a moment is reached or at that moment. -/
def stopsBy (stop : Option Moment) (t : Moment) : Bool :=
  match stop with
  | some stop => decide (stop ≤ t)
  | none => false

/-- The state when a stop has come, which may have been before. -/
def atStop (e : Surroundings σ) (stop : Option Moment) (s : σ) : σ :=
  match stop with
  | some t => e.sleepUntil t s
  | none => s

/-- A number of turns, or fewer when a stop comes. Without jobs the loop waits for the stop, and
once it is broken nothing more happens. -/
def run (e : Surroundings σ) (stop : Option Moment) : Nat → Scheduler → σ → Scheduler × σ
  | 0, sch, s => (sch, s)
  | turns + 1, sch, s =>
    match sch.queue with
    | [] => (sch, atStop e stop s)
    | q :: rest =>
      if !sch.isSound || stopsBy stop (e.clock (e.sleepUntil q.fireAt s)) then
        (sch, atStop e stop s)
      else
        let (sch, s) := turn e q rest sch s
        run e stop turns sch s

/-- The shortest delay before a job is due again. -/
def shortestDelay (sch : Scheduler) : Nat :=
  sch.queue.foldl (fun n q => min n q.job.interval.ns) sch.reconnectDelay.ns

/-- More turns than there can be before a stop: every job at most once in the shortest delay. -/
def turnsUntil (e : Surroundings σ) (stop : Moment) (sch : Scheduler) (s : σ) : Nat :=
  sch.queue.length * (Moment.elapsed (e.clock s) stop / max 1 sch.shortestDelay + 2) + 1

/-- Runs until a stop. -/
def runUntil (e : Surroundings σ) (stop : Moment) (sch : Scheduler) (s : σ) : Scheduler × σ :=
  run e (some stop) (turnsUntil e stop sch s) sch s

end Scheduler

end RouterMetrics

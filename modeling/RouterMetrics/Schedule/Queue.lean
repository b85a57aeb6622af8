import RouterMetrics.Duration.Basic

/-!
Jobs and the queue they wait in.

A job loads some collectors of one device, or of none, at an interval. The queue is ordered by the
time a job is due; of jobs that are due together the one of the faster cadence comes first, and
among those the one that was queued first.
-/

namespace RouterMetrics

/-- How often a job runs: fast and slow for devices, and the cadence of what belongs to none. -/
inductive Cadence
  | fast | slow | system
deriving Repr, DecidableEq

namespace Cadence

/-- The place of a cadence among jobs that are due together. -/
def rank : Cadence → Nat
  | .fast => 1
  | .slow => 2
  | .system => 3

/-- The name of a cadence. -/
def name : Cadence → String
  | .fast => "fast"
  | .slow => "slow"
  | .system => "system"

end Cadence

/-- What is loaded together. Devices and collectors are told by their numbers. -/
structure Job where
  device : Option Nat
  collectors : List Nat
  interval : Duration
  cadence : Cadence
deriving DecidableEq

/-- A job in the queue: when it is due, and how many were queued before it. -/
structure QueuedJob where
  fireAt : Moment
  seq : Nat
  job : Job
deriving DecidableEq

/-- The order of the queue. -/
def QueuedJob.before (a b : QueuedJob) : Bool :=
  decide (a.fireAt < b.fireAt) ||
    (a.fireAt == b.fireAt &&
      (decide (a.job.cadence.rank < b.job.cadence.rank) ||
        (a.job.cadence.rank == b.job.cadence.rank && decide (a.seq < b.seq))))

/-- The waiting jobs in their order, how many have been queued so far, the delays of the schedule -
the one before a device is tried again, and the one between the first runs of jobs -, and the last
moment that the clock can tell. -/
structure Scheduler where
  queue : List QueuedJob
  nextSeq : Nat
  reconnectDelay : Duration
  stagger : Duration
  latest : Moment

namespace Scheduler

/-- A scheduler without jobs. -/
def create (reconnectDelay stagger : Duration) (latest : Moment) : Scheduler :=
  ⟨[], 0, reconnectDelay, stagger, latest⟩

/-- Puts a job into its place in a queue. -/
def insert (q : QueuedJob) : List QueuedJob → List QueuedJob
  | [] => [q]
  | head :: rest => if q.before head then q :: head :: rest else head :: insert q rest

/-- Queues a job for a moment. -/
def push (s : Scheduler) (job : Job) (fireAt : Moment) : Scheduler :=
  { s with queue := insert ⟨fireAt, s.nextSeq, job⟩ s.queue, nextSeq := s.nextSeq + 1 }

/-- The largest number of staggers between the first runs of two jobs. -/
def staggerLimit : Nat := (1 <<< 32) - 1

/-- How long after the first job a later one first runs. -/
def offset (s : Scheduler) : Duration :=
  (s.stagger.scale? (min s.nextSeq staggerLimit)).getD .longest

/-- Adds a job at a moment. The first runs of jobs are one stagger apart. -/
def add (s : Scheduler) (job : Job) (now : Moment) : Scheduler :=
  s.push job (Moment.after now s.offset)

/-- Every job is due at a moment that the clock can tell. -/
def isSound (s : Scheduler) : Bool := s.queue.all fun q => decide (q.fireAt ≤ s.latest)

/-- A scheduler with jobs added at a moment, when every one of them is due at a moment that the
clock can tell. -/
def ofJobs? (reconnectDelay stagger : Duration) (jobs : List Job) (now : Moment) :
    Option Scheduler :=
  let s := jobs.foldl (fun s job => s.add job now) (create reconnectDelay stagger now.lastFrom)
  if s.isSound then some s else none

end Scheduler

end RouterMetrics

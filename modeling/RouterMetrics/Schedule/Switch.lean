import RouterMetrics.Schedule.Loop

/-!
The switch that stops the loop.

Someone else holds the switch, sets it on and off, and may let go of it for good. The loop stops
when the switch is on at its head, or when it waits and the switch has been let go of. Whenever the
switch is set, to whatever value, a waiting loop goes back to its head. While a job runs the loop
does not look: it takes notice when the job has ended.
-/

namespace RouterMetrics

/-- The switch as the loop finds it: its value, whether it has been set since the loop last took
notice, and whether it has been let go of. -/
structure Switch where
  on : Bool
  news : Bool
  released : Bool
deriving DecidableEq

namespace Switch

/-- What is done with the switch. -/
inductive Act
  | set (on : Bool)
  | release
deriving DecidableEq

/-- The switch after an act. Once it has been let go of, nobody can set it. -/
def after (w : Switch) : Act → Switch
  | .set on => if w.released then w else { w with on := on, news := true }
  | .release => { w with released := true }

/-- The switch asks the loop to stop. -/
def asks (w : Switch) : Bool := w.on || w.released

/-- The switch wakes a waiting loop. -/
def wakes (w : Switch) : Bool := w.news || w.released

end Switch

/-- The switch over time: how it is, and what will be done with it and when. What comes later in the
list is not done earlier. -/
structure Watch where
  switch : Switch
  coming : List (Moment × Switch.Act)
deriving DecidableEq

namespace Watch

/-- Does what is due by a moment. -/
def passTo (t : Moment) (w : Switch) : List (Moment × Switch.Act) → Watch
  | [] => ⟨w, []⟩
  | (u, act) :: later => if u ≤ t then passTo t (w.after act) later else ⟨w, (u, act) :: later⟩

/-- The switch at a moment, and what is still to come. -/
def upTo (w : Watch) (t : Moment) : Watch := passTo t w.switch w.coming

/-- At a moment the switch asks the loop to stop. -/
def asks (w : Watch) (t : Moment) : Bool := (w.upTo t).switch.asks

/-- When a loop that waits from now on is woken: at once, or when something is next done with the
switch. -/
def wake? (w : Watch) (now : Moment) : Option Moment :=
  if w.switch.wakes then some now else w.coming.head?.map (·.1)

/-- The loop has taken notice of what has been done so far. -/
def noticed (w : Watch) : Watch := { w with switch := { w.switch with news := false } }

end Watch

namespace Scheduler

/-- How the loop ends: it is stopped, or broken by a job that is due when no clock can tell. -/
inductive Ending
  | stopped | broken
deriving DecidableEq

/-- The loop under a switch: the time it has come to, and the surroundings as the last run left
them. -/
structure Guarded (σ : Type) where
  watch : Watch
  now : Moment
  schedule : Scheduler
  world : σ
  ending : Option Ending

/-- What the loop does next. It rests when it has ended, and when it has no jobs and the switch is
not touched any more. -/
inductive Move
  | rests
  | breaks
  | stops (t : Moment)
  | returns (t : Moment)
  | runs (q : QueuedJob) (rest : List QueuedJob)

namespace Guarded

variable {σ : Type}

/-- The loop before its first round. -/
def start (e : Surroundings σ) (w : Watch) (sch : Scheduler) (s : σ) : Guarded σ :=
  ⟨w, e.clock s, sch, s, none⟩

/-- What the loop does next when it waits for its first job: it takes the job, unless it is woken
before the job is due or at that moment. -/
def await (e : Surroundings σ) (g : Guarded σ) (q : QueuedJob) (rest : List QueuedJob) : Move :=
  let w := g.watch.upTo g.now
  match (w.wake? g.now).filter (· ≤ e.clock (e.sleepUntil q.fireAt g.world)) with
  | some t => if (w.upTo t).switch.news then .returns t else .stops t
  | none => .runs q rest

/-- What the loop does next when it has no jobs: it waits to be woken, and stops. -/
def idle (g : Guarded σ) : Move :=
  match (g.watch.upTo g.now).wake? g.now with
  | some t => .stops t
  | none => .rests

/-- What the loop does next. -/
def move (e : Surroundings σ) (g : Guarded σ) : Move :=
  if g.ending.isSome then .rests
  else if !g.schedule.isSound then .breaks
  else if (g.watch.upTo g.now).switch.on then .stops g.now
  else
    match g.schedule.queue with
    | [] => g.idle
    | q :: rest => g.await e q rest

/-- One round of the loop. -/
def round (e : Surroundings σ) (g : Guarded σ) : Guarded σ :=
  match g.move e with
  | .rests => g
  | .breaks => { g with ending := some .broken }
  | .stops t => { g with watch := g.watch.upTo t, now := t, ending := some .stopped }
  | .returns t => { g with watch := (g.watch.upTo t).noticed, now := t }
  | .runs q rest =>
    let (sch, s) := turn e q rest g.schedule g.world
    { g with watch := g.watch.upTo g.now, now := e.clock s, schedule := sch, world := s }

/-- A number of rounds. -/
def rounds (e : Surroundings σ) : Nat → Guarded σ → Guarded σ
  | 0, g => g
  | n + 1, g => rounds e n (g.round e)

end Guarded

end Scheduler

end RouterMetrics

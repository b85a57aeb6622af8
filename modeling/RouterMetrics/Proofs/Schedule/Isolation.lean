import Mathlib.Data.List.Forall2
import RouterMetrics.Proofs.Schedule.Deeds
import RouterMetrics.Scripted.Collector

/-!
# Failures are isolated

What becomes of a load is recorded, and nothing else depends on it. So two schedules of the same
jobs, in which loads take equally long and devices are found up or down alike, do the same at the
same times, however their loads end: only the outcomes that are recorded differ
(`Scheduler.failure_isolation`).
-/

namespace RouterMetrics

variable {σ τ : Type}

/-! ## Deeds and records with their times -/

/-- The collector that is loaded, if one is, and the device. -/
def Deed.subject : Deed σ → Option Nat × Option Nat
  | .connect device _ => (none, some device)
  | .load collector device _ => (some collector, device)

/-- When a deed begins. -/
def Deed.begun (e : Surroundings σ) : Deed σ → Moment
  | .connect _ found => e.clock found
  | .load _ _ found => e.clock found

/-- When a deed has ended. -/
def Deed.ended (e : Surroundings σ) : Deed σ → Moment
  | .connect device found => e.clock (e.connect device found)
  | .load collector device found => e.clock (e.load collector device found).2

/-- How long a deed takes. -/
def Deed.duration (e : Surroundings σ) (x : Deed σ) : Int := x.ended e - x.begun e

/-- Deeds of two surroundings are the same: of the same collector and device, at the same time. -/
structure Deed.Same (e : Surroundings σ) (e' : Surroundings τ) (x : Deed σ) (y : Deed τ) :
    Prop where
  subject : x.subject = y.subject
  begun : x.begun e = y.begun e'
  ended : x.ended e = y.ended e'

/-- What is recorded of a load, and when. -/
structure Recorded where
  collector : Nat
  device : Option Nat
  elapsed : Nat
  outcome : LoadOutcome
  time : Moment
deriving DecidableEq

/-- Two records differ in their outcomes at most. -/
def Recorded.SameButOutcome (a b : Recorded) : Prop := { a with outcome := b.outcome } = b

/-- Surroundings that list what is recorded, the latest last. -/
def Surroundings.listed (e : Surroundings σ) : Surroundings (σ × List Recorded) where
  clock := fun s => e.clock s.1
  sleepUntil := fun t s => (e.sleepUntil t s.1, s.2)
  connected := fun d s => e.connected d s.1
  connect := fun d s => (e.connect d s.1, s.2)
  load := fun c d s => ((e.load c d s.1).1, (e.load c d s.1).2, s.2)
  record := fun c d n o s => (e.record c d n o s.1, s.2 ++ [⟨c, d, n, o, e.clock s.1⟩])

/-- What is recorded of a run. -/
def Run.records (e : Surroundings σ) (r : Run σ) : List Recorded :=
  (Scheduler.runJob e.listed r.found.reconnectDelay r.taken.job (r.begun e, [])).2.2

namespace Scheduler

/-- The record of a load. -/
def loadRecord (e : Surroundings σ) (device : Option Nat) (c : Nat) (s : σ) : Recorded :=
  ⟨c, device, Moment.elapsed (e.clock s) (e.clock (e.load c device s).2), (e.load c device s).1,
    e.clock (e.load c device s).2⟩

/-- The records of loads one after another. -/
def loadRecords (e : Surroundings σ) (device : Option Nat) : List Nat → σ → List Recorded
  | [], _ => []
  | c :: rest, s => loadRecord e device c s :: loadRecords e device rest (loadOne e device s c)

theorem foldl_loadOne_listed (e : Surroundings σ) (device : Option Nat) (collectors : List Nat)
    (s : σ) (list : List Recorded) :
    collectors.foldl (loadOne e.listed device) (s, list) =
      (collectors.foldl (loadOne e device) s, list ++ loadRecords e device collectors s) := by
  induction collectors generalizing s list with
  | nil => simp [loadRecords]
  | cons c rest ih =>
    have hone : loadOne e.listed device (s, list) c =
        (loadOne e device s c, list ++ [loadRecord e device c s]) := rfl
    rw [List.foldl_cons, hone, ih, List.foldl_cons, loadRecords, List.append_assoc]
    rfl

theorem loadRecords_collectors (e : Surroundings σ) (device : Option Nat) (collectors : List Nat)
    (s : σ) : (loadRecords e device collectors s).map (·.collector) = collectors := by
  induction collectors generalizing s with
  | nil => rfl
  | cons c rest ih => rw [loadRecords, List.map_cons, ih]; rfl

theorem loadDeeds_subjects (e : Surroundings σ) (device : Option Nat) (collectors : List Nat)
    (s : σ) :
    (loadDeeds e device collectors s).map Deed.subject = collectors.map (some ·, device) := by
  induction collectors generalizing s with
  | nil => rfl
  | cons c rest ih => rw [loadDeeds, List.map_cons, ih, List.map_cons]; rfl

end Scheduler

theorem Run.records_of_up {e : Surroundings σ} {r : Run σ}
    (h : Scheduler.isDown e r.taken.job (r.begun e) = false) :
    r.records e =
      Scheduler.loadRecords e r.taken.job.device r.taken.job.collectors (r.begun e) := by
  have hlisted : Scheduler.isDown e.listed r.taken.job (r.begun e, []) = false := h
  simp [records, Scheduler.runJob, hlisted, Scheduler.loadAll, Scheduler.foldl_loadOne_listed]

theorem Run.records_of_down {e : Surroundings σ} {r : Run σ}
    (h : Scheduler.isDown e r.taken.job (r.begun e) = true) : r.records e = [] := by
  obtain ⟨d, hd⟩ := Scheduler.isDown_device h
  have hlisted : Scheduler.isDown e.listed r.taken.job (r.begun e, []) = true := h
  simp only [records, Scheduler.runJob, hlisted, hd, if_true]
  rfl

/-! ## Surroundings in step -/

/-- Time passes alike in two surroundings but for what loads and attempts to connect take: a wait
that begins at one moment in both ends at one moment, and so does the recording of loads, whatever
their outcomes. -/
structure Surroundings.InStep (e : Surroundings σ) (e' : Surroundings τ) : Prop where
  sleep : ∀ t s s', e.clock s = e'.clock s' →
    e.clock (e.sleepUntil t s) = e'.clock (e'.sleepUntil t s')
  record : ∀ c d n o o' s s', e.clock s = e'.clock s' →
    e.clock (e.record c d n o s) = e'.clock (e'.record c d n o' s')

/-- Two runs meet the same conditions: both find the device of their job up, or both down, and what
they ask for takes equally long, deed by deed. -/
def Run.Level (e : Surroundings σ) (e' : Surroundings τ) (r : Run σ) (r' : Run τ) : Prop :=
  Scheduler.isDown e r.taken.job (r.begun e) = Scheduler.isDown e' r'.taken.job (r'.begun e') ∧
    ∀ p ∈ (r.deeds e).zip (r'.deeds e'), p.1.duration e = p.2.duration e'

/-- **Two runs are the same** but for the outcomes that they record: they take the same entry from
the same schedule, do the same at the same times, and leave the same schedule. -/
structure Run.Same (e : Surroundings σ) (e' : Surroundings τ) (r : Run σ) (r' : Run τ) :
    Prop where
  found : r.found = r'.found
  taken : r.taken = r'.taken
  start : r.start e = r'.start e'
  deeds : List.Forall₂ (Deed.Same e e') (r.deeds e) (r'.deeds e')
  records : List.Forall₂ Recorded.SameButOutcome (r.records e) (r'.records e')
  finish : r.finish e = r'.finish e'
  next : r.next e = r'.next e'

namespace Scheduler

variable {e : Surroundings σ} {e' : Surroundings τ}

/-- Deeds that begin together and take equally long end together. -/
theorem ended_eq {x : Deed σ} {y : Deed τ} (hbegun : x.begun e = y.begun e')
    (hduration : x.duration e = y.duration e') : x.ended e = y.ended e' := by
  unfold Deed.duration at hduration
  unfold Moment at *
  omega

/-- **Loads that take equally long are the same**, whatever becomes of each of them. -/
theorem loads_same (inStep : e.InStep e') (device : Option Nat) {collectors : List Nat} {s : σ}
    {s' : τ} (hclock : e.clock s = e'.clock s')
    (hdurations : ∀ p ∈ (loadDeeds e device collectors s).zip (loadDeeds e' device collectors s'),
      p.1.duration e = p.2.duration e') :
    List.Forall₂ (Deed.Same e e') (loadDeeds e device collectors s)
        (loadDeeds e' device collectors s') ∧
      List.Forall₂ Recorded.SameButOutcome (loadRecords e device collectors s)
        (loadRecords e' device collectors s') ∧
      e.clock (collectors.foldl (loadOne e device) s) =
        e'.clock (collectors.foldl (loadOne e' device) s') := by
  induction collectors generalizing s s' with
  | nil => exact ⟨.nil, .nil, hclock⟩
  | cons c rest ih =>
    rw [loadDeeds, loadDeeds, List.zip_cons_cons] at hdurations
    obtain ⟨hfirst, hrest⟩ := List.forall_mem_cons.mp hdurations
    have hended : e.clock (e.load c device s).2 = e'.clock (e'.load c device s').2 :=
      ended_eq (x := .load c device s) (y := .load c device s') hclock hfirst
    -- the next load begins when this one has been recorded
    have hnext : e.clock (loadOne e device s c) = e'.clock (loadOne e' device s' c) := by
      show e.clock (e.record c device _ _ _) = e'.clock (e'.record c device _ _ _)
      rw [hclock, hended]
      exact inStep.record c device _ _ _ _ _ hended
    obtain ⟨hdeeds, hrecords, hlast⟩ := ih hnext hrest
    refine ⟨.cons ⟨rfl, hclock, hended⟩ hdeeds, .cons ?_ hrecords, hlast⟩
    simp only [Recorded.SameButOutcome, loadRecord, hclock, hended]

/-- **Runs from the same schedule under the same conditions are the same.** -/
theorem run_same (inStep : e.InStep e') {r : Run σ} {r' : Run τ} (hfound : r.found = r'.found)
    (htaken : r.taken = r'.taken) (hrest : r.rest = r'.rest)
    (hclock : e.clock r.waiting = e'.clock r'.waiting) (level : r.Level e e' r') :
    r.Same e e' r' := by
  obtain ⟨hdown, hdurations⟩ := level
  have hstart : r.start e = r'.start e' := by
    rw [Run.start, Run.start, Run.begun, Run.begun, ← htaken]
    exact inStep.sleep _ _ _ hclock
  obtain ⟨hdeeds, hrecords, hfinish, hdelay⟩ :
      List.Forall₂ (Deed.Same e e') (r.deeds e) (r'.deeds e') ∧
        List.Forall₂ Recorded.SameButOutcome (r.records e) (r'.records e') ∧
        r.finish e = r'.finish e' ∧ r.delay e = r'.delay e' := by
    cases h : isDown e r.taken.job (r.begun e) with
    | true =>
      have h' := hdown ▸ h
      obtain ⟨d, hd, hdeeds, hended, hdelay⟩ := Run.of_down h
      obtain ⟨d', hd', hdeeds', hended', hdelay'⟩ := Run.of_down h'
      obtain rfl : d = d' := Option.some.inj (hd ▸ htaken ▸ hd')
      rw [hdeeds, hdeeds', List.zip_cons_cons] at hdurations
      have hconnected : e.clock (e.connect d (r.begun e)) = e'.clock (e'.connect d (r'.begun e')) :=
        ended_eq (x := .connect d (r.begun e)) (y := .connect d (r'.begun e')) hstart
          (hdurations _ List.mem_cons_self)
      rw [hdeeds, hdeeds', Run.records_of_down h, Run.records_of_down h', Run.finish, Run.finish,
        hended, hended', hdelay, hdelay', hfound]
      exact ⟨.cons ⟨rfl, hstart, hconnected⟩ .nil, .nil, hconnected, rfl⟩
    | false =>
      have h' := hdown ▸ h
      obtain ⟨hdeeds, hended, hdelay⟩ := Run.of_up h
      obtain ⟨hdeeds', hended', hdelay'⟩ := Run.of_up h'
      rw [hdeeds, hdeeds', ← htaken] at hdurations
      obtain ⟨hsame, hrecords, hfinish⟩ := loads_same inStep _ hstart hdurations
      rw [hdeeds, hdeeds', Run.records_of_up h, Run.records_of_up h', Run.finish, Run.finish,
        hended, hended', hdelay, hdelay', ← htaken]
      exact ⟨hsame, hrecords, hfinish, rfl⟩
  refine ⟨hfound, htaken, hstart, hdeeds, hrecords, hfinish, ?_⟩
  simp only [Run.next, Run.queued, hfound, htaken, hrest, hfinish, hdelay]

/-- At one loop head the same run is made in both surroundings, or none in either. -/
theorem next?_same (inStep : e.InStep e') (stop : Option Moment) (sch : Scheduler) {s : σ} {s' : τ}
    (hclock : e.clock s = e'.clock s') :
    (next? e stop sch s = none ∧ next? e' stop sch s' = none) ∨
      ∃ q rest, ∃ h : sch.queue = q :: rest, next? e stop sch s = some ⟨sch, s, q, rest, h⟩ ∧
        next? e' stop sch s' = some ⟨sch, s', q, rest, h⟩ := by
  by_cases hq : sch.queue = []
  · exact .inl ⟨next?_of_nil hq, next?_of_nil hq⟩
  · obtain ⟨q, rest, hq⟩ := List.exists_cons_of_ne_nil hq
    rw [next?_of_cons hq, next?_of_cons hq, inStep.sleep q.fireAt s s' hclock]
    split
    · exact .inl ⟨rfl, rfl⟩
    · exact .inr ⟨q, rest, hq, rfl, rfl⟩

/-- A stop is at the same time in both surroundings. -/
theorem atStop_clock_eq (inStep : e.InStep e') (stop : Option Moment) {s : σ} {s' : τ}
    (hclock : e.clock s = e'.clock s') :
    e.clock (atStop e stop s) = e'.clock (atStop e' stop s') := by
  cases stop with
  | none => exact hclock
  | some t => exact inStep.sleep t s s' hclock

/-- The runs of both surroundings are the same, and lead to the same schedule. -/
theorem runs_same (inStep : e.InStep e') (stop : Option Moment) {turns : Nat} {sch : Scheduler}
    {s : σ} {s' : τ} (hclock : e.clock s = e'.clock s')
    (level : ∀ p ∈ (runs e stop turns sch s).zip (runs e' stop turns sch s'),
      p.1.Level e e' p.2) :
    List.Forall₂ (Run.Same e e') (runs e stop turns sch s) (runs e' stop turns sch s') ∧
      (run e stop turns sch s).1 = (run e' stop turns sch s').1 ∧
      e.clock (run e stop turns sch s).2 = e'.clock (run e' stop turns sch s').2 := by
  induction turns generalizing sch s s' with
  | zero => exact ⟨.nil, rfl, hclock⟩
  | succ turns ih =>
    rw [runs, runs] at level ⊢
    rw [run_succ, run_succ]
    rcases next?_same inStep stop sch hclock with ⟨hnone, hnone'⟩ | ⟨q, rest, hq, hsome, hsome'⟩
    · rw [hnone, hnone']
      exact ⟨.nil, rfl, atStop_clock_eq inStep stop hclock⟩
    · simp only [hsome, hsome', List.zip_cons_cons] at level ⊢
      obtain ⟨hfirst, hlater⟩ := List.forall_mem_cons.mp level
      have hsame := run_same inStep rfl rfl rfl hclock hfirst
      rw [← hsame.next] at hlater ⊢
      obtain ⟨hall, hlast, hend⟩ := ih hsame.finish hlater
      exact ⟨.cons hsame hall, hlast, hend⟩

/-- **Failures are isolated.** Take any schedule in two surroundings in which time passes alike. Let
the devices be found up or down alike at every run, and let every load take equally long in both, as
well as every attempt to connect; how each load ends is free. Then the loop makes the same runs in
both, each of them in one turn: of the same jobs, at the same times, with the same loads in the same
order, and with the same schedule after each of them. What is recorded differs in the outcomes at
most. And a run that does not find its device down loads each collector of its job once, in their
order, and records each load. -/
theorem failure_isolation (inStep : e.InStep e') (stop : Option Moment) (turns : Nat)
    (sch : Scheduler) {s : σ} {s' : τ} (hclock : e.clock s = e'.clock s')
    (level : ∀ p ∈ (runs e stop turns sch s).zip (runs e' stop turns sch s'),
      p.1.Level e e' p.2) :
    (∀ m r, (runs e stop turns sch s)[m]? = some r →
        run e stop m sch s = (r.found, r.waiting) ∧
          run e stop (m + 1) sch s = (r.next e, r.ended e)) ∧
      (∀ m r, (runs e' stop turns sch s')[m]? = some r →
        run e' stop m sch s' = (r.found, r.waiting) ∧
          run e' stop (m + 1) sch s' = (r.next e', r.ended e')) ∧
      List.Forall₂ (Run.Same e e') (runs e stop turns sch s) (runs e' stop turns sch s') ∧
      (run e stop turns sch s).1 = (run e' stop turns sch s').1 ∧
      e.clock (run e stop turns sch s).2 = e'.clock (run e' stop turns sch s').2 ∧
      ∀ r ∈ runs e stop turns sch s, isDown e r.taken.job (r.begun e) = false →
        (r.deeds e).map Deed.subject = r.taken.job.collectors.map (some ·, r.taken.job.device) ∧
          (r.records e).map (·.collector) = r.taken.job.collectors := by
  obtain ⟨hall, hlast, hend⟩ := runs_same inStep stop hclock level
  refine ⟨fun _ _ => run_of_runs, fun _ _ => run_of_runs, hall, hlast, hend,
    fun r _ hup => ⟨?_, ?_⟩⟩
  · rw [(Run.of_up hup).1, loadDeeds_subjects]
  · rw [Run.records_of_up hup, loadRecords_collectors]

end Scheduler

/-! ## Collectors that end badly -/

instance (e : Surroundings σ) (e' : Surroundings τ) (r : Run σ) (r' : Run τ) :
    Decidable (r.Level e e' r') :=
  inferInstanceAs (Decidable (_ ∧ _))

/-- To record a load asks nothing of the world. -/
theorem Operation.record_world {γ : Type} (w : World σ) (l : Loading γ σ) (collector : Nat)
    (device : Option Nat) (elapsed : Nat) (outcome : LoadOutcome) (o : Operation γ σ) :
    (o.record w l collector device elapsed outcome).world = o.world := by
  unfold Operation.record
  split
  · rfl
  · rfl

/-- Operations are in step when waits end alike in their worlds: to record a load takes no time. -/
theorem Operation.inStep {γ γ' : Type} {w : World σ} {w' : World τ}
    (sleep : ∀ t s s', w.clock s = w'.clock s' →
      w.clock (w.sleepUntil t s) = w'.clock (w'.sleepUntil t s'))
    (l : Loading γ σ) (l' : Loading γ' τ) : (surroundings w l).InStep (surroundings w' l') where
  sleep := fun t o o' h => sleep t o.world o'.world h
  record := by
    intro c d n outcome outcome' o o' h
    show w.clock (o.record w l c d n outcome).world =
      w'.clock (o'.record w' l' c d n outcome').world
    rw [record_world, record_world]
    exact h

theorem Scene.settle_now (agenda : List (Moment × Nat × ScriptChange)) (s : Scene) :
    (settle agenda s).now = s.now := by
  induction agenda generalizing s with
  | nil => rfl
  | cons entry rest ih =>
    obtain ⟨t, device, change⟩ := entry
    rw [settle]
    split
    · exact ih _
    · rfl

/-- Waits in scenes end alike. -/
theorem Scene.sleepUntil_now (t : Moment) {s s' : Scene} (h : s.now = s'.now) :
    (sleepUntil t s).now = (sleepUntil t s').now := by
  unfold sleepUntil
  rw [h]
  split
  · exact h
  · rw [passTo, passTo, settle_now, settle_now, h]

/-- A connected device and no device, with three collectors whose loads end in ways of their own. -/
def crew (ends : List (List (String × ScriptedEnd))) : Exporter ScriptedCollector where
  devices := [{ Device.create 0 ⟨"branch", "10.0.0.2"⟩ (.of (.ofSeconds 3) 10 (.ofSeconds 60)) with
    connection := .up }]
  collectors := List.zipWith (fun c ends => ⟨c.1, .ofSeconds c.2, ends, 0⟩)
    [("interface", 2), ("arp", 1), ("latest_version", 3)] ends
  stats := .empty "crew"

/-- Loads that end in every bad way there is. -/
def badEnds : List (List (String × ScriptedEnd)) :=
  [[("panic", .panic), ("skip", .error .skipped), ("config", .error (.config "none"))],
    [("transport", .error (.transport .timeout)), ("panic", .panic)],
    [("record", .error (.record ⟨"none"⟩)), ("ok", .ok), ("panic", .panic)]]

/-- Six runs in which all loads end well, and six in which they end badly: the same loads are made
at the same times. -/
theorem Scheduler.failure_isolation_crew :
    let e := Operation.surroundings Scene.world ScriptedCollector.loading
    let jobs : List (Job × Moment) :=
      [(⟨some 0, [0, 1], .ofSeconds 10, .fast⟩, 0), (⟨none, [2], .ofSeconds 7, .system⟩, 0)]
    let sch := (create (.ofSeconds 3) (.ofSeconds 1) (Moment.lastFrom 0)).addAll jobs
    let well := Operation.start Scene.world (crew [[], [], []]) (.start 0 [.silent])
    let badly := Operation.start Scene.world (crew badEnds) (.start 0 [.silent])
    (runs e none 6 sch well).map (fun r => (r.records e).map (·.outcome)) =
        [[.loaded, .loaded], [.loaded], [.loaded, .loaded], [.loaded], [.loaded, .loaded],
          [.loaded]] ∧
      (runs e none 6 sch badly).map (fun r => (r.records e).map (·.outcome)) =
        [[.panicked, .failed], [.failed], [.skipped, .panicked], [.loaded], [.failed, .panicked],
          [.panicked]] ∧
      List.Forall₂ (Run.Same e e) (runs e none 6 sch well) (runs e none 6 sch badly) := by
  intro e jobs sch well badly
  have inStep : e.InStep e := Operation.inStep (fun t _ _ h => Scene.sleepUntil_now t h) _ _
  have hclock : e.clock well = e.clock badly := rfl
  have level : ∀ p ∈ (runs e none 6 sch well).zip (runs e none 6 sch badly),
      p.1.Level e e p.2 := by decide
  obtain ⟨-, -, hsame, -⟩ := failure_isolation inStep none 6 sch hclock level
  exact ⟨by decide, by decide, hsame⟩

end RouterMetrics

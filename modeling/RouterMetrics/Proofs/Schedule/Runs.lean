import RouterMetrics.Proofs.Schedule.Order
import RouterMetrics.Schedule.Loop

/-!
# The runs of the loop

A run is one turn of the loop seen from outside: what the loop finds, the entry it takes, when the
run starts and ends, and the entry it queues. `Scheduler.runs` lists the runs that `Scheduler.run`
makes, and `Leads` is the chain of loop heads they form; what holds at the start and is kept by
every run holds at every loop head (`Leads.invariant`).

Nothing here fixes what becomes of a load or of an attempt to connect, or how long they take.
-/

namespace RouterMetrics

variable {σ : Type}

/-- A wait ends when it should, and nothing sets the clock back. -/
structure Surroundings.Timed (e : Surroundings σ) : Prop where
  sleep : ∀ t s, e.clock (e.sleepUntil t s) = max (e.clock s) t
  connect : ∀ d s, e.clock s ≤ e.clock (e.connect d s)
  load : ∀ c d s, e.clock s ≤ e.clock (e.load c d s).2
  record : ∀ c d n o s, e.clock s ≤ e.clock (e.record c d n o s)

/-- Surroundings with nothing in them but time: every load takes as long as every other, and the
devices are up or down for good. -/
def Surroundings.clockwork (loadTime : Duration) (up : Nat → Bool) : Surroundings Moment where
  clock := id
  sleepUntil := fun t s => max s t
  connected := fun d _ => up d
  connect := fun _ s => s
  load := fun _ _ s => (.loaded, Moment.after s loadTime)
  record := fun _ _ _ _ s => s

theorem Surroundings.clockwork_timed (loadTime : Duration) (up : Nat → Bool) :
    (Surroundings.clockwork loadTime up).Timed where
  sleep := fun _ _ => rfl
  connect := fun _ s => Int.le_refl s
  load := fun _ _ _ => Int.le_add_of_nonneg_right (Int.natCast_nonneg _)
  record := fun _ _ _ _ s => Int.le_refl s

/-- What the loop finds at its head, and the entry it takes. -/
structure Run (σ : Type) where
  found : Scheduler
  waiting : σ
  taken : QueuedJob
  rest : List QueuedJob
  queue_eq : found.queue = taken :: rest

namespace Run

variable (e : Surroundings σ) (r : Run σ)

/-- The surroundings when the run starts. -/
def begun : σ := e.sleepUntil r.taken.fireAt r.waiting

/-- The surroundings when the run has ended. -/
def ended : σ := (Scheduler.runJob e r.found.reconnectDelay r.taken.job (r.begun e)).2

/-- The delay that the run asks for. -/
def delay : Duration := (Scheduler.runJob e r.found.reconnectDelay r.taken.job (r.begun e)).1

/-- When the run starts. -/
def start : Moment := e.clock (r.begun e)

/-- When the run ends. -/
def finish : Moment := e.clock (r.ended e)

/-- The entry that the run queues. -/
def queued : QueuedJob := ⟨Moment.after (r.finish e) (r.delay e), r.found.nextSeq, r.taken.job⟩

/-- The schedule after the run. -/
def next : Scheduler :=
  { r.found with queue := Scheduler.insert (r.queued e) r.rest, nextSeq := r.found.nextSeq + 1 }

theorem mem_found {x : QueuedJob} : x ∈ r.found.queue ↔ x = r.taken ∨ x ∈ r.rest := by
  rw [r.queue_eq, List.mem_cons]

theorem mem_next {x : QueuedJob} : x ∈ (r.next e).queue ↔ x = r.queued e ∨ x ∈ r.rest :=
  Scheduler.mem_insert

theorem next_length : (r.next e).queue.length = r.found.queue.length := by
  rw [r.queue_eq, List.length_cons]
  exact (Scheduler.insert_perm _ _).length_eq

theorem taken_mem : r.taken ∈ r.found.queue := r.mem_found.mpr (.inl rfl)

theorem next_ordered {r : Run σ} (h : r.found.Ordered) : (r.next e).Ordered :=
  (h.tail r.queue_eq).push r.taken.job _

/-- The taken entry comes before all others. -/
theorem taken_before {r : Run σ} (h : r.found.Ordered) {x : QueuedJob} (hx : x ∈ r.rest) :
    r.taken.before x = true :=
  Scheduler.Sorted.head (r.queue_eq ▸ h.sorted) x hx

/-- What holds of the queued entry and of all that were there before holds of all after the run. -/
theorem forall_mem_next {p : QueuedJob → Prop} (hqueued : p (r.queued e))
    (hfound : ∀ q ∈ r.found.queue, p q) : ∀ q ∈ (r.next e).queue, p q := by
  intro q hq
  rcases (r.mem_next e).mp hq with rfl | hq
  · exact hqueued
  · exact hfound q (r.mem_found.mpr (.inr hq))

variable {e}

/-- An entry that is not taken is still queued after the run. -/
theorem mem_next_of_ne {r : Run σ} {x : QueuedJob} (hx : x ∈ r.found.queue) (hne : r.taken ≠ x) :
    x ∈ (r.next e).queue := by
  rcases r.mem_found.mp hx with rfl | hx
  · exact absurd rfl hne
  · exact (r.mem_next e).mpr (.inr hx)

/-! ## Times -/

/-- **A run starts at its time or at the end of the run before it, whichever is later.** -/
theorem start_eq (timed : e.Timed) : r.start e = max (e.clock r.waiting) r.taken.fireAt :=
  timed.sleep _ _

theorem loadAll_clock_le (timed : e.Timed) (device : Option Nat) (collectors : List Nat) (s : σ) :
    e.clock s ≤ e.clock (collectors.foldl (Scheduler.loadOne e device) s) := by
  induction collectors generalizing s with
  | nil => exact Int.le_refl _
  | cons c rest ih =>
    refine Int.le_trans ?_ (ih _)
    exact Int.le_trans (timed.load c device s) (timed.record ..)

theorem runJob_clock_le (timed : e.Timed) (reconnectDelay : Duration) (job : Job) (s : σ) :
    e.clock s ≤ e.clock (Scheduler.runJob e reconnectDelay job s).2 := by
  unfold Scheduler.runJob
  split
  · cases job.device with
    | none => exact Int.le_refl _
    | some d => exact timed.connect d s
  · exact loadAll_clock_le timed job.device job.collectors s

theorem start_le_finish (timed : e.Timed) : r.start e ≤ r.finish e :=
  runJob_clock_le timed _ _ _

theorem waiting_le_start (timed : e.Timed) : e.clock r.waiting ≤ r.start e := by
  rw [r.start_eq timed]
  exact Int.le_max_left ..

theorem fireAt_le_start (timed : e.Timed) : r.taken.fireAt ≤ r.start e := by
  rw [r.start_eq timed]
  exact Int.le_max_right ..

end Run

/-! ## The runs that are made -/

namespace Scheduler

/-- The run that is made at a loop head, none without jobs, after a stop and when the loop is
broken. -/
def next? (e : Surroundings σ) (stop : Option Moment) (sch : Scheduler) (s : σ) :
    Option (Run σ) :=
  match h : sch.queue with
  | [] => none
  | q :: rest =>
    if !sch.isSound || stopsBy stop (e.clock (e.sleepUntil q.fireAt s)) then none
    else some ⟨sch, s, q, rest, h⟩

/-- The runs of a number of turns. -/
def runs (e : Surroundings σ) (stop : Option Moment) : Nat → Scheduler → σ → List (Run σ)
  | 0, _, _ => []
  | turns + 1, sch, s =>
    match next? e stop sch s with
    | none => []
    | some r => r :: runs e stop turns (r.next e) (r.ended e)

theorem next?_of_nil {e : Surroundings σ} {stop : Option Moment} {sch : Scheduler} {s : σ}
    (h : sch.queue = []) : next? e stop sch s = none := by
  -- the match carries an equation of the queue, so the queue is made a variable first
  cases sch
  subst h
  rfl

theorem next?_of_cons {e : Surroundings σ} {stop : Option Moment} {sch : Scheduler} {s : σ}
    {q : QueuedJob} {rest : List QueuedJob} (h : sch.queue = q :: rest) :
    next? e stop sch s =
      if !sch.isSound || stopsBy stop (e.clock (e.sleepUntil q.fireAt s)) then none
      else some ⟨sch, s, q, rest, h⟩ := by
  cases sch
  cases h
  rfl

/-- A run that is made starts from what is found, in a schedule that is sound, and before a
stop. -/
theorem next?_some {e : Surroundings σ} {stop : Option Moment} {sch : Scheduler} {s : σ}
    {r : Run σ} (h : next? e stop sch s = some r) :
    r.found = sch ∧ r.waiting = s ∧ sch.isSound = true ∧ stopsBy stop (r.start e) = false := by
  cases hq : sch.queue with
  | nil => simp [next?_of_nil hq] at h
  | cons q rest =>
    rw [next?_of_cons hq] at h
    split at h
    case isTrue => cases h
    case isFalse hgo =>
      cases h
      simpa [Run.start, Run.begun] using hgo

/-- No run is made only without jobs, when the loop is broken, and when a stop comes before the
first job is due. -/
theorem next?_none {e : Surroundings σ} {stop : Option Moment} {sch : Scheduler} {s : σ}
    (h : next? e stop sch s = none) : sch.queue = [] ∨ sch.isSound = false ∨
      ∃ q rest, sch.queue = q :: rest ∧
        stopsBy stop (e.clock (e.sleepUntil q.fireAt s)) = true := by
  cases hq : sch.queue with
  | nil => exact .inl rfl
  | cons q rest =>
    rw [next?_of_cons hq] at h
    split at h
    case isTrue hstop =>
      rw [Bool.or_eq_true, Bool.not_eq_true'] at hstop
      exact .inr (hstop.imp id fun hs => ⟨q, rest, rfl, hs⟩)
    case isFalse => cases h

theorem run_succ (e : Surroundings σ) (stop : Option Moment) (turns : Nat) (sch : Scheduler)
    (s : σ) : run e stop (turns + 1) sch s =
      match next? e stop sch s with
      | none => (sch, atStop e stop s)
      | some r => run e stop turns (r.next e) (r.ended e) := by
  cases hq : sch.queue with
  | nil => simp [run, hq, next?_of_nil hq]
  | cons q rest =>
    simp only [run, hq, next?_of_cons hq]
    split
    · rfl
    · rfl

/-- The loop heads before and after a run. -/
theorem run_of_runs {e : Surroundings σ} {stop : Option Moment} {turns m : Nat} {sch : Scheduler}
    {s : σ} {r : Run σ} (h : (runs e stop turns sch s)[m]? = some r) :
    run e stop m sch s = (r.found, r.waiting) ∧
      run e stop (m + 1) sch s = (r.next e, r.ended e) := by
  induction turns generalizing sch s m with
  | zero => simp [runs] at h
  | succ turns ih =>
    rw [runs] at h
    cases hnext : next? e stop sch s with
    | none => simp [hnext] at h
    | some first =>
      simp only [hnext] at h
      cases m with
      | zero =>
        cases h
        obtain ⟨rfl, rfl, -, -⟩ := next?_some hnext
        exact ⟨rfl, by rw [run_succ, hnext]; rfl⟩
      | succ m =>
        rw [run_succ, run_succ, hnext]
        exact ih h

/-! ## Chains of loop heads -/

/-- Runs lead from one loop head to another. -/
inductive Leads (e : Surroundings σ) : Scheduler → σ → List (Run σ) → Scheduler → σ → Prop
  | done (sch : Scheduler) (s : σ) : Leads e sch s [] sch s
  | run (r : Run σ) {rs : List (Run σ)} {sch : Scheduler} {s : σ} :
      Leads e (r.next e) (r.ended e) rs sch s → Leads e r.found r.waiting (r :: rs) sch s

variable {e : Surroundings σ} {sch sch' : Scheduler} {s s' : σ} {rs : List (Run σ)}

theorem Leads.nil (h : Leads e sch s [] sch' s') : sch' = sch ∧ s' = s := by
  cases h
  exact ⟨rfl, rfl⟩

theorem Leads.cons {r : Run σ} (h : Leads e sch s (r :: rs) sch' s') :
    r.found = sch ∧ r.waiting = s ∧ Leads e (r.next e) (r.ended e) rs sch' s' := by
  cases h
  exact ⟨rfl, rfl, by assumption⟩

theorem Leads.append {before after : List (Run σ)} (h : Leads e sch s (before ++ after) sch' s') :
    ∃ mid m, Leads e sch s before mid m ∧ Leads e mid m after sch' s' := by
  induction before generalizing sch s with
  | nil => exact ⟨sch, s, .done sch s, h⟩
  | cons r before ih =>
    obtain ⟨rfl, rfl, hrest⟩ := h.cons
    obtain ⟨mid, m, hb, ha⟩ := ih hrest
    exact ⟨mid, m, .run r hb, ha⟩

/-- Runs lead to one loop head only. -/
theorem Leads.unique {sch'' : Scheduler} {s'' : σ} (h : Leads e sch s rs sch' s')
    (h' : Leads e sch s rs sch'' s'') : sch'' = sch' ∧ s'' = s' := by
  induction h with
  | done => exact h'.nil
  | run r _ ih => exact ih h'.cons.2.2

/-- **What every run keeps holds at every loop head.** -/
theorem Leads.invariant {P : Scheduler → σ → Prop} (h : Leads e sch s rs sch' s')
    (start : P sch s)
    (step : ∀ r ∈ rs, P r.found r.waiting → P (r.next e) (r.ended e)) :
    P sch' s' ∧ ∀ r ∈ rs, P r.found r.waiting := by
  induction h with
  | done => exact ⟨start, by simp⟩
  | run r _ ih =>
    obtain ⟨hlast, hall⟩ := ih (step r List.mem_cons_self start) fun r' hr' =>
      step r' (List.mem_cons_of_mem _ hr')
    exact ⟨hlast, List.forall_mem_cons.mpr ⟨start, hall⟩⟩

theorem Leads.ordered (h : Leads e sch s rs sch' s') (start : sch.Ordered) :
    sch'.Ordered ∧ ∀ r ∈ rs, r.found.Ordered :=
  h.invariant (P := fun sch _ => sch.Ordered) start fun _ _ hr => Run.next_ordered e hr

/-- As many entries are queued at every loop head. -/
theorem Leads.length_eq (h : Leads e sch s rs sch' s') :
    sch'.queue.length = sch.queue.length := by
  induction h with
  | done => rfl
  | run r _ ih => exact ih.trans (r.next_length e)

theorem Leads.clock_le (timed : e.Timed) (h : Leads e sch s rs sch' s') :
    e.clock s ≤ e.clock s' :=
  (h.invariant (P := fun _ x => e.clock s ≤ e.clock x) (Int.le_refl _) fun r _ hr =>
    Int.le_trans hr (Int.le_trans (r.waiting_le_start timed) (r.start_le_finish timed))).1

/-- At the end every run has ended. -/
theorem Leads.finish_le (timed : e.Timed) (h : Leads e sch s rs sch' s') :
    ∀ r ∈ rs, r.finish e ≤ e.clock s' := by
  intro r hr
  obtain ⟨before, after, rfl⟩ := List.append_of_mem hr
  obtain ⟨mid, m, -, hafter⟩ := h.append
  exact hafter.cons.2.2.clock_le timed

/-- The runs of a number of turns lead to the loop head at their end. There are as many of them as
turns, unless none can be made any more. -/
theorem leads_runs (e : Surroundings σ) (stop : Option Moment) (turns : Nat) (sch : Scheduler)
    (s : σ) : ∃ t, Leads e sch s (runs e stop turns sch s) (run e stop turns sch s).1 t ∧
      ((runs e stop turns sch s).length = turns ∧ (run e stop turns sch s).2 = t ∨
        next? e stop (run e stop turns sch s).1 t = none ∧
          (run e stop turns sch s).2 = atStop e stop t) := by
  induction turns generalizing sch s with
  | zero => exact ⟨s, .done sch s, .inl ⟨rfl, rfl⟩⟩
  | succ turns ih =>
    rw [runs, run_succ]
    cases hnext : next? e stop sch s with
    | none => exact ⟨s, .done sch s, .inr ⟨hnext, rfl⟩⟩
    | some r =>
      obtain ⟨rfl, rfl, -, -⟩ := next?_some hnext
      obtain ⟨t, hleads, hend⟩ := ih (r.next e) (r.ended e)
      exact ⟨t, .run r hleads, hend.imp (fun h => ⟨congrArg (· + 1) h.1, h.2⟩) id⟩

/-- The runs before any of those that are made lead to the loop head after as many turns. -/
theorem leads_run_of_append {stop : Option Moment} {turns : Nat} {before after : List (Run σ)}
    (h : runs e stop turns sch s = before ++ after) :
    Leads e sch s before (run e stop before.length sch s).1
      (run e stop before.length sch s).2 := by
  induction before generalizing turns sch s with
  | nil => exact .done sch s
  | cons r before ih =>
    cases turns with
    | zero => cases h
    | succ turns =>
      rw [runs] at h
      cases hnext : next? e stop sch s with
      | none => simp [hnext] at h
      | some r' =>
        simp only [hnext, List.cons_append, List.cons.injEq] at h
        obtain ⟨rfl, hrest⟩ := h
        obtain ⟨rfl, rfl, -, -⟩ := next?_some hnext
        have hrun := run_succ e stop before.length r'.found r'.waiting
        simp only [hnext] at hrun
        rw [List.length_cons, hrun]
        exact .run r' (ih hrest)

/-- Runs that are made after others start from the loop head after those. -/
theorem leads_between {stop : Option Moment} {turns : Nat} {before passed later : List (Run σ)}
    (h : runs e stop turns sch s = before ++ passed ++ later) :
    ∃ last t, Leads e (run e stop before.length sch s).1 (run e stop before.length sch s).2
      passed last t := by
  have hboth := leads_run_of_append h
  rw [List.append_assoc] at h
  obtain ⟨mid, m, hbefore, hpassed⟩ := hboth.append
  obtain ⟨rfl, rfl⟩ := (leads_run_of_append h).unique hbefore
  exact ⟨_, _, hpassed⟩

end Scheduler

end RouterMetrics

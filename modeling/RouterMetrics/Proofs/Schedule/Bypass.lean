import RouterMetrics.Proofs.Schedule.Numbers

/-!
# How often a due job is passed over

An entry that a run queues when a job is already due comes after the entry of that job, whatever
the cadences: its time is strictly later, as every delay is positive. It therefore stays in the
queue until the due job has run (`not_taken_again`), and so a due job is passed over by every other
job at most once.
-/

namespace RouterMetrics

variable {σ : Type}

namespace Scheduler

/-- All delays of a schedule are positive. -/
structure Paced (sch : Scheduler) : Prop where
  reconnect : 0 < sch.reconnectDelay.ns
  interval : ∀ q ∈ sch.queue, 0 < q.job.interval.ns

theorem addAll_paced {reconnectDelay stagger : Duration} {latest : Moment}
    {arrivals : List (Job × Moment)} (hdelay : 0 < reconnectDelay.ns)
    (hintervals : ∀ a ∈ arrivals, 0 < a.1.interval.ns) :
    ((create reconnectDelay stagger latest).addAll arrivals).Paced := by
  obtain ⟨hqueue, -, -, hreconnect, -⟩ := addAll_queue reconnectDelay stagger latest arrivals
  constructor
  · rw [hreconnect]
    exact hdelay
  · intro q hq
    obtain ⟨i, hi, rfl⟩ := List.mem_mapIdx.mp (hqueue.mem_iff.mp hq)
    exact hintervals _ (List.getElem_mem hi)

end Scheduler

namespace Run

open Scheduler

variable {e : Surroundings σ} {r : Run σ}

theorem delay_pos (paced : r.found.Paced) : 0 < (r.delay e).ns := by
  unfold delay runJob
  split
  · exact paced.reconnect
  · exact paced.interval r.taken r.taken_mem

/-- What a run queues is due after the run. -/
theorem finish_lt_queued (paced : r.found.Paced) : r.finish e < (r.queued e).fireAt := by
  exact Int.lt_add_of_pos_right _ (Int.ofNat_lt.mpr (delay_pos paced))

theorem next_paced (paced : r.found.Paced) : (r.next e).Paced where
  reconnect := paced.reconnect
  interval := r.forall_mem_next e (paced.interval r.taken r.taken_mem) paced.interval

end Run

namespace Scheduler

variable {e : Surroundings σ} {jobs : List Job} {number : Nat → Nat} {sch sch' : Scheduler}
  {s s' : σ} {rs : List (Run σ)} {j x : QueuedJob}

/-- An entry behind a waiting one is not taken. -/
theorem not_taken_behind {r : Run σ} (ordered : r.found.Ordered) (hj : j ∈ r.found.queue)
    (hjx : j.before x = true) : r.taken ≠ x := by
  rintro rfl
  rcases r.mem_found.mp hj with rfl | hj
  · exact QueuedJob.before_irrefl _ hjx
  · exact QueuedJob.not_before_of_before hjx (Run.taken_before ordered hj)

/-- **A job whose entry is behind that of a waiting job does not run while that job waits.** -/
theorem not_taken_again (h : Leads e sch s rs sch' s') (ordered : sch.Ordered)
    (held : HoldsEach jobs number sch.queue) (hj : j ∈ sch.queue) (hx : x ∈ sch.queue)
    (hjx : j.before x = true) (hwaits : ∀ r ∈ rs, r.taken ≠ j) :
    ∀ p ∈ numbered number rs, p.1 ≠ number x.seq := by
  induction h generalizing number with
  | done => simp [numbered]
  | run r _ ih =>
    obtain ⟨hne, hwaits⟩ := List.forall_mem_cons.mp hwaits
    have hx' : x ∈ (r.next e).queue :=
      Run.mem_next_of_ne hx (not_taken_behind ordered hj hjx)
    refine List.forall_mem_cons.mpr ⟨fun hn => ?_, ?_⟩
    · exact not_taken_behind ordered hj hjx (held.eq_of_number r.taken_mem hx hn)
    · have hsame : r.pass number x.seq = number x.seq := Run.pass_of_mem ordered hx
      rw [← hsame]
      exact ih (Run.next_ordered e ordered) (Run.next_holdsEach ordered held)
        (Run.mem_next_of_ne hj hne) hx' hwaits

/-- A job that is run while a job is due does not run again before that job. -/
theorem numbered_pairwise (h : Leads e sch s rs sch' s') (ordered : sch.Ordered)
    (paced : sch.Paced) (held : HoldsEach jobs number sch.queue) (hj : j ∈ sch.queue)
    (hwaits : ∀ r ∈ rs, r.taken ≠ j) :
    (numbered number rs).Pairwise fun p p' => j.fireAt ≤ p.2.finish e → p'.1 ≠ p.1 := by
  induction h generalizing number with
  | done => exact .nil
  | run r hrest ih =>
    obtain ⟨hne, hwaits⟩ := List.forall_mem_cons.mp hwaits
    have ordered' := Run.next_ordered e ordered
    have held' : HoldsEach jobs (r.pass number) (r.next e).queue :=
      Run.next_holdsEach ordered held
    have hj' : j ∈ (r.next e).queue := Run.mem_next_of_ne hj hne
    refine List.pairwise_cons.mpr ⟨fun p' hp' hdue => ?_,
      ih ordered' (Run.next_paced paced) held' hj' hwaits⟩
    -- what this run queues is due later than the waiting entry, and so stays behind it
    have hlater : j.before (r.queued e) = true :=
      QueuedJob.before_of_fireAt_lt (Int.lt_of_le_of_lt hdue (Run.finish_lt_queued paced))
    have hagain := not_taken_again hrest ordered' held' hj' ((r.mem_next e).mpr (.inl rfl))
      hlater hwaits p' hp'
    rwa [Run.pass_queued] at hagain

/-- The runs that are made while a job waits are those of other jobs. -/
theorem numbered_others (h : Leads e sch s rs sch' s') (ordered : sch.Ordered)
    (held : HoldsEach jobs number sch.queue) (hj : j ∈ sch.queue)
    (hwaits : ∀ r ∈ rs, r.taken ≠ j) :
    ∀ p ∈ numbered number rs, p.1 < jobs.length ∧ p.1 ≠ number j.seq := by
  induction h generalizing number with
  | done => simp [numbered]
  | run r _ ih =>
    obtain ⟨hne, hwaits⟩ := List.forall_mem_cons.mp hwaits
    refine List.forall_mem_cons.mpr ⟨⟨?_, fun hn => ?_⟩, ?_⟩
    · exact (List.getElem?_eq_some_iff.mp (held.same r.taken r.taken_mem)).1
    · exact hne (held.eq_of_number r.taken_mem hj hn)
    · have hsame : r.pass number j.seq = number j.seq := Run.pass_of_mem ordered hj
      rw [← hsame]
      exact ih (Run.next_ordered e ordered) (Run.next_holdsEach ordered held)
        (Run.mem_next_of_ne hj hne) hwaits

/-- The jobs that start while a job is due are all different. -/
theorem nodup_of_due (timed : e.Timed) {j : QueuedJob} {ps : List (Nat × Run σ)}
    (h : ps.Pairwise fun p p' => j.fireAt ≤ p.2.finish e → p'.1 ≠ p.1) :
    ((ps.filter fun p => j.fireAt ≤ p.2.start e).map (·.1)).Nodup := by
  refine List.pairwise_map.mpr ((List.pairwise_filter.mpr (h.imp ?_)))
  intro p p' hne hdue _
  have hle := p.2.start_le_finish timed
  exact (hne (Int.le_trans (of_decide_eq_true hdue) hle)).symm

/-- **A due job is passed over at most once by each other job.** Let an entry wait at some loop
head and as long as the runs in `passed` are made. Those of these runs that start when the entry is
due or later are of different jobs, none of which is that of the entry, so there are fewer of them
than jobs; and a job whose run goes on until the entry is due, or longer, is not run again. -/
theorem passed_over_once {e : Surroundings σ} (timed : e.Timed)
    {reconnectDelay stagger : Duration} {latest : Moment} {arrivals : List (Job × Moment)}
    (hdelay : 0 < reconnectDelay.ns) (hintervals : ∀ a ∈ arrivals, 0 < a.1.interval.ns)
    {sch : Scheduler} (hsch : sch = (create reconnectDelay stagger latest).addAll arrivals)
    {s : σ} {stop : Option Moment} {turns : Nat} {before passed later : List (Run σ)}
    (hruns : runs e stop turns sch s = before ++ passed ++ later) {j : QueuedJob}
    (hj : j ∈ (run e stop before.length sch s).1.queue) (hwaits : ∀ r ∈ passed, r.taken ≠ j) :
    let dispatched := numbered (jobNumber before) passed
    let due := dispatched.filter fun p => j.fireAt ≤ p.2.start e
    (∀ n, (due.filter fun p => p.1 = n).length ≤ 1) ∧
      (∀ p ∈ due, p.1 ≠ jobNumber before j.seq) ∧
      due.length < arrivals.length ∧
      ∀ earlier p after, dispatched = earlier ++ p :: after →
        j.fireAt ≤ p.2.finish e → ∀ p' ∈ after, p'.1 ≠ p.1 := by
  intro dispatched due
  have ordered : sch.Ordered := hsch ▸ (create_ordered ..).addAll arrivals
  have paced : sch.Paced := hsch ▸ addAll_paced hdelay hintervals
  have held : HoldsEach (arrivals.map (·.1)) id sch.queue := hsch ▸ addAll_holdsEach ..
  obtain ⟨last, t, hpassed⟩ := leads_between hruns
  rw [List.append_assoc] at hruns
  have hbefore := leads_run_of_append hruns
  have ordered' := (hbefore.ordered ordered).1
  have paced' := (hbefore.invariant (P := fun sch _ => sch.Paced) paced
    fun _ _ h => Run.next_paced h).1
  have held' : HoldsEach (arrivals.map (·.1)) (jobNumber before) _ := held.leads hbefore ordered
  have hpairwise : dispatched.Pairwise fun p p' => j.fireAt ≤ p.2.finish e → p'.1 ≠ p.1 :=
    numbered_pairwise hpassed ordered' paced' held' hj hwaits
  have hothers := numbered_others hpassed ordered' held' hj hwaits
  have hnodup : (due.map (·.1)).Nodup := nodup_of_due timed hpairwise
  have hdue : ∀ p ∈ due, p ∈ dispatched := fun p hp => List.mem_of_mem_filter hp
  refine ⟨fun n => ?_, fun p hp => (hothers p (hdue p hp)).2, ?_, ?_⟩
  · have hcount := List.nodup_iff_count_le_one.mp hnodup n
    rw [List.count, List.countP_map, List.countP_eq_length_filter] at hcount
    exact hcount
  · -- the number of the waiting job and those of the runs are different numbers of jobs
    have hcons : (jobNumber before j.seq :: due.map (·.1)).Nodup := by
      refine List.nodup_cons.mpr ⟨fun hmem => ?_, hnodup⟩
      obtain ⟨p, hp, heq⟩ := List.mem_map.mp hmem
      exact (hothers p (hdue p hp)).2 heq
    have hsub : jobNumber before j.seq :: due.map (·.1) ⊆ List.range arrivals.length := by
      refine List.cons_subset.mpr ⟨?_, fun n hn => ?_⟩
      · have hsome := List.getElem?_eq_some_iff.mp (held'.same j hj)
        simpa using hsome.1
      · obtain ⟨p, hp, rfl⟩ := List.mem_map.mp hn
        simpa using (hothers p (hdue p hp)).1
    simpa [Nat.succ_le_iff] using hcons.length_le_of_subset hsub
  · intro earlier p after hsplit hrunning p' hp'
    rw [hsplit] at hpairwise
    have hcons := (List.pairwise_append.mp hpairwise).2.1
    exact (List.pairwise_cons.mp hcons).1 p' hp' hrunning

/-- A job of no device and two fast jobs, all due at once. -/
def crowd : List (Job × Moment) :=
  [(⟨none, [0], .ofSeconds 60, .system⟩, 0), (⟨some 0, [1], .ofSeconds 1, .fast⟩, 0),
    (⟨some 1, [2], .ofSeconds 1, .fast⟩, 0)]

/-- With loads of three seconds the fast jobs are due again before the job of no device has run,
and still each of them runs only once before it. -/
theorem passed_over_once_crowd :
    let e := Surroundings.clockwork (.ofSeconds 3) fun _ => true
    let sch := (create (.ofSeconds 3) .zero (Moment.lastFrom 0)).addAll crowd
    let passed := (runs e none 6 sch 0).take 2
    let waiting : QueuedJob := ⟨0, 0, ⟨none, [0], .ofSeconds 60, .system⟩⟩
    let due := (numbered id passed).filter fun p => waiting.fireAt ≤ p.2.start e
    (∀ r ∈ passed, r.taken ≠ waiting) ∧ due.map (·.1) = [1, 2] ∧
      (∀ n, (due.filter fun p => p.1 = n).length ≤ 1) ∧ due.length < crowd.length := by
  intro e sch passed waiting due
  have hwaits : ∀ r ∈ passed, r.taken ≠ waiting := by decide
  have hsplit : runs e none 6 sch 0 = [] ++ passed ++ (runs e none 6 sch 0).drop 2 := by
    rw [List.nil_append, List.take_append_drop]
  obtain ⟨honce, -, hfewer, -⟩ := passed_over_once (Surroundings.clockwork_timed _ _)
    (by decide) (by decide) rfl hsplit (j := waiting) (by decide) hwaits
  exact ⟨hwaits, by decide, honce, hfewer⟩

end Scheduler

end RouterMetrics

import RouterMetrics.Proofs.Schedule.Bypass

/-!
# Time passes

A loop whose delays are positive gets past every moment, as long as the clock can tell the times
at which its jobs are due again. The measure is the sum of the times at which the jobs are due:
every run makes it larger, and while the schedule is sound it is bounded.
-/

namespace RouterMetrics

variable {σ : Type}

namespace Scheduler

/-- The sum of the times at which jobs are due. -/
def total (queue : List QueuedJob) : Moment := queue.foldr (fun q t => q.fireAt + t) 0

theorem total_cons (q : QueuedJob) (queue : List QueuedJob) :
    total (q :: queue) = q.fireAt + total queue := rfl

theorem total_insert (q : QueuedJob) (queue : List QueuedJob) :
    total (insert q queue) = q.fireAt + total queue := by
  induction queue with
  | nil => rfl
  | cons head rest ih =>
    rw [insert]
    split
    · rfl
    · rw [total_cons, ih, total_cons]
      exact Int.add_left_comm ..

theorem total_le {queue : List QueuedJob} {latest : Moment}
    (h : ∀ q ∈ queue, q.fireAt ≤ latest) : total queue ≤ queue.length * latest := by
  induction queue with
  | nil => simp [total]
  | cons q rest ih =>
    obtain ⟨hq, hrest⟩ := List.forall_mem_cons.mp h
    rw [total_cons, List.length_cons, Int.natCast_succ, Int.add_mul, Int.one_mul, Int.add_comm]
    exact Int.add_le_add (ih hrest) hq

/-- All delays are positive, and from any time up to a moment they end when the clock can tell. -/
structure Lasting (limit : Moment) (sch : Scheduler) : Prop extends Paced sch where
  sound : sch.isSound = true
  reconnect_le : limit + sch.reconnectDelay.ns ≤ sch.latest
  interval_le : ∀ q ∈ sch.queue, limit + q.job.interval.ns ≤ sch.latest

end Scheduler

namespace Run

open Scheduler

variable {e : Surroundings σ} {r : Run σ} {limit : Moment}

/-- A run makes the sum of the times larger. -/
theorem total_lt_next (timed : e.Timed) (paced : r.found.Paced) :
    total r.found.queue + 1 ≤ total (r.next e).queue := by
  have hlater := finish_lt_queued (e := e) paced
  have hstart := r.fireAt_le_start timed
  have hfinish := r.start_le_finish timed
  rw [next, total_insert, r.queue_eq, total_cons]
  unfold Moment at *
  omega

/-- A run asks for a delay that the clock can tell. -/
theorem delay_le (h : r.found.Lasting limit) : limit + (r.delay e).ns ≤ r.found.latest := by
  unfold delay runJob
  split
  · exact h.reconnect_le
  · exact h.interval_le r.taken r.taken_mem

theorem next_lasting (h : r.found.Lasting limit) (hend : r.finish e ≤ limit) :
    (r.next e).Lasting limit where
  toPaced := next_paced h.toPaced
  sound := by
    have hdelay : (r.queued e).fireAt ≤ r.found.latest :=
      Int.le_trans (Int.add_le_add_right hend _) (delay_le h)
    exact isSound_iff.mpr (r.forall_mem_next e hdelay (isSound_iff.mp h.sound))
  reconnect_le := h.reconnect_le
  interval_le := r.forall_mem_next e (h.interval_le r.taken r.taken_mem) h.interval_le

end Run

namespace Scheduler

variable {e : Surroundings σ} {sch sch' : Scheduler} {s s' : σ} {rs : List (Run σ)}
  {limit : Moment}

/-- Runs that have all ended by a moment leave the schedule sound, and each has made the sum of the
times larger. -/
theorem Leads.lasting (timed : e.Timed) (h : Leads e sch s rs sch' s')
    (start : sch.Lasting limit) (hend : ∀ r ∈ rs, r.finish e ≤ limit) :
    sch'.Lasting limit ∧ sch'.latest = sch.latest ∧
      total sch.queue + rs.length ≤ total sch'.queue := by
  induction h with
  | done => exact ⟨start, rfl, by simp⟩
  | run r _ ih =>
    obtain ⟨hfirst, hrest⟩ := List.forall_mem_cons.mp hend
    obtain ⟨hlasting, hlatest, htotal⟩ := ih (Run.next_lasting start hfirst) hrest
    have hmore := Run.total_lt_next timed start.toPaced
    refine ⟨hlasting, hlatest, ?_⟩
    rw [List.length_cons]
    unfold Moment at *
    omega

/-- **Time passes**: there are turns after which the clock has reached a moment, or a stop that
comes before it. -/
theorem time_passes (timed : e.Timed) (lasting : sch.Lasting limit) (hjobs : sch.queue ≠ [])
    (s : σ) (stop : Option Moment) (hstop : ∀ t ∈ stop, limit ≤ t) :
    ∃ turns, limit ≤ e.clock (run e stop turns sch s).2 := by
  -- more turns than the sum of the times can grow
  refine ⟨(sch.queue.length * sch.latest - total sch.queue).toNat + 1, ?_⟩
  by_contra hbefore
  rw [Int.not_le] at hbefore
  obtain ⟨t, hleads, hend⟩ := leads_runs e stop
    ((sch.queue.length * sch.latest - total sch.queue).toNat + 1) sch s
  have hatStop : e.clock t ≤ e.clock (atStop e stop t) := by
    cases stop with
    | none => exact Int.le_refl _
    | some stop =>
      show _ ≤ e.clock (e.sleepUntil stop t)
      rw [timed.sleep]
      exact Int.le_max_left ..
  have hlast : e.clock t < limit := by
    rcases hend with ⟨-, hlast⟩ | ⟨-, hlast⟩
    · rwa [hlast] at hbefore
    · rw [hlast] at hbefore
      exact Int.lt_of_le_of_lt hatStop hbefore
  have hlength := hleads.length_eq
  obtain ⟨hlasting, hlatest, htotal⟩ := hleads.lasting timed lasting fun r hr =>
    Int.le_of_lt (Int.lt_of_le_of_lt (hleads.finish_le timed r hr) hlast)
  rcases hend with ⟨hturns, -⟩ | ⟨hnone, hlast⟩
  · have hbound := total_le (isSound_iff.mp hlasting.sound)
    rw [hlength, hlatest] at hbound
    rw [hturns] at htotal
    generalize (sch.queue.length : Int) * sch.latest = bound at *
    unfold Moment at *
    omega
  · rcases next?_none hnone with hnil | hbroken | ⟨q, rest, -, hstopped⟩
    · exact hjobs (List.length_eq_zero_iff.mp (by rw [← hlength, hnil]; rfl))
    · rw [hlasting.sound] at hbroken
      cases hbroken
    · cases stop with
      | none => cases hstopped
      | some T =>
        have hlate := Int.le_max_right (e.clock t) T
        rw [← timed.sleep] at hlate
        rw [hlast] at hbefore
        exact absurd (Int.le_trans (hstop T rfl) hlate) (Int.not_le.mpr hbefore)

end Scheduler

end RouterMetrics

import RouterMetrics.Proofs.Schedule.Runs

/-!
# How late a job can be

When no run takes longer than some time, a job waits at most that long for every other job after it
is due, and for no job twice. The bound is kept by every run (`Prompt.next`): a job that is queued
again while the waiting one is due goes behind it.
-/

namespace RouterMetrics

variable {σ : Type}

namespace Scheduler

/-- How many entries are behind an entry. -/
def behind (j : QueuedJob) (queue : List QueuedJob) : Nat :=
  queue.countP fun x => j.before x

theorem behind_insert (j q : QueuedJob) (queue : List QueuedJob) :
    behind j (insert q queue) = behind j queue + if j.before q then 1 else 0 := by
  rw [behind, (insert_perm q queue).countP_eq, List.countP_cons]
  rfl

/-- An entry is not behind itself. -/
theorem behind_lt {j : QueuedJob} {queue : List QueuedJob} (h : j ∈ queue) :
    behind j queue < queue.length := by
  refine lt_of_le_of_ne List.countP_le_length fun heq => ?_
  exact QueuedJob.before_irrefl j (List.countP_eq_length.mp heq j h)

/-- **A waiting job is not late by more than the runs of the jobs behind it**, when a run takes at
most `most` nanoseconds. -/
structure Prompt (e : Surroundings σ) (most : Nat) (j : QueuedJob) (sch : Scheduler) (s : σ) :
    Prop where
  waits : j ∈ sch.queue
  clock_le : e.clock s ≤ j.fireAt + (behind j sch.queue * most : Nat)

namespace Prompt

variable {e : Surroundings σ} {most : Nat} {j : QueuedJob} {r : Run σ}

/-- A waiting job is late by at most a run of every job. -/
theorem clock_le_length {sch : Scheduler} {s : σ} (h : Prompt e most j sch s) :
    e.clock s ≤ j.fireAt + (sch.queue.length * most : Nat) := by
  have hbehind := Nat.mul_le_mul_right most (Nat.le_of_lt (behind_lt h.waits))
  exact Int.le_trans h.clock_le (Int.add_le_add_left (Int.ofNat_le.mpr hbehind) _)

/-- An entry that is queued when it is not yet due is not late. -/
theorem of_queued : Prompt e most (r.queued e) (r.next e) (r.ended e) where
  waits := (r.mem_next e).mpr (.inl rfl)
  clock_le := by
    show r.finish e ≤ r.finish e + ((r.delay e).ns : Int) + _
    rw [Int.add_assoc]
    exact Int.le_add_of_nonneg_right (Int.add_nonneg (Int.natCast_nonneg _) (Int.natCast_nonneg _))

theorem start_le (timed : e.Timed) (ordered : r.found.Ordered)
    (h : Prompt e most j r.found r.waiting) :
    r.start e ≤ j.fireAt + (behind j r.found.queue * most : Nat) := by
  have hfirst : r.taken.fireAt ≤ j.fireAt := by
    rcases r.mem_found.mp h.waits with rfl | hj
    · exact Int.le_refl _
    · exact QueuedJob.fireAt_le_of_before (Run.taken_before ordered hj)
  rw [r.start_eq timed]
  refine Int.max_le.mpr ⟨h.clock_le, Int.le_trans hfirst ?_⟩
  exact Int.le_add_of_nonneg_right (Int.natCast_nonneg _)

/-- **A run of another job keeps the bound.** -/
theorem next (timed : e.Timed) (ordered : r.found.Ordered)
    (short : r.finish e ≤ r.start e + most) (h : Prompt e most j r.found r.waiting)
    (hne : r.taken ≠ j) : Prompt e most j (r.next e) (r.ended e) where
  waits := Run.mem_next_of_ne h.waits hne
  clock_le := by
    have hj : j ∈ r.rest := (r.mem_found.mp h.waits).resolve_left hne.symm
    have hahead : ¬ j.before r.taken = true :=
      QueuedJob.not_before_of_before (Run.taken_before ordered hj)
    have hrest : behind j r.found.queue = behind j r.rest := by
      rw [r.queue_eq, behind, List.countP_cons_of_neg hahead, behind]
    have hstart := h.start_le timed ordered
    rw [hrest] at hstart
    show r.finish e ≤ j.fireAt + (behind j (insert (r.queued e) r.rest) * most : Nat)
    rw [behind_insert]
    by_cases hbehind : j.before (r.queued e) = true
    · rw [if_pos hbehind, Nat.add_mul, Nat.one_mul, Int.natCast_add, ← Int.add_assoc]
      exact Int.le_trans short (Int.add_le_add_right hstart _)
    · -- what is queued before the waiting job is due before it, and is queued when the run ends
      have hearly : (r.queued e).fireAt ≤ j.fireAt :=
        Int.not_lt.mp fun hlt => hbehind (QueuedJob.before_of_fireAt_lt hlt)
      have hdelay : r.finish e ≤ (r.queued e).fireAt :=
        Int.le_add_of_nonneg_right (Int.natCast_nonneg _)
      rw [if_neg hbehind]
      refine Int.le_trans (Int.le_trans hdelay hearly) ?_
      exact Int.le_add_of_nonneg_right (Int.natCast_nonneg _)

/-- **A job starts at most one run of every other job after it is due.** -/
theorem start_le_of_taken (timed : e.Timed) (ordered : r.found.Ordered)
    (h : Prompt e most r.taken r.found r.waiting) :
    r.start e + most ≤ r.taken.fireAt + (r.found.queue.length * most : Nat) := by
  have hbehind := Nat.mul_le_mul_right most (Nat.succ_le_of_lt (behind_lt h.waits))
  have hstart := h.start_le timed ordered
  rw [Nat.succ_mul] at hbehind
  unfold Moment at *
  omega

end Prompt

end Scheduler

end RouterMetrics

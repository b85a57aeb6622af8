import RouterMetrics.Proofs.Schedule.Runs

/-!
# Which job an entry belongs to

Jobs are numbered in the order in which they were added, and entries of the queue are traced back
to them: the first entry of a job has the number of the job, and the entry that a run queues
belongs to the job whose entry the run takes. At every loop head each job has exactly one entry
(`HoldsEach.leads`).
-/

namespace RouterMetrics

variable {σ : Type}

/-- To which jobs entries belong after a run, given to which they belong before it. -/
def Run.pass (number : Nat → Nat) (r : Run σ) : Nat → Nat := fun seq =>
  if seq = r.found.nextSeq then number r.taken.seq else number seq

namespace Scheduler

/-- To which jobs entries belong after runs from the start. -/
def jobNumber (rs : List (Run σ)) : Nat → Nat := rs.foldl Run.pass id

/-- Runs with the numbers of the jobs they run, given to which jobs entries belong before them. -/
def numbered (number : Nat → Nat) : List (Run σ) → List (Nat × Run σ)
  | [] => []
  | r :: rest => (number r.taken.seq, r) :: numbered (r.pass number) rest

/-- Every job has exactly one entry in a queue, and every entry is that of a job. -/
structure HoldsEach (jobs : List Job) (number : Nat → Nat) (queue : List QueuedJob) : Prop where
  once : (queue.map fun q => number q.seq).Perm (List.range jobs.length)
  same : ∀ q ∈ queue, jobs[number q.seq]? = some q.job

variable {e : Surroundings σ} {jobs : List Job} {number : Nat → Nat}

theorem HoldsEach.nodup {queue : List QueuedJob} (h : HoldsEach jobs number queue) :
    (queue.map fun q => number q.seq).Nodup := h.once.nodup_iff.mpr List.nodup_range

theorem HoldsEach.length {queue : List QueuedJob} (h : HoldsEach jobs number queue) :
    queue.length = jobs.length := by
  simpa using h.once.length_eq

/-- Two entries of one job are one entry. -/
theorem HoldsEach.eq_of_number {queue : List QueuedJob} (h : HoldsEach jobs number queue)
    {a b : QueuedJob} (ha : a ∈ queue) (hb : b ∈ queue) (hn : number a.seq = number b.seq) :
    a = b := List.inj_on_of_nodup_map h.nodup ha hb hn

/-- The first entries of added jobs belong to them. -/
theorem addAll_holdsEach (reconnectDelay stagger : Duration) (latest : Moment)
    (arrivals : List (Job × Moment)) :
    HoldsEach (arrivals.map (·.1)) id
      ((create reconnectDelay stagger latest).addAll arrivals).queue := by
  have hqueue := (addAll_queue reconnectDelay stagger latest arrivals).1
  constructor
  · refine (hqueue.map _).trans (.of_eq ?_)
    apply List.ext_getElem
    · simp
    · intro i h₁ h₂
      simp [firstEntry]
  · intro q hq
    obtain ⟨i, hi, rfl⟩ := List.mem_mapIdx.mp (hqueue.mem_iff.mp hq)
    simp [firstEntry, hi]

end Scheduler

namespace Run

open Scheduler

variable {e : Surroundings σ} {r : Run σ} {number : Nat → Nat}

/-- The queued entry belongs to the job that is taken. -/
theorem pass_queued : r.pass number (r.queued e).seq = number r.taken.seq := if_pos rfl

/-- An entry that has waited belongs to the same job as before. -/
theorem pass_of_mem (h : r.found.Ordered) {x : QueuedJob} (hx : x ∈ r.found.queue) :
    r.pass number x.seq = number x.seq := if_neg (Nat.ne_of_lt (h.below x hx))

/-- **A run leaves each job one entry.** -/
theorem next_holdsEach {jobs : List Job} (h : r.found.Ordered)
    (held : HoldsEach jobs number r.found.queue) :
    HoldsEach jobs (r.pass number) (r.next e).queue := by
  have hrest : ∀ x ∈ r.rest, r.pass number x.seq = number x.seq := fun x hx =>
    pass_of_mem h (r.mem_found.mpr (.inr hx))
  constructor
  · -- the queued entry takes the place of the taken one
    have hmap : (r.rest.map fun x => r.pass number x.seq) =
        r.rest.map fun x => number x.seq := List.map_congr_left hrest
    have honce := held.once
    rw [r.queue_eq, List.map_cons] at honce
    refine ((insert_perm _ _).map _).trans ?_
    rw [List.map_cons, pass_queued, hmap]
    exact honce
  · intro q hq
    rcases (r.mem_next e).mp hq with rfl | hq
    · rw [pass_queued]
      exact held.same r.taken r.taken_mem
    · rw [hrest q hq]
      exact held.same q (r.mem_found.mpr (.inr hq))

end Run

namespace Scheduler

/-- **At every loop head each job has one entry.** -/
theorem HoldsEach.leads {e : Surroundings σ} {jobs : List Job} {number : Nat → Nat}
    {sch sch' : Scheduler} {s s' : σ} {rs : List (Run σ)} (h : Leads e sch s rs sch' s')
    (ordered : sch.Ordered) (held : HoldsEach jobs number sch.queue) :
    HoldsEach jobs (rs.foldl Run.pass number) sch'.queue := by
  induction h generalizing number with
  | done => exact held
  | run r _ ih => exact ih (Run.next_ordered e ordered) (Run.next_holdsEach ordered held)

end Scheduler

end RouterMetrics

import Mathlib.Data.List.Induction
import Mathlib.Data.List.Nodup
import Mathlib.Data.Prod.Lex
import RouterMetrics.Schedule.Queue

/-!
# The order of the queue

The queue is kept sorted by the key of its entries: the time an entry is due, the rank of its
cadence, and its number. Numbers are never used twice, so the order is strict and the head of the
queue is the one least entry. A schedule is made of jobs exactly when the clock can tell when they
are first due (`Scheduler.ofJobs?_isSome_iff`).
-/

namespace RouterMetrics

/-! ## The key -/

/-- What the queue is ordered by, as a triple in lexicographic order. -/
def QueuedJob.key (q : QueuedJob) : Moment ×ₗ Nat ×ₗ Nat :=
  toLex (q.fireAt, toLex (q.job.cadence.rank, q.seq))

namespace QueuedJob

theorem before_iff {a b : QueuedJob} : a.before b = true ↔ a.key < b.key := by
  simp only [before, key, Prod.Lex.toLex_lt_toLex, Bool.or_eq_true, Bool.and_eq_true,
    decide_eq_true_eq, beq_iff_eq]

theorem before_irrefl (a : QueuedJob) : ¬ a.before a = true := by
  rw [before_iff]
  exact lt_irrefl _

theorem before_trans {a b c : QueuedJob} (hab : a.before b = true) (hbc : b.before c = true) :
    a.before c = true := by
  rw [before_iff] at hab hbc ⊢
  exact lt_trans hab hbc

theorem not_before_of_before {a b : QueuedJob} (h : a.before b = true) : ¬ b.before a = true :=
  fun hb => before_irrefl a (before_trans h hb)

/-- Entries of different numbers are never tied. -/
theorem before_of_not_before {a b : QueuedJob} (hne : a.seq ≠ b.seq)
    (h : ¬ a.before b = true) : b.before a = true := by
  rw [before_iff] at h ⊢
  -- keys that are the same end in the same number
  refine lt_of_le_of_ne (not_lt.mp h) fun heq => hne ?_
  have hpair := congrArg ofLex heq
  simp only [key, ofLex_toLex, Prod.mk.injEq, toLex_inj] at hpair
  exact hpair.2.2.symm

theorem fireAt_le_of_before {a b : QueuedJob} (h : a.before b = true) : a.fireAt ≤ b.fireAt := by
  rw [before_iff] at h
  rcases Prod.Lex.toLex_lt_toLex.mp h with h | h
  · exact Int.le_of_lt h
  · exact Int.le_of_eq h.1

theorem before_of_fireAt_lt {a b : QueuedJob} (h : a.fireAt < b.fireAt) : a.before b = true := by
  simp [before, h]

end QueuedJob

/-! ## The queue -/

namespace Scheduler

/-- Every entry comes before the later ones. -/
def Sorted (queue : List QueuedJob) : Prop := queue.Pairwise fun a b => a.before b = true

theorem insert_perm (q : QueuedJob) (queue : List QueuedJob) :
    (insert q queue).Perm (q :: queue) := by
  induction queue with
  | nil => exact .refl _
  | cons head rest ih =>
    rw [insert]
    split
    · exact .refl _
    · exact (List.Perm.cons head ih).trans (.swap q head rest)

@[simp] theorem mem_insert {q x : QueuedJob} {queue : List QueuedJob} :
    x ∈ insert q queue ↔ x = q ∨ x ∈ queue := by
  rw [(insert_perm q queue).mem_iff, List.mem_cons]

theorem Sorted.insert {q : QueuedJob} {queue : List QueuedJob} (h : Sorted queue)
    (hq : ∀ x ∈ queue, q.seq ≠ x.seq) : Sorted (insert q queue) := by
  induction queue with
  | nil => simp [Scheduler.insert, Sorted]
  | cons head rest ih =>
    obtain ⟨hhead, hrest⟩ := List.pairwise_cons.mp h
    rw [Scheduler.insert]
    split
    case isTrue hlt =>
      refine List.pairwise_cons.mpr ⟨fun x hx => ?_, h⟩
      rcases List.mem_cons.mp hx with rfl | hx
      · exact hlt
      · exact QueuedJob.before_trans hlt (hhead x hx)
    case isFalse hge =>
      have hback := QueuedJob.before_of_not_before (hq head List.mem_cons_self) hge
      refine List.pairwise_cons.mpr ⟨fun x hx => ?_, ih hrest fun x hx =>
        hq x (List.mem_cons_of_mem _ hx)⟩
      rcases mem_insert.mp hx with rfl | hx
      · exact hback
      · exact hhead x hx

/-- The head of a sorted queue comes before everything else in it. -/
theorem Sorted.head {q : QueuedJob} {rest : List QueuedJob} (h : Sorted (q :: rest)) :
    ∀ x ∈ rest, q.before x = true := (List.pairwise_cons.mp h).1

/-- **What every schedule keeps**: the queue is sorted, and its entries have numbers that were
given out once each. -/
structure Ordered (sch : Scheduler) : Prop where
  sorted : Sorted sch.queue
  distinct : (sch.queue.map (·.seq)).Nodup
  below : ∀ q ∈ sch.queue, q.seq < sch.nextSeq

theorem create_ordered (reconnectDelay stagger : Duration) (latest : Moment) :
    (create reconnectDelay stagger latest).Ordered where
  sorted := .nil
  distinct := .nil
  below := by simp [create]

theorem Ordered.push {sch : Scheduler} (h : sch.Ordered) (job : Job) (fireAt : Moment) :
    (sch.push job fireAt).Ordered where
  sorted := h.sorted.insert fun x hx => Nat.ne_of_gt (h.below x hx)
  distinct := by
    refine ((insert_perm _ _).map _).nodup_iff.mpr (List.nodup_cons.mpr ⟨fun hmem => ?_, h.distinct⟩)
    obtain ⟨x, hx, hseq⟩ := List.mem_map.mp hmem
    exact absurd hseq (Nat.ne_of_lt (h.below x hx))
  below := by
    intro q hq
    rcases mem_insert.mp hq with rfl | hq
    · exact Nat.lt_succ_self _
    · exact Nat.lt_succ_of_lt (h.below q hq)

/-- Taking the head leaves an ordered schedule. -/
theorem Ordered.tail {sch : Scheduler} (h : sch.Ordered) {q : QueuedJob} {rest : List QueuedJob}
    (hq : sch.queue = q :: rest) : ({ sch with queue := rest } : Scheduler).Ordered where
  sorted := (List.pairwise_cons.mp (hq ▸ h.sorted)).2
  distinct := (List.nodup_cons.mp (List.map_cons ▸ hq ▸ h.distinct)).2
  below := fun x hx => h.below x (hq ▸ List.mem_cons_of_mem _ hx)

/-! ## Jobs added one after another -/

/-- The schedule after jobs have been added, each at its moment. -/
def addAll (sch : Scheduler) (arrivals : List (Job × Moment)) : Scheduler :=
  arrivals.foldl (fun s a => s.add a.1 a.2) sch

theorem addAll_append (sch : Scheduler) (before after : List (Job × Moment)) :
    sch.addAll (before ++ after) = (sch.addAll before).addAll after := List.foldl_append

/-- The schedule that the exporter starts with is one of added jobs. -/
theorem ofJobs?_eq_addAll {reconnectDelay stagger : Duration} {jobs : List Job} {now : Moment}
    {sch : Scheduler} (h : ofJobs? reconnectDelay stagger jobs now = some sch) :
    sch = (create reconnectDelay stagger now.lastFrom).addAll (jobs.map fun job => (job, now)) := by
  simp only [ofJobs?, Option.ite_none_right_eq_some, Option.some.injEq] at h
  rw [← h.2, addAll, List.foldl_map]

theorem Ordered.addAll {sch : Scheduler} (h : sch.Ordered) (arrivals : List (Job × Moment)) :
    (sch.addAll arrivals).Ordered := by
  induction arrivals generalizing sch with
  | nil => exact h
  | cons a rest ih => exact ih (h.push a.1 _)

/-- The entry that adding a job makes when a number of jobs have been added before. -/
def firstEntry (stagger : Duration) (number : Nat) (a : Job × Moment) : QueuedJob :=
  ⟨Moment.after a.2 ((stagger.scale? (min number staggerLimit)).getD .longest), number, a.1⟩

/-- A schedule of added jobs holds one first entry for each of them and nothing else. -/
theorem addAll_queue (reconnectDelay stagger : Duration) (latest : Moment)
    (arrivals : List (Job × Moment)) :
    let sch := (create reconnectDelay stagger latest).addAll arrivals
    sch.queue.Perm (arrivals.mapIdx (firstEntry stagger)) ∧ sch.nextSeq = arrivals.length ∧
      sch.stagger = stagger ∧ sch.reconnectDelay = reconnectDelay ∧ sch.latest = latest := by
  induction arrivals using List.reverseRecOn with
  | nil => exact ⟨.refl _, rfl, rfl, rfl, rfl⟩
  | append_singleton before a ih =>
    obtain ⟨hqueue, hnext, hstagger, hdelay, hlatest⟩ := ih
    simp only [addAll_append, List.mapIdx_concat, List.length_append, List.length_singleton]
    refine ⟨?_, congrArg (· + 1) hnext, hstagger, hdelay, hlatest⟩
    refine (insert_perm _ _).trans ((hqueue.cons _).trans ?_)
    rw [hnext, offset, hnext, hstagger]
    exact (List.perm_append_singleton _ _).symm

/-! ## First runs -/

theorem isSound_iff {sch : Scheduler} :
    sch.isSound = true ↔ ∀ q ∈ sch.queue, q.fireAt ≤ sch.latest := by
  simp [isSound]

/-- The first runs of a number of jobs, one stagger apart, are due at moments that a clock can tell:
not even the last of them is due after its last moment. -/
def FirstRunsFit (stagger : Duration) (jobs : Nat) : Prop :=
  (min (jobs - 1) staggerLimit * stagger.ns : Nat) ≤ Moment.lastFrom 0

instance (stagger : Duration) (jobs : Nat) : Decidable (FirstRunsFit stagger jobs) :=
  inferInstanceAs (Decidable ((_ : Int) ≤ _))

variable {reconnectDelay stagger : Duration} {jobs : List Job} {now : Moment}

/-- A job is first due as many staggers after it was added as jobs have been added before, up to the
longest duration. -/
theorem firstEntry_due (stagger : Duration) (number : Nat) (a : Job × Moment) :
    (firstEntry stagger number a).fireAt =
      a.2 + (min (min number staggerLimit * stagger.ns) Duration.longest.ns : Nat) := by
  rw [firstEntry, Moment.after, Duration.scale?, Duration.ofNs?, Nat.mul_comm stagger.ns,
    Duration.longest]
  split
  case isTrue hfits => rw [Option.getD_some, Nat.min_eq_left (Nat.le_sub_one_of_lt hfits)]
  case isFalse hlong =>
    rw [Option.getD_none, Nat.min_eq_right (Nat.le_trans (Nat.sub_le _ 1) (Nat.le_of_not_lt hlong))]

/-- The longest duration goes beyond what a clock can tell. -/
theorem lastFrom_lt_longest : Moment.lastFrom 0 < (Duration.longest.ns : Nat) := by decide

theorem firstEntry_fireAt_le_iff {number : Nat} {job : Job} :
    (firstEntry stagger number (job, now)).fireAt ≤ now.lastFrom ↔
      (min number staggerLimit * stagger.ns : Nat) ≤ Moment.lastFrom 0 := by
  have hlongest := lastFrom_lt_longest
  rw [firstEntry_due]
  unfold Moment.lastFrom Moment at *
  omega

/-- **A schedule is made of jobs exactly when their first runs fit.** -/
theorem ofJobs?_isSome_iff : (ofJobs? reconnectDelay stagger jobs now).isSome = true ↔
    FirstRunsFit stagger jobs.length := by
  obtain ⟨hqueue, -, -, -, hlatest⟩ := addAll_queue reconnectDelay stagger now.lastFrom
    (jobs.map fun job => (job, now))
  have hsound : (ofJobs? reconnectDelay stagger jobs now).isSome = true ↔
      ∀ q ∈ (jobs.map fun job => (job, now)).mapIdx (firstEntry stagger),
        q.fireAt ≤ now.lastFrom := by
    rw [addAll, List.foldl_map] at hqueue hlatest
    simp only [ofJobs?, Option.isSome_ite, isSound_iff, hlatest, hqueue.mem_iff]
  rw [hsound]
  constructor
  · intro h
    unfold FirstRunsFit
    rcases Nat.eq_zero_or_pos jobs.length with hnone | hsome
    · rw [hnone, Nat.zero_sub, Nat.zero_min, Nat.zero_mul]
      decide
    · refine firstEntry_fireAt_le_iff.mp (h (firstEntry stagger (jobs.length - 1)
        (jobs[jobs.length - 1], now)) (List.mem_mapIdx.mpr ⟨jobs.length - 1, ?_, ?_⟩))
      · rw [List.length_map]
        exact Nat.sub_lt hsome Nat.one_pos
      · rw [List.getElem_map]
  · intro h q hq
    obtain ⟨i, hi, rfl⟩ := List.mem_mapIdx.mp hq
    rw [List.getElem_map]
    refine firstEntry_fireAt_le_iff.mpr (Int.le_trans (Int.ofNat_le.mpr ?_) h)
    rw [List.length_map] at hi
    exact Nat.mul_le_mul_right _ (by omega)

end Scheduler

end RouterMetrics

import Mathlib.Data.List.Chain
import RouterMetrics.Proofs.Schedule.Deeds
import RouterMetrics.Proofs.Schedule.Numbers

/-!
# The discipline of the queue

The main statement, `queue_discipline`, says of any number of turns of the loop which job runs,
when it runs and when it is due again. Nothing is assumed of the surroundings but that waits end
when they should and that the clock is not set back.
-/

namespace RouterMetrics

variable {σ : Type} {e : Surroundings σ}

/-- An entry that a run leaves its job, and what the run has done: after a run that found the
device down the job is due a reconnect delay later, and the run has made one attempt to connect and
loaded nothing; otherwise it is due an interval later, and the run has loaded all its collectors. -/
def Run.DueAgain (e : Surroundings σ) (reconnectDelay : Duration) (r : Run σ) (q : QueuedJob) :
    Prop :=
  q.job = r.taken.job ∧
    if Scheduler.isDown e r.taken.job (r.begun e) then
      q.fireAt = r.finish e + reconnectDelay.ns ∧
        ∃ d, r.taken.job.device = some d ∧ r.deeds e = [.connect d (r.begun e)]
    else
      q.fireAt = r.finish e + r.taken.job.interval.ns ∧
        (r.deeds e).map Deed.collector? = r.taken.job.collectors.map some

namespace Run

variable {r : Run σ}

/-- The taken entry is the least of all. -/
theorem taken_key_lt (h : r.found.Ordered) :
    ∀ q ∈ r.found.queue, q ≠ r.taken → r.taken.key < q.key := by
  intro q hq hne
  rcases r.mem_found.mp hq with rfl | hq
  · exact absurd rfl hne
  · exact QueuedJob.before_iff.mp (taken_before h hq)

theorem queued_dueAgain : r.DueAgain e r.found.reconnectDelay (r.queued e) := by
  refine ⟨rfl, ?_⟩
  split
  case isTrue hdown =>
    obtain ⟨d, hd, hdeeds, -, hdelay⟩ := of_down hdown
    exact ⟨by rw [queued, hdelay]; rfl, d, hd, hdeeds⟩
  case isFalse hup =>
    obtain ⟨hdeeds, -, hdelay⟩ := of_up (Bool.eq_false_iff.mpr hup)
    refine ⟨by rw [queued, hdelay]; rfl, ?_⟩
    rw [hdeeds, Scheduler.loadDeeds_collectors]

end Run

namespace Scheduler

variable {sch sch' : Scheduler} {s s' : σ} {rs : List (Run σ)}

/-! ## When runs are made -/

/-- Each run starts from where the one before it has ended. -/
theorem Leads.start_eq (timed : e.Timed) (h : Leads e sch s rs sch' s') :
    (∀ r ∈ rs.head?, r.start e = max (e.clock s) r.taken.fireAt) ∧
      rs.IsChain fun r r' => r'.start e = max (r.finish e) r'.taken.fireAt := by
  induction h with
  | done => exact ⟨by simp, .nil⟩
  | run r hrest ih =>
    refine ⟨fun r' hr' => ?_, List.isChain_cons.mpr ih⟩
    cases hr'
    exact r.start_eq timed

/-- No run starts before one that was made earlier has ended. -/
theorem Leads.pairwise_finish_le (timed : e.Timed) (h : Leads e sch s rs sch' s') :
    rs.Pairwise fun r r' => r.finish e ≤ r'.start e := by
  induction h with
  | done => exact .nil
  | run r hrest ih =>
    refine List.pairwise_cons.mpr ⟨fun r' hr' => ?_, ih⟩
    obtain ⟨before, after, rfl⟩ := List.append_of_mem hr'
    obtain ⟨mid, m, hbefore, hafter⟩ := hrest.append
    obtain ⟨-, rfl, -⟩ := hafter.cons
    exact Int.le_trans (hbefore.clock_le timed) (r'.waiting_le_start timed)

/-- Runs are made in sound schedules, before a stop. -/
theorem runs_sound {stop : Option Moment} {turns : Nat} :
    ∀ r ∈ runs e stop turns sch s, r.found.isSound = true ∧ stopsBy stop (r.start e) = false := by
  induction turns generalizing sch s with
  | zero => simp [runs]
  | succ turns ih =>
    rw [runs]
    cases hnext : next? e stop sch s with
    | none => simp
    | some r =>
      obtain ⟨rfl, rfl, hsound, hstop⟩ := next?_some hnext
      exact List.forall_mem_cons.mpr ⟨⟨hsound, hstop⟩, ih⟩

/-- What a schedule is set up with never changes. -/
theorem Leads.settings (h : Leads e sch s rs sch' s') :
    ∀ r ∈ rs, r.found.reconnectDelay = sch.reconnectDelay ∧ r.found.latest = sch.latest :=
  (h.invariant (P := fun x _ => x.reconnectDelay = sch.reconnectDelay ∧ x.latest = sch.latest)
    ⟨rfl, rfl⟩ fun _ _ hr => hr).2

/-! ## The first run of a job -/

/-- An entry waits, and is the one of its job, until that job runs. -/
theorem Leads.waits {number : Nat → Nat} {j : QueuedJob}
    (h : Leads e sch s rs sch' s') (ordered : sch.Ordered) (hj : j ∈ sch.queue)
    (hwaits : ∀ p ∈ numbered number rs, p.1 ≠ number j.seq) :
    j ∈ sch'.queue ∧ rs.foldl Run.pass number j.seq = number j.seq := by
  induction h generalizing number with
  | done => exact ⟨hj, rfl⟩
  | run r _ ih =>
    obtain ⟨hne, hwaits⟩ := List.forall_mem_cons.mp hwaits
    have hsame : r.pass number j.seq = number j.seq := Run.pass_of_mem ordered hj
    rw [← hsame] at hwaits ⊢
    exact ih (Run.next_ordered e ordered)
      (Run.mem_next_of_ne hj fun htaken => hne (htaken ▸ rfl)) hwaits

/-- A first entry that is due when the clock can tell is due as many staggers late as jobs have
been added before, up to the limit. -/
theorem firstEntry_fireAt {stagger : Duration} {number : Nat} {a : Job × Moment}
    {created : Moment} (hadded : created ≤ a.2)
    (hsound : (firstEntry stagger number a).fireAt ≤ created.lastFrom) :
    (firstEntry stagger number a).fireAt = a.2 + (min number staggerLimit * stagger.ns : Nat) := by
  have hlongest := lastFrom_lt_longest
  rw [firstEntry_due] at hsound ⊢
  unfold Moment.lastFrom Moment at *
  omega

/-- The first run of a job takes the first entry of the job. -/
theorem first_taken {reconnectDelay stagger : Duration} {latest : Moment}
    {arrivals : List (Job × Moment)} {before after : List (Run σ)} {r : Run σ} {n : Nat}
    {job : Job} {t : Moment}
    (h : Leads e ((create reconnectDelay stagger latest).addAll arrivals) s
      (before ++ r :: after) sch' s')
    (hadded : arrivals[n]? = some (job, t)) (hjob : jobNumber before r.taken.seq = n)
    (hfirst : ∀ p ∈ numbered id before, p.1 ≠ n) :
    r.taken = firstEntry stagger n (job, t) := by
  have ordered := (create_ordered reconnectDelay stagger latest).addAll arrivals
  have hmem : firstEntry stagger n (job, t) ∈
      ((create reconnectDelay stagger latest).addAll arrivals).queue := by
    obtain ⟨hn, hget⟩ := List.getElem?_eq_some_iff.mp hadded
    rw [(addAll_queue reconnectDelay stagger latest arrivals).1.mem_iff, List.mem_mapIdx]
    exact ⟨n, hn, by rw [hget]⟩
  obtain ⟨mid, m, hbefore, hafter⟩ := h.append
  have hseq : ∀ p ∈ numbered id before, p.1 ≠ id (firstEntry stagger n (job, t)).seq := hfirst
  obtain ⟨hwaits, hsame⟩ := hbefore.waits ordered hmem hseq
  have held := (addAll_holdsEach reconnectDelay stagger latest arrivals).leads hbefore ordered
  obtain ⟨rfl, -, -⟩ := hafter.cons
  exact held.eq_of_number r.taken_mem hwaits (hjob.trans hsame.symm)

/-! ## The discipline -/

/-- **The discipline of the queue**, for jobs added one after another and any number of turns.
At the end every job has exactly one entry. A run starts at its time or when the run before it has
ended, whichever is later, so runs do not overlap. The entry that is taken is the least in the
queue, and it is due. After a run its job has the entry that `Run.DueAgain` says. The first run of
a job is due as many staggers after the job was added as jobs were added before it. There are as
many runs as turns, unless there are no jobs, the loop is broken or a stop comes. -/
theorem queue_discipline (timed : e.Timed) (reconnectDelay stagger : Duration) (created : Moment)
    (arrivals : List (Job × Moment)) (s : σ) (stop : Option Moment) (turns : Nat) :
    let sch := (create reconnectDelay stagger created.lastFrom).addAll arrivals
    let rs := runs e stop turns sch s
    let last := (run e stop turns sch s).1
    HoldsEach (arrivals.map (·.1)) (jobNumber rs) last.queue ∧
      ((∀ r ∈ rs.head?, r.start e = max (e.clock s) r.taken.fireAt) ∧
        (rs.IsChain fun r r' => r'.start e = max (r.finish e) r'.taken.fireAt) ∧
        rs.Pairwise fun r r' => r.finish e ≤ r'.start e) ∧
      (∀ m r, rs[m]? = some r →
        run e stop m sch s = (r.found, r.waiting) ∧
        r.taken ∈ r.found.queue ∧
        (∀ q ∈ r.found.queue, q ≠ r.taken → r.taken.key < q.key) ∧
        r.taken.fireAt ≤ r.start e ∧
        ∃ q ∈ (run e stop (m + 1) sch s).1.queue,
          jobNumber (rs.take (m + 1)) q.seq = jobNumber (rs.take m) r.taken.seq ∧
            r.DueAgain e reconnectDelay q) ∧
      (∀ before r after n job t, rs = before ++ r :: after →
        arrivals[n]? = some (job, t) → created ≤ t →
        jobNumber before r.taken.seq = n → (∀ p ∈ numbered id before, p.1 ≠ n) →
        r.taken.job = job ∧ r.taken.fireAt = t + (min n staggerLimit * stagger.ns : Nat)) ∧
      (rs.length = turns ∨ arrivals = [] ∨ last.isSound = false ∨ ∃ t, stop = some t) := by
  intro sch rs last
  obtain ⟨t, hleads, hend⟩ := leads_runs e stop turns sch s
  change Leads e sch s rs last t at hleads
  have hsettings : sch.reconnectDelay = reconnectDelay ∧ sch.latest = created.lastFrom :=
    (addAll_queue reconnectDelay stagger created.lastFrom arrivals).2.2.2
  have ordered : sch.Ordered := (create_ordered ..).addAll arrivals
  have held := (addAll_holdsEach reconnectDelay stagger created.lastFrom arrivals).leads
    hleads ordered
  obtain ⟨hhead, hchain⟩ := hleads.start_eq timed
  refine ⟨held, ⟨hhead, hchain, hleads.pairwise_finish_le timed⟩, ?_, ?_, ?_⟩
  · intro m r hr
    have hmem : r ∈ rs := List.mem_of_getElem? hr
    have hordered : r.found.Ordered := (hleads.ordered ordered).2 r hmem
    obtain ⟨hbefore, hafter⟩ := run_of_runs hr
    refine ⟨hbefore, r.taken_mem, Run.taken_key_lt hordered, r.fireAt_le_start timed,
      r.queued e, ?_, ?_, ?_⟩
    · rw [hafter]
      exact (r.mem_next e).mpr (.inl rfl)
    · have hlast : rs.take (m + 1) = rs.take m ++ [r] := by
        rw [List.take_add_one, hr]
        rfl
      rw [jobNumber, hlast, List.foldl_append]
      exact Run.pass_queued
    · have hdelay := (hleads.settings r hmem).1.trans hsettings.1
      exact hdelay ▸ Run.queued_dueAgain
  · intro before r after n job t hsplit hadded hcreated hjob hfirst
    have hmem : r ∈ rs := hsplit ▸ List.mem_append_right before List.mem_cons_self
    have htaken : r.taken = firstEntry stagger n (job, t) :=
      first_taken (hsplit ▸ hleads :) hadded hjob hfirst
    have hsound : r.taken.fireAt ≤ created.lastFrom := by
      have hall := (runs_sound r hmem).1
      rw [isSound, List.all_eq_true] at hall
      rw [← hsettings.2, ← (hleads.settings r hmem).2]
      exact of_decide_eq_true (hall r.taken r.taken_mem)
    rw [htaken] at hsound ⊢
    exact ⟨rfl, firstEntry_fireAt hcreated hsound⟩
  · rcases hend with ⟨hlength, -⟩ | ⟨hnone, -⟩
    · exact .inl hlength
    · rcases next?_none hnone with hnil | hbroken | ⟨q, rest, -, hstop⟩
      · refine .inr (.inl (List.length_eq_zero_iff.mp ?_))
        have hlength := held.length
        rw [hnil] at hlength
        simpa using hlength.symm
      · exact .inr (.inr (.inl hbroken))
      · cases stop with
        | none => cases hstop
        | some t => exact .inr (.inr (.inr ⟨t, rfl⟩))

/-- A fast job of a device that is down, a job of no device and a slow job of a device that is
up. -/
def mixture : List (Job × Moment) :=
  [(⟨some 0, [0], .ofSeconds 5, .fast⟩, 0), (⟨none, [1, 2], .ofSeconds 4, .system⟩, 0),
    (⟨some 1, [3], .ofSeconds 6, .slow⟩, 0)]

/-- Eight runs of these jobs, with loads of two seconds: the device that is down is tried again and
again while the other jobs are late for each other. -/
theorem queue_discipline_mixture :
    let e := Surroundings.clockwork (.ofSeconds 2) fun d => d = 1
    let sch := (create (.ofSeconds 3) (.ofSeconds 1) (Moment.lastFrom 0)).addAll mixture
    let rs := runs e none 8 sch 0
    rs.length = 8 ∧ (numbered id rs).map (·.1) = [0, 1, 2, 0, 1, 0, 2, 0] ∧
      rs.map (fun r => Moment.elapsed 0 (r.start e) / nanosPerSecond) = [0, 1, 5, 7, 9, 13, 13, 16] ∧
      rs.map (fun r => (r.deeds e).map Deed.collector?) = [[none], [some 1, some 2], [some 3],
        [none], [some 1, some 2], [none], [some 3], [none]] ∧
      HoldsEach (mixture.map (·.1)) (jobNumber rs) (run e none 8 sch 0).1.queue ∧
      ∀ r ∈ rs[2]?, r.taken.fireAt = (0 : Moment) + (min 2 staggerLimit * 1000000000 : Nat) := by
  intro e sch rs
  have timed : e.Timed := Surroundings.clockwork_timed _ _
  obtain ⟨held, -, -, hfirst, -⟩ :=
    queue_discipline timed (.ofSeconds 3) (.ofSeconds 1) 0 mixture 0 none 8
  have hjob : ∀ r ∈ rs[2]?, jobNumber (rs.take 2) r.taken.seq = 2 := by decide
  refine ⟨by decide, by decide, by decide, by decide, by simpa only [rs, sch] using held,
    fun r hr => ?_⟩
  have hsplit : rs = rs.take 2 ++ r :: rs.drop 3 := by
    obtain ⟨hlt, rfl⟩ := List.getElem?_eq_some_iff.mp hr
    rw [List.getElem_cons_drop, List.take_append_drop]
  exact (hfirst (rs.take 2) r (rs.drop 3) 2 _ 0 hsplit rfl (Int.le_refl 0) (hjob r hr)
    (by decide)).2

end Scheduler

end RouterMetrics

import RouterMetrics.Proofs.Operation.Stores
import RouterMetrics.Proofs.Schedule.Lateness
import RouterMetrics.Proofs.Schedule.Progress

/-!
# Healthy jobs are shown without a gap

A store is shown for one and a half intervals after the load that stored it began. The next load of
its job has ended by then, when runs are short enough: the job is due an interval after its run has
ended, and late by no more than a run of every other job (`Scheduler.Prompt`). It does not matter
what becomes of the other jobs.
-/

namespace RouterMetrics

variable {γ σ : Type}

namespace Operation

variable {w : World σ} {l : Loading γ σ} {group : Collector → γ} {i : Nat} {stages : List Stage}
  {interval : Duration} {since begin end_ t : Moment} {o o' : Operation γ σ}

/-- At a moment every store of a collector is fresh. -/
def FreshAt (group : Collector → γ) (i : Nat) (stages : List Stage) (o : Operation γ σ)
    (t : Moment) : Prop :=
  ∃ x, o.at? t = some x ∧ Shows group i stages (fun st => st.fresh? t = some true) x.collectors

/-- **From a moment on the stores of a collector have been fresh**, and now they have records that
are no older than another moment. -/
structure Kept (w : World σ) (group : Collector → γ) (i : Nat) (stages : List Stage)
    (interval : Duration) (begin since : Moment) (o : Operation γ σ) : Prop where
  current : o.Current w
  since_le : since ≤ w.clock o.world
  now : Shows group i stages (Store.Since interval since) o.exporter.collectors
  fresh : ∀ t, begin ≤ t → t < w.clock o.world → FreshAt group i stages o t

/-- Stores stay fresh while time passes, until the window has passed since their records were
taken. -/
theorem Kept.fresh_of_passes (h : Kept w group i stages interval begin since o)
    (hwindow : (interval.scale? 3).isSome = true)
    (passes : Passes w (Shows group i stages (Store.Since interval since)) o o')
    (hbegin : begin ≤ t) (ht : t < since + (interval.ns * 3 / 2 : Nat)) :
    FreshAt group i stages o' t := by
  by_cases hpast : t < w.clock o.world
  · rw [FreshAt, passes.at?_of_lt hpast]
    exact h.fresh t hbegin hpast
  · obtain ⟨x, hx, hshows⟩ := passes.at?_of_le h.current h.now (Int.not_lt.mp hpast)
    exact ⟨x, hx, hshows.mono fun st hst => hst.fresh hwindow ht⟩

/-- They are kept fresh when new records are there before the window has passed. -/
theorem Kept.passes {renewed : Moment} (h : Kept w group i stages interval begin since o)
    (hwindow : (interval.scale? 3).isSome = true)
    (passes : Passes w (Shows group i stages (Store.Since interval since)) o o')
    (hend : w.clock o'.world ≤ since + (interval.ns * 3 / 2 : Nat))
    (hrenewed : renewed ≤ w.clock o'.world)
    (now : Shows group i stages (Store.Since interval renewed) o'.exporter.collectors) :
    Kept w group i stages interval begin renewed o' where
  current := passes.current h.current
  since_le := hrenewed
  now := now
  fresh := fun _ hbegin ht => h.fresh_of_passes hwindow passes hbegin (Int.lt_of_lt_of_le ht hend)

/-- The window of an interval reaches beyond a run of every job and one more after it. -/
theorem window_le {interval : Duration} {k most : Nat}
    (slack : 2 * (k + 1) * most < interval.ns) :
    interval.ns + (k * most + most) ≤ interval.ns * 3 / 2 := by
  rw [Nat.mul_assoc, Nat.succ_mul k] at slack
  omega

/-! ## What every run keeps -/

/-- What holds at the head of every loop once a healthy job has run: its stores are kept fresh, and
it is due again an interval after the end of a run that has renewed them. -/
def Steady (w : World σ) (l : Loading γ σ) (group : Collector → γ) (i : Nat) (stages : List Stage)
    (job : Job) (most : Nat) (begin : Moment) (sch : Scheduler) (o : Operation γ σ) : Prop :=
  ∃ since q, Kept w group i stages job.interval begin since o ∧
    Scheduler.Prompt (surroundings w l) most q sch o ∧ q.job = job ∧
    q.fireAt ≤ since + job.interval.ns + most

/-- A healthy run: it is short, it does not find its job's device down if its job is the one that
is meant, and the loads of the collector that is meant go well. -/
structure Healthy (w : World σ) (l : Loading γ σ) (group : Collector → γ) (i : Nat) (job : Job)
    (most : Nat) (r : Run (Operation γ σ)) : Prop where
  short : r.finish (surroundings w l) ≤ r.start (surroundings w l) + most
  up : r.taken.job = job →
    Scheduler.isDown (surroundings w l) job (r.begun (surroundings w l)) = false
  well : WellIn w group i (r.deeds (surroundings w l))

variable {job : Job} {most : Nat} {r : Run (Operation γ σ)}

/-- **Every run keeps the stores fresh.** -/
theorem Steady.next (timed : w.Timed) (loads : l.Timed w) (groups : l.Extends w group)
    (hwindow : (job.interval.scale? 3).isSome = true) (hi : i ∈ job.collectors)
    (ordered : r.found.Ordered)
    (slack : 2 * (r.found.queue.length + 1) * most < job.interval.ns)
    (healthy : Healthy w l group i job most r)
    (h : Steady w l group i stages job most begin r.found r.waiting) :
    Steady w l group i stages job most begin (r.next (surroundings w l))
      (r.ended (surroundings w l)) := by
  have timed' := surroundings_timed timed loads
  obtain ⟨since, q, kept, prompt, hjob, hdue⟩ := h
  have hwin := window_le slack
  have hstart : since ≤ r.start (surroundings w l) :=
    Int.le_trans kept.since_le (r.waiting_le_start timed')
  have hfinish := r.start_le_finish timed'
  obtain ⟨hpasses, hkept, hrenewed⟩ := run_shows timed loads groups (r := r)
    (fun st hst => hst.interval_eq) (fun st hst => hst.mono hstart) kept.now healthy.well
  by_cases htaken : r.taken = q
  · -- the job itself runs, and renews its stores before the window has passed
    subst htaken
    have hup := healthy.up hjob
    have hlate := prompt.start_le_of_taken timed' ordered
    have hshort := healthy.short
    refine ⟨r.start (surroundings w l), r.queued (surroundings w l), ?_, .of_queued, hjob, ?_⟩
    · refine kept.passes hwindow hpasses ?_ hfinish (hrenewed (hjob ▸ hup) (hjob ▸ hi))
      show r.finish (surroundings w l) ≤ _
      unfold Moment at *
      omega
    · have hdelay := (Run.of_up (hjob ▸ hup)).2.2
      show r.finish (surroundings w l) + ((r.delay (surroundings w l)).ns : Int) ≤ _
      rw [hdelay, hjob]
      unfold Moment at *
      omega
  · -- another job runs, and the entry that waits is not late by more than its runs
    have hprompt := prompt.next timed' ordered healthy.short htaken
    refine ⟨since, q, ?_, hprompt, hjob, hdue⟩
    refine kept.passes hwindow hpasses ?_ (Int.le_trans hstart hfinish) hkept
    have hlate : r.finish (surroundings w l) ≤ _ := hprompt.clock_le_length
    rw [r.next_length] at hlate
    show r.finish (surroundings w l) ≤ _
    unfold Moment at *
    omega

/-- A load of a healthy job begins what later runs keep. -/
theorem Steady.of_load (timed : w.Timed) (loads : l.Timed w) (groups : l.Extends w group)
    (hwindow : (job.interval.scale? 3).isSome = true) (hmost : most < job.interval.ns)
    (healthy : Healthy w l group i job most r) (hjob : r.taken.job = job)
    (current : r.waiting.Current w)
    (fits : Shows group i stages (·.interval = job.interval) r.waiting.exporter.collectors)
    {device : Option Nat} {found : Operation γ σ}
    (hload : .load i device found ∈ r.deeds (surroundings w l)) :
    Steady w l group i stages job most (w.clock (found.load w l i device).2.world)
      (r.next (surroundings w l)) (r.ended (surroundings w l)) := by
  have timed' := surroundings_timed timed loads
  have well := healthy.well
  have hshort := healthy.short
  obtain ⟨hdeeds, hended, hdelay⟩ := Run.of_up (hjob ▸ healthy.up hjob)
  rw [hdeeds] at hload well
  obtain ⟨before, after, hcollectors, hdevice, rfl⟩ := Scheduler.mem_loadDeeds hload
  rw [hcollectors, Scheduler.loadDeeds_append, ← hdevice] at well
  rw [hcollectors, List.foldl_append, List.foldl_cons, ← hdevice] at hended
  rw [← hdevice]
  -- up to the load
  have hsleep : Passes w (Shows group i stages (·.interval = job.interval)) r.waiting
      (r.begun (surroundings w l)) := .sleep timed r.waiting r.taken.fireAt
  obtain ⟨hbefore, hfits, -⟩ := loadAll_shows (o := r.begun (surroundings w l)) loads groups
    (fun _ => id) (fun st hst => hst.interval_eq) fits (well.mono (List.subset_append_left _ _))
  generalize before.foldl _ _ = found at hbefore hfits well hended ⊢
  -- the load
  let stored := (found.load w l i device).2
  have hrest : WellIn w group i (Scheduler.loadDeeds (surroundings w l) device (i :: after) found) :=
    well.mono (List.subset_append_right _ _)
  have hwell : WellIn w group i [.load i device found] :=
    hrest.mono (List.cons_subset_cons _ (List.nil_subset _))
  obtain ⟨hone, -, hself⟩ := load_shows loads groups (fun _ => id)
    (fun st hst => hst.interval_eq) hfits hwell
  have kept : Kept w group i stages job.interval (w.clock stored.world) (w.clock found.world)
      stored :=
    { current := (hsleep.trans (hbefore.trans hone)).current current
      since_le := hone.clock_le
      now := hself rfl
      fresh := fun t hbegin ht => absurd ht (Int.not_lt.mpr hbegin) }
  -- the rest of the run
  obtain ⟨hrecord, hsame⟩ := Passes.record (w := w)
    (Q := Shows group i stages (Store.Since job.interval (w.clock found.world))) l stored i device
    (Moment.elapsed (w.clock found.world) (w.clock stored.world)) (found.load w l i device).1
    (hself rfl)
  have hnow : Shows group i stages (Store.Since job.interval (w.clock found.world))
      (Scheduler.loadOne (surroundings w l) device found i).exporter.collectors :=
    hsame ▸ hself rfl
  obtain ⟨hafter, hkept, -⟩ := loadAll_shows
    (o := Scheduler.loadOne (surroundings w l) device found i) loads groups
    (fun st hst => hst.interval_eq)
    (fun st hst => hst.mono (Int.le_trans hone.clock_le hrecord.clock_le)) hnow
    (hrest.mono (List.subset_cons_self _ _))
  rw [← hended] at hafter hkept
  have hstart : r.start (surroundings w l) ≤ w.clock found.world := hbefore.clock_le
  have hwin : job.interval.ns ≤ job.interval.ns * 3 / 2 := by omega
  refine ⟨w.clock found.world, r.queued (surroundings w l), ?_, .of_queued, hjob, ?_⟩
  · refine kept.passes hwindow (hrecord.trans hafter) ?_ ?_ hkept
    · show r.finish (surroundings w l) ≤ _
      unfold Moment at *
      omega
    · exact Int.le_trans hone.clock_le (hrecord.trans hafter).clock_le
  · show r.finish (surroundings w l) + ((r.delay (surroundings w l)).ns : Int) ≤ _
    rw [hdelay, hjob]
    unfold Moment at *
    omega

/-! ## Over all runs -/

open Scheduler (Leads)

variable {sch sch' : Scheduler} {rs : List (Run (Operation γ σ))}

/-- Until its job runs a collector keeps its stages and its interval. -/
theorem fits_of_leads (timed : w.Timed) (loads : l.Timed w) (groups : l.Extends w group)
    (h : Leads (surroundings w l) sch o rs sch' o')
    (well : ∀ r ∈ rs, WellIn w group i (r.deeds (surroundings w l))) (current : o.Current w)
    (fits : Shows group i stages (·.interval = interval) o.exporter.collectors) :
    o'.Current w ∧ Shows group i stages (·.interval = interval) o'.exporter.collectors := by
  refine (h.invariant (P := fun _ o => o.Current w ∧
    Shows group i stages (·.interval = interval) o.exporter.collectors) ⟨current, fits⟩ ?_).1
  intro r hr hfound
  obtain ⟨hpasses, hkept, -⟩ := run_shows timed loads groups (fun _ => id)
    (fun st hst => hst.interval_eq) hfound.2 (well r hr)
  exact ⟨hpasses.current hfound.1, hkept⟩

theorem Steady.leads (timed : w.Timed) (loads : l.Timed w) (groups : l.Extends w group)
    (hwindow : (job.interval.scale? 3).isSome = true) (hi : i ∈ job.collectors)
    (h : Leads (surroundings w l) sch o rs sch' o') (ordered : sch.Ordered)
    (slack : 2 * (sch.queue.length + 1) * most < job.interval.ns)
    (healthy : ∀ r ∈ rs, Healthy w l group i job most r)
    (steady : Steady w l group i stages job most begin sch o) :
    Steady w l group i stages job most begin sch' o' := by
  induction h with
  | done => exact steady
  | run r _ ih =>
    obtain ⟨hr, hrest⟩ := List.forall_mem_cons.mp healthy
    exact ih (Run.next_ordered _ ordered) ((r.next_length (surroundings w l)).symm ▸ slack) hrest
      (steady.next timed loads groups hwindow hi ordered slack hr)

/-- **From a load of a healthy job on its stores are fresh at every loop head.** -/
theorem Steady.of_runs (timed : w.Timed) (loads : l.Timed w) (groups : l.Extends w group)
    (hwindow : (job.interval.scale? 3).isSome = true) (hi : i ∈ job.collectors)
    {before after : List (Run (Operation γ σ))}
    (h : Leads (surroundings w l) sch o (before ++ r :: after) sch' o') (ordered : sch.Ordered)
    (slack : 2 * (sch.queue.length + 1) * most < job.interval.ns)
    (healthy : ∀ r' ∈ before ++ r :: after, Healthy w l group i job most r')
    (hjob : r.taken.job = job) (current : o.Current w)
    (fits : Shows group i stages (·.interval = job.interval) o.exporter.collectors)
    {device : Option Nat} {found : Operation γ σ}
    (hload : .load i device found ∈ r.deeds (surroundings w l)) :
    Steady w l group i stages job most (w.clock (found.load w l i device).2.world) sch' o' := by
  obtain ⟨hearlier, hhealthy⟩ := List.forall_mem_append.mp healthy
  obtain ⟨hr, hlater⟩ := List.forall_mem_cons.mp hhealthy
  obtain ⟨mid, m, hbefore, hrest⟩ := h.append
  obtain ⟨rfl, rfl, hafter⟩ := hrest.cons
  obtain ⟨current', fits'⟩ := fits_of_leads timed loads groups hbefore
    (fun r' hr' => (hearlier r' hr').well) current fits
  have ordered' := (hbefore.ordered ordered).1
  rw [← hbefore.length_eq, ← r.next_length (surroundings w l)] at slack
  have hwin := window_le slack
  have hbegun := Steady.of_load timed loads groups hwindow (by omega) hr hjob current' fits' hload
  exact hbegun.leads timed loads groups hwindow hi hafter (Run.next_ordered _ ordered') slack hlater

/-- What was shown is still known after a wait for a stop. -/
theorem atStop_history (stop : Option Moment) (o : Operation γ σ) :
    (Scheduler.atStop (surroundings w l) stop o).history = o.history := by
  cases stop with
  | none => rfl
  | some t => rfl

/-- The stores stay fresh while the loop waits for a stop that comes before the next run. -/
theorem Steady.fresh_atStop (timed : w.Timed) (loads : l.Timed w)
    (hwindow : (job.interval.scale? 3).isSome = true) (ordered : sch.Ordered)
    (slack : 2 * (sch.queue.length + 1) * most < job.interval.ns)
    (h : Steady w l group i stages job most begin sch o) {stop : Option Moment}
    (hnone : Scheduler.next? (surroundings w l) stop sch o = none)
    (hbegin : begin ≤ t)
    (ht : t < w.clock (Scheduler.atStop (surroundings w l) stop o).world)
    (hsound : sch.isSound = true ∨ t < w.clock o.world) :
    FreshAt group i stages (Scheduler.atStop (surroundings w l) stop o) t := by
  obtain ⟨since, q, kept, prompt, -, hdue⟩ := h
  by_cases hpast : t < w.clock o.world
  · -- what was at an earlier moment is not changed by the wait
    obtain ⟨x, hx, hshows⟩ := kept.fresh t hbegin hpast
    exact ⟨x, by rw [at?, atStop_history]; exact hx, hshows⟩
  · have hsound := hsound.resolve_right hpast
    rcases Scheduler.next?_none hnone with hnil | hbroken | ⟨first, rest, hqueue, hstop⟩
    · have hwaits := prompt.waits
      rw [hnil] at hwaits
      cases hwaits
    · rw [hsound] at hbroken
      cases hbroken
    · cases stop with
      | none => cases hstop
      | some T =>
        -- the stop comes before the first entry is due, which is not later than that of the job
        have hfirst : first.fireAt ≤ q.fireAt := by
          have hsorted := ordered.sorted
          have hwaits := prompt.waits
          rw [hqueue] at hsorted hwaits
          rcases List.mem_cons.mp hwaits with rfl | hq
          · exact Int.le_refl _
          · exact QueuedJob.fireAt_le_of_before (hsorted.head q hq)
        have hclock := (surroundings_timed timed loads).sleep first.fireAt o
        have hT : T ≤ max (w.clock o.world) first.fireAt := hclock ▸ of_decide_eq_true hstop
        have hend : t < max (w.clock o.world) T := timed.sleep T o.world ▸ ht
        have hwin := window_le slack
        refine kept.fresh_of_passes hwindow (.sleep timed o T) hbegin ?_
        unfold Moment at *
        omega

/-- **A healthy job is shown without a gap.** Let a schedule of jobs be run in an operation, no run
take longer than some time, and a job have an interval of more than twice that time for every job
and once more. Let its device never be found down, if it has one, and let its collectors be those
of metric groups whose loads go well. Then from the end of any load of one of them every store of
it is fresh at every moment before the operation has been stopped, or the loop is broken; and if
all delays are positive, every moment that the clock can tell is reached. -/
theorem healthy_job_fresh (timed : w.Timed) (loads : l.Timed w) (groups : l.Extends w group)
    (reconnectDelay stagger : Duration) (latest : Moment) (arrivals : List (Job × Moment))
    (x : Exporter γ) (s : σ) (stop : Option Moment) (turns : Nat)
    (fits : ∀ i ∈ job.collectors, ∃ c, x.collectors[i]? = some (group c) ∧
      ∀ live ∈ c.stages, live.store.interval = job.interval)
    (hwindow : (job.interval.scale? 3).isSome = true)
    (slack : 2 * (arrivals.length + 1) * most < job.interval.ns) :
    let e := surroundings w l
    let sch := (Scheduler.create reconnectDelay stagger latest).addAll arrivals
    let o := start w x s
    let rs := Scheduler.runs e stop turns sch o
    let last := Scheduler.run e stop turns sch o
    ((∀ r ∈ rs, r.finish e ≤ r.start e + most) →
      (∀ r ∈ rs, r.taken.job = job → Scheduler.isDown e job (r.begun e) = false) →
      (∀ r ∈ rs, ∀ i ∈ job.collectors, WellIn w group i (r.deeds e)) →
      ∀ r ∈ rs, r.taken.job = job → ∀ i device found, .load i device found ∈ r.deeds e →
        ∃ c, x.collectors[i]? = some (group c) ∧
          ∀ t, e.clock (e.load i device found).2 ≤ t → t < e.clock last.2 →
            (last.1.isSound = true ∨ ∃ r' ∈ rs, t < r'.finish e) →
            FreshAt group i (c.stages.map (·.stage)) last.2 t) ∧
      ∀ limit, sch.Lasting limit → arrivals ≠ [] → (∀ t ∈ stop, limit ≤ t) →
        ∃ turns, limit ≤ e.clock (Scheduler.run e stop turns sch o).2 := by
  intro e sch o rs last
  have timed' : e.Timed := surroundings_timed timed loads
  have ordered : sch.Ordered := (Scheduler.create_ordered ..).addAll arrivals
  have hlength : sch.queue.length = arrivals.length :=
    (Scheduler.addAll_queue ..).1.length_eq.trans List.length_mapIdx
  refine ⟨fun short up well r hr hjob i device found hload => ?_,
    fun limit lasting hjobs hstop => ?_⟩
  · obtain ⟨hdeeds, -, -⟩ := Run.of_up (hjob ▸ up r hr hjob)
    obtain ⟨before, after, hcollectors, -, -⟩ := Scheduler.mem_loadDeeds (hdeeds ▸ hload)
    have hi : i ∈ job.collectors := by
      rw [← hjob, hcollectors]
      exact List.mem_append_right _ List.mem_cons_self
    have healthy : ∀ r ∈ rs, Healthy w l group i job most r := fun r hr =>
      ⟨short r hr, up r hr, well r hr i hi⟩
    obtain ⟨c, hc, hinterval⟩ := fits i hi
    refine ⟨c, hc, fun t hbegin ht hsound => ?_⟩
    obtain ⟨final, hleads, hend⟩ := Scheduler.leads_runs e stop turns sch o
    change Leads e sch o rs last.1 final at hleads
    obtain ⟨before, after, hsplit⟩ := List.append_of_mem hr
    rw [← hlength] at slack
    have hsteady := Steady.of_runs timed loads groups hwindow hi (hsplit ▸ hleads) ordered slack
      (hsplit ▸ healthy) hjob (start_current w x s) ⟨c, hc, rfl, hinterval⟩ hload
    rcases hend with ⟨-, hlast⟩ | ⟨hnone, hlast⟩
    · obtain ⟨since, q, kept, -, -⟩ := hsteady
      change last.2 = final at hlast
      rw [hlast] at ht ⊢
      exact kept.fresh t hbegin ht
    · change last.2 = Scheduler.atStop e stop final at hlast
      rw [hlast] at ht ⊢
      rw [← hleads.length_eq] at slack
      refine hsteady.fresh_atStop timed loads hwindow (hleads.ordered ordered).1 slack hnone hbegin
        ht (hsound.imp id fun ⟨r', hr', hfinish⟩ => ?_)
      exact Int.lt_of_lt_of_le hfinish (hleads.finish_le timed' r' (hsplit ▸ hr'))
  · refine Scheduler.time_passes timed' lasting (fun hnil => hjobs ?_) o stop hstop
    rw [hnil] at hlength
    exact List.length_eq_zero_iff.mp hlength.symm

/-! ## A busy exporter -/

/-- A world in which everything takes a second, no device answers and the feed always does. -/
def ticking : World Moment where
  clock := id
  sleepUntil := fun t s => max s t
  handshake := fun _ s => (.error .timeout, Moment.after s (.ofSeconds 1))
  call := fun _ _ s => (.error .timeout, Moment.after s (.ofSeconds 1))
  release := fun _ s => (some "7.20 1754000000", Moment.after s (.ofSeconds 1))

theorem ticking_timed : ticking.Timed where
  sleep := fun _ _ => rfl
  handshake := fun _ _ => Int.le_add_of_nonneg_right (Int.natCast_nonneg _)
  call := fun _ _ _ => Int.le_add_of_nonneg_right (Int.natCast_nonneg _)
  release := fun _ _ => Int.le_add_of_nonneg_right (Int.natCast_nonneg _)

/-- Collectors of metric groups, and such that panic after a second. -/
def brittle : Loading (Option Collector) Moment where
  name := fun c => (c.map (·.name)).getD ""
  load := fun c d s =>
    match c with
    | none => (.panicked, ⟨none, d, Moment.after s (.ofSeconds 1), []⟩)
    | some c => (((Collector.loading ticking).load c d s).1,
        ((Collector.loading ticking).load c d s).2.map some)

theorem brittle_timed : brittle.Timed ticking where
  clock_le := by
    intro c d s
    cases c with
    | none => exact Int.le_add_of_nonneg_right (Int.natCast_nonneg _)
    | some c => exact (Collector.loading_timed ticking_timed).clock_le c d s
  progress := by
    intro c d s p hp
    cases c with
    | none => cases hp
    | some c =>
      obtain ⟨p, hthrough, rfl⟩ := List.mem_map.mp hp
      exact (Collector.loading_timed ticking_timed).progress c d s p hthrough

instance (c : Collector) (d : Option Device) (s : σ) : Decidable (c.LoadsWell w d s) :=
  decidable_of_iff _ ⟨fun h => ⟨h.1, h.2⟩, fun h => And.intro h.ok h.records⟩

/-- A deed that goes well if it is a load of a collector of a metric group. -/
def goesWell (i : Nat) : Deed (Operation (Option Collector) Moment) → Bool
  | .connect _ _ => true
  | .load j device found => j != i || (found.exporter.collectors[i]?.join).all fun c =>
      decide (c.LoadsWell ticking (device.bind found.device?) found.world)

theorem wellIn_of_goesWell {deeds : List (Deed (Operation (Option Collector) Moment))}
    (h : ∀ x ∈ deeds, goesWell i x = true) : WellIn ticking some i deeds := by
  intro device found c hmem hc
  have hwell := h _ hmem
  simpa [goesWell, hc] using hwell

/-- A group of two stages that ask the feed. -/
def channels : Group :=
  ⟨"releases", ["stable", "testing"].map fun channel =>
    .plain (.release channel fun _ => .done [Dict.empty]) [] []⟩

/-- A device that does not answer, the collector of that group and one that panics. -/
def depot : Exporter (Option Collector) where
  devices := [.create 0 ⟨"depot", "10.0.0.1"⟩ (.of (.ofSeconds 3) 10 (.ofSeconds 60))]
  collectors := [some (channels.collector [] (.ofSeconds 17)), none]
  stats := .empty "depot"

/-- The job of the group, one whose collector panics and one whose device is down. -/
def depotJobs : List (Job × Moment) :=
  [(⟨none, [0], .ofSeconds 17, .system⟩, 0), (⟨none, [1], .ofSeconds 5, .fast⟩, 0),
    (⟨some 0, [1], .ofSeconds 5, .slow⟩, 0)]

/-- The group is first loaded from the second second to the fourth, after the jobs of faster
cadences, and again from the twenty-first to the twenty-third; in between it is always shown. -/
theorem healthy_job_fresh_depot :
    let e := surroundings ticking brittle
    let sch := (Scheduler.create (.ofSeconds 3) .zero (Moment.lastFrom 0)).addAll depotJobs
    let rs := Scheduler.runs e none 12 sch (start ticking depot 0)
    let last := Scheduler.run e none 12 sch (start ticking depot 0)
    rs.map (fun r => Moment.elapsed 0 (r.start e) / nanosPerSecond) =
        [0, 1, 2, 5, 6, 9, 12, 13, 17, 18, 20, 21] ∧
      rs.map (fun r => (r.deeds e).map Deed.collector?) = [[some 1], [none], [some 0], [none],
        [some 1], [none], [some 1], [none], [none], [some 1], [none], [some 0]] ∧
      ∀ t, Moment.after 0 (.ofSeconds 4) ≤ t → t < Moment.after 0 (.ofSeconds 23) →
        FreshAt some 0 channels.stages last.2 t := by
  intro e sch rs last
  refine ⟨by decide, by decide, fun t hbegin ht => ?_⟩
  obtain ⟨r, hr⟩ : ∃ r, rs[2]? = some r := Option.isSome_iff_exists.mp (by decide)
  have hjob : r.taken.job = ⟨none, [0], .ofSeconds 17, .system⟩ :=
    (by decide : ∀ r ∈ rs[2]?, r.taken.job = ⟨none, [0], .ofSeconds 17, .system⟩) r hr
  have hstored : (e.load 0 none (r.begun e)).2.world = Moment.after 0 (.ofSeconds 4) :=
    (by decide : ∀ r ∈ rs[2]?, (e.load 0 none (r.begun e)).2.world =
      Moment.after 0 (.ofSeconds 4)) r hr
  have hdeeds : .load 0 none (r.begun e) ∈ r.deeds e := by
    rw [(Run.of_up (by rw [hjob]; rfl)).1, hjob]
    exact List.mem_cons_self
  have fits : ∀ i ∈ r.taken.job.collectors, ∃ c, depot.collectors[i]? = some (some c) ∧
      ∀ live ∈ c.stages, live.store.interval = r.taken.job.interval := by
    rw [hjob]
    intro i hi
    cases List.mem_singleton.mp hi
    exact ⟨channels.collector [] (.ofSeconds 17), rfl, by decide⟩
  have slack : 2 * (depotJobs.length + 1) * 2000000000 < r.taken.job.interval.ns := by
    rw [hjob]
    decide
  obtain ⟨hfresh, -⟩ := healthy_job_fresh ticking_timed brittle_timed ⟨fun _ _ _ => rfl⟩
    (.ofSeconds 3) .zero (Moment.lastFrom 0) depotJobs depot 0 none 12 fits (by rw [hjob]; decide)
    slack
  obtain ⟨c, hc, hall⟩ := hfresh (by decide) (by rw [hjob]; decide)
    (by
      rw [hjob]
      have hwell : ∀ r ∈ rs, ∀ i ∈ [0], ∀ x ∈ r.deeds e, goesWell i x = true := by decide
      exact fun r hr i hi => wellIn_of_goesWell (hwell r hr i hi))
    r (List.mem_of_getElem? hr) rfl 0 none _ hdeeds
  cases hc
  have hend : e.clock last.2 = Moment.after 0 (.ofSeconds 23) := by decide
  have hbefore : t < e.clock last.2 := lt_of_lt_of_eq ht hend.symm
  refine hall t ?_ (by simpa only [last, sch, e] using hbefore) (.inl (by decide))
  show (e.load 0 none (r.begun e)).2.world ≤ t
  rw [hstored]
  exact hbegin

end Operation

end RouterMetrics

import RouterMetrics.Proofs.Operation.Written
import RouterMetrics.Proofs.Schedule.Deeds

/-!
# What runs leave of the stores of a collector

A run of any job leaves the stores of a collector with the properties they had, as long as the
loads of that collector go well; a run of its own job leaves them with records that are no older
than the run (`run_shows`).
-/

namespace RouterMetrics

variable {γ σ : Type}

/-- The collectors of metric groups are loaded as such. -/
structure Loading.Extends (l : Loading γ σ) (w : World σ) (group : Collector → γ) : Prop where
  load : ∀ c d s, l.load (group c) d s =
    (((Collector.loading w).load c d s).1, ((Collector.loading w).load c d s).2.map group)

namespace Operation

/-- A collector is that of a metric group with some stages, and its stores have a property. -/
def Shows (group : Collector → γ) (i : Nat) (stages : List Stage) (P : Store → Prop)
    (cs : List γ) : Prop :=
  ∃ c, cs[i]? = some (group c) ∧ c.Keeps stages P

variable {w : World σ} {l : Loading γ σ} {group : Collector → γ} {i : Nat} {stages : List Stage}
  {interval : Duration} {P Q : Store → Prop} {cs : List γ}

theorem Shows.mono (h : Shows group i stages P cs) (hPQ : ∀ st, P st → Q st) :
    Shows group i stages Q cs := by
  obtain ⟨c, hc, hkeeps⟩ := h
  exact ⟨c, hc, hkeeps.mono hPQ⟩

theorem Shows.set_other (h : Shows group i stages P cs) {j : Nat} (hne : j ≠ i) (c : γ) :
    Shows group i stages P (cs.set j c) := by
  obtain ⟨c', hc', hkeeps⟩ := h
  exact ⟨c', by rw [List.getElem?_set_ne hne, hc'], hkeeps⟩

theorem shows_set_self {c : γ} {c' : Collector} (hc : cs[i]? = some c)
    (h : c'.Keeps stages P) : Shows group i stages P (cs.set i (group c')) := by
  obtain ⟨hi, -⟩ := List.getElem?_eq_some_iff.mp hc
  exact ⟨c', by rw [List.getElem?_set_self hi], h⟩

/-! ## Time in an operation -/

/-- Nothing that the loop asks of an operation sets the clock back. -/
theorem surroundings_timed (timed : w.Timed) (loads : l.Timed w) : (surroundings w l).Timed where
  sleep := fun t o => timed.sleep t o.world
  connect := fun d o => (Passes.connect (Q := fun _ => True) timed o d trivial).1.clock_le
  load := by
    intro c d o
    show w.clock o.world ≤ w.clock (o.load w l c d).2.world
    cases hc : o.exporter.collectors[c]? with
    | none => simp [load, hc]
    | some c' => exact (Passes.load (Q := fun _ => True) loads o c d hc (by simp) trivial).1.clock_le
  record := fun c d n outcome o =>
    (Passes.record (Q := fun _ => True) l o c d n outcome trivial).1.clock_le

/-! ## What a run leaves of a collector -/

/-- The loads of a collector, where they are loads of a metric group, go well. -/
def WellIn (w : World σ) (group : Collector → γ) (i : Nat) (deeds : List (Deed (Operation γ σ))) :
    Prop :=
  ∀ device found c, .load i device found ∈ deeds →
    found.exporter.collectors[i]? = some (group c) →
    c.LoadsWell w (device.bind found.device?) found.world

theorem WellIn.mono {some all : List (Deed (Operation γ σ))} (h : WellIn w group i all)
    (hsub : some ⊆ all) : WellIn w group i some :=
  fun device found c hmem => h device found c (hsub hmem)

/-- A load of any collector that leaves this one's stores with a property. -/
theorem load_shows (loads : l.Timed w) (groups : l.Extends w group)
    (hP : ∀ st, P st → st.interval = interval) {o : Operation γ σ} {device : Option Nat} {j : Nat}
    (hnew : ∀ st, st.Since interval (w.clock o.world) → P st)
    (now : Shows group i stages P o.exporter.collectors)
    (well : WellIn w group i [.load j device o]) :
    let o' := (o.load w l j device).2
    Passes w (Shows group i stages P) o o' ∧
      Shows group i stages P o'.exporter.collectors ∧
      (j = i → Shows group i stages (Store.Since interval (w.clock o.world))
        o'.exporter.collectors) := by
  intro o'
  cases hj : o.exporter.collectors[j]? with
  | none =>
    -- there is no such collector, so it is another one
    have hsame : o' = o := by simp [o', load, hj]
    rw [hsame]
    refine ⟨.refl o, now, fun heq => ?_⟩
    obtain ⟨c, hc, -⟩ := now
    rw [← heq, hj] at hc
    cases hc
  | some c' =>
    by_cases heq : j = i
    · subst heq
      obtain ⟨c, hc, hkeeps⟩ := now
      obtain rfl : group c = c' := Option.some.inj (hc.symm.trans hj)
      obtain ⟨hkept, hprogress⟩ := Collector.load_since hP hkeeps
        (well device o c List.mem_cons_self hc)
      have hload := groups.load c (device.bind o.device?) o.world
      have hshows : Shows group j stages (Store.Since interval (w.clock o.world))
          (o.exporter.collectors.set j (l.load (group c) (device.bind o.device?) o.world).2.kept) := by
        rw [hload]
        exact shows_set_self hj hkept
      have hthrough : ∀ p ∈ (l.load (group c) (device.bind o.device?) o.world).2.progress,
          Shows group j stages P (o.exporter.collectors.set j p.2) := by
        intro p hp
        rw [hload] at hp
        obtain ⟨p, hstage, rfl⟩ := List.mem_map.mp hp
        exact shows_set_self hj ((hprogress p hstage).mono fun st hst => hst.elim id (hnew st))
      obtain ⟨hpasses, hcollectors⟩ := Passes.load loads o j device hj hthrough (hshows.mono hnew)
      rw [hcollectors]
      exact ⟨hpasses, hshows.mono hnew, fun _ => hshows⟩
    · obtain ⟨hpasses, hcollectors⟩ := Passes.load (Q := Shows group i stages P) loads o j device hj
        (fun p _ => now.set_other heq p.2) (now.set_other heq _)
      rw [hcollectors]
      exact ⟨hpasses, now.set_other heq _, fun h => absurd h heq⟩

/-- The same after the load has been recorded. -/
theorem loadOne_shows (loads : l.Timed w) (groups : l.Extends w group)
    (hP : ∀ st, P st → st.interval = interval) {o : Operation γ σ} {device : Option Nat} {j : Nat}
    (hnew : ∀ st, st.Since interval (w.clock o.world) → P st)
    (now : Shows group i stages P o.exporter.collectors)
    (well : WellIn w group i [.load j device o]) :
    let o' := Scheduler.loadOne (surroundings w l) device o j
    Passes w (Shows group i stages P) o o' ∧
      Shows group i stages P o'.exporter.collectors ∧
      (j = i → Shows group i stages (Store.Since interval (w.clock o.world))
        o'.exporter.collectors) := by
  intro o'
  obtain ⟨hload, hkept, hself⟩ := load_shows loads groups hP hnew now well
  obtain ⟨hrecord, hcollectors⟩ := Passes.record (w := w) (Q := Shows group i stages P) l
    (o.load w l j device).2 j device
    (Moment.elapsed (w.clock o.world) (w.clock (o.load w l j device).2.world))
    (o.load w l j device).1 hkept
  have hsame : o'.exporter.collectors = (o.load w l j device).2.exporter.collectors := hcollectors
  rw [hsame]
  exact ⟨hload.trans hrecord, hkept, hself⟩

/-- Loads of collectors one after another leave this one's stores with a property, and if it is
among them, with records that are no older than the first of them. -/
theorem loadAll_shows (loads : l.Timed w) (groups : l.Extends w group)
    (hP : ∀ st, P st → st.interval = interval) {o : Operation γ σ} {device : Option Nat}
    {collectors : List Nat} (hnew : ∀ st, st.Since interval (w.clock o.world) → P st)
    (now : Shows group i stages P o.exporter.collectors)
    (well : WellIn w group i (Scheduler.loadDeeds (surroundings w l) device collectors o)) :
    let o' := collectors.foldl (Scheduler.loadOne (surroundings w l) device) o
    Passes w (Shows group i stages P) o o' ∧
      Shows group i stages P o'.exporter.collectors ∧
      (i ∈ collectors → Shows group i stages (Store.Since interval (w.clock o.world))
        o'.exporter.collectors) := by
  induction collectors generalizing o P with
  | nil => exact ⟨.refl o, now, by simp⟩
  | cons j rest ih =>
    have hfirst : WellIn w group i [.load j device o] :=
      well.mono (List.cons_subset_cons _ (List.nil_subset _))
    have hrest : WellIn w group i (Scheduler.loadDeeds (surroundings w l) device rest
        (Scheduler.loadOne (surroundings w l) device o j)) := well.mono (List.subset_cons_self _ _)
    obtain ⟨hone, hkept, hself⟩ := loadOne_shows loads groups hP hnew now hfirst
    have hlater : ∀ st : Store, st.Since interval
        (w.clock (Scheduler.loadOne (surroundings w l) device o j).world) →
        st.Since interval (w.clock o.world) := fun st hst => hst.mono hone.clock_le
    obtain ⟨hpasses, hnow, hmem⟩ := ih hP (fun st hst => hnew st (hlater st hst)) hkept hrest
    refine ⟨hone.trans hpasses, hnow, fun hi => ?_⟩
    rcases List.mem_cons.mp hi with rfl | hi
    · exact (ih (fun st hst => hst.interval_eq) hlater (hself rfl) hrest).2.1
    · exact (hmem hi).mono hlater

/-- A run leaves the stores of a collector with a property, and if the job of the run has loaded
it, with records that are no older than the run. -/
theorem run_shows (timed : w.Timed) (loads : l.Timed w) (groups : l.Extends w group)
    (hP : ∀ st, P st → st.interval = interval) {r : Run (Operation γ σ)}
    (hnew : ∀ st, st.Since interval (r.start (surroundings w l)) → P st)
    (now : Shows group i stages P r.waiting.exporter.collectors)
    (well : WellIn w group i (r.deeds (surroundings w l))) :
    let o' := r.ended (surroundings w l)
    Passes w (Shows group i stages P) r.waiting o' ∧
      Shows group i stages P o'.exporter.collectors ∧
      (Scheduler.isDown (surroundings w l) r.taken.job (r.begun (surroundings w l)) = false →
        i ∈ r.taken.job.collectors →
        Shows group i stages (Store.Since interval (r.start (surroundings w l)))
          o'.exporter.collectors) := by
  intro o'
  have hsleep : Passes w (Shows group i stages P) r.waiting (r.begun (surroundings w l)) :=
    .sleep timed r.waiting r.taken.fireAt
  cases hdown : Scheduler.isDown (surroundings w l) r.taken.job (r.begun (surroundings w l)) with
  | true =>
    obtain ⟨d, -, -, hended, -⟩ := Run.of_down hdown
    obtain ⟨hconnect, hsame⟩ :=
      Passes.connect (Q := Shows group i stages P) timed (r.begun (surroundings w l)) d now
    have hend : o' = (r.begun (surroundings w l)).connect w d := hended
    rw [hend, hsame]
    exact ⟨hsleep.trans hconnect, now, fun h => by cases h⟩
  | false =>
    obtain ⟨hdeeds, hended, -⟩ := Run.of_up hdown
    rw [hdeeds] at well
    obtain ⟨hpasses, hkept, hmem⟩ := loadAll_shows (o := r.begun (surroundings w l)) loads groups
      hP hnew now well
    rw [← hended] at hpasses hkept hmem
    exact ⟨hsleep.trans hpasses, hkept, fun _ => hmem⟩

end Operation

end RouterMetrics

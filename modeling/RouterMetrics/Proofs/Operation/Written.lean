import RouterMetrics.Exporter
import RouterMetrics.Proofs.Operation.Loads
import RouterMetrics.Proofs.Schedule.Runs

/-!
# What is written down of an operation

The history of an operation only grows, and what is written down is written down at its time. So
what was at a moment does not change any more once the moment has passed, and if the collectors
have a property and keep it, they had it at every moment in between (`Passes.at?_of_le`).
-/

namespace RouterMetrics

variable {γ σ : Type}

/-- A load does not set the clock back, and what it went through was while it lasted. -/
structure Loading.Timed (l : Loading γ σ) (w : World σ) : Prop where
  clock_le : ∀ c d s, w.clock s ≤ w.clock (l.load c d s).2.world
  progress : ∀ c d s, ∀ p ∈ (l.load c d s).2.progress,
    w.clock s ≤ p.1 ∧ p.1 ≤ w.clock (l.load c d s).2.world

theorem Collector.loading_timed {w : World σ} (timed : w.Timed) :
    (Collector.loading w).Timed w where
  clock_le := fun c d s => (c.load_clock_le timed d s).1
  progress := fun c d s => (c.load_clock_le timed d s).2

namespace Operation

/-- What holds now is the last that was written down. -/
def Current (w : World σ) (o : Operation γ σ) : Prop :=
  ∃ t rest, o.history = (t, o.exporter) :: rest ∧ t ≤ w.clock o.world

theorem start_current (w : World σ) (x : Exporter γ) (s : σ) : (start w x s).Current w :=
  ⟨_, [], rfl, Int.le_refl _⟩

/-- What is written down from one operation to a later one is of the time between them, and its
collectors have a property. -/
structure Passes (w : World σ) (Q : List γ → Prop) (o o' : Operation γ σ) : Prop where
  clock_le : w.clock o.world ≤ w.clock o'.world
  written : ∃ news, o'.history = news ++ o.history ∧
    ∀ h ∈ news, w.clock o.world ≤ h.1 ∧ h.1 ≤ w.clock o'.world ∧ Q h.2.collectors
  current : o.Current w → o'.Current w

namespace Passes

variable {w : World σ} {Q : List γ → Prop} {o o' o'' : Operation γ σ} {t : Moment}

theorem refl (o : Operation γ σ) : Passes w Q o o where
  clock_le := Int.le_refl _
  written := ⟨[], rfl, by simp⟩
  current := id

theorem trans (h : Passes w Q o o') (h' : Passes w Q o' o'') : Passes w Q o o'' where
  clock_le := Int.le_trans h.clock_le h'.clock_le
  written := by
    obtain ⟨news, hnews, hall⟩ := h.written
    obtain ⟨later, hlater, hall'⟩ := h'.written
    refine ⟨later ++ news, by rw [hlater, hnews, List.append_assoc], fun x hx => ?_⟩
    rcases List.mem_append.mp hx with hx | hx
    · exact ⟨Int.le_trans h.clock_le (hall' x hx).1, (hall' x hx).2⟩
    · exact ⟨(hall x hx).1, Int.le_trans (hall x hx).2.1 h'.clock_le, (hall x hx).2.2⟩
  current := fun hc => h'.current (h.current hc)

/-- Something that is written down now. -/
theorem change {x : Exporter γ} {s : σ} (hle : w.clock o.world ≤ w.clock s)
    (hx : Q x.collectors) : Passes w Q o ({ o with world := s }.change (w.clock s) x) where
  clock_le := hle
  written := ⟨[(w.clock s, x)], rfl, by simpa using ⟨hle, Int.le_refl _, hx⟩⟩
  current := fun _ => ⟨_, o.history, rfl, Int.le_refl _⟩

/-- **What was before is not written anew.** -/
theorem at?_of_lt (h : Passes w Q o o') (ht : t < w.clock o.world) : o'.at? t = o.at? t := by
  obtain ⟨news, hnews, hall⟩ := h.written
  -- whatever has been written since is of a later time
  have hnone : news.find? (fun x => decide (x.1 ≤ t)) = none := by
    refine List.find?_eq_none.mpr fun x hx => ?_
    have hlater := Int.lt_of_lt_of_le ht (hall x hx).1
    simpa using hlater
  rw [at?, at?, hnews, List.find?_append, hnone, Option.none_or]

/-- **From now on the collectors have the property at every moment.** -/
theorem at?_of_le (h : Passes w Q o o') (current : o.Current w) (now : Q o.exporter.collectors)
    (ht : w.clock o.world ≤ t) : ∃ x, o'.at? t = some x ∧ Q x.collectors := by
  obtain ⟨news, hnews, hall⟩ := h.written
  obtain ⟨since, rest, hhistory, hsince⟩ := current
  rw [at?, hnews, List.find?_append]
  cases hfind : news.find? (fun x => decide (x.1 ≤ t)) with
  | some x => exact ⟨x.2, rfl, (hall x (List.mem_of_find?_eq_some hfind)).2.2⟩
  | none =>
    have hdone : since ≤ t := Int.le_trans hsince ht
    exact ⟨o.exporter, by simp [hhistory, hdone], now⟩

/-- A wait writes nothing down. -/
theorem sleep (timed : w.Timed) (o : Operation γ σ) (until_ : Moment) :
    Passes w Q o { o with world := w.sleepUntil until_ o.world } where
  clock_le := by
    show w.clock o.world ≤ w.clock (w.sleepUntil until_ o.world)
    rw [timed.sleep]
    exact Int.le_max_left ..
  written := ⟨[], rfl, by simp⟩
  current := by
    rintro ⟨since, rest, hhistory, hsince⟩
    refine ⟨since, rest, hhistory, ?_⟩
    show since ≤ w.clock (w.sleepUntil until_ o.world)
    rw [timed.sleep]
    exact Int.le_trans hsince (Int.le_max_left ..)

/-- An attempt to connect leaves the collectors as they are. -/
theorem connect (timed : w.Timed) (o : Operation γ σ) (device : Nat)
    (now : Q o.exporter.collectors) :
    Passes w Q o (o.connect w device) ∧
      (o.connect w device).exporter.collectors = o.exporter.collectors := by
  unfold Operation.connect
  split
  · exact ⟨refl o, rfl⟩
  · rename_i d _
    exact ⟨change (d.connect_clock_le timed o.world) now, rfl⟩

/-- To record a load leaves the collectors as they are. -/
theorem record (l : Loading γ σ) (o : Operation γ σ) (collector : Nat) (device : Option Nat)
    (elapsed : Nat) (outcome : LoadOutcome) (now : Q o.exporter.collectors) :
    Passes w Q o (o.record w l collector device elapsed outcome) ∧
      (o.record w l collector device elapsed outcome).exporter.collectors =
        o.exporter.collectors := by
  unfold Operation.record
  split
  · exact ⟨refl o, rfl⟩
  · exact ⟨change (Int.le_refl _) now, rfl⟩

/-- What a load goes through is written down collector by collector. -/
theorem foldl_progress (collector : Nat) (ps : List (Moment × γ)) (o : Operation γ σ) :
    let o' := ps.foldl (fun o p => o.change p.1 (setCollector o.exporter collector p.2)) o
    o'.world = o.world ∧
      (∀ c, o'.exporter.collectors.set collector c = o.exporter.collectors.set collector c) ∧
      ∃ news, o'.history = news ++ o.history ∧ ∀ h ∈ news, ∃ p ∈ ps,
        h.1 = p.1 ∧ h.2.collectors = o.exporter.collectors.set collector p.2 := by
  induction ps generalizing o with
  | nil => exact ⟨rfl, fun _ => rfl, [], rfl, by simp⟩
  | cons p rest ih =>
    let first := o.change p.1 (setCollector o.exporter collector p.2)
    obtain ⟨hworld, hset, news, hnews, hall⟩ := ih first
    have hcollectors : ∀ c, first.exporter.collectors.set collector c =
        o.exporter.collectors.set collector c := fun c => List.set_set ..
    refine ⟨hworld, fun c => (hset c).trans (hcollectors c),
      news ++ [(p.1, first.exporter)], ?_, fun h hh => ?_⟩
    · rw [List.foldl_cons, hnews, List.append_assoc]
      rfl
    · rcases List.mem_append.mp hh with hh | hh
      · obtain ⟨p', hp', ht, hx⟩ := hall h hh
        exact ⟨p', List.mem_cons_of_mem _ hp', ht, hx.trans (hcollectors p'.2)⟩
      · cases List.mem_singleton.mp hh
        exact ⟨p, List.mem_cons_self, rfl, rfl⟩

/-- What a load writes down: what it goes through, and at its end what it leaves. -/
theorem load_eq (w : World σ) (l : Loading γ σ) (o : Operation γ σ) (collector : Nat)
    (device : Option Nat) {c : γ} (hc : o.exporter.collectors[collector]? = some c) :
    let after := (l.load c (device.bind o.device?) o.world).2
    let o' := (o.load w l collector device).2
    o'.world = after.world ∧
      o'.exporter.collectors = o.exporter.collectors.set collector after.kept ∧
      ∃ news, o'.history = (w.clock after.world, o'.exporter) :: news ++ o.history ∧
        ∀ h ∈ news, ∃ p ∈ after.progress,
          h.1 = p.1 ∧ h.2.collectors = o.exporter.collectors.set collector p.2 := by
  intro after
  obtain ⟨hworld, hset, news, hnews, hall⟩ :=
    foldl_progress collector after.progress { o with world := after.world }
  unfold Operation.load
  rw [hc]
  refine ⟨hworld, ?_, news, ?_, hall⟩
  · refine Eq.trans ?_ (hset after.kept)
    dsimp only [Operation.change]
    split
    · rfl
    · rfl
  · show (w.clock _, _) :: _ = _
    rw [hworld, hnews]
    rfl

/-- A load changes its collector and no other. -/
theorem load {l : Loading γ σ} (loads : l.Timed w) (o : Operation γ σ) (collector : Nat)
    (device : Option Nat) {c : γ} (hc : o.exporter.collectors[collector]? = some c)
    (hprogress : ∀ p ∈ (l.load c (device.bind o.device?) o.world).2.progress,
      Q (o.exporter.collectors.set collector p.2))
    (hkept : Q (o.exporter.collectors.set collector
      (l.load c (device.bind o.device?) o.world).2.kept)) :
    Passes w Q o (o.load w l collector device).2 ∧
      (o.load w l collector device).2.exporter.collectors = o.exporter.collectors.set collector
        (l.load c (device.bind o.device?) o.world).2.kept := by
  obtain ⟨hworld, hcollectors, news, hnews, hall⟩ := load_eq w l o collector device hc
  have hclock := loads.clock_le c (device.bind o.device?) o.world
  have htimes := loads.progress c (device.bind o.device?) o.world
  rw [← hworld] at hclock hnews
  refine ⟨⟨hclock, ⟨_ :: news, hnews, ?_⟩, fun _ => ⟨_, _, hnews, Int.le_refl _⟩⟩, hcollectors⟩
  refine List.forall_mem_cons.mpr ⟨⟨hclock, Int.le_refl _, ?_⟩, fun h hh => ?_⟩
  · rw [hcollectors]
    exact hkept
  · obtain ⟨p, hp, ht, hset⟩ := hall h hh
    rw [ht, hset, hworld]
    exact ⟨(htimes p hp).1, (htimes p hp).2, hprogress p hp⟩

end Passes

end Operation

end RouterMetrics

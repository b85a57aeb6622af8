import Mathlib.Data.List.Forall2
import RouterMetrics.Group

/-!
# What a load leaves

A load keeps the stages of its collector and stamps what it stores with the time at which it began,
however long it takes. After a load that has gone well every store is fresh until the window has
passed since that time (`Collector.load_since`, `Store.Since.fresh`).
-/

namespace RouterMetrics

variable {σ : Type}

/-! ## Stores -/

/-- The store of a polling interval has records that were taken at a moment or later. -/
structure Store.Since (interval : Duration) (earliest : Moment) (s : Store) : Prop where
  interval_eq : s.interval = interval
  records : s.snapshot.records ≠ []
  stamp : ∃ t, s.snapshot.stamp = some t ∧ earliest ≤ t

namespace Store.Since

variable {interval : Duration} {earliest t : Moment} {s : Store}

theorem mono (h : s.Since interval earliest) (hle : t ≤ earliest) : s.Since interval t where
  interval_eq := h.interval_eq
  records := h.records
  stamp := by
    obtain ⟨stamp, hstamp, hearliest⟩ := h.stamp
    exact ⟨stamp, hstamp, Int.le_trans hle hearliest⟩

/-- **Records are shown until one and a half intervals after they were taken.** -/
theorem fresh (h : s.Since interval earliest) (hwindow : (interval.scale? 3).isSome = true)
    (ht : t < earliest + (interval.ns * 3 / 2 : Nat)) : s.fresh? t = some true := by
  obtain ⟨stamp, hstamp, hearliest⟩ := h.stamp
  obtain ⟨triple, htriple⟩ := Option.isSome_iff_exists.mp hwindow
  have hns : triple.ns = interval.ns * 3 := by
    unfold Duration.scale? Duration.ofNs? at htriple
    split at htriple
    case isTrue => exact congrArg Duration.ns (Option.some.inj htriple).symm
    case isFalse => cases htriple
  have hempty : s.snapshot.records.isEmpty = false := List.isEmpty_eq_false_iff.mpr h.records
  unfold Store.fresh? window?
  rw [hstamp, h.interval_eq, htriple]
  simp only [hempty, Bool.false_eq_true, if_false, Option.map_some, Option.some.injEq,
    decide_eq_true_eq, Duration.divide, hns]
  unfold Moment at *
  omega

end Store.Since

/-! ## Time in the world -/

/-- A wait ends when it should, and nothing that is asked of the world sets its clock back. -/
structure World.Timed (w : World σ) : Prop where
  sleep : ∀ t s, w.clock (w.sleepUntil t s) = max (w.clock s) t
  handshake : ∀ d s, w.clock s ≤ w.clock (w.handshake d s).2
  call : ∀ d c s, w.clock s ≤ w.clock (w.call d c s).2
  release : ∀ c s, w.clock s ≤ w.clock (w.release c s).2

variable {w : World σ}

theorem Device.call_clock_le (timed : w.Timed) (d : Device) (c : Call) (s : σ) :
    w.clock s ≤ w.clock (d.call w c s).2.2 := by
  unfold Device.call
  split
  · exact timed.call d.wire c s
  · exact Int.le_refl _

theorem Device.connect_clock_le (timed : w.Timed) (d : Device) (s : σ) :
    w.clock s ≤ w.clock (d.connect w s).2.2 := by
  cases hrefuse : d.connection.refuse? d.backoff (w.clock s) with
  | some answer => simp [Device.connect, hrefuse]
  | none => simpa [Device.connect, hrefuse] using timed.handshake d.wire s

theorem Fetch.run_clock_le (timed : w.Timed) (f : Fetch) (d : Option Device) (s : σ) :
    w.clock s ≤ w.clock (f.run w d s).2.2 := by
  induction f generalizing d s with
  | done => exact Int.le_refl _
  | call c next ih =>
    cases d with
    | none => exact Int.le_refl _
    | some d =>
      have hcall := d.call_clock_le timed c s
      rw [Fetch.run]
      split
      case h_1 records d' s' heq =>
        rw [heq] at hcall
        exact Int.le_trans hcall (ih records (some d') s')
      case h_2 e d' s' heq =>
        rw [heq] at hcall
        exact hcall
  | release channel next ih => exact Int.le_trans (timed.release channel s) (ih _ d _)

/-! ## Stages -/

namespace Collector

/-- What a load of stages does at its head. -/
theorem loadStages_cons (w : World σ) (now : Moment) (live : LiveStage) (rest : List LiveStage)
    (d : Option Device) (s : σ) :
    (∃ e d' s', live.stage.source.run w d s = (.error e, d', s') ∧
        loadStages w now (live :: rest) d s = (.error e, ⟨live :: rest, d', s', []⟩)) ∨
      ∃ rows d' s', live.stage.source.run w d s = (.ok rows, d', s') ∧
        let records := live.stage.process d' rows
        let stored : LiveStage := { live with store := live.store.set records now }
        let (result, after) := loadStages w now rest (live.stage.publish d' records) s'
        loadStages w now (live :: rest) d s =
          (result, ⟨stored :: after.kept, after.device, after.world,
            (w.clock s', stored :: rest) :: after.progress.map fun p => (p.1, stored :: p.2)⟩) := by
  rw [loadStages]
  split
  case h_1 e d' s' heq => exact .inl ⟨e, d', s', heq, rfl⟩
  case h_2 rows d' s' heq => exact .inr ⟨rows, d', s', heq, rfl⟩

/-- A load does not set the clock back, and stages are stored while it lasts. -/
theorem loadStages_clock_le (timed : w.Timed) (now : Moment) (stages : List LiveStage)
    (d : Option Device) (s : σ) :
    let after := (loadStages w now stages d s).2
    w.clock s ≤ w.clock after.world ∧
      ∀ p ∈ after.progress, w.clock s ≤ p.1 ∧ p.1 ≤ w.clock after.world := by
  induction stages generalizing d s with
  | nil => exact ⟨Int.le_refl _, by simp [loadStages]⟩
  | cons live rest ih =>
    have hrun := live.stage.source.run_clock_le timed d s
    rcases loadStages_cons w now live rest d s with ⟨e, d', s', heq, h⟩ | ⟨rows, d', s', heq, h⟩
    · rw [heq] at hrun
      rw [h]
      exact ⟨hrun, by simp⟩
    · rw [heq] at hrun
      obtain ⟨hle, hprogress⟩ := ih (live.stage.publish d' (live.stage.process d' rows)) s'
      rw [h]
      refine ⟨Int.le_trans hrun hle, List.forall_mem_cons.mpr ⟨⟨hrun, hle⟩, fun p hp => ?_⟩⟩
      obtain ⟨p, hearlier, rfl⟩ := List.mem_map.mp hp
      exact ⟨Int.le_trans hrun (hprogress p hearlier).1, (hprogress p hearlier).2⟩

/-- What a load makes of a stage that it stores. -/
def StoredAt (now : Moment) (before after : LiveStage) : Prop :=
  ∃ records, after = { before with store := before.store.set records now }

/-- A load that has gone well has stored every stage. -/
theorem loadStages_ok {now : Moment} {stages : List LiveStage} {d : Option Device} {s : σ}
    (hok : (loadStages w now stages d s).1 = .ok ()) :
    List.Forall₂ (StoredAt now) stages (loadStages w now stages d s).2.kept := by
  induction stages generalizing d s with
  | nil => exact .nil
  | cons live rest ih =>
    rcases loadStages_cons w now live rest d s with ⟨e, d', s', -, h⟩ | ⟨rows, d', s', -, h⟩
    · rw [h] at hok
      cases hok
    · rw [h] at hok ⊢
      exact .cons ⟨_, rfl⟩ (ih hok)

/-- While a load lasts the first stages are as it leaves them, and the others as it found them. -/
theorem loadStages_progress (w : World σ) (now : Moment) (stages : List LiveStage)
    (d : Option Device) (s : σ) :
    let after := (loadStages w now stages d s).2
    ∀ p ∈ after.progress, ∃ n, p.2 = after.kept.take n ++ stages.drop n := by
  induction stages generalizing d s with
  | nil => simp [loadStages]
  | cons live rest ih =>
    rcases loadStages_cons w now live rest d s with ⟨e, d', s', -, h⟩ | ⟨rows, d', s', -, h⟩
    · rw [h]
      simp
    · rw [h]
      refine List.forall_mem_cons.mpr ⟨⟨1, rfl⟩, fun p hp => ?_⟩
      obtain ⟨p, hearlier, rfl⟩ := List.mem_map.mp hp
      obtain ⟨n, hn⟩ := ih _ _ p hearlier
      exact ⟨n + 1, congrArg _ hn⟩

/-! ## Collectors -/

/-- A load that goes well: it ends without an error and leaves records in every store. -/
structure LoadsWell (w : World σ) (c : Collector) (d : Option Device) (s : σ) : Prop where
  ok : (c.load w d s).1 = .ok ()
  records : ∀ live ∈ (c.load w d s).2.kept.stages, live.store.snapshot.records ≠ []

/-- A collector of stages whose stores have a property. -/
structure Keeps (stages : List Stage) (P : Store → Prop) (c : Collector) : Prop where
  stages_eq : c.stages.map (·.stage) = stages
  stores : ∀ live ∈ c.stages, P live.store

theorem Keeps.mono {stages : List Stage} {P Q : Store → Prop} {c : Collector}
    (h : c.Keeps stages P) (hPQ : ∀ st, P st → Q st) : c.Keeps stages Q where
  stages_eq := h.stages_eq
  stores := fun live hlive => hPQ live.store (h.stores live hlive)

theorem load_clock_le (timed : w.Timed) (c : Collector) (d : Option Device) (s : σ) :
    let after := (c.load w d s).2
    w.clock s ≤ w.clock after.world ∧
      ∀ p ∈ after.progress, w.clock s ≤ p.1 ∧ p.1 ≤ w.clock after.world := by
  obtain ⟨hle, hprogress⟩ := loadStages_clock_le timed (w.clock s) c.stages d s
  refine ⟨hle, fun p hp => ?_⟩
  obtain ⟨p, hstage, rfl⟩ := List.mem_map.mp hp
  exact hprogress p hstage

theorem StoredAt.stage_eq {now : Moment} {stages kept : List LiveStage}
    (h : List.Forall₂ (StoredAt now) stages kept) :
    kept.map (·.stage) = stages.map (·.stage) := by
  induction h with
  | nil => rfl
  | cons hstored _ ih =>
    obtain ⟨records, rfl⟩ := hstored
    rw [List.map_cons, List.map_cons, ih]

/-- **A load that goes well stamps every store with the time at which it began.** While it lasts a
store is as it was before or already so. -/
theorem load_since {c : Collector} {d : Option Device} {s : σ} {stages : List Stage}
    {interval : Duration} {P : Store → Prop} (hP : ∀ st, P st → st.interval = interval)
    (h : c.Keeps stages P) (well : c.LoadsWell w d s) :
    (c.load w d s).2.kept.Keeps stages (Store.Since interval (w.clock s)) ∧
      ∀ p ∈ (c.load w d s).2.progress,
        p.2.Keeps stages fun st => P st ∨ st.Since interval (w.clock s) := by
  have hstored : List.Forall₂ (StoredAt (w.clock s)) c.stages (c.load w d s).2.kept.stages :=
    loadStages_ok well.ok
  have hstages := StoredAt.stage_eq hstored
  have hsince : ∀ live ∈ (c.load w d s).2.kept.stages,
      live.store.Since interval (w.clock s) := by
    intro live hlive
    obtain ⟨n, hn, rfl⟩ := List.getElem_of_mem hlive
    have hbefore : n < c.stages.length := hstored.length_eq ▸ hn
    obtain ⟨records, heq⟩ := (List.forall₂_iff_get.mp hstored).2 n hbefore hn
    have hnone := well.records _ hlive
    have hinterval := hP _ (h.stores _ (List.getElem_mem hbefore))
    rw [List.get_eq_getElem, List.get_eq_getElem] at heq
    rw [heq] at hnone ⊢
    exact ⟨hinterval, hnone, _, rfl, Int.le_refl _⟩
  refine ⟨⟨hstages.trans h.stages_eq, hsince⟩, fun p hp => ?_⟩
  obtain ⟨p, hstage, rfl⟩ := List.mem_map.mp hp
  obtain ⟨n, hn⟩ := loadStages_progress w (w.clock s) c.stages d s p hstage
  constructor
  · show p.2.map (·.stage) = stages
    have hkept : (loadStages w (w.clock s) c.stages d s).2.kept.map (·.stage) = stages :=
      hstages.trans h.stages_eq
    rw [hn, List.map_append, List.map_take, List.map_drop, hkept, h.stages_eq,
      List.take_append_drop]
  · intro live hlive
    rcases List.mem_append.mp (hn ▸ hlive) with hlive | hlive
    · exact .inr (hsince live (List.mem_of_mem_take hlive))
    · exact .inl (h.stores live (List.mem_of_mem_drop hlive))

end Collector

end RouterMetrics

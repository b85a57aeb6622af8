import Mathlib.Data.List.Induction
import RouterMetrics.Catalog
import RouterMetrics.Proofs.Operation.Loads

/-!
# The snapshots of a collector are a function of its loads

A collector is loaded again and again, each time at any moment, for any device and in a world of any
state. Every load asks for the rows of its stages in their order until one of these fetches fails
(`Collector.fetches`). The store of a stage then holds what was made of the rows that the last load
got for it, stamped with the time of that load, whatever later loads have come to
(`Collector.snapshot_history`), and shows them until the window has passed.
-/

namespace RouterMetrics

variable {σ : Type}

/-! ## Showing -/

namespace Store

variable {s : Store}

theorem window?_eq (fits : (s.interval.scale? 3).isSome = true) :
    ∃ window, s.window? = some window ∧ window.ns = s.interval.ns * 3 / 2 := by
  obtain ⟨triple, htriple⟩ := Option.isSome_iff_exists.mp fits
  refine ⟨triple.divide 2, by rw [window?, htriple]; rfl, ?_⟩
  have hns : triple.ns = s.interval.ns * 3 := by
    unfold Duration.scale? Duration.ofNs? at htriple
    split at htriple
    case isTrue => exact congrArg Duration.ns (Option.some.inj htriple).symm
    case isFalse => cases htriple
  rw [← hns]
  rfl

/-- A store has something to show at a moment: it has records, and they are younger than the
window. -/
def ShowsAt (s : Store) (t : Moment) : Prop :=
  s.snapshot.records ≠ [] ∧
    ∃ stamp, s.snapshot.stamp = some stamp ∧ t - stamp < (s.interval.ns * 3 / 2 : Nat)

theorem fresh?_iff (fits : (s.interval.scale? 3).isSome = true) (t : Moment) :
    ∃ fresh, s.fresh? t = some fresh ∧ (fresh = true ↔ s.ShowsAt t) := by
  obtain ⟨window, hwindow, hns⟩ := window?_eq fits
  cases hstamp : s.snapshot.stamp with
  | none => exact ⟨false, by simp [fresh?, hstamp], by simp [ShowsAt, hstamp]⟩
  | some stamp =>
    cases hempty : s.snapshot.records.isEmpty with
    | true =>
      rw [List.isEmpty_iff] at hempty
      exact ⟨false, by simp [fresh?, hstamp, hempty], by simp [ShowsAt, hempty]⟩
    | false =>
      have hsome : s.snapshot.records ≠ [] := List.isEmpty_eq_false_iff.mp hempty
      refine ⟨decide (t - stamp < (window.ns : Int)), ?_, ?_⟩
      · simp [fresh?, hstamp, hempty, hwindow]
      · simp [ShowsAt, hstamp, hsome, hns]

/-- **Series are read from a store only while it has something to show.** -/
theorem collect?_of_fits (fits : (s.interval.scale? 3).isSome = true) (t : Moment) :
    ∃ series, s.collect? t = some series ∧ (series ≠ [] → s.ShowsAt t) := by
  obtain ⟨fresh, hfresh, hiff⟩ := fresh?_iff fits t
  refine ⟨if fresh then s.shown else [], by rw [collect?, hfresh]; rfl, fun hsome => ?_⟩
  cases fresh with
  | true => exact hiff.mp rfl
  | false => exact absurd rfl hsome

end Store

/-! ## Loads -/

/-- A load of a collector: the time that its records are stamped with, the device, and the world
that it finds. -/
structure Load (σ : Type) where
  now : Moment
  device : Option Device
  found : σ

namespace Collector

/-- The fetches of a load in the order of the stages, up to the first that fails: the rows that were
got, and the device as it was then. What is done with the rows of a stage can change the device. -/
def fetches (w : World σ) : List Stage → Option Device → σ →
    List (Except LoadError (Option Device × List Record))
  | [], _, _ => []
  | st :: rest, d, s =>
    match st.source.run w d s with
    | (.error e, _, _) => [.error e]
    | (.ok rows, d, s) => .ok (d, rows) :: fetches w rest (st.publish d (st.process d rows)) s

/-- The collector after a load. -/
def loadAt (w : World σ) (c : Collector) (l : Load σ) : Collector :=
  { c with stages := (loadStages w l.now c.stages l.device l.found).2.kept }

/-- The collector after loads one after another. -/
def after (w : World σ) (c : Collector) (loads : List (Load σ)) : Collector :=
  loads.foldl (loadAt w) c

end Collector

namespace Load

/-- The fetches of a load of stages. -/
def fetches (w : World σ) (stages : List Stage) (l : Load σ) :
    List (Except LoadError (Option Device × List Record)) :=
  Collector.fetches w stages l.device l.found

/-- The fetches of a stage and of all before it have succeeded. -/
def Reaches (w : World σ) (stages : List Stage) (l : Load σ) (i : Nat) : Prop :=
  ∀ j ≤ i, ∃ got, (l.fetches w stages)[j]? = some (.ok got)

end Load

namespace Collector

variable {w : World σ} {now : Moment}

theorem fetches_of_error {st : Stage} {d d' : Option Device} {s s' : σ} {e : LoadError}
    (h : st.source.run w d s = (.error e, d', s')) (rest : List Stage) :
    fetches w (st :: rest) d s = [.error e] := by
  rw [fetches, h]

theorem fetches_of_ok {st : Stage} {d d' : Option Device} {s s' : σ} {rows : List Record}
    (h : st.source.run w d s = (.ok rows, d', s')) (rest : List Stage) :
    fetches w (st :: rest) d s =
      .ok (d', rows) :: fetches w rest (st.publish d' (st.process d' rows)) s' := by
  rw [fetches, h]

/-- A fetch is only made when all before it have succeeded. -/
theorem fetches_ok_before {stages : List Stage} {d : Option Device} {s : σ} {i : Nat}
    {got : Option Device × List Record} (h : (fetches w stages d s)[i]? = some (.ok got)) :
    ∀ j ≤ i, ∃ got, (fetches w stages d s)[j]? = some (.ok got) := by
  induction stages generalizing d s i with
  | nil => simp [fetches] at h
  | cons st rest ih =>
    rcases hrun : st.source.run w d s with ⟨result, d', s'⟩
    cases result with
    | error e =>
      rw [fetches_of_error hrun] at h
      cases i with
      | zero => simp at h
      | succ i => simp at h
    | ok rows =>
      rw [fetches_of_ok hrun] at h ⊢
      intro j hj
      cases j with
      | zero => exact ⟨(d', rows), rfl⟩
      | succ j =>
        cases i with
        | zero => omega
        | succ i => exact ih h j (Nat.le_of_succ_le_succ hj)

theorem reaches_iff {stages : List Stage} {l : Load σ} {i : Nat} : l.Reaches w stages i ↔
    (l.fetches w stages)[i]?.any (·.isOk) = true := by
  constructor
  · intro h
    obtain ⟨got, hgot⟩ := h i (Nat.le_refl i)
    rw [hgot]
    rfl
  · intro h
    cases hresult : (l.fetches w stages)[i]? with
    | none => simp [hresult] at h
    | some result =>
      cases result with
      | error e =>
        rw [hresult] at h
        cases h
      | ok got => exact fetches_ok_before hresult

instance (stages : List Stage) (l : Load σ) (i : Nat) : Decidable (l.Reaches w stages i) :=
  decidable_of_iff _ reaches_iff.symm

/-- What a load makes of the stage that it has fetched something for. -/
def store (now : Moment) (live : LiveStage) :
    Option (Except LoadError (Option Device × List Record)) → LiveStage
  | some (.ok (d, rows)) =>
    { live with store := live.store.set (live.stage.process d rows) now }
  | _ => live

theorem store_stage (now : Moment) (live : LiveStage)
    (got : Option (Except LoadError (Option Device × List Record))) :
    (store now live got).stage = live.stage := by
  unfold store
  split
  · rfl
  · rfl

/-- **A load stores the stages whose rows it has got, and leaves the others as they were.** -/
theorem loadStages_kept (w : World σ) (now : Moment) (stages : List LiveStage) (d : Option Device)
    (s : σ) (i : Nat) : (loadStages w now stages d s).2.kept[i]? =
      stages[i]?.map fun live =>
        store now live (fetches w (stages.map (·.stage)) d s)[i]? := by
  induction stages generalizing d s i with
  | nil => simp [loadStages]
  | cons live rest ih =>
    rcases loadStages_cons w now live rest d s with ⟨e, d', s', heq, h⟩ | ⟨rows, d', s', heq, h⟩
    · rw [h, List.map_cons, fetches_of_error heq]
      cases i with
      | zero => rfl
      | succ i => simp [store]
    · rw [h, List.map_cons, fetches_of_ok heq]
      cases i with
      | zero => rfl
      | succ i => exact ih _ s' i

theorem loadStages_of_ok {live : LiveStage} {d d' : Option Device} {s s' : σ} {rows : List Record}
    (h : live.stage.source.run w d s = (.ok rows, d', s')) (rest : List LiveStage) :
    let records := live.stage.process d' rows
    let stored : LiveStage := { live with store := live.store.set records now }
    let after := loadStages w now rest (live.stage.publish d' records) s'
    loadStages w now (live :: rest) d s =
      (after.1, ⟨stored :: after.2.kept, after.2.device, after.2.world,
        (w.clock s', stored :: rest) :: after.2.progress.map fun p => (p.1, stored :: p.2)⟩) := by
  rw [loadStages, h]
  rfl

theorem loadStages_stages (w : World σ) (now : Moment) (stages : List LiveStage)
    (d : Option Device) (s : σ) :
    (loadStages w now stages d s).2.kept.map (·.stage) = stages.map (·.stage) := by
  refine List.ext_getElem? fun i => ?_
  rw [List.getElem?_map, List.getElem?_map, loadStages_kept, Option.map_map]
  congr 1
  funext live
  exact store_stage now live _

/-- **A load goes well, or it ends with the first fetch that fails.** Nothing is asked of the world
after that, and from that stage on all stages are as they were. -/
theorem loadStages_result (w : World σ) (now : Moment) (stages : List LiveStage)
    (d : Option Device) (s : σ) :
    (∃ after, loadStages w now stages d s = (.ok (), after) ∧
        ∀ i < stages.length, ∃ got, (fetches w (stages.map (·.stage)) d s)[i]? = some (.ok got)) ∨
      ∃ before live rest kept m t e m' t', stages = before ++ live :: rest ∧
        (fetches w (stages.map (·.stage)) d s).length = before.length + 1 ∧
        (fetches w (stages.map (·.stage)) d s)[before.length]? = some (.error e) ∧
        (∃ progress, loadStages w now before d s = (.ok (), ⟨kept, m, t, progress⟩)) ∧
        live.stage.source.run w m t = (.error e, m', t') ∧
        ∃ progress, loadStages w now stages d s =
          (.error e, ⟨kept ++ live :: rest, m', t', progress⟩) := by
  induction stages generalizing d s with
  | nil => exact .inl ⟨_, rfl, by simp⟩
  | cons live rest ih =>
    rcases loadStages_cons w now live rest d s with ⟨e, d', s', heq, h⟩ | ⟨rows, d', s', heq, h⟩
    · refine .inr ⟨[], live, rest, [], d, s, e, d', s', rfl, ?_, ?_, ⟨[], rfl⟩, heq, [], h⟩
      · rw [List.map_cons, fetches_of_error heq]
        rfl
      · rw [List.map_cons, fetches_of_error heq]
        rfl
    · -- the first stage went well, and the rest ends as the induction says, one place further on
      let records := live.stage.process d' rows
      rcases ih (live.stage.publish d' records) s' with ⟨after, hafter, hall⟩ |
        ⟨before, first, later, kept, m, t, e, m', t', hsplit, hlength, hlast, ⟨ps, hbefore⟩, hrun,
          ps', hload⟩
      · refine .inl ⟨_, by rw [h, hafter], fun i hi => ?_⟩
        rw [List.map_cons, fetches_of_ok heq]
        cases i with
        | zero => exact ⟨(d', rows), rfl⟩
        | succ i => exact hall i (Nat.lt_of_succ_lt_succ hi)
      · refine .inr ⟨live :: before, first, later,
          { live with store := live.store.set records now } :: kept, m, t, e, m', t',
          by rw [hsplit]; rfl, ?_, ?_, ?_, hrun, ?_⟩
        · rw [List.map_cons, fetches_of_ok heq, List.length_cons, List.length_cons, hlength]
        · rw [List.map_cons, fetches_of_ok heq]
          exact hlast
        · rw [loadStages_of_ok heq, hbefore]
          exact ⟨_, rfl⟩
        · rw [h, hload]
          exact ⟨_, rfl⟩

/-! ## Histories -/

/-- **What the history of loads says of the store of a stage**: it holds what was made of the rows
that the last load which got as far has got, and nothing before there was such a load. -/
def Holds (w : World σ) (stages : List Stage) (loads : List (Load σ)) (i : Nat) (st : Stage)
    (held : Store) : Prop :=
  (∃ before l later d rows, loads = before ++ l :: later ∧ l.Reaches w stages i ∧
      (l.fetches w stages)[i]? = some (.ok (d, rows)) ∧
      (∀ l' ∈ later, ¬ l'.Reaches w stages i) ∧
      held.snapshot =
        ⟨(st.batchRule (rows.filterMap fun r => (st.rowRule d r).toOption.join)).filterMap
          held.normalize, some l.now⟩) ∨
    ((∀ l ∈ loads, ¬ l.Reaches w stages i) ∧ held.snapshot = ⟨[], none⟩)

/-- **What a load of stages comes to**: it goes well and has reached them all, or it tells the first
fetch that fails. Then nothing is asked of the world any more, and from that stage on all stages
are as they were. -/
def Ends (w : World σ) (stages : List LiveStage) (l : Load σ) : Prop :=
  let fetched := l.fetches w (stages.map (·.stage))
  ((loadStages w l.now stages l.device l.found).1 = .ok () ∧
      ∀ i < stages.length, l.Reaches w (stages.map (·.stage)) i) ∨
    ∃ before live rest kept m t e m' t', stages = before ++ live :: rest ∧
      fetched.length = before.length + 1 ∧ fetched[before.length]? = some (.error e) ∧
      (∃ progress, loadStages w l.now before l.device l.found = (.ok (), ⟨kept, m, t, progress⟩)) ∧
      live.stage.source.run w m t = (.error e, m', t') ∧
      ∃ progress, loadStages w l.now stages l.device l.found =
        (.error e, ⟨kept ++ live :: rest, m', t', progress⟩)

theorem ends (w : World σ) (stages : List LiveStage) (l : Load σ) : Ends w stages l := by
  refine (loadStages_result w l.now stages l.device l.found).imp ?_ id
  rintro ⟨after, hafter, hgot⟩
  refine ⟨by rw [hafter], fun i hi => ?_⟩
  obtain ⟨got, hgot⟩ := hgot i hi
  exact fetches_ok_before hgot

/-- A store with its settings and any snapshot. -/
def Made (identity : List (String × String)) (interval : Duration) (live : LiveStage) : Prop :=
  live.store = { Store.create identity live.stage.labels live.stage.translations live.stage.series
    interval with snapshot := live.store.snapshot }

/-- A stage that a load does not reach keeps its store. -/
theorem store_of_not_reaches {stages : List Stage} {l : Load σ} {i : Nat}
    (h : ¬ l.Reaches w stages i) (live : LiveStage) :
    store l.now live (l.fetches w stages)[i]? = live := by
  unfold store
  split
  case h_1 d rows heq => exact absurd (fetches_ok_before heq) h
  case h_2 => rfl

/-- The settings of a store are those of its stage and its collector. -/
theorem Made.settings {identity : List (String × String)} {interval : Duration} {live : LiveStage}
    (h : Made identity interval live) :
    live.store.identity = identity ∧ live.store.defaultLabels = live.stage.labels ∧
      live.store.translations = live.stage.translations ∧
      live.store.series = live.stage.series ∧ live.store.interval = interval := by
  rw [h]
  exact ⟨rfl, rfl, rfl, rfl, rfl⟩

/-- New records take the place of any snapshot. -/
theorem Made.set {identity : List (String × String)} {interval : Duration} {live : LiveStage}
    (h : Made identity interval live) (raw : List Record) (now : Moment) :
    live.store.set raw now = (Store.create identity live.stage.labels live.stage.translations
      live.stage.series interval).set raw now := by
  rw [h]
  rfl

theorem Made.store {identity : List (String × String)} {interval : Duration} {live : LiveStage}
    (h : Made identity interval live)
    (got : Option (Except LoadError (Option Device × List Record))) :
    Made identity interval (store now live got) := by
  unfold Collector.store
  split
  · unfold Made at h ⊢
    rw [h]
    rfl
  · exact h

/-- **One more load changes what a store holds as the history does.** -/
theorem Holds.load {stages : List Stage} {loads : List (Load σ)} {i : Nat} {live : LiveStage}
    (h : Holds w stages loads i live.stage live.store) (l : Load σ) :
    Holds w stages (loads ++ [l]) i live.stage
      (store l.now live (l.fetches w stages)[i]?).store := by
  by_cases hreaches : l.Reaches w stages i
  · obtain ⟨⟨d, rows⟩, hgot⟩ := hreaches i (Nat.le_refl i)
    rw [hgot]
    exact .inl ⟨loads, l, [], d, rows, rfl, hreaches, hgot, by simp, rfl⟩
  · -- the store is kept, and the last load that reached its stage is still the last one
    rw [store_of_not_reaches hreaches]
    rcases h with ⟨before, l', later, d, rows, rfl, hlast, hgot, hnone, hsnapshot⟩ | ⟨hnone, hempty⟩
    · refine .inl ⟨before, l', later ++ [l], d, rows, by simp, hlast, hgot, ?_, hsnapshot⟩
      exact List.forall_mem_append.mpr ⟨hnone, List.forall_mem_singleton.mpr hreaches⟩
    · refine .inr ⟨?_, hempty⟩
      exact List.forall_mem_append.mpr ⟨hnone, List.forall_mem_singleton.mpr hreaches⟩

/-- After any loads the stages are those of the group, and every store is what the history says. -/
theorem after_holds (w : World σ) (g : Group) (identity : List (String × String))
    (interval : Duration) (loads : List (Load σ)) :
    let c := (g.collector identity interval).after w loads
    c.stages.map (·.stage) = g.stages ∧
      ∀ (i : Nat) (live : LiveStage), c.stages[i]? = some live →
        Made identity interval live ∧ Holds w g.stages loads i live.stage live.store := by
  induction loads using List.reverseRecOn with
  | nil =>
    refine ⟨?_, fun i live hlive => ?_⟩
    · simp [after, Group.collector, Function.comp_def]
    · simp only [after, List.foldl_nil, Group.collector, List.getElem?_map,
        Option.map_eq_some_iff] at hlive
      obtain ⟨st, -, rfl⟩ := hlive
      exact ⟨rfl, .inr ⟨by simp, rfl⟩⟩
  | append_singleton loads l ih =>
    obtain ⟨hstages, hall⟩ := ih
    have hafter : (g.collector identity interval).after w (loads ++ [l]) =
        ((g.collector identity interval).after w loads).loadAt w l := by
      rw [after, List.foldl_append]
      rfl
    rw [hafter]
    refine ⟨(loadStages_stages ..).trans hstages, fun i live hlive => ?_⟩
    simp only [loadAt, loadStages_kept, hstages, Option.map_eq_some_iff] at hlive
    obtain ⟨live, hbefore, rfl⟩ := hlive
    obtain ⟨hmade, hholds⟩ := hall i live hbefore
    refine ⟨hmade.store _, ?_⟩
    rw [store_stage]
    exact hholds.load l

/-- The store of a stage with records that were taken at a moment. -/
def filled (st : Stage) (identity : List (String × String)) (interval : Duration)
    (raws : List Record) (now : Moment) : Store :=
  (Store.create identity st.labels st.translations st.series interval).set raws now

/-- **A load that gets the rows of the one stage of a group makes the store of these rows**,
whatever was loaded before. -/
theorem after_single {g : Group} {st : Stage} (single : g.stages = [st]) {l : Load σ}
    {d : Option Device} {rows : List Record} (got : l.fetches w g.stages = [.ok (d, rows)])
    (identity : List (String × String)) (interval : Duration) (loads : List (Load σ)) :
    ((g.collector identity interval).after w (loads ++ [l])).stages =
      [⟨st, filled st identity interval (st.process d rows) l.now⟩] := by
  obtain ⟨hstages, hall⟩ := after_holds w g identity interval loads
  rw [single] at hstages
  obtain ⟨live, hlive, rfl⟩ := List.map_eq_singleton_iff.mp hstages
  obtain ⟨hmade, -⟩ := hall 0 live (by rw [hlive]; rfl)
  have hkept : ((g.collector identity interval).after w (loads ++ [l])).stages =
      (loadStages w l.now [live] l.device l.found).2.kept := by
    rw [after, List.foldl_append, ← hlive]
    rfl
  rw [single] at got
  refine hkept.trans (List.ext_getElem? fun i => ?_)
  have hfetched : fetches w [live.stage] l.device l.found = [.ok (d, rows)] := got
  rw [loadStages_kept, List.map_singleton, hfetched]
  cases i with
  | zero =>
    show some (⟨live.stage, live.store.set (live.stage.process d rows) l.now⟩ : LiveStage) = some _
    rw [hmade.set, filled]
  | succ i => rfl

/-- A store shows nothing once the window has passed since the last load that reached its stage. -/
theorem Holds.not_showsAt {stages : List Stage} {loads : List (Load σ)} {i : Nat} {st : Stage}
    {held : Store} {t : Moment} (h : Holds w stages loads i st held)
    (hpast : ∀ l ∈ loads, l.Reaches w stages i →
      l.now + (held.interval.ns * 3 / 2 : Nat) ≤ t) : ¬ held.ShowsAt t := by
  rintro ⟨hsome, stamp, hstamp, hyoung⟩
  rcases h with ⟨before, l, later, d, rows, rfl, hreaches, -, -, hsnapshot⟩ | ⟨-, hempty⟩
  · have hover := hpast l (List.mem_append_right _ List.mem_cons_self) hreaches
    rw [hsnapshot] at hstamp
    cases hstamp
    unfold Moment at *
    omega
  · rw [hempty] at hsome
    exact hsome rfl

/-- The series of a collector are those of its stages in their order. -/
theorem collect?_of_forall {c : Collector} {t : Moment}
    (h : ∀ live ∈ c.stages, ∃ series, live.store.collect? t = some series) :
    c.collect? t = some (c.stages.flatMap fun live => (live.store.collect? t).getD []) := by
  have hmap : c.stages.mapM (fun live => live.store.collect? t) =
      some (c.stages.map fun live => (live.store.collect? t).getD []) := by
    generalize c.stages = stages at h
    induction stages with
    | nil => rfl
    | cons live rest ih =>
      obtain ⟨⟨series, hseries⟩, hrest⟩ := List.forall_mem_cons.mp h
      rw [List.mapM_cons, hseries, ih hrest, List.map_cons, hseries]
      rfl
  rw [collect?, hmap, Option.map_some, List.flatMap]

/-- **The snapshots of a collector are a function of its loads**, of any group with any stages,
whatever the fetches of each load have come to. A load tells the first fetch that fails and ends
with it. At any moment a stage shows nothing unless it has records that are younger than one and a
half intervals, so nothing once that time has passed since the last load that reached it. -/
theorem snapshot_history (w : World σ) (g : Group) (identity : List (String × String))
    (interval : Duration) (loads : List (Load σ)) :
    let c := (g.collector identity interval).after w loads
    c.stages.map (·.stage) = g.stages ∧
      (∀ (i : Nat) (live : LiveStage), c.stages[i]? = some live →
        Made identity interval live ∧ Holds w g.stages loads i live.stage live.store) ∧
      (∀ l : Load σ, Ends w c.stages l) ∧
      ((interval.scale? 3).isSome = true → ∀ t : Moment,
        c.collect? t = some (c.stages.flatMap fun live => (live.store.collect? t).getD []) ∧
          ∀ (i : Nat) (live : LiveStage), c.stages[i]? = some live →
            ∃ series, live.store.collect? t = some series ∧
              (series ≠ [] → live.store.snapshot.records ≠ [] ∧
                ∃ stamp, live.store.snapshot.stamp = some stamp ∧
                  t - stamp < (interval.ns * 3 / 2 : Nat)) ∧
              ((∀ l ∈ loads, l.Reaches w g.stages i →
                l.now + (interval.ns * 3 / 2 : Nat) ≤ t) → series = [])) := by
  intro c
  obtain ⟨hstages, hall⟩ := after_holds w g identity interval loads
  have hinterval : ∀ live ∈ c.stages, live.store.interval = interval := by
    intro live hlive
    obtain ⟨i, hi⟩ := List.mem_iff_getElem?.mp hlive
    exact (hall i live hi).1.settings.2.2.2.2
  refine ⟨hstages, hall, ends w c.stages, fun fits t => ⟨?_, fun i live hlive => ?_⟩⟩
  · refine collect?_of_forall fun live hlive => ?_
    have fits' : (live.store.interval.scale? 3).isSome = true := by rwa [hinterval live hlive]
    obtain ⟨series, hseries, -⟩ := live.store.collect?_of_fits fits' t
    exact ⟨series, hseries⟩
  · have hlive' := hinterval live (List.mem_of_getElem? hlive)
    obtain ⟨series, hseries, hshows⟩ := live.store.collect?_of_fits (by rwa [hlive']) t
    refine ⟨series, hseries, fun hsome => ?_, fun hpast => ?_⟩
    · have hshown := hshows hsome
      rw [Store.ShowsAt, hlive'] at hshown
      exact hshown
    · by_contra hsome
      refine (hall i live hlive).2.not_showsAt (t := t) ?_ (hshows hsome)
      rw [hlive']
      exact hpast

/-! ## A device that answers and then does not -/

/-- A world in which no time passes and the requests are answered from a list. -/
def dictated : World (List (Except TransportError (List Record))) where
  clock := fun _ => 0
  sleepUntil := fun _ s => s
  handshake := fun _ s => (.ok (), s)
  call := fun _ _ s => (s.headD (.error .timeout), s.tail)
  release := fun _ s => (none, s)

/-- A device that is connected. -/
def gateway : Device :=
  { Device.create 0 ⟨"gateway", "10.0.0.1"⟩ (.of (.ofSeconds 3) 10 (.ofSeconds 60)) with
    connection := .up }

/-- A load of a device that is connected, after some seconds and with some answers. -/
def answered (seconds : Nat) (answers : List (Except TransportError (List Record))) :
    Load (List (Except TransportError (List Record))) :=
  ⟨Moment.after 0 (.ofSeconds seconds), some gateway, answers⟩

/-- A rule of a firewall, and one that is switched off. -/
def rules : List Record :=
  [Dict.ofList [("chain", .text "input"), ("bytes", .text "10")],
   Dict.ofList [("chain", .text "forward"), ("disabled", .text "true")]]

/-- All three tables of a firewall are read after ten seconds; after twenty the second is not, and
after thirty the first is not either. After twenty-six the first table is still shown by what was
read six seconds ago, and the others no more. -/
theorem snapshot_history_firewall :
    let loads := [answered 10 [.ok rules, .ok rules, .ok rules],
      answered 20 [.ok rules, .error .timeout], answered 30 [.error (.status 503)]]
    let c :=
      (Catalog.firewall.collector gateway.identity.labels (.ofSeconds 10)).after dictated loads
    let t := Moment.after 0 (.ofSeconds 26)
    loads.map (fun l => (l.fetches dictated Catalog.firewall.stages).map (·.isOk)) =
        [[true, true, true], [true, false], [false]] ∧
      c.stages.map (fun live => (live.store.snapshot.records.length, live.store.snapshot.stamp)) =
        [(1, some (Moment.after 0 (.ofSeconds 20))), (1, some (Moment.after 0 (.ofSeconds 10))),
          (1, some (Moment.after 0 (.ofSeconds 10)))] ∧
      ∀ i live, c.stages[i]? = some live → 0 < i → live.store.collect? t = some [] := by
  intro loads c t
  refine ⟨by decide, by decide, fun i live hlive hi => ?_⟩
  obtain ⟨-, -, -, hshown⟩ := snapshot_history dictated Catalog.firewall gateway.identity.labels
    (.ofSeconds 10) loads
  obtain ⟨series, hseries, -, hpast⟩ := (hshown (by decide) t).2 i live hlive
  have hthird : i < 3 := by
    obtain ⟨hlt, -⟩ := List.getElem?_eq_some_iff.mp hlive
    exact hlt
  have hreached : ∀ i < 3, 0 < i → ∀ l ∈ loads, l.Reaches dictated Catalog.firewall.stages i →
      l.now + ((Duration.ofSeconds 10).ns * 3 / 2 : Nat) ≤ t := by decide
  rw [hseries, hpast (hreached i hthird hi)]

end Collector

end RouterMetrics

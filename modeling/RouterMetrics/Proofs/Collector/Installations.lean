import RouterMetrics.Catalog
import RouterMetrics.Proofs.Collector.Snapshots
import RouterMetrics.Proofs.Device.History

/-!
# Installations

A device is used, and its collectors are loaded from it, in any order and each time in a world of
any state. Every collector then is what its own loads have made of it
(`Installation.after_collector`), and a load that publishes no leases changes nothing of the device
but its connection (`Collector.loadStages_connection`).
-/

namespace RouterMetrics

variable {σ : Type}

/-! ## What a load changes of its device -/

/-- A use of a device changes at most its connection. -/
theorem Device.use_connection (w : World σ) (d : Device) (u : Use) (s : σ) :
    ∃ c, (d.use w u s).1 = { d with connection := c } := by
  rcases d.use_cases w u s with ⟨-, huse⟩ | ⟨_, c, -, -, huse⟩
  · exact ⟨d.connection, by rw [huse]⟩
  · exact ⟨c, huse⟩

/-- So does a fetch. -/
theorem Fetch.run_connection (w : World σ) (f : Fetch) (d : Device) (s : σ) :
    ∃ c, (f.run w (some d) s).2.1 = some { d with connection := c } := by
  induction f generalizing d s with
  | done => exact ⟨d.connection, rfl⟩
  | release channel next ih => exact ih _ d _
  | call question next ih =>
    obtain ⟨c, huse⟩ := d.use_connection w (.call question) s
    have hcall : (d.call w question s).2.1 = { d with connection := c } := huse
    rw [run]
    split
    case h_1 rows d' s' heq =>
      rw [heq] at hcall
      obtain ⟨c', hrest⟩ := ih rows d' s'
      exact ⟨c', by rw [hrest, show d' = { d with connection := c } from hcall]⟩
    case h_2 e d' s' heq =>
      rw [heq] at hcall
      exact ⟨c, congrArg some hcall⟩

namespace Collector

/-- Stages that publish no leases change at most the connection of their device. -/
theorem loadStages_connection (w : World σ) (now : Moment) {stages : List LiveStage}
    (quiet : ∀ live ∈ stages, live.stage.publishesLeases = false) (d : Device) (s : σ) :
    ∃ c, (loadStages w now stages (some d) s).2.device = some { d with connection := c } := by
  induction stages generalizing d s with
  | nil => exact ⟨d.connection, rfl⟩
  | cons live rest ih =>
    obtain ⟨hlive, hrest⟩ := List.forall_mem_cons.mp quiet
    obtain ⟨c, hrun⟩ := live.stage.source.run_connection w d s
    rcases loadStages_cons w now live rest (some d) s with
      ⟨e, d', s', heq, h⟩ | ⟨rows, d', s', heq, h⟩
    · rw [heq] at hrun
      exact ⟨c, by rw [h]; exact hrun⟩
    · rw [heq] at hrun
      have hpublish : live.stage.publish d' (live.stage.process d' rows) =
          some { d with connection := c } := by
        rw [Stage.publish, hlive, if_neg Bool.false_ne_true]
        exact hrun
      obtain ⟨c', hlater⟩ := ih hrest { d with connection := c } s'
      simp only [hpublish] at h
      exact ⟨c', by rw [h]; exact hlater⟩

theorem after_stages (w : World σ) (c : Collector) (loads : List (Load σ)) :
    (c.after w loads).stages.map (·.stage) = c.stages.map (·.stage) := by
  induction loads generalizing c with
  | nil => rfl
  | cons l rest ih => exact (ih _).trans (loadStages_stages ..)

end Collector

/-! ## Installations -/

/-- A device and the collectors that are loaded from it. -/
structure Installation where
  device : Device
  collectors : List Collector

namespace Installation

/-- What is done at an installation, each time in a world of any state: the device is used, or the
collector at a place is loaded at a moment. -/
inductive Visit (σ : Type)
  | use (u : Use) (found : σ)
  | load (place : Nat) (now : Moment) (found : σ)

/-- The installation of a device that has not been reached yet, with collectors of some groups and
their intervals. -/
def start (wire : Nat) (identity : Identity) (backoff : Backoff)
    (groups : List (Group × Duration)) : Installation :=
  ⟨.create wire identity backoff, groups.map fun p => p.1.collector identity.labels p.2⟩

theorem start_collector (wire : Nat) (identity : Identity) (backoff : Backoff)
    (groups : List (Group × Duration)) (place : Nat) :
    (start wire identity backoff groups).collectors[place]? =
      groups[place]?.map fun p => p.1.collector identity.labels p.2 :=
  List.getElem?_map

/-- A load from the device as it is. -/
def loadAt (x : Installation) (now : Moment) (found : σ) : Load σ := ⟨now, some x.device, found⟩

/-- The installation after a visit. -/
def visit (w : World σ) (x : Installation) : Visit σ → Installation
  | .use u found => { x with device := (x.device.use w u found).1 }
  | .load place now found =>
    match x.collectors[place]? with
    | none => x
    | some c =>
      ⟨(Collector.loadStages w now c.stages (some x.device) found).2.device.getD x.device,
        x.collectors.set place (c.loadAt w (x.loadAt now found))⟩

/-- The installation after visits one after another. -/
def after (w : World σ) (x : Installation) (visits : List (Visit σ)) : Installation :=
  visits.foldl (visit w) x

/-- What visits yield one after the other, each from the installation that it finds. -/
def yields {α : Type} (w : World σ) (f : Installation → Visit σ → Option α) :
    Installation → List (Visit σ) → List α
  | _, [] => []
  | x, v :: rest => (f x v).toList ++ yields w f (x.visit w v) rest

/-- The load of the collector at a place, if a visit is one. -/
def loadFor (place : Nat) (x : Installation) : Visit σ → Option (Load σ)
  | .use _ _ => none
  | .load place' now found => if place' = place then some (x.loadAt now found) else none

variable {w : World σ} {x : Installation}

theorem of_loadFor {place : Nat} {v : Visit σ} {l : Load σ} (h : loadFor place x v = some l) :
    ∃ now found, v = .load place now found ∧ l = x.loadAt now found := by
  cases v with
  | use => cases h
  | load place' now found =>
    simp only [loadFor] at h
    split at h
    case isTrue hplace =>
      cases h
      exact ⟨now, found, by rw [hplace], rfl⟩
    case isFalse => cases h

/-- What is yielded is yielded by one of the visits. -/
theorem yields_split {α : Type} {f : Installation → Visit σ → Option α} {visits : List (Visit σ)}
    {before later : List α} {a : α} (h : yields w f x visits = before ++ a :: later) :
    ∃ earlier v rest, visits = earlier ++ v :: rest ∧ f (x.after w earlier) v = some a ∧
      yields w f ((x.after w earlier).visit w v) rest = later := by
  induction visits generalizing x before with
  | nil => simp [yields] at h
  | cons v visits ih =>
    rw [yields] at h
    have hstep : (∃ before', yields w f (x.visit w v) visits = before' ++ a :: later) →
        ∃ earlier v' rest, v :: visits = earlier ++ v' :: rest ∧
          f (x.after w earlier) v' = some a ∧
          yields w f ((x.after w earlier).visit w v') rest = later := by
      rintro ⟨before', hrest⟩
      obtain ⟨earlier, v', rest, rfl, hv, hlater⟩ := ih hrest
      exact ⟨v :: earlier, v', rest, rfl, hv, hlater⟩
    cases hv : f x v with
    | none =>
      rw [hv] at h
      exact hstep ⟨before, h⟩
    | some b =>
      rw [hv] at h
      cases before with
      | nil =>
        obtain ⟨rfl, rfl⟩ := List.cons.inj h
        exact ⟨[], v, visits, rfl, hv, rfl⟩
      | cons b' before => exact hstep ⟨before, (List.cons.inj h).2⟩

theorem visit_collector (w : World σ) (x : Installation) (v : Visit σ) (place : Nat) :
    (x.visit w v).collectors[place]? =
      x.collectors[place]?.map fun c => c.after w (loadFor place x v).toList := by
  cases v with
  | use => simp [visit, loadFor, Collector.after]
  | load place' now found =>
    by_cases hplace : place' = place
    · subst hplace
      cases hc : x.collectors[place']? with
      | none => simp [visit, hc]
      | some c =>
        obtain ⟨hlt, rfl⟩ := List.getElem?_eq_some_iff.mp hc
        simp [visit, loadFor, Collector.after, hlt]
    · cases hc : x.collectors[place']? with
      | none => simp [visit, hc, loadFor, hplace, Collector.after]
      | some c => simp [visit, hc, loadFor, hplace, Collector.after, List.getElem?_set_ne hplace]

/-- **Every collector has had its own loads.** -/
theorem after_collector (w : World σ) (x : Installation) (visits : List (Visit σ)) (place : Nat) :
    (x.after w visits).collectors[place]? =
      x.collectors[place]?.map fun c => c.after w (yields w (loadFor place) x visits) := by
  induction visits generalizing x with
  | nil => simp [after, yields, Collector.after]
  | cons v rest ih =>
    have hafter : x.after w (v :: rest) = (x.visit w v).after w rest := rfl
    rw [hafter, ih, visit_collector, Option.map_map]
    congr 1
    funext c
    simp [Collector.after, yields, List.foldl_append]

end Installation

end RouterMetrics

import RouterMetrics.Http.Routes
import RouterMetrics.Proofs.Collector.Identity
import RouterMetrics.Proofs.Config.Rounds
import RouterMetrics.Proofs.Exposition.Families

/-!
# Where exported samples come from

A reading is a sample that a collector shows, with the device and the group it belongs to. What is
exported under a name are the readings of the series of that name, in their order
(`Exposition.samples_of_name`), and every reading of a plan tells the identity of its device,
whatever has become of the loads before (`Plan.mem_readings`).
-/

namespace RouterMetrics

variable {σ : Type}

/-- A plan whose collectors have been loaded, each any number of times: the loads of a collector are
told by the numbers of its round and of its place in it. -/
def Plan.after (w : World σ) (p : Plan) (history : Nat → Nat → List (Load σ)) : Plan :=
  { p with rounds := p.rounds.mapIdx fun n r =>
      { r with collectors := r.collectors.mapIdx fun m c => c.after w (history n m) } }

/-- A series that is shown, with the device and the group of its collector. -/
structure Shown where
  device : Option Nat
  group : String
  series : Series

/-- A sample that is shown. -/
structure Shown.Reading extends Shown where
  sample : Sample

/-- The sample as it is exported. -/
def Shown.Reading.exported (x : Shown.Reading) : LabelledValue :=
  Exposition.labelled x.series.labelNames x.sample

/-- The readings of a series that is shown. -/
def Shown.readings (x : Shown) : List Shown.Reading := x.series.samples.map fun y => ⟨x, y⟩

/-- The exported name of a series that is shown. -/
def Shown.familyName (start : String) (x : Shown) : String :=
  Exposition.familyName start x.series.kind x.series.name

namespace Plan

/-- The series that the collectors of a plan show at a moment. -/
def shown (p : Plan) (t : Moment) : List Shown :=
  p.rounds.flatMap fun r => r.collectors.flatMap fun c =>
    ((c.collect? t).getD []).map fun s => ⟨r.device, c.name, s⟩

/-- The readings of a plan at a moment, in the order of its collectors. -/
def readings (p : Plan) (t : Moment) : List Shown.Reading := (p.shown t).flatMap Shown.readings

theorem shown_series (p : Plan) (t : Moment) :
    (p.shown t).map (·.series) = p.collectors.flatMap fun c => (c.collect? t).getD [] := by
  simp [shown, collectors, List.map_flatMap, List.flatMap_assoc, Function.comp_def]

end Plan

namespace Exposition

/-- What is exported of a plan. -/
theorem families?_eq {site : Http.Site} {p : Plan} {t : Moment} {families : List Family}
    (hcollectors : site.collectors = p.collectors) (h : site.families? t = some families) :
    families = gather site.start ((p.shown t).map (·.series))
      (site.stats.elim [] LoadStats.families) := by
  unfold Http.Site.families? at h
  rw [Option.map_eq_some_iff] at h
  obtain ⟨found, hfound, rfl⟩ := h
  rw [p.shown_series, ← hcollectors, Collector.mapM_some hfound]

/-- **Under a name stand the readings of its series.** -/
theorem samples_of_name (start name : String) (shown : List Shown) :
    (((shown.map (·.series)).map (familyOf start)).filter (·.name = name)).flatMap (·.samples) =
      ((shown.flatMap Shown.readings).filter fun x => x.familyName start = name).map
        Shown.Reading.exported := by
  induction shown with
  | nil => rfl
  | cons x rest ih =>
    have hall : ∀ y ∈ x.readings, y.familyName start = x.familyName start := by
      intro y hy
      obtain ⟨sample, -, rfl⟩ := List.mem_map.mp hy
      rfl
    rw [List.flatMap_cons, List.filter_append, List.map_append, ← ih]
    by_cases hname : x.familyName start = name
    · have hkept : x.readings.filter (fun y => decide (y.familyName start = name)) = x.readings :=
        List.filter_eq_self.mpr fun y hy => by simpa using (hall y hy).trans hname
      have hfamily : (familyOf start x.series).name = name := hname
      have hsamples :
          (familyOf start x.series).samples = x.readings.map Shown.Reading.exported := by
        rw [Shown.readings, List.map_map]
        rfl
      rw [hkept, List.map_cons, List.map_cons, List.filter_cons_of_pos (by simpa using hfamily),
        List.flatMap_cons, hsamples]
    · have hnone : x.readings.filter (fun y => decide (y.familyName start = name)) = [] :=
        List.filter_eq_nil_iff.mpr fun y hy => by
          simpa using fun h => hname ((hall y hy).symm.trans h)
      have hfamily : (familyOf start x.series).name ≠ name := hname
      rw [hnone, List.map_cons, List.map_cons, List.filter_cons_of_neg (by simpa using hfamily)]
      rfl

end Exposition

/-! ## Readings of settings -/

/-- To whom the collector of a group with an identity belongs: a device that is polled, or the
update check. -/
inductive Owner (s : Config.Settings) : Option Nat → Group → List (String × String) → Prop
  | device {number : Nat} {device : String × Config.DeviceSettings} {g : Group} :
      s.enabledDevices[number]? = some device → g ∈ Catalog.groups →
      Owner s (some number) g (Plan.identity device.1 device.2).labels
  | updates : Owner s none (Catalog.latestVersion s.system.updateChannels) []

/-- A series that is shown is one that its group declares, and tells the identity of its owner. -/
def Shown.Of (s : Config.Settings) (x : Shown) : Prop :=
  ∃ g identity, x.group = g.name ∧ Owner s x.device g identity ∧
    ∃ st ∈ g.stages, ∃ d ∈ st.series, x.series.Reads st d identity

theorem Round.OfDevice.collector {number : Nat} {device : String × Config.DeviceSettings}
    {r : Round} (h : r.OfDevice number device) {c : Collector} (hc : c ∈ r.collectors) :
    ∃ g ∈ Catalog.groups, c = g.collector (Plan.identity device.1 device.2).labels r.interval := by
  obtain ⟨n, hn, rfl⟩ := List.getElem_of_mem hc
  have hlength := h.collectors.length_eq
  obtain ⟨g, hg, -, hcollector⟩ :=
    (List.forall₂_iff_get.mp h.collectors).2 n (hlength ▸ hn) hn
  exact ⟨g, hg, hcollector⟩

namespace Plan

/-- **Whatever has become of loads, a series that is shown tells its device.** -/
theorem mem_shown (w : World σ) {s : Config.Settings} {p : Plan} (hp : ofSettings s = .ok p)
    (history : Nat → Nat → List (Load σ)) {t : Moment} {x : Shown}
    (h : x ∈ (p.after w history).shown t) : x.Of s := by
  obtain ⟨r', hr', h⟩ := List.mem_flatMap.mp h
  obtain ⟨n, hn, rfl⟩ := List.mem_mapIdx.mp hr'
  obtain ⟨c', hc', h⟩ := List.mem_flatMap.mp h
  obtain ⟨m, hm, rfl⟩ := List.mem_mapIdx.mp hc'
  obtain ⟨series, hseries, rfl⟩ := List.mem_map.mp h
  obtain ⟨all, hall, hseries⟩ := Collector.mem_getD hseries
  have hround := (ofSettings_rounds hp).2 p.rounds[n] (List.getElem_mem hn)
  rcases hround with ⟨number, device, hdevice, hround⟩ | hupdates
  · obtain ⟨g, hg, hc⟩ := hround.collector (List.getElem_mem hm)
    rw [hc] at hall ⊢
    refine ⟨g, (identity device.1 device.2).labels, Collector.after_name .., ?_, ?_⟩
    · show Owner s p.rounds[n].device g _
      rw [hround.device_eq]
      exact .device hdevice hg
    exact Collector.after_shows w (Identity.labels_distinct _) (Catalog.groups_spare hg _) _ _ hall
      series hseries
  · have hc : p.rounds[n].collectors[m] =
        (Catalog.latestVersion s.system.updateChannels).collector [] p.rounds[n].interval := by
      simp [hupdates.collectors]
    rw [hc] at hall ⊢
    refine ⟨Catalog.latestVersion s.system.updateChannels, [], Collector.after_name .., ?_, ?_⟩
    · show Owner s p.rounds[n].device _ _
      rw [hupdates.device_eq]
      exact .updates
    have distinct : (([] : List (String × String)).map (·.1)).Nodup := List.nodup_nil
    refine Collector.after_shows w distinct (fun st _ t _ e he => ?_) _ _ hall series hseries
    cases he

theorem mem_readings {p : Plan} {t : Moment} {x : Shown.Reading} (h : x ∈ p.readings t) :
    x.toShown ∈ p.shown t ∧ x.sample ∈ x.series.samples := by
  obtain ⟨y, hy, hx⟩ := List.mem_flatMap.mp h
  obtain ⟨sample, hsample, rfl⟩ := List.mem_map.mp hx
  exact ⟨hy, hsample⟩

end Plan

end RouterMetrics

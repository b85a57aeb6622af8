import Mathlib.Data.List.Nodup
import RouterMetrics.Proofs.Exposition.Readings
import RouterMetrics.Proofs.Statistics.Tallies

/-!
# Which samples of a scrape carry the same labels

Nothing is done against samples of one family with the same labels: a device can answer records
that agree in all fields that a series has as its labels, and a group can be polled on both
cadences. But there is no other way to them: two samples of a family carry the same labels exactly
when they are readings of the same series of the same group of the same device, and have the same
texts (`Exposition.same_labels_iff_twins`).
-/

namespace RouterMetrics

variable {σ : Type}

/-- Two samples carry the same set of labels. -/
def LabelledValue.SameLabels (a b : LabelledValue) : Prop :=
  ∀ label, label ∈ a.labels ↔ label ∈ b.labels

/-! ## Statistics -/

namespace LoadStats

/-- The labels of a key tell it. -/
theorem labels_inj {k k' : LoadKey} (h : ∀ label, label ∈ k.labels → label ∈ k'.labels) :
    k = k' := by
  obtain ⟨collector, name, address⟩ := k
  obtain ⟨collector', name', address'⟩ := k'
  have haddress := h ("device_address", address) (by simp [LoadKey.labels])
  have hname := h ("device_name", name) (by simp [LoadKey.labels])
  have hcollector := h ("name", collector) (by simp [LoadKey.labels])
  simp [LoadKey.labels] at haddress hname hcollector
  rw [haddress, hname, hcollector]

theorem family_apart {α : Type} (s : LoadStats) (name help : String) (kind : FamilyKind)
    (value : α → Float) {t : Tally α} (h : t.Distinct) :
    (s.family name help kind value t).samples.Pairwise fun a b => ¬ a.SameLabels b := by
  refine List.pairwise_map.mpr (h.imp fun {a b} hab hsame => hab ?_)
  rw [labels_inj fun label => (hsame label).mp]

/-- **No two samples of statistics carry the same labels.** -/
theorem families_apart (start : String) (loads : List Counted) :
    ∀ f ∈ (ofLoads start loads).families, f.samples.Pairwise fun a b => ¬ a.SameLabels b := by
  have hdistinct := ofLoads_distinct start loads
  intro f hf
  obtain ⟨hf, -⟩ := List.mem_filter.mp hf
  simp only [List.mem_cons, List.not_mem_nil, or_false] at hf
  rcases hf with rfl | rfl | rfl | rfl | rfl
  · exact family_apart _ _ _ _ _ hdistinct.loaded
  · exact family_apart _ _ _ _ _ hdistinct.failed
  · exact family_apart _ _ _ _ _ hdistinct.lastRun
  · exact family_apart _ _ _ _ _ hdistinct.seconds
  · exact List.pairwise_singleton ..

end LoadStats

/-! ## The catalog -/

namespace Catalog

theorem familyName_start (start : String) (kind : MetricKind) (name : String) :
    Exposition.familyName start kind name = start ++ Exposition.familyName "" kind name := by
  cases kind with
  | info => simp [Exposition.familyName, String.append_assoc]
  | gauge => simp [Exposition.familyName, String.append_assoc]
  | counter =>
    simp only [Exposition.familyName]
    split
    · simp [String.append_assoc]
    · simp [String.append_assoc]

/-- The groups of devices and that of the update check. -/
def allGroups (channels : List String) : List Group := groups ++ [latestVersion channels]

/-- The declared series with their groups and stages. -/
def declared (channels : List String) : List (Group × Stage × SeriesDef) :=
  (allGroups channels).flatMap fun g => g.stages.flatMap fun st => st.series.map fun d => (g, st, d)

theorem mem_declared {channels : List String} {g : Group} (hg : g ∈ allGroups channels) {st : Stage}
    (hst : st ∈ g.stages) {d : SeriesDef} (hd : d ∈ st.series) : (g, st, d) ∈ declared channels :=
  List.mem_flatMap.mpr ⟨g, hg, List.mem_flatMap.mpr ⟨st, hst, List.mem_map_of_mem hd⟩⟩

/-- **No two declared series are exported under one name.** -/
theorem declared_distinct (channels : List String) :
    ((declared channels).map fun x => Exposition.familyName "" x.2.2.kind x.2.2.name).Nodup := by
  -- which channels the update check asks for does not matter to its series
  have hsame : (declared channels).map (fun x => Exposition.familyName "" x.2.2.kind x.2.2.name) =
      (declared []).map fun x => Exposition.familyName "" x.2.2.kind x.2.2.name := rfl
  rw [hsame]
  -- most names differ in their lengths already, which is faster to tell
  have hdistinct :
      ((declared []).map fun x => Exposition.familyName "" x.2.2.kind x.2.2.name).Pairwise
        fun a b => a.utf8ByteSize ≠ b.utf8ByteSize ∨ a ≠ b := by decide +kernel
  refine hdistinct.imp fun h heq => ?_
  rcases h with hsize | hne
  · exact hsize (congrArg String.utf8ByteSize heq)
  · exact hne heq

/-- Series that are exported under one name are the same. -/
theorem declared_eq {channels : List String} {start : String}
    {x y : Group × Stage × SeriesDef} (hx : x ∈ declared channels) (hy : y ∈ declared channels)
    (h : Exposition.familyName start x.2.2.kind x.2.2.name =
      Exposition.familyName start y.2.2.kind y.2.2.name) : x = y := by
  rw [familyName_start start, familyName_start start y.2.2.kind, String.append_right_inj] at h
  exact List.inj_on_of_nodup_map (declared_distinct channels) hx hy h

end Catalog

/-! ## Owners -/

namespace Owner

variable {s : Config.Settings} {device device' : Option Nat} {g : Group}
  {identity identity' : List (String × String)}

theorem group_mem (h : Owner s device g identity) :
    g ∈ Catalog.allGroups s.system.updateChannels := by
  cases h with
  | device _ hg => exact List.mem_append_left _ hg
  | updates => exact List.mem_append_right _ List.mem_cons_self

/-- The group of the update check is none of a device. -/
theorem latestVersion_not_mem (channels : List String) :
    Catalog.latestVersion channels ∉ Catalog.groups := by
  intro h
  have hname : "latest_version" ∈ Catalog.names := List.mem_map_of_mem h
  exact absurd hname (by decide)

/-- The collectors of a group have the same names of their identities. -/
theorem names_eq (h : Owner s device g identity) (h' : Owner s device' g identity') :
    identity.map (·.1) = identity'.map (·.1) := by
  cases h with
  | device _ hg =>
    cases h' with
    | device => rfl
    | updates => exact absurd hg (latestVersion_not_mem _)
  | updates =>
    cases h' with
    | device _ hg => exact absurd hg (latestVersion_not_mem _)
    | updates => rfl

theorem enabledDevices_distinct (s : Config.Settings) :
    (s.enabledDevices.map (·.1)).Nodup :=
  s.devices.toList_keys_nodup.sublist (List.filter_sublist.map _)

/-- **An identity tells its owner**, among those of a group. -/
theorem device_eq (h : Owner s device g identity) (h' : Owner s device' g identity')
    (hsame : identity = identity') : device = device' := by
  cases h with
  | @device number d _ hdevice hg =>
    cases h' with
    | @device number' d' _ hdevice' _ =>
      have hname : d.1 = d'.1 := by
        simp only [Identity.labels, Plan.identity, List.cons.injEq, Prod.mk.injEq] at hsame
        exact hsame.1.2
      have hnames :
          (s.enabledDevices.map (·.1))[number]? = (s.enabledDevices.map (·.1))[number']? := by
        rw [List.getElem?_map, List.getElem?_map, hdevice, hdevice', Option.map_some, hname,
          Option.map_some]
      obtain ⟨hlt, -⟩ := List.getElem?_eq_some_iff.mp hdevice
      rw [(List.getElem?_inj (by simpa using hlt) (enabledDevices_distinct s)).mp hnames]
    | updates => exact absurd hg (latestVersion_not_mem _)
  | updates =>
    cases h' with
    | device _ hg => exact absurd hg (latestVersion_not_mem _)
    | updates => rfl

end Owner

/-! ## Readings -/

/-- Readings of the same series of the same group of the same device, or of none, with the same
texts. -/
structure Shown.Reading.Twins (x y : Shown.Reading) : Prop where
  device_eq : x.device = y.device
  group_eq : x.group = y.group
  kind_eq : x.series.kind = y.series.kind
  name_eq : x.series.name = y.series.name
  labels_eq : x.sample.labels = y.sample.labels

namespace Exposition

/-- Labels with the same names are the same when they are the same one by one. -/
theorem labels_eq_of_mem {names : List String} {f g : String → String}
    (h : ∀ label, label ∈ names.zip (names.map f) → label ∈ names.zip (names.map g)) :
    ∀ n ∈ names, f n = g n := by
  rw [← List.map_prod_left_eq_zip, ← List.map_prod_left_eq_zip] at h
  intro n hn
  obtain ⟨n', -, heq⟩ := List.mem_map.mp (h (n, f n) (List.mem_map_of_mem hn))
  obtain ⟨rfl, heq⟩ := Prod.mk.inj heq
  exact heq.symm

/-- An identity is read back from a record that tells it. -/
theorem identity_told {identity : List (String × String)} {r : Record}
    (h : ∀ e ∈ identity, r.get? e.1 = some (.text e.2)) :
    identity = (identity.map (·.1)).map fun n => (n, Json.label (r.get? n)) := by
  have hsame : identity.map id = identity.map ((fun n => (n, Json.label (r.get? n))) ∘ (·.1)) :=
    List.map_congr_left fun e he => by
      rw [Function.comp_apply, h e he]
      rfl
  rw [List.map_map, ← hsame, List.map_id]

variable {s : Config.Settings} {start : String} {x y : Shown.Reading}

/-- Series that are exported under one name are declared by one stage of one group, and have the
same names of their labels. -/
theorem reads_of_familyName {x y : Shown} (hx : x.Of s) (hy : y.Of s)
    (hname : x.familyName start = y.familyName start) :
    ∃ (g : Group) (st : Stage) (d : SeriesDef) (identity identity' : List (String × String)),
      (x.group = g.name ∧ y.group = g.name) ∧
      (Owner s x.device g identity ∧ Owner s y.device g identity') ∧
      (x.series.Reads st d identity ∧ y.series.Reads st d identity') ∧
      x.series.labelNames = y.series.labelNames := by
  obtain ⟨g, identity, hgroup, howner, st, hst, d, hd, hreads⟩ := hx
  obtain ⟨g', identity', hgroup', howner', st', hst', d', hd', hreads'⟩ := hy
  rw [Shown.familyName, Shown.familyName, hreads.kind_eq, hreads.name_eq, hreads'.kind_eq,
    hreads'.name_eq] at hname
  cases Catalog.declared_eq (Catalog.mem_declared howner.group_mem hst hd)
    (Catalog.mem_declared howner'.group_mem hst' hd') hname
  refine ⟨g, st, d, identity, identity', ⟨hgroup, hgroup'⟩, ⟨howner, howner'⟩,
    ⟨hreads, hreads'⟩, ?_⟩
  rw [hreads.labelNames_eq, hreads'.labelNames_eq, howner.names_eq howner']

/-- **Samples of one exported name with the same labels are those of twins.** -/
theorem twins_of_sameLabels (hx : x.toShown.Of s) (hxs : x.sample ∈ x.series.samples)
    (hy : y.toShown.Of s) (hys : y.sample ∈ y.series.samples)
    (hname : x.familyName start = y.familyName start)
    (hsame : x.exported.SameLabels y.exported) : x.Twins y := by
  obtain ⟨g, st, d, identity, identity', ⟨hgroup, hgroup'⟩, ⟨howner, howner'⟩, ⟨hreads, hreads'⟩,
    hnames⟩ := reads_of_familyName hx hy hname
  obtain ⟨r, hlabels, htells⟩ := hreads.records _ hxs
  obtain ⟨r', hlabels', htells'⟩ := hreads'.records _ hys
  rw [← hnames] at hlabels'
  -- both samples are read under the same names, so they have the same texts
  have htexts : ∀ n ∈ x.series.labelNames, Json.label (r.get? n) = Json.label (r'.get? n) := by
    refine labels_eq_of_mem fun label hlabel => ?_
    have hmem := (hsame label).mp (by rw [Shown.Reading.exported, labelled, hlabels]; exact hlabel)
    rw [Shown.Reading.exported, labelled, hlabels', ← hnames] at hmem
    exact hmem
  have hidentity : identity = identity' := by
    rw [identity_told htells, identity_told htells', ← howner.names_eq howner']
    refine List.map_congr_left fun n hn => ?_
    rw [htexts n (by rw [hreads.labelNames_eq]; exact List.mem_append_right _ hn)]
  refine ⟨howner.device_eq howner' hidentity, hgroup.trans hgroup'.symm, ?_, ?_, ?_⟩
  · rw [hreads.kind_eq, hreads'.kind_eq]
  · rw [hreads.name_eq, hreads'.name_eq]
  · rw [hlabels, hlabels']
    exact List.map_congr_left htexts

/-- Twins are exported under one name, with the same labels. -/
theorem sameLabels_of_twins (start : String) (hx : x.toShown.Of s) (hy : y.toShown.Of s)
    (h : x.Twins y) :
    x.familyName start = y.familyName start ∧ x.exported.SameLabels y.exported := by
  have hname : x.familyName start = y.familyName start := by
    rw [Shown.familyName, Shown.familyName, h.kind_eq, h.name_eq]
  obtain ⟨-, -, -, -, -, -, -, -, hnames⟩ := reads_of_familyName hx hy hname
  refine ⟨hname, fun label => ?_⟩
  rw [Shown.Reading.exported, Shown.Reading.exported, labelled, labelled, hnames, h.labels_eq]

/-! ## Scrapes -/

/-- What stands under a name in a scrape of shown series. -/
theorem samples_of_merged {shown : List Shown} (hof : ∀ x ∈ shown, x.Of s) {name : String}
    {f : Family} (h : merged start (shown.map (·.series)) name = some f) :
    f.samples = ((shown.flatMap Shown.readings).filter fun x => x.familyName start = name).map
      Shown.Reading.exported := by
  rw [← samples_of_name]
  refine (merged_samples (fun a ha b hb hname => ?_) h).2
  obtain ⟨x, hx, rfl⟩ := List.mem_map.mp ha
  obtain ⟨y, hy, rfl⟩ := List.mem_map.mp hb
  obtain ⟨g, st, d, identity, identity', -, -, ⟨hreads, hreads'⟩, -⟩ :=
    reads_of_familyName (hof x hx) (hof y hy) hname
  rw [hreads.kind_eq, hreads'.kind_eq]

/-- **Two samples of a family carry the same labels exactly when they are readings of twins.** Take
any valid settings, let the collectors of their plan be loaded at any times with whatever the
devices answer, and let any loads have been counted. Then two samples at different places of one
family of a scrape have the same labels only if they are of the same series of the same group of
the same device, or both of the update check, with the same text of every label; and any two such
readings are there. The rounds of a plan are of different devices or of different cadences, and no
two collectors of a round are of one group. -/
theorem same_labels_iff_twins (w : World σ) {s : Config.Settings} (valid : s.check = .ok ())
    {p : Plan} (hplan : Plan.ofSettings s = .ok p) (history : Nat → Nat → List (Load σ))
    (loads : List Counted) {t : Moment} {families : List Family}
    (hfamilies : Http.Site.families? ⟨s.system.namePrefix, p.devices,
      (p.after w history).collectors, some (.ofLoads s.system.namePrefix loads)⟩ t =
        some families) :
    (∀ a b, (∃ f ∈ families, [a, b].Sublist f.samples ∧ a.SameLabels b) ↔
        ∃ x y, [x, y].Sublist ((p.after w history).readings t) ∧ x.Twins y ∧
          x.exported = a ∧ y.exported = b) ∧
      p.rounds.Pairwise Plan.Apart ∧ ∀ r ∈ p.rounds, (r.collectors.map (·.name)).Nodup := by
  have hof : ∀ x ∈ (p.after w history).shown t, x.Of s :=
    fun x hx => Plan.mem_shown w hplan history hx
  rw [families?_eq rfl hfamilies]
  refine ⟨fun a b => ⟨?_, ?_⟩, Plan.rounds_distinct valid hplan⟩
  · rintro ⟨f, hf, hsub, hsame⟩
    obtain ⟨name, hname⟩ := mem_gather.mp hf
    rcases Option.or_eq_some_iff.mp hname with hmerged | ⟨-, hstatistic⟩
    · -- two samples of the family are two of the readings of its name
      rw [samples_of_merged hof hmerged] at hsub
      obtain ⟨kept, hkept, hab⟩ := List.sublist_map_iff.mp hsub
      obtain ⟨x, rest, rfl, rfl, hrest⟩ := List.map_eq_cons_iff.mp hab.symm
      obtain ⟨y, none, rfl, rfl, hnone⟩ := List.map_eq_cons_iff.mp hrest
      obtain rfl := List.map_eq_nil_iff.mp hnone
      obtain ⟨hx, hxname⟩ := List.mem_filter.mp (hkept.subset List.mem_cons_self)
      obtain ⟨hy, hyname⟩ :=
        List.mem_filter.mp (hkept.subset (List.mem_cons_of_mem _ List.mem_cons_self))
      obtain ⟨hx, hxs⟩ := Plan.mem_readings hx
      obtain ⟨hy, hys⟩ := Plan.mem_readings hy
      have htwins := twins_of_sameLabels (hof _ hx) hxs (hof _ hy) hys
        ((of_decide_eq_true hxname).trans (of_decide_eq_true hyname).symm) hsame
      exact ⟨x, y, hkept.trans List.filter_sublist, htwins, rfl, rfl⟩
    · have hapart := LoadStats.families_apart _ loads f (List.mem_of_find?_eq_some hstatistic)
      exact absurd hsame (List.pairwise_iff_forall_sublist.mp hapart hsub)
  · rintro ⟨x, y, hsub, htwins, rfl, rfl⟩
    obtain ⟨hx, hxs⟩ := Plan.mem_readings (hsub.subset List.mem_cons_self)
    obtain ⟨hy, -⟩ :=
      Plan.mem_readings (hsub.subset (List.mem_cons_of_mem _ List.mem_cons_self))
    obtain ⟨hname, hsame⟩ := sameLabels_of_twins s.system.namePrefix (hof _ hx) (hof _ hy) htwins
    obtain ⟨f, hf⟩ := merged_isSome s.system.namePrefix
      (List.mem_map_of_mem (f := (·.series)) hx) (List.ne_nil_of_mem hxs)
    have hkept : [x, y].filter (fun z => decide (z.familyName s.system.namePrefix =
        x.familyName s.system.namePrefix)) = [x, y] := by
      simp [hname]
    have hboth := (hsub.filter fun z => decide (z.familyName s.system.namePrefix =
      x.familyName s.system.namePrefix)).map Shown.Reading.exported
    rw [hkept] at hboth
    refine ⟨f, mem_gather.mpr ⟨x.familyName s.system.namePrefix, ?_⟩, ?_, hsame⟩
    · exact Option.or_eq_some_iff.mpr (.inl hf)
    · rw [samples_of_merged hof hf]
      exact hboth

/-! ## A firewall with two equal rules -/

/-- A device whose firewall is polled. -/
def office : Config.Settings where
  system := {}
  devices := Dict.ofList [("office",
    { hostname := "10.0.0.1", username := "prometheus", collectors := ["firewall"] })]

/-- The plan of the device. -/
def officePlan : Plan := (Plan.ofSettings office).toOption.getD ⟨[], []⟩

/-- A rule that lets everything pass. -/
def acceptAll : Record :=
  Dict.ofList [("chain", .text "input"), ("action", .text "accept"), ("comment", .text ""),
    ("bytes", .int 10), ("packets", .int 1)]

/-- The firewall is loaded once, and has the rule twice in its first table and nothing in the
others. -/
def ruleTwice (_ _ : Nat) : List (Load (List (Except TransportError (List Record)))) :=
  [Collector.answered 10 [.ok [acceptAll, acceptAll], .ok [], .ok []]]

/-- What is seen of it. -/
def officeSite : Http.Site :=
  ⟨office.system.namePrefix, officePlan.devices,
    (officePlan.after Collector.dictated ruleTwice).collectors,
    some (.ofLoads office.system.namePrefix [])⟩

theorem officeSite_repeats : ∃ families,
    officeSite.families? (Moment.after 0 (.ofSeconds 11)) = some families ∧
      ∃ f ∈ families, ∃ a b, [a, b].Sublist f.samples ∧ a.SameLabels b := by
  have hsome : (officeSite.families? (Moment.after 0 (.ofSeconds 11))).isSome = true := by
    decide +kernel
  obtain ⟨families, hfamilies⟩ := Option.isSome_iff_exists.mp hsome
  have hrepeats : ∀ families ∈ officeSite.families? (Moment.after 0 (.ofSeconds 11)),
      ∃ f ∈ families, ¬ (f.samples.map (·.labels)).Nodup := by decide +kernel
  obtain ⟨f, hf, hnodup⟩ := hrepeats families hfamilies
  refine ⟨families, hfamilies, f, hf, ?_⟩
  by_contra hnone
  refine hnodup (List.pairwise_map.mpr (List.pairwise_iff_forall_sublist.mpr ?_))
  exact fun {a b} hsub heq => hnone ⟨a, b, hsub, fun label => by rw [heq]⟩

/-- Its settings are valid, and yet a scrape has two samples with the same labels. -/
theorem same_labels_of_equal_rules :
    office.check = .ok () ∧ Plan.ofSettings office = .ok officePlan ∧ ∃ families,
      officeSite.families? (Moment.after 0 (.ofSeconds 11)) = some families ∧
        ∃ f ∈ families, ∃ a b, [a, b].Sublist f.samples ∧ a.SameLabels b :=
  ⟨by decide +kernel, rfl, officeSite_repeats⟩

/-- The two samples are readings of twins: the same rule was read twice. -/
theorem same_labels_iff_twins_office :
    office.check = .ok () ∧ Plan.ofSettings office = .ok officePlan ∧
      ∃ x y, [x, y].Sublist ((officePlan.after Collector.dictated ruleTwice).readings
        (Moment.after 0 (.ofSeconds 11))) ∧ x.Twins y := by
  have valid : office.check = .ok () := by decide +kernel
  have hplan : Plan.ofSettings office = .ok officePlan := rfl
  obtain ⟨families, hfamilies, f, hf, a, b, hsub, hsame⟩ := officeSite_repeats
  obtain ⟨hiff, -⟩ :=
    same_labels_iff_twins Collector.dictated valid hplan ruleTwice [] hfamilies
  obtain ⟨x, y, hreadings, htwins, -⟩ := (hiff a b).mp ⟨f, hf, hsub, hsame⟩
  exact ⟨valid, hplan, x, y, hreadings, htwins⟩

end Exposition

end RouterMetrics

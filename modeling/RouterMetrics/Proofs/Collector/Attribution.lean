import RouterMetrics.Proofs.Collector.Identity

/-!
# Every sample is attributed to its own device

Whatever fields a device answers with, also ones whose names come to those of its identity, a sample
of a group of the catalog has a text for every label of its series: those of the declared fields,
empty where its record has none, and then the name and the address of the device
(`Collector.attribution`).
-/

namespace RouterMetrics

/-- A series has some fields of its records as labels, and then the name and the address of a
device. A field that a record does not have is an empty label. -/
structure Series.Attributed (x : Series) (i : Identity) (fields : List String)
    (records : List Record) : Prop where
  labelNames_eq : x.labelNames = fields ++ ["device_name", "device_address"]
  length_eq : ∀ y ∈ x.samples, y.labels.length = x.labelNames.length
  labels_eq : ∀ y ∈ x.samples, ∃ r ∈ records,
    y.labels = fields.map (fun n => Json.label (r.get? n)) ++ [i.name, i.address] ∧
      ∀ (m : Nat) (n : String), x.labelNames[m]? = some n → r.get? n = none →
        y.labels[m]? = some ""

/-- The texts of the identity are those of the device, since the records tell it. -/
theorem Series.ReadFrom.attributed {x : Series} {records : List Record} {st : Stage}
    {d : SeriesDef} {i : Identity} (h : x.ReadFrom records st d i.labels) :
    x.Attributed i (d.labelFields.getD st.labels) records := by
  have hnames : x.labelNames = d.labelFields.getD st.labels ++ ["device_name", "device_address"] :=
    h.labelNames_eq
  refine ⟨hnames, fun y hy => ?_, fun y hy => ?_⟩
  · obtain ⟨r, -, hlabels, -⟩ := h.samples y hy
    rw [hlabels, List.length_map]
  · obtain ⟨r, hr, hlabels, htells⟩ := h.samples y hy
    have hname : r.get? "device_name" = some (.text i.name) :=
      htells ("device_name", i.name) List.mem_cons_self
    have haddress : r.get? "device_address" = some (.text i.address) :=
      htells ("device_address", i.address) (by simp [Identity.labels])
    refine ⟨r, hr, ?_, fun m n hn hnone => ?_⟩
    · rw [hlabels, hnames, List.map_append, List.map_cons, List.map_singleton, hname, haddress]
      rfl
    · rw [hlabels, List.getElem?_map, hn, Option.map_some, hnone]
      rfl

namespace Collector

variable {σ : Type}

/-- Whether a store is fresh can be told at any time when three intervals are a duration. -/
theorem after_collect? (w : World σ) (g : Group) (identity : List (String × String))
    {interval : Duration} (fits : (interval.scale? 3).isSome = true) (loads : List (Load σ))
    (t : Moment) :
    ∃ series, ((g.collector identity interval).after w loads).collect? t = some series := by
  refine ⟨_, collect?_of_forall fun live hlive => ?_⟩
  obtain ⟨i, hi⟩ := List.getElem?_of_mem hlive
  obtain ⟨hmade, -⟩ := (after_holds w g identity interval loads).2 i live hi
  obtain ⟨-, -, -, -, hinterval⟩ := hmade.settings
  obtain ⟨series, hseries, -⟩ := live.store.collect?_of_fits (by rwa [hinterval]) t
  exact ⟨series, hseries⟩

/-- **Every sample is attributed to its own device.** After any loads in any world, a group of the
catalog shows series that its stages declare, and their samples have the declared fields of records
of the stage and then the name and the address of the device as their labels. -/
theorem attribution (w : World σ) {g : Group} (hg : g ∈ Catalog.groups) (i : Identity)
    {interval : Duration} (fits : (interval.scale? 3).isSome = true) (loads : List (Load σ))
    (t : Moment) :
    ∃ series, ((g.collector i.labels interval).after w loads).collect? t = some series ∧
      ∀ x ∈ series, ∃ live ∈ ((g.collector i.labels interval).after w loads).stages,
        live.stage ∈ g.stages ∧ ∃ d ∈ live.stage.series, x.kind = d.kind ∧ x.name = d.name ∧
          x.Attributed i (d.labelFields.getD live.stage.labels) live.store.snapshot.records := by
  obtain ⟨series, hseries⟩ := after_collect? w g i.labels fits loads t
  refine ⟨series, hseries, fun x hx => ?_⟩
  obtain ⟨live, hlive, hstage, d, hd, hreads⟩ :=
    after_reads w i.labels_distinct (Catalog.groups_spare hg i) interval loads hseries x hx
  exact ⟨live, hlive, hstage, d, hd, hreads.kind_eq, hreads.name_eq, hreads.attributed⟩

/-- Two addresses of a pool. The fields of one come to the names of an identity. -/
def leased : List Record :=
  [Dict.ofList [("pool", .text "guests"), ("device-name", .text "other"),
     (".device_address", .text "10.9.9.9"), ("device_name_", .text "third")],
   Dict.ofList [("address", .text "10.0.0.7"), ("owner", .null)]]

/-- Both are shown as those of the gateway. -/
theorem attribution_leased :
    Catalog.pool ∈ Catalog.groups ∧ ((Duration.ofSeconds 10).scale? 3).isSome = true ∧
    ∃ series,
      ((Catalog.pool.collector gateway.identity.labels (.ofSeconds 10)).after dictated
        [answered 10 [.ok leased]]).collect? (Moment.after 0 (.ofSeconds 11)) = some series ∧
      series.map (fun x => x.samples.map (·.labels)) =
        [[["guests", "", "", "", "gateway", "10.0.0.1"],
          ["", "10.0.0.7", "", "", "gateway", "10.0.0.1"]]] ∧
      ∀ x ∈ series, ∀ y ∈ x.samples, y.labels.length = x.labelNames.length := by
  have hmem : Catalog.pool ∈ Catalog.groups :=
    List.mem_of_getElem? (show Catalog.groups[6]? = some Catalog.pool from rfl)
  have fits : ((Duration.ofSeconds 10).scale? 3).isSome = true := by decide
  obtain ⟨series, hseries, hall⟩ := attribution dictated hmem gateway.identity fits
    [answered 10 [.ok leased]] (Moment.after 0 (.ofSeconds 11))
  have hshown : (((Catalog.pool.collector gateway.identity.labels (.ofSeconds 10)).after dictated
      [answered 10 [.ok leased]]).collect? (Moment.after 0 (.ofSeconds 11))).map
        (·.map fun x => x.samples.map (·.labels)) =
      some [[["guests", "", "", "", "gateway", "10.0.0.1"],
        ["", "10.0.0.7", "", "", "gateway", "10.0.0.1"]]] := by decide +kernel
  refine ⟨hmem, fits, series, hseries, ?_, fun x hx => ?_⟩
  · rw [hseries] at hshown
    exact Option.some.inj hshown
  · obtain ⟨live, -, -, d, -, -, -, hattributed⟩ := hall x hx
    exact hattributed.length_eq

end Collector

end RouterMetrics

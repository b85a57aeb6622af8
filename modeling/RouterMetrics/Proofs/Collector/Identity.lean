import RouterMetrics.Proofs.Collector.Projection

/-!
# What a sample tells of its collector

A store keeps records with the identity of its device in them, and no translation of the catalog
changes that. So every sample of a collector tells the identity it was made with, whatever its
device has answered (`Collector.after_reads`).
-/

namespace RouterMetrics

/-! ## Records -/

namespace Store

variable {r raw : Record} {k v : String}

theorem translate_get? {t : Translation} (h : t.field ≠ k) : (translate r t).get? k = r.get? k := by
  unfold translate
  split
  · rw [Dict.get?_insert, if_neg h]
  · rfl

theorem foldl_translate_get? {ts : List Translation} (h : ∀ t ∈ ts, t.field ≠ k) (r : Record) :
    (ts.foldl translate r).get? k = r.get? k := by
  induction ts generalizing r with
  | nil => rfl
  | cons t rest ih =>
    obtain ⟨ht, hrest⟩ := List.forall_mem_cons.mp h
    rw [List.foldl_cons, ih hrest, translate_get? ht]

/-- A record has the identity that it is given, whatever it had under the names of it. -/
theorem withIdentity_get? {identity : List (String × String)}
    (distinct : (identity.map (·.1)).Nodup) (hmem : (k, v) ∈ identity) (r : Record) :
    (withIdentity identity r).get? k = some (.text v) := by
  induction identity using List.reverseRecOn with
  | nil => cases hmem
  | append_singleton identity label ih =>
    rw [List.map_append, List.nodup_append] at distinct
    rw [withIdentity, List.foldl_append]
    show ((withIdentity identity r).insert label.1 (.text label.2)).get? k = _
    rw [Dict.get?_insert]
    -- the names are distinct, so the last one is not written over those before it
    rcases List.mem_append.mp hmem with hmem | hmem
    · have hne : k ≠ label.1 :=
        distinct.2.2 k (List.mem_map_of_mem hmem) label.1 List.mem_cons_self
      rw [if_neg hne.symm, ih distinct.1 hmem]
    · cases List.mem_singleton.mp hmem
      rw [if_pos rfl]

theorem withIdentity_get?_of_ne {identity : List (String × String)} (h : ∀ e ∈ identity, e.1 ≠ k)
    (r : Record) : (withIdentity identity r).get? k = r.get? k := by
  induction identity generalizing r with
  | nil => rfl
  | cons label rest ih =>
    obtain ⟨hlabel, hrest⟩ := List.forall_mem_cons.mp h
    show (withIdentity rest (r.insert label.1 (.text label.2))).get? k = _
    rw [ih hrest, Dict.get?_insert, if_neg hlabel]

/-- A field that is neither of the identity nor translated is that of the raw record. -/
theorem normalize_get?_of_ne {s : Store} (h : s.normalize raw = some r)
    (spared : ∀ e ∈ s.identity, e.1 ≠ k) (untranslated : ∀ t ∈ s.translations, t.field ≠ k) :
    r.get? k = raw.normalizeKeys.get? k := by
  unfold normalize at h
  split at h
  · cases h
  · cases h
    rw [foldl_translate_get? untranslated, withIdentity_get?_of_ne spared]

/-- The translations of a store leave the names of an identity alone. -/
def Spares (translations : List Translation) (identity : List (String × String)) : Prop :=
  ∀ t ∈ translations, ∀ e ∈ identity, t.field ≠ e.1

/-- **A kept record tells the identity of its store.** -/
theorem normalize_identity {s : Store} (distinct : (s.identity.map (·.1)).Nodup)
    (spares : Spares s.translations s.identity) (h : s.normalize raw = some r) :
    ∀ e ∈ s.identity, r.get? e.1 = some (.text e.2) := by
  intro e he
  unfold normalize at h
  split at h
  · cases h
  · cases h
    rw [foldl_translate_get? fun t ht => spares t ht e he]
    exact withIdentity_get? distinct he _

/-! ## Samples -/

/-- Every sample of a series is read from a record. -/
theorem samplesOf_labels {names : List String} {d : SeriesDef} {records : List Record}
    {samples : List Sample} (h : samplesOf names d records = .ok samples) :
    ∀ x ∈ samples, ∃ r ∈ records, x.labels = names.map fun n => Json.label (r.get? n) := by
  intro x hx
  obtain ⟨r, hr, hsample⟩ := exists_of_mem_forall₂ (samplesOf_ok h).2 hx
  exact ⟨r, List.mem_of_mem_filter hr, hsample.labels_eq⟩

/-- A series that is shown is one that is declared, read from the records that the store has. -/
theorem mem_shown {s : Store} {x : Series} (h : x ∈ s.shown) :
    ∃ d ∈ s.series, x.kind = d.kind ∧ x.name = d.name ∧ x.labelNames = s.labelNames d ∧
      ∀ y ∈ x.samples, ∃ r ∈ s.snapshot.records,
        y.labels = x.labelNames.map fun n => Json.label (r.get? n) := by
  obtain ⟨d, hd, hx⟩ := exists_of_mem_forall₂ s.shown_forall₂ h
  obtain ⟨samples, hsamples, rfl⟩ := emit_eq_ok_iff.mp hx
  exact ⟨d, List.mem_of_mem_filter hd, rfl, rfl, rfl, samplesOf_labels hsamples⟩

theorem mem_collect? {s : Store} {t : Moment} {series : List Series}
    (h : s.collect? t = some series) : ∀ x ∈ series, x ∈ s.shown := by
  unfold collect? at h
  cases hfresh : s.fresh? t with
  | none => simp [hfresh] at h
  | some fresh =>
    rw [hfresh, Option.map_some, Option.some.injEq] at h
    subst h
    cases fresh with
    | false => simp
    | true => exact fun x hx => hx

end Store

/-! ## Identities of devices -/

/-- No translation of the catalog is of a field of the identity of devices. -/
theorem Catalog.groups_spare {g : Group} (hg : g ∈ groups) (identity : Identity) :
    ∀ st ∈ g.stages, Store.Spares st.translations identity.labels := by
  have hfields : ∀ g ∈ groups, ∀ st ∈ g.stages, ∀ t ∈ st.translations,
      t.field ≠ "device_name" ∧ t.field ≠ "device_address" := by decide
  intro st hst t ht
  obtain ⟨hname, haddress⟩ := hfields g hg st hst t ht
  exact List.forall_mem_cons.mpr ⟨hname, List.forall_mem_singleton.mpr haddress⟩

theorem Identity.labels_distinct (i : Identity) : (i.labels.map (·.1)).Nodup := by
  show ["device_name", "device_address"].Nodup
  decide

theorem Identity.labels_ne (i : Identity) {k : String} (hname : "device_name" ≠ k)
    (haddress : "device_address" ≠ k) : ∀ e ∈ i.labels, e.1 ≠ k :=
  List.forall_mem_cons.mpr ⟨hname, List.forall_mem_singleton.mpr haddress⟩

/-! ## Collectors -/

/-- A series that a stage declares, read from records that tell an identity. -/
structure Series.Reads (x : Series) (st : Stage) (d : SeriesDef)
    (identity : List (String × String)) : Prop where
  kind_eq : x.kind = d.kind
  name_eq : x.name = d.name
  labelNames_eq : x.labelNames = d.labelFields.getD st.labels ++ identity.map (·.1)
  records : ∀ y ∈ x.samples, ∃ r : Record,
    y.labels = x.labelNames.map (fun n => Json.label (r.get? n)) ∧
      ∀ e ∈ identity, r.get? e.1 = some (.text e.2)

/-- A series that a stage declares, each of whose samples is read from one of some records, which
tells an identity. -/
structure Series.ReadFrom (x : Series) (records : List Record) (st : Stage) (d : SeriesDef)
    (identity : List (String × String)) : Prop where
  kind_eq : x.kind = d.kind
  name_eq : x.name = d.name
  labelNames_eq : x.labelNames = d.labelFields.getD st.labels ++ identity.map (·.1)
  samples : ∀ y ∈ x.samples, ∃ r ∈ records,
    y.labels = x.labelNames.map (fun n => Json.label (r.get? n)) ∧
      ∀ e ∈ identity, r.get? e.1 = some (.text e.2)

theorem Series.ReadFrom.reads {x : Series} {records : List Record} {st : Stage} {d : SeriesDef}
    {identity : List (String × String)} (h : x.ReadFrom records st d identity) :
    x.Reads st d identity where
  kind_eq := h.kind_eq
  name_eq := h.name_eq
  labelNames_eq := h.labelNames_eq
  records := fun y hy =>
    let ⟨r, _, hlabels, htells⟩ := h.samples y hy
    ⟨r, hlabels, htells⟩

namespace Collector

variable {σ : Type}

theorem mapM_some {α β : Type} {f : α → Option (List β)} {l : List α} {found : List (List β)}
    (h : l.mapM f = some found) : found.flatten = l.flatMap fun a => (f a).getD [] := by
  induction l generalizing found with
  | nil =>
    cases h
    rfl
  | cons a rest ih =>
    rw [List.mapM_cons] at h
    cases ha : f a with
    | none => simp [ha] at h
    | some xs =>
      cases hrest : rest.mapM f with
      | none => simp [ha, hrest] at h
      | some later =>
        simp only [ha, hrest] at h
        cases h
        rw [List.flatten_cons, ih hrest, List.flatMap_cons, ha]
        rfl

theorem mem_getD {α : Type} {found : Option (List α)} {x : α} (h : x ∈ found.getD []) :
    ∃ xs, found = some xs ∧ x ∈ xs := by
  cases found with
  | none => cases h
  | some xs => exact ⟨xs, rfl, h⟩

theorem after_name (w : World σ) (c : Collector) (loads : List (Load σ)) :
    (c.after w loads).name = c.name := by
  induction loads generalizing c with
  | nil => rfl
  | cons l rest ih => exact ih _

/-- A store holds records that it has normalized itself. -/
theorem Holds.kept {w : World σ} {stages : List Stage} {loads : List (Load σ)} {i : Nat}
    {st : Stage} {held : Store} (h : Holds w stages loads i st held) :
    ∀ r ∈ held.snapshot.records, ∃ raw, held.normalize raw = some r := by
  intro r hr
  rcases h with ⟨_, l, _, _, rows, _, _, _, _, hsnapshot⟩ | ⟨-, hempty⟩
  · rw [hsnapshot] at hr
    obtain ⟨raw, -, hraw⟩ := List.mem_filterMap.mp hr
    exact ⟨raw, hraw⟩
  · rw [hempty] at hr
    cases hr

/-- **After any loads a collector shows series of its group, read from the records of their stage,
which tell its identity.** -/
theorem after_reads (w : World σ) {g : Group} {identity : List (String × String)}
    (distinct : (identity.map (·.1)).Nodup)
    (spares : ∀ st ∈ g.stages, Store.Spares st.translations identity) (interval : Duration)
    (loads : List (Load σ)) {t : Moment} {series : List Series}
    (h : ((g.collector identity interval).after w loads).collect? t = some series) :
    ∀ x ∈ series, ∃ live ∈ ((g.collector identity interval).after w loads).stages,
      live.stage ∈ g.stages ∧ ∃ d ∈ live.stage.series,
        x.ReadFrom live.store.snapshot.records live.stage d identity := by
  intro x hx
  obtain ⟨hstages, hall⟩ := after_holds w g identity interval loads
  rw [collect?, Option.map_eq_some_iff] at h
  obtain ⟨found, hfound, rfl⟩ := h
  rw [mapM_some hfound] at hx
  obtain ⟨live, hlive, hx⟩ := List.mem_flatMap.mp hx
  obtain ⟨xs, hxs, hx⟩ := mem_getD hx
  obtain ⟨d, hd, hkind, hname, hnames, hsamples⟩ := Store.mem_shown (Store.mem_collect? hxs x hx)
  obtain ⟨i, hi⟩ := List.getElem?_of_mem hlive
  obtain ⟨hmade, hholds⟩ := hall i live hi
  have hstage : live.stage ∈ g.stages := hstages ▸ List.mem_map_of_mem hlive
  obtain ⟨hidentity, hlabelled, htranslations, hseries, -⟩ := hmade.settings
  have hspares : Store.Spares live.store.translations live.store.identity := by
    rw [htranslations, hidentity]
    exact spares live.stage hstage
  refine ⟨live, hlive, hstage, d, hseries ▸ hd, hkind, hname, ?_, fun y hy => ?_⟩
  · rw [hnames, Store.labelNames, hidentity, hlabelled]
  · obtain ⟨r, hr, hlabels⟩ := hsamples y hy
    obtain ⟨raw, hraw⟩ := hholds.kept r hr
    have htells := Store.normalize_identity (hidentity.symm ▸ distinct) hspares hraw
    rw [hidentity] at htells
    exact ⟨r, hr, hlabels, htells⟩

/-- The samples of what is shown tell the collector's identity. -/
theorem after_shows (w : World σ) {g : Group} {identity : List (String × String)}
    (distinct : (identity.map (·.1)).Nodup)
    (spares : ∀ st ∈ g.stages, Store.Spares st.translations identity) (interval : Duration)
    (loads : List (Load σ)) {t : Moment} {series : List Series}
    (h : ((g.collector identity interval).after w loads).collect? t = some series) :
    ∀ x ∈ series, ∃ st ∈ g.stages, ∃ d ∈ st.series, x.Reads st d identity := by
  intro x hx
  obtain ⟨live, -, hstage, d, hd, hreads⟩ :=
    after_reads w distinct spares interval loads h x hx
  exact ⟨live.stage, hstage, d, hd, hreads.reads⟩

end Collector

end RouterMetrics

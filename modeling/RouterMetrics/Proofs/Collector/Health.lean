import RouterMetrics.Proofs.Collector.Normalization

/-!
# Two encodings of health readings

Up to its sixth release a device tells its health as one record with a field for each reading, and
since then as rows with the name and the value of one reading each. A row gets a field of the name
that it tells, so either way the kept records have one value in the field of each reading
(`Health.Encodes`), and the same series are shown of them (`Health.encodings_agree`).
-/

namespace RouterMetrics.Health

variable {i : Identity} {readings order : List (String × Json)} {field : String}

/-! ## Encodings -/

/-- The field that a reading is told in. -/
def fieldOf (e : String × Json) : String := normalizeKey e.1

/-- The fields of a row. -/
def rowFields : List String := ["name", "value", "type"]

/-- Readings whose fields are apart from each other, from those of a row, and from the one that
tells whether a record is switched off. -/
structure Tellable (readings : List (String × Json)) : Prop where
  nonempty : readings ≠ []
  distinct : (readings.map fieldOf).Nodup
  apart : ∀ e ∈ readings, fieldOf e ∉ "disabled" :: rowFields

/-- A row that tells a reading and may have a type. One without a value tells null. -/
structure RowOf (e : String × Json) (row : Record) : Prop where
  name : row.get? "name" = some (.text e.1)
  value : (row.get? "value").getD .null = e.2
  only : ∀ k ∉ rowFields, row.get? k = none

/-- Rows that tell readings, one each and in any order. -/
def RowsOf (readings : List (String × Json)) (rows : List Record) : Prop :=
  ∃ order, order.Perm readings ∧ List.Forall₂ RowOf order rows

/-- The reading that is told in a field. -/
def reading? (readings : List (String × Json)) (field : String) : Option Json :=
  (readings.find? fun e => fieldOf e = field).map (·.2)

theorem reading?_eq_some_iff (distinct : (readings.map fieldOf).Nodup) {v : Json} :
    reading? readings field = some v ↔ ∃ e ∈ readings, fieldOf e = field ∧ e.2 = v := by
  unfold reading?
  rw [Option.map_eq_some_iff]
  constructor
  · rintro ⟨e, hfound, hv⟩
    exact ⟨e, List.mem_of_find?_eq_some hfound, by simpa using List.find?_some hfound, hv⟩
  · rintro ⟨e, he, hfield, rfl⟩
    have hsome : (readings.find? fun e => fieldOf e = field).isSome = true :=
      List.find?_isSome.mpr ⟨e, he, by simpa using hfield⟩
    obtain ⟨e', hfound⟩ := Option.isSome_iff_exists.mp hsome
    have hfield' : fieldOf e' = field := by simpa using List.find?_some hfound
    have hsame : e' = e := List.inj_on_of_nodup_map distinct (List.mem_of_find?_eq_some hfound) he
      (hfield'.trans hfield.symm)
    exact ⟨e', hfound, congrArg Prod.snd hsame⟩

/-- What one reading tells in a field. -/
def told (field : String) (e : String × Json) : Option Json :=
  if fieldOf e = field then some e.2 else none

theorem filterMap_told (distinct : (readings.map fieldOf).Nodup) (field : String) :
    readings.filterMap (told field) = (reading? readings field).toList := by
  induction readings with
  | nil => rfl
  | cons e rest ih =>
    obtain ⟨hnew, hrest⟩ := List.nodup_cons.mp distinct
    rw [reading?, List.filterMap_cons, List.find?_cons, told]
    by_cases he : fieldOf e = field
    · have hnone : rest.filterMap (told field) = [] := by
        refine List.filterMap_eq_nil_iff.mpr fun e' he' => if_neg fun heq => hnew ?_
        exact List.mem_map.mpr ⟨e', he', heq.trans he.symm⟩
      simp [he, hnone]
    · simpa [he, reading?] using ih hrest

/-- **In each field at most one reading is told**, whatever order they are in. -/
theorem filterMap_told_of_perm (distinct : (readings.map fieldOf).Nodup)
    (h : order.Perm readings) (field : String) :
    order.filterMap (told field) = (reading? readings field).toList := by
  have hdistinct : (order.map fieldOf).Nodup := (h.map fieldOf).nodup_iff.mpr distinct
  rw [filterMap_told hdistinct]
  congr 1
  refine Option.ext fun v => ?_
  simp only [reading?_eq_some_iff hdistinct, reading?_eq_some_iff distinct, h.mem_iff]

/-! ## Raw records -/

theorem normalizeKey_rowField : ∀ k ∈ "disabled" :: rowFields, normalizeKey k = k := by decide

theorem Tellable.key_ne (h : Tellable readings) {k : String}
    (hk : k ∈ "disabled" :: rowFields) : ∀ e ∈ readings, e.1 ≠ k := by
  rintro e he rfl
  refine h.apart e he ?_
  rwa [fieldOf, normalizeKey_rowField _ hk]

theorem Tellable.keys_distinct (h : Tellable readings) : (readings.map (·.1)).Nodup := by
  have hfields : readings.map fieldOf = (readings.map (·.1)).map normalizeKey := by
    rw [List.map_map]
    rfl
  exact (hfields ▸ h.distinct).of_map

/-- **The one record has each reading in its field.** -/
theorem Tellable.record_get? (h : Tellable readings) (field : String) :
    (Record.normalizeKeys (Dict.ofList readings)).get? field = reading? readings field := by
  refine Option.ext fun v => ?_
  simp only [Record.normalizeKeys_get?_iff, Dict.ofList_get?_iff_mem h.keys_distinct,
    reading?_eq_some_iff h.distinct]
  constructor
  · rintro ⟨name, hmem, hfield, -⟩
    exact ⟨(name, v), hmem, hfield, rfl⟩
  · rintro ⟨⟨name, v⟩, hmem, hfield, rfl⟩
    refine ⟨name, hmem, hfield, fun name' v' hmem' hfield' => ?_⟩
    have hsame : (name', v') = (name, v) :=
      List.inj_on_of_nodup_map h.distinct hmem' hmem (hfield'.trans hfield.symm)
    cases hsame
    exact Std.le_refl _

theorem RowOf.foldReading {e : String × Json} {row : Record} (h : RowOf e row) :
    Catalog.foldReading row = row.insert e.1 e.2 := by
  have hname : row.text? "name" = some e.1 := Record.text?_eq_some_iff.mpr h.name
  rw [Catalog.foldReading, hname, ← h.value]

/-- **A row has its reading in the field of it**, and nothing in other fields but its own. -/
theorem RowOf.get? {e : String × Json} {row : Record} (h : RowOf e row)
    (hfield : field ∉ rowFields) :
    (Record.normalizeKeys (row.insert e.1 e.2)).get? field = told field e := by
  -- only the name that the row tells can come to the field
  have hown : ∀ name v, row.get? name = some v → normalizeKey name ≠ field := by
    intro name v hget hnormal
    have hname : name ∈ rowFields := by
      by_contra hother
      rw [h.only name hother] at hget
      cases hget
    rw [normalizeKey_rowField name (List.mem_cons_of_mem _ hname)] at hnormal
    exact hfield (hnormal ▸ hname)
  rw [told]
  by_cases he : fieldOf e = field
  · rw [if_pos he]
    have hget : (row.insert e.1 e.2).get? e.1 = some e.2 := by rw [Dict.get?_insert, if_pos rfl]
    refine Record.normalizeKeys_get?_iff.mpr ⟨e.1, hget, he, fun name v hother hnormal => ?_⟩
    have hname : e.1 = name := by
      by_contra hne
      rw [Dict.get?_insert, if_neg hne] at hother
      exact hown name v hother hnormal
    subst hname
    exact Std.le_refl _
  · rw [if_neg he]
    refine Record.normalizeKeys_get?_eq_none_iff.mpr fun name v hget hnormal => ?_
    rw [Dict.get?_insert] at hget
    by_cases hname : e.1 = name
    · subst hname
      exact he hnormal
    · rw [if_neg hname] at hget
      exact hown name v hget hnormal

/-! ## Kept records -/

/-- The fields that a record has without a reading. -/
def ownFields : List String := rowFields ++ ["device_name", "device_address"]

/-- Records that a store keeps of readings: they tell the identity of their device, and in any field
that they have not without readings there is the value of its reading, in one of them. -/
structure Encodes (i : Identity) (readings : List (String × Json)) (records : List Record) :
    Prop where
  nonempty : records ≠ []
  identified : ∀ r ∈ records, ∀ e ∈ i.labels, r.get? e.1 = some (.text e.2)
  values : ∀ field ∉ ownFields,
    (records.filterMap fun r => r.get? field) = (reading? readings field).toList

/-- The one stage of the group. -/
theorem stage : ∃ st, Catalog.health.stages = [st] ∧ st.labels = [] ∧ st.translations = [] ∧
    (∀ d rows, st.process d rows = rows.map Catalog.foldReading) ∧
    ∀ d ∈ st.series, d.kind = .gauge ∧ d.labelFields = none ∧
      ∃ field ∈ d.valueField, field ∉ ownFields := by
  refine ⟨_, rfl, rfl, rfl, fun d rows => ?_, by decide⟩
  exact congrFun (List.filterMap_eq_map' (f := Catalog.foldReading)) rows

open Collector (filled)

/-- What a store without translations keeps of a record that is not switched off. -/
def kept (i : Identity) (raw : Record) : Record := Store.withIdentity i.labels raw.normalizeKeys

theorem filled_records {st : Stage} (h : st.translations = []) {raws : List Record}
    (on : ∀ raw ∈ raws, raw.get? "disabled" = none) (i : Identity) (interval : Duration)
    (now : Moment) :
    (filled st i.labels interval raws now).snapshot.records = raws.map (kept i) := by
  have hkept : ∀ raw ∈ raws, (filled st i.labels interval raws now).normalize raw =
      some (kept i raw) := by
    intro raw hraw
    have hon : raw.isDisabled = false := by
      rw [Record.isDisabled, on raw hraw]
      rfl
    show (if raw.isDisabled then none else some (st.translations.foldl _ _)) = _
    rw [hon, h]
    rfl
  exact (List.filterMap_congr hkept).trans (congrFun List.filterMap_eq_map' raws)

theorem kept_identified (i : Identity) (raw : Record) :
    ∀ e ∈ i.labels, (kept i raw).get? e.1 = some (.text e.2) := fun _ he =>
  Store.withIdentity_get? i.labels_distinct he _

theorem kept_get? (hfield : field ∉ ownFields) (i : Identity) (raw : Record) :
    (kept i raw).get? field = raw.normalizeKeys.get? field := by
  refine Store.withIdentity_get?_of_ne (fun e he heq => hfield ?_) _
  have hname : e.1 ∈ i.labels.map (·.1) := List.mem_map_of_mem he
  rw [heq] at hname
  exact List.mem_append_right rowFields hname

/-- **The one record encodes its readings.** -/
theorem Tellable.encodes_record (h : Tellable readings) (i : Identity) :
    Encodes i readings ([Dict.ofList readings].map (kept i)) where
  nonempty := List.cons_ne_nil _ _
  identified := List.forall_mem_singleton.mpr (kept_identified i _)
  values := by
    intro field hfield
    rw [List.map_singleton, List.filterMap_cons, List.filterMap_nil, kept_get? hfield,
      h.record_get?]
    cases reading? readings field with
    | none => rfl
    | some v => rfl

/-- **Rows encode their readings.** -/
theorem Tellable.encodes_rows (h : Tellable readings) {rows : List Record}
    (hrows : RowsOf readings rows) (i : Identity) :
    Encodes i readings ((rows.map Catalog.foldReading).map (kept i)) := by
  obtain ⟨order, hperm, hall⟩ := hrows
  rw [List.map_map]
  refine ⟨?_, ?_, fun field hfield => ?_⟩
  · have hlength : rows.length = readings.length := hall.length_eq.symm.trans hperm.length_eq
    rw [ne_eq, List.map_eq_nil_iff, ← List.length_eq_zero_iff, hlength, List.length_eq_zero_iff]
    exact h.nonempty
  · exact List.forall_mem_map.mpr fun row _ => kept_identified i _
  · have hrow : ∀ e row, RowOf e row →
        told field e = (kept i (Catalog.foldReading row)).get? field := by
      intro e row hrow
      rw [kept_get? hfield, hrow.foldReading, hrow.get? fun h => hfield (List.mem_append_left _ h)]
    rw [← filterMap_told_of_perm h.distinct hperm, List.filterMap_map]
    exact (filterMap_of_forall₂ hall hrow).symm

/-! ## Samples -/

/-- The samples that a reading gives to a series: none when it is absent or null. One that is no
number fails the series. -/
def samples? (i : Identity) : Option Json → Option (List Sample)
  | none => some []
  | some .null => some []
  | some v => v.numeric.map fun x => [⟨[i.name, i.address], x⟩]

theorem samples?_of_ne_null {v : Json} (h : v ≠ .null) :
    samples? i (some v) = v.numeric.map fun x => [⟨[i.name, i.address], x⟩] := by
  cases v with
  | null => exact absurd rfl h
  | _ => rfl

/-- What is shown of a series by its reading. -/
def series? (i : Identity) (readings : List (String × Json)) (d : SeriesDef) : Option Series :=
  (samples? i (d.valueField.bind (reading? readings))).map fun samples =>
    ⟨d.kind, d.name, d.help, ["device_name", "device_address"], samples⟩

section Samples

open Store

variable {names : List String} {d : SeriesDef} {r : Record} {before records : List Record}

theorem sampleOf_of_absent (hkind : d.kind ≠ .info) (hfield : d.valueField = some field)
    (h : r.get? field = none) : sampleOf names d r = .ok none := by
  rw [sampleOf, valueOf_field hkind hfield, h]
  rfl

/-- Records without the field of a series are passed over. -/
theorem samplesOf_append (hkind : d.kind ≠ .info) (hfield : d.valueField = some field)
    (h : ∀ r ∈ before, r.get? field = none) (records : List Record) :
    samplesOf names d (before ++ records) = samplesOf names d records := by
  induction before with
  | nil => rfl
  | cons r rest ih =>
    obtain ⟨hfirst, hrest⟩ := List.forall_mem_cons.mp h
    rw [List.cons_append, samplesOf, sampleOf_of_absent hkind hfield hfirst]
    dsimp only
    rw [ih hrest]
    cases samplesOf names d records with
    | error e => rfl
    | ok samples => rfl

/-- A record with a reading in the field of a series gives the sample of it. -/
theorem sampleOf_of_reading {v : Json} (hkind : d.kind ≠ .info) (hfield : d.valueField = some field)
    (hr : r.get? field = some v) (identified : ∀ e ∈ i.labels, r.get? e.1 = some (.text e.2)) :
    (sampleOf ["device_name", "device_address"] d r).toOption.map Option.toList =
      samples? i (some v) := by
  have hname := identified ("device_name", i.name) List.mem_cons_self
  have haddress := identified ("device_address", i.address)
    (List.mem_cons_of_mem _ List.mem_cons_self)
  have hlabels : (["device_name", "device_address"].map fun n => Json.label (r.get? n)) =
      [i.name, i.address] := by
    rw [List.map_cons, List.map_singleton, hname, haddress]
    rfl
  rw [sampleOf, valueOf_field hkind hfield, hlabels]
  split
  case h_1 hget =>
    rw [hr] at hget
    cases hget
  case h_2 hget =>
    obtain rfl : v = .null := Option.some.inj (hr.symm.trans hget)
    rfl
  case h_3 v' hv hget =>
    obtain rfl : v = v' := Option.some.inj (hr.symm.trans hget)
    rw [samples?_of_ne_null fun hnull => hv (hnull ▸ rfl)]
    cases v.numeric with
    | none => rfl
    | some x => rfl

/-- **Records that encode readings give the samples of the one in the field of a series.** -/
theorem Encodes.samplesOf (h : Encodes i readings records) (hkind : d.kind ≠ .info)
    (hfield : d.valueField = some field) (hown : field ∉ ownFields) :
    (Store.samplesOf ["device_name", "device_address"] d records).toOption =
      samples? i (reading? readings field) := by
  have hvalues := h.values field hown
  cases hread : reading? readings field with
  | none =>
    rw [hread] at hvalues
    have habsent := List.filterMap_eq_nil_iff.mp hvalues
    rw [← List.append_nil records, samplesOf_append hkind hfield habsent]
    rfl
  | some v =>
    rw [hread] at hvalues
    -- one record has the reading, and those before and after it are passed over
    obtain ⟨before, r, later, rfl, hbefore, hr, hlater⟩ := List.filterMap_eq_cons_iff.mp hvalues
    have hnone : Store.samplesOf ["device_name", "device_address"] d later = .ok [] := by
      have habsent := List.filterMap_eq_nil_iff.mp hlater
      rw [← List.append_nil later, samplesOf_append hkind hfield habsent]
      rfl
    rw [samplesOf_append hkind hfield hbefore, Store.samplesOf, hnone,
      ← sampleOf_of_reading hkind hfield hr (h.identified r (by simp))]
    cases sampleOf _ d r with
    | error e => rfl
    | ok found => simp [Except.map, Except.toOption]

end Samples

/-! ## What is shown -/

/-- The series that are shown of readings. -/
def shown (i : Identity) (readings : List (String × Json)) : List Series :=
  (Catalog.health.stages.flatMap (·.series)).filterMap (series? i readings)

/-- **Of a store whose records encode readings the series of these are shown.** -/
theorem Encodes.shown_eq {interval : Duration} {st : Stage} (single : Catalog.health.stages = [st])
    {raws : List Record} {now : Moment}
    (h : Encodes i readings (filled st i.labels interval raws now).snapshot.records) :
    (filled st i.labels interval raws now).shown = shown i readings := by
  obtain ⟨st', hstage, hlabels, -, -, hseries⟩ := stage
  obtain rfl : st' = st := List.singleton_inj.mp (hstage.symm.trans single)
  have hall : Catalog.health.stages.flatMap (·.series) = st'.series := by
    rw [single, List.flatMap_singleton]
  rw [shown, hall]
  refine List.filterMap_congr fun d hd => ?_
  obtain ⟨hkind, hnone, field, hfield, hown⟩ := hseries d hd
  have hnames : (filled st' i.labels interval raws now).labelNames d =
      ["device_name", "device_address"] := by
    show d.labelFields.getD st'.labels ++ _ = _
    rw [hnone, hlabels]
    rfl
  have hsamples := h.samplesOf (by rw [hkind]; decide) hfield hown
  rw [Store.emit, hnames, series?, hfield, Option.bind_some, ← hsamples]
  cases Store.samplesOf _ d _ with
  | error e => rfl
  | ok samples => rfl

/-- A store that has records shows its series until the window has passed. -/
theorem collect?_of_records {s : Store} {now : Moment} (stamped : s.snapshot.stamp = some now)
    (nonempty : s.snapshot.records ≠ []) (t : Moment) :
    s.collect? t = s.window?.map fun w => if t - now < (w.ns : Int) then s.shown else [] := by
  have hsome : s.snapshot.records.isEmpty = false := List.isEmpty_eq_false_iff.mpr nonempty
  rw [Store.collect?, Store.fresh?, stamped, hsome]
  cases s.window? with
  | none => rfl
  | some w => simp

theorem collect?_single {c : Collector} {live : LiveStage} (h : c.stages = [live]) (t : Moment) :
    c.collect? t = live.store.collect? t := by
  rw [Collector.collect?, h]
  cases hlive : live.store.collect? t with
  | none => simp [hlive]
  | some series => simp [hlive]

/-- **A load whose rows encode readings shows the series of these**, until the window has passed. -/
theorem collect?_of_encodes {σ : Type} {w : World σ} {l : Load σ} {d : Option Device}
    {rows : List Record} (got : l.fetches w Catalog.health.stages = [.ok (d, rows)])
    (on : ∀ raw ∈ rows.map Catalog.foldReading, raw.get? "disabled" = none)
    (h : Encodes i readings ((rows.map Catalog.foldReading).map (kept i))) (interval : Duration)
    (before : List (Load σ)) (t : Moment) :
    ((Catalog.health.collector i.labels interval).after w (before ++ [l])).collect? t =
      ((interval.scale? 3).map (·.divide 2)).map fun window =>
        if t - l.now < (window.ns : Int) then shown i readings else [] := by
  obtain ⟨st, single, -, htranslations, hprocess, -⟩ := stage
  rw [collect?_single (Collector.after_single single got i.labels interval before), hprocess]
  have hrecords := filled_records htranslations on i interval l.now
  rw [← hrecords] at h
  rw [collect?_of_records rfl h.nonempty, h.shown_eq single]
  rfl

theorem Tellable.record_absent (h : Tellable readings) {k : String}
    (hk : k ∈ "disabled" :: rowFields) : (Dict.ofList readings).get? k = none :=
  Dict.ofList_get?_eq_none_iff.mpr (h.key_ne hk)

theorem Tellable.foldReading_record (h : Tellable readings) :
    Catalog.foldReading (Dict.ofList readings) = Dict.ofList readings := by
  have hname : Record.text? (Dict.ofList readings) "name" = none := by
    rw [Record.text?, h.record_absent (by decide)]
    rfl
  rw [Catalog.foldReading, hname]

theorem Tellable.rows_on (h : Tellable readings) {rows : List Record}
    (hrows : RowsOf readings rows) :
    ∀ raw ∈ rows.map Catalog.foldReading, raw.get? "disabled" = none := by
  obtain ⟨order, hperm, hall⟩ := hrows
  refine List.forall_mem_map.mpr fun row hrow => ?_
  obtain ⟨e, he, htold⟩ := exists_of_mem_forall₂ hall hrow
  have hkey := h.key_ne (k := "disabled") (by simp) e (hperm.mem_iff.mp he)
  rw [htold.foldReading, Dict.get?_insert, if_neg hkey]
  exact htold.only "disabled" (by decide)

/-- **Both encodings of health readings show the same.** Readings are loaded as the fields of one
record, and as rows in any order, at one time and after any earlier loads. At every moment the same
series are shown of both: while the snapshot is fresh each series of the group, with a sample of its
reading and without one when that is absent or null, but for those whose reading is no number. -/
theorem encodings_agree {σ τ : Type} (i : Identity) (interval : Duration)
    (tellable : Tellable readings) {w : World σ} {l : Load σ} {d : Option Device}
    (got : l.fetches w Catalog.health.stages = [.ok (d, [Dict.ofList readings])])
    {w' : World τ} {l' : Load τ} {d' : Option Device} {rows : List Record}
    (got' : l'.fetches w' Catalog.health.stages = [.ok (d', rows)])
    (rowsOf : RowsOf readings rows) (at_once : l.now = l'.now) (before : List (Load σ))
    (before' : List (Load τ)) (t : Moment) :
    let c := (Catalog.health.collector i.labels interval).after w (before ++ [l])
    let c' := (Catalog.health.collector i.labels interval).after w' (before' ++ [l'])
    c.collect? t = c'.collect? t ∧ ((interval.scale? 3).isSome = true →
      c'.collect? t =
        some (if t - l'.now < (interval.ns * 3 / 2 : Nat) then shown i readings else [])) := by
  intro c c'
  have hrecord : [Dict.ofList readings].map Catalog.foldReading = [Dict.ofList readings] := by
    rw [List.map_singleton, tellable.foldReading_record]
  have hon : ∀ raw ∈ [Dict.ofList readings].map Catalog.foldReading,
      raw.get? "disabled" = none := by
    rw [hrecord]
    exact List.forall_mem_singleton.mpr (tellable.record_absent List.mem_cons_self)
  have hencodes : Encodes i readings
      (([Dict.ofList readings].map Catalog.foldReading).map (kept i)) := by
    rw [hrecord]
    exact tellable.encodes_record i
  have hc := collect?_of_encodes got hon hencodes interval before t
  have hc' := collect?_of_encodes got' (tellable.rows_on rowsOf) (tellable.encodes_rows rowsOf i)
    interval before' t
  refine ⟨by rw [hc, hc', at_once], fun fits => ?_⟩
  obtain ⟨window, hwindow, hns⟩ :=
    Store.window?_eq (s := Store.create i.labels [] [] [] interval) fits
  have hscaled : (interval.scale? 3).map (·.divide 2) = some window := hwindow
  rw [hc', hscaled, Option.map_some, hns]
  rfl

/-- What a rack tells of its health. The temperature of its processor is not known, and one of its
fans does not tell its speed as a number. -/
def rack : List (String × Json) :=
  [("voltage", .text "24"), ("cpu-temperature", .null), ("fan1-speed", .text "off"),
   ("fan2-speed", .int 4200)]

/-- A row of a reading. -/
def row (e : String × Json) : Record :=
  Dict.ofList [("name", .text e.1), ("value", e.2), ("type", .text "V")]

theorem rowOf_row (e : String × Json) : RowOf e (row e) where
  name := by simp [row, Dict.ofList, Dict.get?_insert]
  value := by simp [row, Dict.ofList, Dict.get?_insert]
  only := by
    intro k hk
    refine Dict.ofList_get?_eq_none_iff.mpr ?_
    simpa [rowFields, eq_comm] using hk

theorem rack_tellable : Tellable rack where
  nonempty := List.cons_ne_nil _ _
  distinct := by decide
  apart := by decide

/-- Of both encodings the series of the first fan is left out, and that of the temperature has no
sample. -/
theorem encodings_agree_rack :
    let l := Collector.answered 10 [.ok [Dict.ofList rack]]
    let l' := Collector.answered 10 [.ok (rack.reverse.map row)]
    let c := (Catalog.health.collector Collector.gateway.identity.labels (.ofSeconds 10)).after
      Collector.dictated [l]
    let c' := (Catalog.health.collector Collector.gateway.identity.labels (.ofSeconds 10)).after
      Collector.dictated [l']
    let t := Moment.after 0 (.ofSeconds 12)
    (Tellable rack ∧ RowsOf rack (rack.reverse.map row)) ∧ c.collect? t = c'.collect? t ∧
      (c.collect? t).map (fun series => series.map fun x => (x.name, x.samples.map (·.labels))) =
        some [("system_routerboard_voltage", [["gateway", "10.0.0.1"]]),
          ("system_routerboard_temperature", []), ("system_routerboard_phy_temperature", []),
          ("system_cpu_temperature", []), ("system_switch_temperature", []),
          ("system_fan_two_speed", [["gateway", "10.0.0.1"]]), ("system_fan_three_speed", []),
          ("system_fan_four_speed", []), ("system_power_consumption", [])] := by
  intro l l' c c' t
  have hrows : RowsOf rack (rack.reverse.map row) := by
    refine ⟨rack.reverse, List.reverse_perm rack, ?_⟩
    exact List.forall₂_map_right_iff.mpr (List.forall₂_same.mpr fun e _ => rowOf_row e)
  have got : l.fetches Collector.dictated Catalog.health.stages =
      [.ok (some Collector.gateway, [Dict.ofList rack])] := rfl
  have got' : l'.fetches Collector.dictated Catalog.health.stages =
      [.ok (some Collector.gateway, rack.reverse.map row)] := rfl
  obtain ⟨hsame, hshown⟩ := encodings_agree Collector.gateway.identity (.ofSeconds 10)
    rack_tellable got got' hrows rfl [] [] t
  refine ⟨⟨rack_tellable, hrows⟩, hsame, ?_⟩
  have hfresh := hsame.trans (hshown (by decide))
  rw [show c.collect? t = _ from hfresh]
  decide +kernel

end RouterMetrics.Health

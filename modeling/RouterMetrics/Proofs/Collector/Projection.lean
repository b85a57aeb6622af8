import RouterMetrics.Proofs.Collector.Snapshots
import RouterMetrics.Proofs.Lists

/-!
# How a series is read from records

A record gives a sample of a series, or is passed over because it has no value, or its value is no
number (`Store.Projects`). The first record of the last kind fails the series; without one there is
a sample of every record that counts, in their order (`Store.projection`). Every series is read from
the snapshot on its own, so one that fails is left out and changes no other.
-/

namespace RouterMetrics

namespace SeriesDef

/-- A record has a value in the field of a series that is no number, and not null either. An info
has no field that is looked at. -/
def Unreadable (d : SeriesDef) (r : Record) (field : String) (v : Json) : Prop :=
  d.kind ≠ .info ∧ d.valueField = some field ∧ r.get? field = some v ∧ v ≠ .null ∧ v.numeric = none

/-- A record counts for a series that reads no field, and when it has a value that is not null in
the field that is read. -/
def Counts (d : SeriesDef) (r : Record) : Prop :=
  d.kind = .info ∨ ∀ field, d.valueField = some field → ∃ v, r.get? field = some v ∧ v ≠ .null

/-- A value that is there and not null. -/
def hasValue : Option Json → Bool
  | none => false
  | some .null => false
  | some _ => true

theorem hasValue_iff {found : Option Json} :
    hasValue found = true ↔ ∃ v, found = some v ∧ v ≠ .null := by
  cases found with
  | none => simp [hasValue]
  | some v => cases v <;> simp [hasValue]

instance (d : SeriesDef) (r : Record) : Decidable (d.Counts r) :=
  decidable_of_iff (d.kind = .info ∨ ∀ field ∈ d.valueField, hasValue (r.get? field) = true) (by
    simp only [Counts, hasValue_iff, Option.mem_def])

end SeriesDef

namespace Store

variable {s : Store} {d : SeriesDef} {r : Record} {names : List String} {records : List Record}

/-! ## One record -/

/-- The sample of a record that counts: a text for every label, and the number of its value or one
for a series that reads no field. -/
structure SampleOf (names : List String) (d : SeriesDef) (r : Record) (x : Sample) : Prop where
  labels_eq : x.labels = names.map fun n => Json.label (r.get? n)
  constant : d.kind = .info ∨ d.valueField = none → x.value = Decimal.ofInt 1
  measured : d.kind ≠ .info → ∀ field v, d.valueField = some field → r.get? field = some v →
    v.numeric = some x.value

/-- What a record comes to in a series. -/
inductive Projects (names : List String) (d : SeriesDef) (r : Record) :
    Except CoercionError (Option Sample) → Prop
  | unreadable {field : String} {v : Json} : d.Unreadable r field v →
      Projects names d r (.error ⟨d.name, field, Json.label (some v)⟩)
  | passed : (∀ field v, ¬ d.Unreadable r field v) → ¬ d.Counts r → Projects names d r (.ok none)
  | sampled {x : Sample} : (∀ field v, ¬ d.Unreadable r field v) → d.Counts r →
      SampleOf names d r x → Projects names d r (.ok (some x))

theorem sampleOf_constant (h : d.kind = .info ∨ d.valueField = none) :
    sampleOf names d r =
      .ok (some ⟨names.map fun n => Json.label (r.get? n), Decimal.ofInt 1⟩) := by
  have hvalue : valueOf d r = .ok (some (Decimal.ofInt 1)) := by
    unfold valueOf
    rcases h with hkind | hfield
    · rw [hkind]
    · rw [hfield]
      cases d.kind <;> rfl
  rw [sampleOf, hvalue]
  rfl

theorem valueOf_field {field : String} (hkind : d.kind ≠ .info)
    (hfield : d.valueField = some field) :
    valueOf d r =
      match r.get? field with
      | none => .ok none
      | some .null => .ok none
      | some v =>
        match v.numeric with
        | some x => .ok (some x)
        | none => .error ⟨d.name, field, Json.label (some v)⟩ := by
  unfold valueOf
  rw [hfield]
  cases h : d.kind with
  | info => exact absurd h hkind
  | gauge => rfl
  | counter => rfl

/-- **A record is unreadable, or passed over, or gives its sample.** -/
theorem sampleOf_projects (names : List String) (d : SeriesDef) (r : Record) :
    Projects names d r (sampleOf names d r) := by
  by_cases hconstant : d.kind = .info ∨ d.valueField = none
  · rw [sampleOf_constant hconstant]
    refine .sampled ?_ ?_ ⟨rfl, fun _ => rfl, ?_⟩
    · rintro field v ⟨hkind, hfield, -⟩
      rcases hconstant with h | h
      · exact hkind h
      · simp [h] at hfield
    · exact hconstant.imp id fun h field hfield => by simp [h] at hfield
    · intro hkind field v hfield
      simp [hconstant.resolve_left hkind] at hfield
  · obtain ⟨hkind, hsome⟩ := not_or.mp hconstant
    obtain ⟨field, hfield⟩ := Option.ne_none_iff_exists'.mp hsome
    have hcounts : d.Counts r ↔ ∃ v, r.get? field = some v ∧ v ≠ .null := by
      simp [SeriesDef.Counts, hkind, hfield]
    have hreadable : (∀ v, r.get? field = some v → v ≠ .null → v.numeric ≠ none) →
        ∀ field v, ¬ d.Unreadable r field v := by
      rintro h field' v ⟨-, hfield', hget, hv, hnumeric⟩
      obtain rfl : field = field' := Option.some.inj (hfield.symm.trans hfield')
      exact h v hget hv hnumeric
    unfold sampleOf
    rw [valueOf_field hkind hfield]
    split
    case h_1 hget => exact .passed (hreadable (by simp [hget])) (by simp [hcounts, hget])
    case h_2 hget => exact .passed (hreadable (by simp [hget])) (by simp [hcounts, hget])
    case h_3 v hv hget =>
      split
      case h_1 x hx =>
        refine .sampled (hreadable ?_) (hcounts.mpr ⟨v, hget, hv⟩) ⟨rfl, ?_, ?_⟩
        · simp [hget, hx]
        · exact fun h => absurd h hconstant
        · intro _ field' v' hfield' hget'
          obtain rfl : field = field' := Option.some.inj (hfield.symm.trans hfield')
          obtain rfl : v = v' := Option.some.inj (hget.symm.trans hget')
          exact hx
      case h_2 hnumeric => exact .unreadable ⟨hkind, hfield, hget, hv, hnumeric⟩

/-! ## Records in their order -/

/-- **A series fails with the first record that is unreadable.** -/
theorem samplesOf_error {e : CoercionError} (h : samplesOf names d records = .error e) :
    ∃ before r later field v, records = before ++ r :: later ∧
      (∀ x ∈ before, ∀ field v, ¬ d.Unreadable x field v) ∧ d.Unreadable r field v ∧
      e = ⟨d.name, field, Json.label (some v)⟩ := by
  induction records with
  | nil => cases h
  | cons r rest ih =>
    have hprojects := sampleOf_projects names d r
    rw [samplesOf] at h
    split at h
    case h_1 e' hsample =>
      cases h
      rw [hsample] at hprojects
      cases hprojects with
      | unreadable hunreadable => exact ⟨[], r, rest, _, _, rfl, by simp, hunreadable, rfl⟩
    case h_2 found hsample =>
      rw [hsample] at hprojects
      have hreadable : ∀ field v, ¬ d.Unreadable r field v := by
        cases hprojects with
        | passed hreadable => exact hreadable
        | sampled hreadable => exact hreadable
      cases hrest : samplesOf names d rest with
      | ok samples => simp [hrest, Except.map] at h
      | error e' =>
        obtain rfl : e' = e := by simpa [hrest, Except.map] using h
        obtain ⟨before, r', later, field, v, rfl, hbefore, hlast⟩ := ih hrest
        exact ⟨r :: before, r', later, field, v, rfl,
          List.forall_mem_cons.mpr ⟨hreadable, hbefore⟩, hlast⟩

/-- **Else it has a sample of every record that counts, in their order.** -/
theorem samplesOf_ok {samples : List Sample} (h : samplesOf names d records = .ok samples) :
    (∀ r ∈ records, ∀ field v, ¬ d.Unreadable r field v) ∧
      List.Forall₂ (SampleOf names d) (records.filter fun r => d.Counts r) samples := by
  induction records generalizing samples with
  | nil =>
    cases h
    exact ⟨by simp, .nil⟩
  | cons r rest ih =>
    have hprojects := sampleOf_projects names d r
    rw [samplesOf] at h
    split at h
    case h_1 => cases h
    case h_2 found hsample =>
      rw [hsample] at hprojects
      cases hrest : samplesOf names d rest with
      | error e => simp [hrest, Except.map] at h
      | ok later =>
        obtain ⟨hreadable, hlater⟩ := ih hrest
        obtain rfl : found.toList ++ later = samples := by simpa [hrest, Except.map] using h
        cases hprojects with
        | passed hr hcounts =>
          refine ⟨List.forall_mem_cons.mpr ⟨hr, hreadable⟩, ?_⟩
          rw [List.filter_cons_of_neg (by simpa using hcounts)]
          exact hlater
        | sampled hr hcounts hx =>
          refine ⟨List.forall_mem_cons.mpr ⟨hr, hreadable⟩, ?_⟩
          rw [List.filter_cons_of_pos (by simpa using hcounts)]
          exact .cons hx hlater

/-- A series whose samples are known record by record has them in their order. -/
theorem samplesOf_of_forall₂ {α : Type} {rows : List α} {sample : α → Option Sample}
    (h : List.Forall₂ (fun a r => sampleOf names d r = .ok (sample a)) rows records) :
    samplesOf names d records = .ok (rows.filterMap sample) := by
  induction h with
  | nil => rfl
  | @cons a r rows records hfirst _ ih =>
    rw [samplesOf, hfirst, ih, List.filterMap_cons]
    cases sample a with
    | none => rfl
    | some x => rfl

/-! ## Series -/

theorem emit_eq_error_iff {snapshot : Snapshot} {e : CoercionError} :
    s.emit d snapshot = .error e ↔
      samplesOf (s.labelNames d) d snapshot.records = .error e := by
  simp only [emit]
  cases h : samplesOf (s.labelNames d) d snapshot.records with
  | error e' => simp [Except.map]
  | ok samples => simp [Except.map]

theorem emit_eq_ok_iff {snapshot : Snapshot} {x : Series} :
    s.emit d snapshot = .ok x ↔ ∃ samples,
      samplesOf (s.labelNames d) d snapshot.records = .ok samples ∧
        ⟨d.kind, d.name, d.help, s.labelNames d, samples⟩ = x := by
  simp only [emit]
  cases h : samplesOf (s.labelNames d) d snapshot.records with
  | error e' => simp [Except.map]
  | ok samples => simp [Except.map]

/-- A series fails exactly when a record of the snapshot is unreadable. -/
theorem emit_fails_iff {snapshot : Snapshot} : (∃ e, s.emit d snapshot = .error e) ↔
    ∃ r ∈ snapshot.records, ∃ field v, d.Unreadable r field v := by
  constructor
  · rintro ⟨e, h⟩
    obtain ⟨before, r, later, field, v, hsplit, -, hr, -⟩ :=
      samplesOf_error (emit_eq_error_iff.mp h)
    exact ⟨r, by simp [hsplit], field, v, hr⟩
  · rintro ⟨r, hmem, field, v, hr⟩
    cases h : s.emit d snapshot with
    | error e => exact ⟨e, rfl⟩
    | ok x =>
      obtain ⟨samples, hsamples, -⟩ := emit_eq_ok_iff.mp h
      exact absurd hr ((samplesOf_ok hsamples).1 r hmem field v)

/-! ## What is shown -/

/-- A series that fails adds nothing to what is shown. -/
theorem shown_remove {before later : List SeriesDef} (hsplit : s.series = before ++ d :: later)
    {e : CoercionError} (h : s.emit d s.snapshot = .error e) :
    shown { s with series := before ++ later } = s.shown := by
  have hsame : ∀ d, emit { s with series := before ++ later } d s.snapshot =
      s.emit d s.snapshot := fun _ => rfl
  simp only [shown, hsplit, hsame, List.filterMap_append, List.filterMap_cons, h,
    Except.toOption]

/-- What is shown are the series that do not fail, in the order in which they are declared. -/
theorem shown_forall₂ (s : Store) :
    List.Forall₂ (fun d x => s.emit d s.snapshot = .ok x)
      (s.series.filter fun d => (s.emit d s.snapshot).isOk) s.shown := by
  have hshown := filterMap_forall₂ (fun d => (s.emit d s.snapshot).toOption) s.series
  have hisOk : ∀ d, (s.emit d s.snapshot).toOption.isSome = (s.emit d s.snapshot).isOk := by
    intro d
    cases s.emit d s.snapshot with
    | error => rfl
    | ok => rfl
  simp only [hisOk] at hshown
  refine hshown.imp fun d x hx => ?_
  cases h : s.emit d s.snapshot with
  | error e => simp [h, Except.toOption] at hx
  | ok x' =>
    rw [h] at hx
    exact congrArg Except.ok (Option.some.inj hx)

theorem fresh?_of_nothing {t : Moment} (h : s.snapshot.stamp = none ∨ s.snapshot.records = []) :
    s.fresh? t = some false := by
  unfold fresh?
  split
  case h_1 => rfl
  case h_2 stamp hstamp =>
    have hempty : s.snapshot.records = [] := h.resolve_left (by simp [hstamp])
    simp [hempty]

/-- **How series are read from records.** A series fails exactly when a record has a value in its
field that is neither null nor a number, and tells the first of these. Else it has a sample of every
record that counts, in their order. From a fresh snapshot all declared series that do not fail are
read, in their order, and one that fails could as well not be declared; nothing is read from one
that is not fresh, such as an empty one or that of a store that was never filled. -/
theorem projection (s : Store) :
    (∀ (d : SeriesDef) (snapshot : Snapshot),
      ((∃ e, s.emit d snapshot = .error e) ↔
        ∃ r ∈ snapshot.records, ∃ field v, d.Unreadable r field v) ∧
      (∀ e, s.emit d snapshot = .error e → ∃ before r later field v,
        snapshot.records = before ++ r :: later ∧
          (∀ x ∈ before, ∀ field v, ¬ d.Unreadable x field v) ∧ d.Unreadable r field v ∧
          e = ⟨d.name, field, Json.label (some v)⟩) ∧
      ∀ x, s.emit d snapshot = .ok x → x.kind = d.kind ∧ x.name = d.name ∧ x.help = d.help ∧
        x.labelNames = d.labelFields.getD s.defaultLabels ++ s.identity.map (·.1) ∧
        List.Forall₂ (SampleOf x.labelNames d) (snapshot.records.filter fun r => d.Counts r)
          x.samples) ∧
    (∀ t, s.fresh? t = some true → ∃ series, s.collect? t = some series ∧
      List.Forall₂ (fun d x => s.emit d s.snapshot = .ok x)
        (s.series.filter fun d => (s.emit d s.snapshot).isOk) series) ∧
    (∀ before d later, s.series = before ++ d :: later → (∃ e, s.emit d s.snapshot = .error e) →
      ∀ t, collect? { s with series := before ++ later } t = s.collect? t) ∧
    (∀ t, s.fresh? t = some false → s.collect? t = some []) ∧
    (∀ t, s.snapshot.stamp = none ∨ s.snapshot.records = [] → s.collect? t = some []) ∧
    ((s.interval.scale? 3).isSome = true → ∀ t, ∃ fresh, s.fresh? t = some fresh ∧
      (fresh = true ↔ s.ShowsAt t)) := by
  have hstale : ∀ t, s.fresh? t = some false → s.collect? t = some [] := fun t h => by
    rw [collect?, h]
    rfl
  refine ⟨fun d snapshot => ⟨emit_fails_iff, fun e h => ?_, fun x h => ?_⟩, fun t h => ?_, ?_,
    hstale, fun t h => hstale t (fresh?_of_nothing h), fun fits t => fresh?_iff fits t⟩
  · exact samplesOf_error (emit_eq_error_iff.mp h)
  · obtain ⟨samples, hsamples, rfl⟩ := emit_eq_ok_iff.mp h
    exact ⟨rfl, rfl, rfl, rfl, (samplesOf_ok hsamples).2⟩
  · exact ⟨s.shown, by rw [collect?, h]; rfl, s.shown_forall₂⟩
  · rintro before d later hsplit ⟨e, he⟩ t
    have hfresh : fresh? { s with series := before ++ later } t = s.fresh? t := rfl
    rw [collect?, collect?, hfresh, shown_remove hsplit he]

/-- The largest packet of a port. -/
def portMtu : SeriesDef := ⟨.gauge, "interface_mtu", "MTU", some "mtu", none⟩

/-- What a port has received. -/
def portBytes : SeriesDef := ⟨.counter, "interface_rx_byte", "Received bytes", some "rx_byte", none⟩

/-- A store of three ports, stamped at the hundredth second. One has a largest packet that is no
number and has received null, and one tells neither. -/
def trunk : Store :=
  (Store.create (Identity.labels ⟨"gateway", "10.0.0.1"⟩) ["name"] []
    [⟨.info, "interface", "Interface info", none, none⟩, portMtu, portBytes] (.ofSeconds 10)).set
    [Dict.ofList [("name", .text "ether1"), ("mtu", .text "1500"), ("rx-byte", .text "5")],
      Dict.ofList [("name", .text "ether2"), ("mtu", .text "auto"), ("rx-byte", .null)],
      Dict.ofList [("name", .text "ether3")]] (Moment.after 0 (.ofSeconds 100))

/-- All ports have their information, and the first one what it has received. -/
theorem projection_trunk :
    let t := Moment.after 0 (.ofSeconds 114)
    trunk.fresh? t = some true ∧
      trunk.emit portMtu trunk.snapshot = .error ⟨"interface_mtu", "mtu", "auto"⟩ ∧
      (∃ r ∈ trunk.snapshot.records, ∃ field v, portMtu.Unreadable r field v) ∧
      ∃ series, trunk.collect? t = some series ∧
        series.map (fun x => (x.name, x.samples.map (·.labels))) =
          [("interface", [["ether1", "gateway", "10.0.0.1"], ["ether2", "gateway", "10.0.0.1"],
              ["ether3", "gateway", "10.0.0.1"]]),
            ("interface_rx_byte", [["ether1", "gateway", "10.0.0.1"]])] ∧
        List.Forall₂ (fun d x => trunk.emit d trunk.snapshot = .ok x)
          (trunk.series.filter fun d => (trunk.emit d trunk.snapshot).isOk) series ∧
        collect? { trunk with series := [⟨.info, "interface", "Interface info", none, none⟩,
          portBytes] } t = some series := by
  intro t
  obtain ⟨hemit, hfresh, hremove, -⟩ := projection trunk
  have hyoung : trunk.fresh? t = some true := by decide +kernel
  have herror : trunk.emit portMtu trunk.snapshot = .error ⟨"interface_mtu", "mtu", "auto"⟩ := rfl
  obtain ⟨series, hseries, hall⟩ := hfresh t hyoung
  have hshown : (trunk.collect? t).map (·.map fun x => (x.name, x.samples.map (·.labels))) =
      some [("interface", [["ether1", "gateway", "10.0.0.1"], ["ether2", "gateway", "10.0.0.1"],
          ["ether3", "gateway", "10.0.0.1"]]),
        ("interface_rx_byte", [["ether1", "gateway", "10.0.0.1"]])] := by decide +kernel
  rw [hseries] at hshown
  refine ⟨hyoung, herror, (hemit portMtu _).1.mp ⟨_, herror⟩, series, hseries,
    Option.some.inj hshown, hall, ?_⟩
  rw [← hseries]
  exact hremove [_] portMtu [portBytes] rfl ⟨_, herror⟩ t

end Store

end RouterMetrics

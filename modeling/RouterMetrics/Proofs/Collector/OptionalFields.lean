import RouterMetrics.Proofs.Collector.Leases
import RouterMetrics.Proofs.Collector.Normalization
import RouterMetrics.Proofs.Collector.Sessions

/-!
# Fields that a device may leave out

Lengths of time, points in time and rates that a device may leave out are translated to numbers. A
record without such a field gives no sample and hides no other. An empty text is left as it is,
though, and is then no number, so one record that has it fails the series for all
(`Catalog.optional_fields`). A session without a login has such an empty text.
-/

namespace RouterMetrics

/-! ## Fields and translations -/

namespace Record

/-- Whatever a record has under the names of a field is a text. -/
def TextIn (raw : Record) (field : String) : Prop :=
  ∀ name v, raw.get? name = some v → normalizeKey name = field → ∃ text, v = .text text

instance (raw : Record) (field : String) : Decidable (raw.TextIn field) :=
  decidable_of_iff
    (∀ e ∈ raw.toList, normalizeKey e.1 = field → e.2.asText?.isSome = true) (by
      constructor
      · intro h name v hget hnormal
        have hsome := h (name, v) (Dict.mem_toList.mpr hget) hnormal
        cases v with
        | text text => exact ⟨text, rfl⟩
        | _ => cases hsome
      · rintro h ⟨name, v⟩ hmem hnormal
        obtain ⟨text, htext⟩ := h name v (Dict.mem_toList.mp hmem) hnormal
        rw [htext]
        rfl)

theorem TextIn.get? {raw : Record} {field : String} (h : raw.TextIn field) :
    raw.normalizeKeys.get? field = (raw.normalizeKeys.text? field).map .text := by
  rw [text?]
  cases hget : raw.normalizeKeys.get? field with
  | none => rfl
  | some v =>
    obtain ⟨name, hname, hnormal, -⟩ := normalizeKeys_get?_iff.mp hget
    obtain ⟨text, rfl⟩ := h name v hname hnormal
    rfl

end Record

namespace Store

/-- A translated field has what the translation makes of it, or else what it had. -/
theorem translate_get?_self (r : Record) (t : Translation) :
    (translate r t).get? t.field = (t.apply (priorText r t.field)).or (r.get? t.field) := by
  unfold translate
  cases t.apply (priorText r t.field) with
  | none => rfl
  | some v => simp [Dict.get?_insert]

/-- A field that is translated once has what that translation makes of it. -/
theorem foldl_translate_get?_self {ts : List Translation} {t : Translation}
    (distinct : (ts.map (·.field)).Nodup) (ht : t ∈ ts) (r : Record) :
    (ts.foldl translate r).get? t.field =
      (t.apply (priorText r t.field)).or (r.get? t.field) := by
  obtain ⟨before, after, rfl⟩ := List.append_of_mem ht
  rw [List.map_append, List.map_cons, List.nodup_append, List.nodup_cons] at distinct
  obtain ⟨-, ⟨hafter, -⟩, hbefore⟩ := distinct
  have hlater : ∀ t' ∈ after, t'.field ≠ t.field := fun t' ht' heq =>
    hafter (List.mem_map.mpr ⟨t', ht', heq⟩)
  have hearlier : ∀ t' ∈ before, t'.field ≠ t.field := fun t' ht' =>
    hbefore t'.field (List.mem_map_of_mem ht') t.field List.mem_cons_self
  rw [List.foldl_append, List.foldl_cons, foldl_translate_get? hlater, translate_get?_self,
    priorText, priorText, foldl_translate_get? hearlier]

end Store

namespace Catalog

/-- A translation of a field that may be left out, and the number that it reads a text as. -/
inductive Optional : Translate → (String → Option Float) → Prop
  | duration : Optional duration fun text => some (Value.spanSeconds text)
  | datetime : Optional datetime Value.timestamp
  | rate : Optional rateIfPresent fun text => some (Value.rate (some text))

variable {apply : Translate} {read : String → Option Float} {t : Translation} {raw r : Record}
  {text field : String}

/-- What becomes of the text of such a field. An empty one stays as it is. -/
def optionalValue (read : String → Option Float) (text : String) : Json :=
  if text = "" then .text "" else ((read text).map number).getD .null

/-- The number that is read of the text of a field, if there is one and it is finite. -/
def reading (read : String → Option Float) (field : String) (raw : Record) : Option Float :=
  (raw.normalizeKeys.text? field).bind fun text =>
    if text = "" then none else (read text).filter Float.isFinite

theorem Optional.apply_eq (h : Optional apply read) (seen : Option String) :
    apply seen = (present seen).map fun text => ((read text).map number).getD .null := by
  cases h with
  | duration => rfl
  | datetime => rfl
  | rate => rfl

theorem present_some (h : text ≠ "") : present (some text) = some text := by
  rw [present, Option.filter_some, if_pos (by simpa using h)]

theorem Optional.apply_or (h : Optional apply read) (text : String) :
    (apply (some text)).or (some (.text text)) = some (optionalValue read text) := by
  rw [h.apply_eq, optionalValue]
  by_cases htext : text = ""
  · subst htext
    rfl
  · rw [present_some htext, if_neg htext]
    rfl

/-- What a store keeps of a raw record, and in a field that may be left out. -/
structure KeptAs (s : Store) (read : String → Option Float) (field : String) (raw r : Record) :
    Prop where
  normal : s.normalize raw = some r
  value : r.get? field = (raw.normalizeKeys.text? field).map (optionalValue read)

theorem Optional.keptAs {s : Store} (h : Optional t.apply read)
    (distinct : (s.translations.map (·.field)).Nodup) (ht : t ∈ s.translations)
    (spared : ∀ e ∈ s.identity, e.1 ≠ t.field) (texts : raw.TextIn t.field)
    (hkept : s.normalize raw = some r) : KeptAs s read t.field raw r := by
  refine ⟨hkept, ?_⟩
  unfold Store.normalize at hkept
  split at hkept
  · cases hkept
  · cases hkept
    rw [Store.foldl_translate_get?_self distinct ht, Store.priorText,
      Store.withIdentity_get?_of_ne spared, texts.get?]
    cases raw.normalizeKeys.text? t.field with
    | none =>
      rw [h.apply_eq]
      rfl
    | some text => exact h.apply_or text

/-- **What a store keeps of raw records with texts in a field that may be left out.** -/
theorem Optional.forall₂_keptAs {s : Store} (h : Optional t.apply read)
    (distinct : (s.translations.map (·.field)).Nodup) (ht : t ∈ s.translations)
    (spared : ∀ e ∈ s.identity, e.1 ≠ t.field) {raws : List Record}
    (texts : ∀ raw ∈ raws, raw.TextIn t.field) (now : Moment) :
    List.Forall₂ (KeptAs s read t.field) (raws.filter fun raw => ¬ raw.SwitchedOff)
      (s.set raws now).snapshot.records := by
  have htexts : ∀ raw ∈ raws.filter fun raw => ¬ raw.SwitchedOff, raw.TextIn t.field :=
    fun raw hraw => texts raw (List.mem_of_mem_filter hraw)
  refine ((List.forall₂_and_left _ _).mpr ⟨htexts, s.set_keeps raws now⟩).imp ?_
  exact fun raw r hraw => h.keptAs distinct ht spared hraw.1 hraw.2

/-! ## Series -/

theorem number_cases (x : Float) : (x.isFinite = true ∧ number x = .float x) ∨
    (x.isFinite = false ∧ number x = .null) := by
  unfold number
  cases hx : x.isFinite with
  | true => exact .inl ⟨rfl, rfl⟩
  | false => exact .inr ⟨rfl, rfl⟩

/-- **An empty text is kept, one that tells a finite number is read, and others become null.** -/
theorem optionalValue_cases (read : String → Option Float) (text : String) :
    (text = "" ∧ optionalValue read text = .text "") ∨
      (∃ x, text ≠ "" ∧ (read text).filter Float.isFinite = some x ∧
        optionalValue read text = .float x) ∨
      (text ≠ "" ∧ (read text).filter Float.isFinite = none ∧
        optionalValue read text = .null) := by
  by_cases htext : text = ""
  · exact .inl ⟨htext, if_pos htext⟩
  · refine .inr ?_
    rw [optionalValue, if_neg htext]
    cases read text with
    | none => exact .inr ⟨htext, rfl, rfl⟩
    | some x =>
      rcases number_cases x with ⟨hfinite, hx⟩ | ⟨hfinite, hx⟩
      · exact .inl ⟨x, htext, by simp [hfinite], hx⟩
      · exact .inr ⟨htext, by simp [hfinite], hx⟩

section Series

variable {s : Store} {d : SeriesDef} {snapshot : Snapshot} {raws : List Record}

/-- **A record is no number to a series exactly when its field is an empty text.** -/
theorem KeptAs.unreadable_iff (h : KeptAs s read field raw r) (gauge : d.kind ≠ .info)
    (hd : d.valueField = some field) :
    (∃ f v, d.Unreadable r f v) ↔ raw.normalizeKeys.text? field = some "" := by
  have hget := h.value
  constructor
  · rintro ⟨f, v, -, hf, hv, hsome, hnumeric⟩
    obtain rfl : field = f := Option.some.inj (hd.symm.trans hf)
    cases htext : raw.normalizeKeys.text? field with
    | none => simp [hget, htext] at hv
    | some text =>
      obtain rfl : optionalValue read text = v := by simpa [hget, htext] using hv
      rcases optionalValue_cases read text with ⟨rfl, -⟩ | ⟨x, -, -, hx⟩ | ⟨-, -, hnull⟩
      · rfl
      · rw [hx] at hnumeric
        cases hnumeric
      · exact absurd hnull hsome
  · intro htext
    refine ⟨field, .text "", gauge, hd, ?_, by simp, by decide⟩
    rw [hget, htext]
    rfl

/-- A record without an empty text counts when a number is read of it. -/
theorem KeptAs.counts_iff (h : KeptAs s read field raw r) (gauge : d.kind ≠ .info)
    (hd : d.valueField = some field) (htext : raw.normalizeKeys.text? field ≠ some "") :
    d.Counts r ↔ (reading read field raw).isSome = true := by
  have hcounts : d.Counts r ↔ ∃ v, r.get? field = some v ∧ v ≠ .null := by
    simp [SeriesDef.Counts, gauge, hd]
  rw [hcounts, h.value, reading]
  cases htold : raw.normalizeKeys.text? field with
  | none => simp
  | some text =>
    rw [htold, ne_eq, Option.some.injEq] at htext
    rcases optionalValue_cases read text with ⟨rfl, -⟩ | ⟨x, -, hx, hv⟩ | ⟨-, hx, hv⟩
    · exact absurd rfl htext
    · simp [htext, hx, hv]
    · simp [htext, hx, hv]

/-- A sample has the number that is read. -/
theorem KeptAs.reading_eq (h : KeptAs s read field raw r) (gauge : d.kind ≠ .info)
    (hd : d.valueField = some field) {names : List String} {x : Sample}
    (hx : Store.SampleOf names d r x) (hread : (reading read field raw).isSome = true) :
    reading read field raw = some x.value := by
  have hget := h.value
  unfold reading at hread ⊢
  cases htold : raw.normalizeKeys.text? field with
  | none => simp [htold] at hread
  | some text =>
    rw [htold, Option.bind_some] at hread
    rw [htold, Option.map_some] at hget
    have hnumeric := hx.measured gauge field _ hd hget
    rcases optionalValue_cases read text with ⟨rfl, -⟩ | ⟨y, htext, hy, hv⟩ | ⟨htext, hy, -⟩
    · cases hread
    · rw [Option.bind_some, if_neg htext, hy]
      rw [hv] at hnumeric
      exact hnumeric
    · rw [if_neg htext, hy] at hread
      cases hread

/-- **A series fails exactly when a record has an empty text in its field.** -/
theorem emit_fails_iff_of_keptAs (h : List.Forall₂ (KeptAs s read field) raws snapshot.records)
    (gauge : d.kind ≠ .info) (hd : d.valueField = some field) :
    (∃ e, s.emit d snapshot = .error e) ↔
      ∃ raw ∈ raws, raw.normalizeKeys.text? field = some "" := by
  rw [Store.emit_fails_iff]
  constructor
  · rintro ⟨r, hr, hunreadable⟩
    obtain ⟨raw, hraw, hkept⟩ := exists_of_mem_forall₂ h hr
    exact ⟨raw, hraw, (hkept.unreadable_iff gauge hd).mp hunreadable⟩
  · rintro ⟨raw, hraw, hempty⟩
    obtain ⟨r, hr, hkept⟩ := exists_of_mem_forall₂ h.flip hraw
    exact ⟨r, hr, (hkept.unreadable_iff gauge hd).mpr hempty⟩

/-- **A series that does not fail has a sample of every record that a number is read of**, in their
order, and passes the others over. -/
theorem samples_of_keptAs (h : List.Forall₂ (KeptAs s read field) raws snapshot.records)
    (gauge : d.kind ≠ .info) (hd : d.valueField = some field) {x : Series}
    (hx : s.emit d snapshot = .ok x) :
    List.Forall₂ (fun raw y => reading read field raw = some y.value ∧
        ∃ r, s.normalize raw = some r ∧
          y.labels = x.labelNames.map fun n => Json.label (r.get? n))
      (raws.filter fun raw => (reading read field raw).isSome) x.samples := by
  have hnone : ∀ raw ∈ raws, raw.normalizeKeys.text? field ≠ some "" := by
    intro raw hraw hempty
    obtain ⟨e, he⟩ := (emit_fails_iff_of_keptAs h gauge hd).mpr ⟨raw, hraw, hempty⟩
    rw [hx] at he
    cases he
  obtain ⟨samples, hsamples, rfl⟩ := Store.emit_eq_ok_iff.mp hx
  have hcounted : List.Forall₂ (KeptAs s read field)
      (raws.filter fun raw => (reading read field raw).isSome)
      (snapshot.records.filter fun r => d.Counts r) := by
    have hall := (List.forall₂_and_left _ _).mpr ⟨hnone, h⟩
    refine (List.rel_filter (fun raw r hraw => ?_) hall).imp fun _ _ hraw => hraw.2
    exact (decide_eq_true_iff.trans (hraw.2.counts_iff gauge hd hraw.1)).symm
  have hread := forall₂_comp hcounted (Store.samplesOf_ok hsamples).2
  refine ((List.forall₂_and_left _ _).mpr ⟨fun raw hraw => hraw, hread⟩).imp ?_
  rintro raw y ⟨hraw, r, hkept, hy⟩
  exact ⟨hkept.reading_eq gauge hd hy (List.mem_filter.mp hraw).2, r, hkept.normal, hy.labels_eq⟩

end Series

/-! ## Stages -/

/-- A rule for rows that leaves the names of a field alone, or takes some away. -/
def Leaves (rule : RowRule) (field : String) : Prop :=
  ∀ d row kept, rule d row = .ok (some kept) → ∀ name v, normalizeKey name = field →
    kept.get? name = some v → row.get? name = some v

/-- The names of the groups with fields that may be left out. -/
def optionalNames : List String := ["dhcp", "netwatch", "wifi_clients", "user", "bgp"]

theorem optional_name {g : Group} (hg : g ∈ groups) {st : Stage} (hst : st ∈ g.stages)
    (ht : t ∈ st.translations) (h : Optional t.apply read) : g.name ∈ optionalNames := by
  -- no other translation of the catalog leaves an empty text as it is
  have hall : ∀ g ∈ groups, ∀ st ∈ g.stages, ∀ t ∈ st.translations,
      (t.apply (some "")).isNone = true → g.name ∈ optionalNames := by decide +kernel
  refine hall g hg st hst t ht ?_
  rw [h.apply_eq]
  rfl

theorem leaves_keep {rule : RowRule} (h : ∀ d row, rule d row = .ok (some row)) :
    Leaves rule field := by
  intro d row kept hkept
  rw [h, Except.ok.injEq, Option.some.injEq] at hkept
  subst hkept
  exact fun _ _ _ hget => hget

theorem leaves_dropLossy : Leaves (rowRule fun _ => dropLossy) field := by
  intro d row kept hkept name v _ hget
  obtain rfl : dropLossy row = kept := Option.some.inj (Except.ok.inj hkept)
  unfold dropLossy at hget
  split at hget
  case isTrue =>
    rw [Dict.get?_filterKeys] at hget
    split at hget
    case isTrue => exact hget
    case isFalse => cases hget
  case isFalse => exact hget

/-- The fields that a client of a radio gets. -/
def clientFields : List String :=
  ["tx_bytes", "rx_bytes", "dhcp_name", "dhcp_comment", "dhcp_address"]

theorem leaves_splitClientBytes (h : field ∉ clientFields) : Leaves splitClientBytes field := by
  intro d row kept hkept name v hnormal hget
  obtain ⟨cut, -, rfl⟩ := Option.map_eq_some_iff.mp (splitClientBytes_eq_some_iff.mp hkept)
  have hsettled : ∀ k ∈ clientFields, normalizeKey k = k := by decide
  have hother : ∀ k ∈ clientFields, k ≠ name := by
    rintro k hk rfl
    rw [hsettled k hk] at hnormal
    exact h (hnormal ▸ hk)
  simp only [clientFields, List.forall_mem_cons] at hother
  simpa [withLease, setText, Dict.get?_insert, hother] using hget

/-- **The one stage of a group with a field that may be left out.** Either it leaves the field of
its rows alone, or it puts the rows of users together. -/
theorem optional_stage {g : Group} (hg : g ∈ groups) {st : Stage} (hst : st ∈ g.stages)
    (ht : t ∈ st.translations) (h : Optional t.apply read) :
    (g.name ≠ "user" ∧ st.batchRule = id ∧ Leaves st.rowRule t.field) ∨
      (g.name = "user" ∧ t.field = "when" ∧
        ∀ d rows, st.process d rows = collapseSessions rows) := by
  have hname := optional_name hg hst ht h
  simp only [optionalNames, List.mem_cons, List.not_mem_nil, or_false] at hname
  rcases hname with hname | hname | hname | hname | hname
  · cases eq_of_name hg dhcp_mem hname
    obtain rfl := List.mem_singleton.mp hst
    exact .inl ⟨by decide, rfl, leaves_keep fun _ _ => rfl⟩
  · cases eq_of_name hg (List.mem_of_getElem? (show groups[14]? = some netwatch from rfl)) hname
    obtain rfl := List.mem_singleton.mp hst
    exact .inl ⟨by decide, rfl, leaves_dropLossy⟩
  · cases eq_of_name hg (List.mem_of_getElem? (show groups[18]? = some wifiClients from rfl)) hname
    obtain rfl := List.mem_singleton.mp hst
    have hfields : ∀ field ∈ ["uptime", "tx_rate", "rx_rate"], field ∉ clientFields := by decide
    exact .inl ⟨by decide, rfl, leaves_splitClientBytes (hfields _ (List.mem_map_of_mem ht))⟩
  · cases eq_of_name hg (List.mem_of_getElem? (show groups[24]? = some user from rfl)) hname
    obtain rfl := List.mem_singleton.mp hst
    obtain rfl := List.mem_singleton.mp ht
    exact .inr ⟨rfl, rfl, fun _ _ => congrArg collapseSessions List.filterMap_some⟩
  · cases eq_of_name hg (List.mem_of_getElem? (show groups[25]? = some bgp from rfl)) hname
    obtain rfl := List.mem_singleton.mp hst
    exact .inl ⟨by decide, rfl, leaves_keep fun _ _ => rfl⟩

theorem mem_process {st : Stage} (batch : st.batchRule = id) (leaves : Leaves st.rowRule field)
    {device : Option Device} {rows : List Record} (hraw : raw ∈ st.process device rows) :
    ∃ row ∈ rows, st.rowRule device row = .ok (some raw) ∧
      ∀ name v, normalizeKey name = field → raw.get? name = some v → row.get? name = some v := by
  rw [Stage.process, batch, id, Stage.keptRows, List.mem_filterMap] at hraw
  obtain ⟨row, hrow, hkept⟩ := hraw
  have hrule : st.rowRule device row = .ok (some raw) := by
    cases hresult : st.rowRule device row with
    | error e => simp [hresult, Except.toOption] at hkept
    | ok found =>
      rw [hresult] at hkept
      exact congrArg Except.ok hkept
  exact ⟨row, hrow, hrule, leaves device row raw hrule⟩

/-! ## Logins of sessions -/

section Logins

variable {rows : List Record} {s : Record}

theorem IsSession.name_eq (h : IsSession rows s) {name : String} {v : Json}
    (hget : s.get? name = some v) (hnormal : normalizeKey name = "when") : name = "when" := by
  have hsettled : ∀ k ∈ sessionFields, normalizeKey k = k := by decide
  have hname : name ∈ sessionFields := by
    by_contra hother
    rw [h.only name hother] at hget
    cases hget
  rwa [hsettled name hname] at hnormal

theorem IsSession.textIn (h : IsSession rows s) : s.TextIn "when" := by
  intro name v hget hnormal
  obtain ⟨r, -, hwhen, -⟩ := h.login
  rw [h.name_eq hget hnormal, hwhen] at hget
  exact ⟨_, (Option.some.inj hget).symm⟩

theorem IsSession.not_switchedOff (h : IsSession rows s) : ¬ s.SwitchedOff := by
  have hnone := h.only "disabled" (by decide)
  simp [Record.SwitchedOff, hnone]

theorem IsSession.normalizeKeys_get?_when (h : IsSession rows s) :
    s.normalizeKeys.get? "when" = s.get? "when" := by
  obtain ⟨r, -, hwhen, -⟩ := h.login
  rw [hwhen]
  refine Record.normalizeKeys_get?_iff.mpr ⟨"when", hwhen, by decide, ?_⟩
  intro name v hget hnormal
  obtain rfl := h.name_eq hget hnormal
  exact Std.le_refl _

/-- **A session has an empty login when none of its rows has one.** -/
theorem IsSession.text?_eq_iff (h : IsSession rows s) :
    s.normalizeKeys.text? "when" = some "" ↔ ∀ r ∈ rows, r.textD "when" = "" := by
  rw [← h.login_empty_iff, Record.text?_eq_some_iff, h.normalizeKeys_get?_when]

theorem mem_collapseSessions (h : s ∈ collapseSessions rows) :
    ∃ row ∈ rows, IsSession (rows.filter fun r => sessionKey r = sessionKey row) s := by
  obtain ⟨key, hkey, hs⟩ := exists_of_mem_forall₂ (forall₂_isSession rows) h
  obtain ⟨row, hrow, rfl⟩ := List.mem_map.mp (List.mem_eraseDups.mp hkey)
  exact ⟨row, hrow, hs⟩

theorem exists_session {row : Record} (h : row ∈ rows) : ∃ s ∈ collapseSessions rows,
    IsSession (rows.filter fun r => sessionKey r = sessionKey row) s :=
  exists_of_mem_forall₂ (forall₂_isSession rows).flip
    (List.mem_eraseDups.mpr (List.mem_map_of_mem h))

/-- **There is a session with an empty login when all rows of one key have none.** -/
theorem exists_empty_login_iff :
    (∃ s ∈ (collapseSessions rows).filter fun s => ¬ s.SwitchedOff,
        s.normalizeKeys.text? "when" = some "") ↔
      ∃ row ∈ rows, ∀ r ∈ rows, sessionKey r = sessionKey row → r.textD "when" = "" := by
  constructor
  · rintro ⟨s, hs, hempty⟩
    obtain ⟨row, hrow, hsession⟩ := mem_collapseSessions (List.mem_of_mem_filter hs)
    refine ⟨row, hrow, fun r hr hkey => ?_⟩
    exact hsession.text?_eq_iff.mp hempty r (List.mem_filter.mpr ⟨hr, by simpa using hkey⟩)
  · rintro ⟨row, hrow, hall⟩
    obtain ⟨s, hs, hsession⟩ := exists_session hrow
    refine ⟨s, List.mem_filter.mpr ⟨hs, by simpa using hsession.not_switchedOff⟩, ?_⟩
    refine hsession.text?_eq_iff.mpr fun r hr => ?_
    obtain ⟨hmem, hkey⟩ := List.mem_filter.mp hr
    exact hall r hmem (of_decide_eq_true hkey)

end Logins

/-! ## Answers -/

theorem translations_distinct {g : Group} (hg : g ∈ groups) :
    ∀ st ∈ g.stages, (st.translations.map (·.field)).Nodup := by
  have hall : ∀ g ∈ groups, ∀ st ∈ g.stages, (st.translations.map (·.field)).Nodup := by decide
  exact hall g hg

/-- An information series of the catalog reads no field. -/
theorem kind_ne_info {g : Group} (hg : g ∈ groups) : ∀ st ∈ g.stages, ∀ d ∈ st.series,
    d.valueField.isSome = true → d.kind ≠ .info := by
  have hall : ∀ g ∈ groups, ∀ st ∈ g.stages, ∀ d ∈ st.series,
      d.valueField.isSome = true → d.kind ≠ .info := by decide
  exact hall g hg

/-- Records made of rows that have texts in a field have texts in it. -/
theorem textIn_process {g : Group} (hg : g ∈ groups) {st : Stage} (hst : st ∈ g.stages)
    (ht : t ∈ st.translations) (h : Optional t.apply read) (device : Option Device)
    {rows : List Record} (texts : ∀ row ∈ rows, row.TextIn t.field) :
    ∀ raw ∈ st.process device rows, raw.TextIn t.field := by
  intro raw hraw
  rcases optional_stage hg hst ht h with ⟨-, hbatch, hleaves⟩ | ⟨-, hwhen, hprocess⟩
  · intro name v hget hnormal
    obtain ⟨row, hrow, -, hsame⟩ := mem_process hbatch hleaves hraw
    exact texts row hrow name v (hsame name v hnormal hget) hnormal
  · rw [hprocess] at hraw
    obtain ⟨row, -, hsession⟩ := mem_collapseSessions hraw
    rw [hwhen]
    exact hsession.textIn

/-- **What records without a time or a rate come to.** A device answers rows that have a text or
nothing in a field that may be left out. The series of this field fails exactly when a record made
of them, not switched off, has an empty text there. Else it has the sample of every record whose
text tells a finite number, in their order, and passes the others over. The records have the field
of their rows, but for sessions: the series of these fails exactly when all rows of one key have no
login. -/
theorem optional_fields {g : Group} (hg : g ∈ groups) {st : Stage} (hst : st ∈ g.stages)
    (ht : t ∈ st.translations) (h : Optional t.apply read) {d : SeriesDef} (hd : d ∈ st.series)
    (hfield : d.valueField = some t.field) (i : Identity) (interval : Duration)
    (device : Option Device) {rows : List Record} (texts : ∀ row ∈ rows, row.TextIn t.field)
    (now : Moment) :
    let raws := st.process device rows
    let on := raws.filter fun raw => ¬ raw.SwitchedOff
    let s := Collector.filled st i.labels interval raws now
    ((∃ e, s.emit d s.snapshot = .error e) ↔
        ∃ raw ∈ on, raw.normalizeKeys.text? t.field = some "") ∧
      (∀ x, s.emit d s.snapshot = .ok x →
        List.Forall₂ (fun raw y => reading read t.field raw = some y.value ∧
            ∃ r, s.normalize raw = some r ∧
              y.labels = x.labelNames.map fun n => Json.label (r.get? n))
          (on.filter fun raw => (reading read t.field raw).isSome) x.samples) ∧
      (g.name ≠ "user" → ∀ raw ∈ raws, ∃ row ∈ rows, st.rowRule device row = .ok (some raw) ∧
        ∀ name v, normalizeKey name = t.field → raw.get? name = some v → row.get? name = some v) ∧
      (g.name = "user" → ((∃ e, s.emit d s.snapshot = .error e) ↔
        ∃ row ∈ rows, ∀ r ∈ rows, sessionKey r = sessionKey row → r.textD "when" = "")) := by
  intro raws on s
  have spared : ∀ e ∈ i.labels, e.1 ≠ t.field := fun e he heq =>
    groups_spare hg i st hst t ht e he heq.symm
  have gauge : d.kind ≠ .info := kind_ne_info hg st hst d hd (by rw [hfield]; rfl)
  have htexts : ∀ raw ∈ raws, raw.TextIn t.field := textIn_process hg hst ht h device texts
  have hkept : List.Forall₂ (KeptAs s read t.field) on s.snapshot.records :=
    Optional.forall₂_keptAs h (translations_distinct hg st hst) ht spared htexts now
  have hfails := emit_fails_iff_of_keptAs hkept gauge hfield
  refine ⟨hfails, fun x hx => samples_of_keptAs hkept gauge hfield hx, fun hname raw hraw => ?_,
    fun hname => hfails.trans ?_⟩
  · rcases optional_stage hg hst ht h with ⟨-, hbatch, hleaves⟩ | ⟨huser, -⟩
    · exact mem_process hbatch hleaves hraw
    · exact absurd huser hname
  · rcases optional_stage hg hst ht h with ⟨hother, -⟩ | ⟨-, hwhen, hprocess⟩
    · exact absurd hname hother
    · have hon : on = (collapseSessions rows).filter fun s => ¬ s.SwitchedOff :=
        congrArg (List.filter _) (hprocess device rows)
      rw [hon, hwhen]
      exact exists_empty_login_iff

/-- The stage of leases. -/
def leaseStage : Stage := dhcp.stages.head (List.cons_ne_nil _ _)

/-- When a lease expires. -/
def leaseExpiry : SeriesDef :=
  (gauge "dhcp_lease_expiry" "DHCP active lease expiry" "expires_after").by
    ["mac_address", "comment", "client_id"]

/-- A lease of a hardware address. -/
def lease (mac : String) (expiry : List (String × Json)) : Record :=
  Dict.ofList ([("mac-address", .text mac), ("last-seen", .text "5s")] ++ expiry)

/-- Two leases expire, one is permanent, and one is switched off. -/
def hallLeases : List Record :=
  [lease "AA:01" [("expires-after", .text "10m")], lease "AA:02" [],
   lease "AA:03" [("expires-after", .text "1h"), ("disabled", .text "true")],
   lease "AA:04" [("expires-after", .text "2d")]]

/-- The leases that expire have their samples, and the permanent one hides none. -/
theorem optional_fields_hall :
    let s := Collector.filled leaseStage Collector.gateway.identity.labels (.ofSeconds 10)
      (leaseStage.process (some Collector.gateway) hallLeases) 0
    (∀ row ∈ hallLeases, row.TextIn "expires_after") ∧
      ∃ x, s.emit leaseExpiry s.snapshot = .ok x ∧
        List.Forall₂ (fun raw y =>
            reading (fun text => some (Value.spanSeconds text)) "expires_after" raw = some y.value)
          [lease "AA:01" [("expires-after", .text "10m")],
            lease "AA:04" [("expires-after", .text "2d")]] x.samples ∧
        x.samples.map (·.value) = [600.0, 172800.0] := by
  intro s
  have texts : ∀ row ∈ hallLeases, row.TextIn "expires_after" := by decide
  have hst : leaseStage ∈ dhcp.stages := List.head_mem _
  have ht : ⟨"expires_after", duration⟩ ∈ leaseStage.translations := List.mem_cons_self
  obtain ⟨hfails, hread, -⟩ := optional_fields dhcp_mem hst ht .duration
    (show leaseExpiry ∈ leaseStage.series by decide) rfl Collector.gateway.identity (.ofSeconds 10)
    (some Collector.gateway) texts 0
  have hvalues : (s.emit leaseExpiry s.snapshot).toOption.map (·.samples.map (·.value)) =
      some [600.0, 172800.0] := by decide +kernel
  cases hx : s.emit leaseExpiry s.snapshot with
  | error e => exact absurd (hfails.mp ⟨e, hx⟩) (by decide)
  | ok x =>
    rw [hx] at hvalues
    exact ⟨texts, x, rfl, (hread x hx).imp fun _ _ h => h.1, Option.some.inj hvalues⟩

/-- An empty time of expiry hides that of another lease. -/
theorem empty_text_hides_others :
    let rows := [lease "AA:01" [("expires-after", .text "10m")],
      lease "AA:02" [("expires-after", .text "")]]
    let c := (dhcp.collector Collector.gateway.identity.labels (.ofSeconds 10)).after
      Collector.dictated [Collector.answered 10 [.ok rows]]
    (∀ row ∈ rows, row.TextIn "expires_after") ∧
      reading (fun text => some (Value.spanSeconds text)) "expires_after" rows[0] = some 600.0 ∧
      (c.collect? (Moment.after 0 (.ofSeconds 12))).map (·.map (·.name)) =
        some ["dhcp_lease", "dhcp_lease_last_seen"] := by
  intro rows c
  exact ⟨by decide, by decide +kernel, by decide +kernel⟩

end Catalog

end RouterMetrics

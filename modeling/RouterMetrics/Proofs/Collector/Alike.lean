import RouterMetrics.Proofs.Collector.Normalization
import RouterMetrics.Proofs.Collector.Projection
import RouterMetrics.Proofs.Json.Spellings

/-!
# Records that are read alike

Records agree under some names when each of these is bound in both or in neither, to values that are
related (`Record.Agree`). A store that is set with records whose values are read alike shows the
same series as with the others (`Store.Alike.set`, `Store.Alike.collect?`): a store reads a field
as a flag, as the text of a label or as a number, and in no other way.
-/

namespace RouterMetrics

/-! ## Agreement -/

namespace Record

/-- Under the names of a kind two records have related values, or none. -/
def Agree (P : String → Prop) (R : String → Json → Json → Prop) (r r' : Record) : Prop :=
  ∀ k, P k → Option.Rel (R k) (r.get? k) (r'.get? k)

namespace Agree

variable {P Q : String → Prop} {R S : String → Json → Json → Prop} {r r' : Record} {k : String}
  {v v' : Json}

/-- A name of the kind is bound in none of the records, or in both to values that are related. -/
theorem get? (h : Agree P R r r') (hk : P k) : (r.get? k = none ∧ r'.get? k = none) ∨
    ∃ v v', r.get? k = some v ∧ r'.get? k = some v' ∧ R k v v' := by
  have hrel := h k hk
  generalize r.get? k = found, r'.get? k = found' at hrel
  cases hrel with
  | none => exact .inl ⟨rfl, rfl⟩
  | some hv => exact .inr ⟨_, _, rfl, rfl, hv⟩

theorem refl (h : ∀ k v, R k v v) (r : Record) : Agree P R r r := by
  intro k _
  cases r.get? k with
  | none => exact .none
  | some v => exact .some (h k v)

theorem imp (h : Agree P R r r') (names : ∀ k, Q k → P k)
    (values : ∀ k v v', Q k → R k v v' → S k v v') : Agree Q S r r' := by
  intro k hk
  rcases h.get? (names k hk) with ⟨hnone, hnone'⟩ | ⟨v, v', hget, hget', hv⟩
  · rw [hnone, hnone']
    exact .none
  · rw [hget, hget']
    exact .some (values k v v' hk hv)

theorem insert (h : Agree P R r r') (hv : P k → R k v v') :
    Agree P R (r.insert k v) (r'.insert k v') := by
  intro j hj
  rw [Dict.get?_insert, Dict.get?_insert]
  split
  case isTrue heq =>
    subst heq
    exact .some (hv hj)
  case isFalse => exact h j hj

theorem filterKeys (h : Agree P R r r') (p : String → Bool) :
    Agree P R (r.filterKeys p) (r'.filterKeys p) := by
  intro k hk
  rw [Dict.get?_filterKeys, Dict.get?_filterKeys]
  split
  · exact h k hk
  · exact .none

/-- What is added to records that agree comes first in both. -/
theorem foldl_insert {e e' : Record} (he : Agree P R e e') (h : Agree P R r r') :
    Agree P R (e.toList.foldl (fun r b => r.insert b.1 b.2) r)
      (e'.toList.foldl (fun r b => r.insert b.1 b.2) r') := by
  intro k hk
  rw [Dict.get?_foldl_insert, Dict.get?_foldl_insert]
  rcases he.get? hk with ⟨hnone, hnone'⟩ | ⟨v, v', hget, hget', hv⟩
  · rw [hnone, hnone']
    exact h k hk
  · rw [hget, hget']
    exact .some hv

theorem get?_eq_none_iff (h : Agree P R r r') (hk : P k) : r.get? k = none ↔ r'.get? k = none := by
  rcases h.get? hk with ⟨hnone, hnone'⟩ | ⟨v, v', hget, hget', -⟩
  · simp [hnone, hnone']
  · simp [hget, hget']

/-- **Under normal forms of names records agree as they do under the names.** The name whose value
is kept is one that both have. -/
theorem normalizeKeys
    (h : Agree (fun k => P (normalizeKey k)) (fun k => R (normalizeKey k)) r r') :
    Agree P R r.normalizeKeys r'.normalizeKeys := by
  intro n hn
  cases hkept : r.normalizeKeys.get? n with
  | some v =>
    obtain ⟨name, hname, rfl, hlast⟩ := normalizeKeys_get?_iff.mp hkept
    obtain ⟨hnone, -⟩ | ⟨u, v', hget, hname', hv⟩ := h.get? (k := name) hn
    · rw [hnone] at hname
      cases hname
    rw [hname, Option.some.injEq] at hget
    subst hget
    -- both records have the same names with this normal form, so the last of them is the same
    have hkept' : r'.normalizeKeys.get? (normalizeKey name) = some v' := by
      refine normalizeKeys_get?_iff.mpr ⟨name, hname', rfl, fun other u hother heq => ?_⟩
      cases hfound : r.get? other with
      | none =>
        rw [(h.get?_eq_none_iff (heq ▸ hn)).mp hfound] at hother
        cases hother
      | some u => exact hlast other u hfound heq
    rw [hkept']
    exact .some hv
  | none =>
    have hkept' : r'.normalizeKeys.get? n = none := by
      rw [normalizeKeys_get?_eq_none_iff] at hkept ⊢
      intro name v hname heq
      cases hfound : r.get? name with
      | none =>
        rw [(h.get?_eq_none_iff (heq ▸ hn)).mp hfound] at hname
        cases hname
      | some u => exact hkept name u hfound heq
    rw [hkept']
    exact .none

end Agree

/-- Under the names of a kind two records are read alike. -/
def Alike (P : String → Prop) : Record → Record → Prop := Agree P fun _ => Json.Same

namespace Alike

variable {P : String → Prop} {r r' : Record} {k : String}

theorem label (h : Alike P r r') (hk : P k) : Json.label (r.get? k) = Json.label (r'.get? k) := by
  rcases h.get? hk with ⟨hnone, hnone'⟩ | ⟨v, v', hget, hget', hv⟩
  · rw [hnone, hnone']
  · rw [hget, hget', hv.label]

/-- An absent value has the same default in both. -/
theorem getD (h : Alike P r r') (hk : P k) (v : Json) :
    Json.Same ((r.get? k).getD v) ((r'.get? k).getD v) := by
  rcases h.get? hk with ⟨hnone, hnone'⟩ | ⟨u, u', hget, hget', hu⟩
  · rw [hnone, hnone']
    exact Json.Same.refl _
  · rw [hget, hget']
    exact hu

theorem isDisabled (h : Alike P r r') (hP : P "disabled") : r.isDisabled = r'.isDisabled := by
  rw [Record.isDisabled, Record.isDisabled]
  rcases h.get? hP with ⟨hnone, hnone'⟩ | ⟨v, v', hget, hget', hv⟩
  · rw [hnone, hnone']
  · rw [hget, hget', hv.flag]

end Alike

end Record

/-! ## Stores -/

namespace Store

variable {P : String → Prop} {r r' : Record} {d : SeriesDef} {names : List String} {s s' : Store}

theorem withIdentity_alike (h : r.Alike P r') (identity : List (String × String)) :
    (withIdentity identity r).Alike P (withIdentity identity r') := by
  induction identity generalizing r r' with
  | nil => exact h
  | cons label rest ih => exact ih (h.insert fun _ => Json.Same.refl _)

/-- A translation sees the same text in both records, and makes the same value of it. -/
theorem translate_alike (h : r.Alike P r') (t : Translation) :
    (translate r t).Alike P (translate r' t) := by
  by_cases ht : P t.field
  · have hprior : priorText r t.field = priorText r' t.field := by
      rw [priorText, priorText]
      rcases h.get? ht with ⟨hnone, hnone'⟩ | ⟨v, v', hget, hget', hv⟩
      · rw [hnone, hnone']
      · rw [hget, hget', Option.map_some, Option.map_some, hv.label]
    rw [translate, translate, hprior]
    cases t.apply (priorText r' t.field) with
    | none => exact h
    | some v => exact h.insert fun _ => Json.Same.refl v
  · -- whatever becomes of the field, it is under no name that counts
    have hother : ∀ r k, P k → (translate r t).get? k = r.get? k := by
      intro r k hk
      have hne : ∀ t' ∈ [t], t'.field ≠ k :=
        List.forall_mem_singleton.mpr fun heq => ht (heq ▸ hk)
      exact foldl_translate_get? hne r
    intro k hk
    rw [hother r k hk, hother r' k hk]
    exact h k hk

theorem foldl_translate_alike (h : r.Alike P r') (ts : List Translation) :
    (ts.foldl translate r).Alike P (ts.foldl translate r') := by
  induction ts generalizing r r' with
  | nil => exact h
  | cons t rest ih => exact ih (translate_alike h t)

/-- **Records that are read alike are kept alike, or left out both.** -/
theorem normalize_alike (P : String → Prop) (settings : s'.identity = s.identity ∧
    s'.translations = s.translations) (hP : P "disabled")
    (h : r.Alike (fun k => P (normalizeKey k)) r') :
    Option.Rel (Record.Alike P) (s.normalize r) (s'.normalize r') := by
  have hdisabled : r.isDisabled = r'.isDisabled := h.isDisabled hP
  rw [normalize, normalize, hdisabled, settings.1, settings.2]
  split
  · exact .none
  · refine .some (foldl_translate_alike (withIdentity_alike ?_ _) _)
    exact Record.Agree.normalizeKeys h

/-! ## Series -/

/-- What a series reads of a record: its labels, and its value. -/
structure ReadsOnly (P : String → Prop) (names : List String) (d : SeriesDef) : Prop where
  labels : ∀ n ∈ names, P n
  value : ∀ field ∈ d.valueField, P field

theorem valueOf_some {field : String} {v : Json} (hkind : d.kind ≠ .info)
    (hfield : d.valueField = some field) (hget : r.get? field = some v) (hnull : v ≠ .null) :
    valueOf d r = v.numeric.elim (.error ⟨d.name, field, Json.label (some v)⟩)
      fun x => .ok (some x) := by
  rw [valueOf_field hkind hfield, hget]
  split
  case h_1 hnone => cases hnone
  case h_2 hsome => exact absurd (Option.some.inj hsome) hnull
  case h_3 hsome =>
    cases hsome
    cases v.numeric with
    | none => rfl
    | some x => rfl

theorem valueOf_alike (h : r.Alike P r') (hvalue : ∀ field ∈ d.valueField, P field)
    (hkind : d.kind ≠ .info) {field : String} (hfield : d.valueField = some field) :
    valueOf d r = valueOf d r' := by
  rcases h.get? (hvalue field hfield) with ⟨hnone, hnone'⟩ | ⟨v, v', hget, hget', hv⟩
  · rw [valueOf_field hkind hfield, valueOf_field hkind hfield, hnone, hnone']
  · by_cases hnull : v = .null
    · rw [valueOf_field hkind hfield, valueOf_field hkind hfield, hget, hget', hnull,
        hv.null_iff.mp hnull]
    · have hnull' : v' ≠ .null := fun heq => hnull (hv.null_iff.mpr heq)
      rw [valueOf_some hkind hfield hget hnull, valueOf_some hkind hfield hget' hnull',
        hv.numeric, hv.label]

theorem sampleOf_alike (reads : ReadsOnly P names d) (h : r.Alike P r') :
    sampleOf names d r = sampleOf names d r' := by
  have hlabels : names.map (fun n => Json.label (r.get? n)) =
      names.map fun n => Json.label (r'.get? n) := by
    exact List.map_congr_left fun n hn => h.label (reads.labels n hn)
  by_cases hconstant : d.kind = .info ∨ d.valueField = none
  · rw [sampleOf_constant hconstant, sampleOf_constant hconstant, hlabels]
  · obtain ⟨hkind, hsome⟩ := not_or.mp hconstant
    obtain ⟨field, hfield⟩ := Option.ne_none_iff_exists'.mp hsome
    rw [sampleOf, sampleOf, hlabels, valueOf_alike h reads.value hkind hfield]

theorem samplesOf_alike (reads : ReadsOnly P names d) {records records' : List Record}
    (h : List.Forall₂ (Record.Alike P) records records') :
    samplesOf names d records = samplesOf names d records' := by
  induction h with
  | nil => rfl
  | cons hr _ ih => rw [samplesOf, samplesOf, sampleOf_alike reads hr, ih]

/-- Two stores differ only in how the values of their records are spelled. -/
structure Alike (P : String → Prop) (s s' : Store) : Prop where
  settings : s' = { s with snapshot := s'.snapshot }
  stamp : s'.snapshot.stamp = s.snapshot.stamp
  records : List.Forall₂ (Record.Alike P) s.snapshot.records s'.snapshot.records

theorem Alike.refl (s : Store) : Alike P s s :=
  ⟨rfl, rfl, List.forall₂_same.mpr fun r _ => Record.Agree.refl (fun _ => Json.Same.refl) r⟩

/-- **Stores that are set with records that are read alike differ only in spellings.** -/
theorem Alike.set (h : Alike P s s') (hP : P "disabled") {rows rows' : List Record}
    (hrows : List.Forall₂ (Record.Alike fun k => P (normalizeKey k)) rows rows') (now : Moment) :
    Alike P (s.set rows now) (s'.set rows' now) where
  settings := by
    rw [h.settings]
    rfl
  stamp := rfl
  records := List.rel_filterMap
    (fun _ _ hr => normalize_alike P (by rw [h.settings]; exact ⟨rfl, rfl⟩) hP hr) hrows

/-- **Such stores show the same.** -/
theorem Alike.collect?_eq (h : Alike P s s')
    (reads : ∀ d ∈ s.series, ReadsOnly P (s.labelNames d) d) (t : Moment) :
    s.collect? t = s'.collect? t := by
  have hempty : s'.snapshot.records.isEmpty = s.snapshot.records.isEmpty := by
    have hlength := h.records.length_eq
    rw [Bool.eq_iff_iff, List.isEmpty_iff_length_eq_zero, List.isEmpty_iff_length_eq_zero, hlength]
  have hfresh : s.fresh? t = s'.fresh? t := by
    rw [h.settings]
    simp only [fresh?, h.stamp, hempty]
    rfl
  have hshown : s.shown = s'.shown := by
    have hemit : ∀ d ∈ s.series,
        (s.emit d s.snapshot).toOption = (s'.emit d s'.snapshot).toOption := by
      intro d hd
      have hsamples := samplesOf_alike (reads d hd) h.records
      rw [h.settings, emit, emit, hsamples]
      rfl
    have hseries : s'.series = s.series := by
      rw [h.settings]
    rw [shown, shown, hseries]
    exact List.filterMap_congr hemit
  rw [collect?, collect?, hfresh, hshown]

end Store

end RouterMetrics

import Mathlib.Data.List.Induction
import RouterMetrics.Exposition

/-!
# What is gathered

Under an exported name stands one family of all series that are exported under it: it has the help
and the type of the first one that has samples, and the samples of all that have this type, in their
order (`Exposition.merged_eq_some_iff`). A statistic is only there under a name that no such family
has (`Exposition.mem_gather`).
-/

namespace RouterMetrics.Exposition

variable {start name : String} {series : List Series} {statistics : List Family} {f : Family}

/-- The families that series of an exported name would be on their own, without empty ones. -/
def named (start : String) (series : List Series) (name : String) : List Family :=
  (series.map (familyOf start)).filter fun f => f.name = name ∧ f.samples ≠ []

/-- A family with the samples of another, unless that is of another type. -/
def joined (g f : Family) : Family :=
  if g.kind = f.kind then { g with samples := g.samples ++ f.samples } else g

/-- The family of an exported name. -/
def merged (start : String) (series : List Series) (name : String) : Option Family :=
  match named start series name with
  | [] => none
  | first :: later => some (later.foldl joined first)

/-- A series is exported under a name when that is its name and it has samples. -/
def ExportedAs (start : String) (s : Series) (name : String) : Prop :=
  familyName start s.kind s.name = name ∧ s.samples ≠ []

instance (s : Series) : Decidable (ExportedAs start s name) :=
  inferInstanceAs (Decidable (_ ∧ _))

theorem exportedAs_iff {s : Series} : ExportedAs start s name ↔
    (familyOf start s).name = name ∧ (familyOf start s).samples ≠ [] := by
  simp [ExportedAs, familyOf]

theorem named_append (start : String) (series series' : List Series) (name : String) :
    named start (series ++ series') name = named start series name ++ named start series' name := by
  simp [named]

theorem named_cons_of_pos {s : Series} (h : ExportedAs start s name) (series : List Series) :
    named start (s :: series) name = familyOf start s :: named start series name := by
  rw [named, List.map_cons, List.filter_cons_of_pos (by simpa using exportedAs_iff.mp h), named]

theorem named_cons_of_neg {s : Series} (h : ¬ ExportedAs start s name) (series : List Series) :
    named start (s :: series) name = named start series name := by
  rw [named, List.map_cons, List.filter_cons_of_neg (by simpa using exportedAs_iff.not.mp h), named]

theorem named_eq_nil (h : ∀ s ∈ series, ¬ ExportedAs start s name) :
    named start series name = [] := by
  induction series with
  | nil => rfl
  | cons s rest ih =>
    obtain ⟨hs, hrest⟩ := List.forall_mem_cons.mp h
    rw [named_cons_of_neg hs, ih hrest]

theorem addSeries_get? (families : Dict Family) (s : Series) (name : String) :
    (addSeries start families s).get? name =
      if ExportedAs start s name then
        some ((families.get? name).elim (familyOf start s) fun g => joined g (familyOf start s))
      else families.get? name := by
  simp only [addSeries, List.isEmpty_iff, exportedAs_iff]
  generalize familyOf start s = f
  by_cases hempty : f.samples = []
  · simp [hempty]
  · cases hget : families.get? f.name with
    | none =>
      by_cases hname : f.name = name
      · subst hname
        simp [hempty, hget, Dict.get?_insert]
      · simp [hempty, hname, Dict.get?_insert]
    | some g =>
      -- a family of another type stays as it is, and so does what stands under other names
      by_cases hkind : g.kind = f.kind
      · by_cases hname : f.name = name
        · subst hname
          simp [hempty, hget, hkind, joined, Dict.get?_insert]
        · simp [hempty, hname, hkind, Dict.get?_insert]
      · by_cases hname : f.name = name
        · subst hname
          simp [hempty, hget, hkind, joined]
        · simp [hempty, hname, hkind]

/-- **Under every name stands the family of its series.** -/
theorem foldl_addSeries_get? (start : String) (series : List Series) (name : String) :
    (series.foldl (addSeries start) Dict.empty).get? name = merged start series name := by
  induction series using List.reverseRecOn with
  | nil => rfl
  | append_singleton series s ih =>
    rw [List.foldl_append, List.foldl_cons, List.foldl_nil, addSeries_get?, ih, merged, merged,
      named_append]
    have hnil : named start [] name = [] := rfl
    split
    case isTrue hs =>
      rw [named_cons_of_pos hs, hnil]
      cases named start series name with
      | nil => rfl
      | cons first later => simp
    case isFalse hs => rw [named_cons_of_neg hs, hnil, List.append_nil]

/-- Statistics are there under names that nothing stands under. -/
theorem foldl_addStatistics_get? (families : Dict Family) (statistics : List Family)
    (name : String) : (statistics.foldl addStatistics families).get? name =
      (families.get? name).or (statistics.find? fun f => f.name = name) := by
  induction statistics generalizing families with
  | nil => simp
  | cons f rest ih =>
    rw [List.foldl_cons, ih, addStatistics, Dict.contains, List.find?_cons]
    by_cases hname : f.name = name
    · subst hname
      cases hget : families.get? f.name with
      | none => simp [Dict.get?_insert]
      | some g => simp [hget]
    · cases hget : families.get? f.name with
      | none => simp [hname, Dict.get?_insert]
      | some g => simp [hname]

/-- The families of series and statistics by their names. -/
def gathered (start : String) (series : List Series) (statistics : List Family) : Dict Family :=
  statistics.foldl addStatistics (series.foldl (addSeries start) Dict.empty)

theorem gathered_get? (start : String) (series : List Series) (statistics : List Family)
    (name : String) : (gathered start series statistics).get? name =
      (merged start series name).or (statistics.find? fun f => f.name = name) := by
  rw [gathered, foldl_addStatistics_get?, foldl_addSeries_get?]

/-- **What is gathered**: the family of each name, and statistics under other names. -/
theorem mem_gather :
    f ∈ gather start series statistics ↔ ∃ name,
      (merged start series name).or (statistics.find? fun g => g.name = name) = some f := by
  simp only [← gathered_get?]
  constructor
  · intro h
    obtain ⟨⟨name, f⟩, hmem, rfl⟩ := List.mem_map.mp h
    exact ⟨name, Dict.mem_toList.mp hmem⟩
  · rintro ⟨name, hf⟩
    exact List.mem_map.mpr ⟨(name, f), Dict.mem_toList.mpr hf, rfl⟩

/-! ## What series merge into -/

/-- The samples of the series of a name and a type, one after the other. -/
def pooled (start : String) (series : List Series) (name : String) (kind : FamilyKind) :
    List LabelledValue :=
  (series.filter fun s => familyName start s.kind s.name = name ∧ .ofMetric s.kind = kind).flatMap
    fun s => s.samples.map fun x => ⟨s.labelNames.zip x.labels, x.value⟩

/-- A family is what series merge into. The first one that is exported under its name decides its
help and its type, and those of that type add their samples, one after the other. -/
structure Merges (start : String) (series : List Series) (f : Family) : Prop where
  first : ∃ before s later, series = before ++ s :: later ∧
    (∀ s' ∈ before, ¬ ExportedAs start s' f.name) ∧ ExportedAs start s f.name ∧
      f.help = s.help ∧ f.kind = .ofMetric s.kind
  samples : f.samples = pooled start series f.name f.kind

/-- Those of the type of the first one add their samples to it. -/
theorem foldl_joined (first : Family) (later : List Family) :
    later.foldl joined first =
      { first with samples :=
          first.samples ++ (later.filter (·.kind = first.kind)).flatMap (·.samples) } := by
  induction later generalizing first with
  | nil => simp
  | cons f rest ih =>
    rw [List.foldl_cons, ih]
    by_cases hkind : first.kind = f.kind
    · simp [joined, hkind, List.append_assoc]
    · simp [joined, hkind, eq_comm (a := f.kind)]

/-- The samples of one type under a name. -/
theorem named_pooled (start : String) (series : List Series) (name : String)
    (kind : FamilyKind) :
    ((named start series name).filter (·.kind = kind)).flatMap (·.samples) =
      pooled start series name kind := by
  unfold pooled
  induction series with
  | nil => rfl
  | cons s rest ih =>
    by_cases hexported : ExportedAs start s name
    · rw [named_cons_of_pos hexported]
      have hfamily : (familyOf start s).kind = .ofMetric s.kind := rfl
      by_cases hkind : FamilyKind.ofMetric s.kind = kind
      · rw [List.filter_cons_of_pos (by simp [hfamily, hkind]),
          List.filter_cons_of_pos (by simpa using ⟨hexported.1, hkind⟩), List.flatMap_cons,
          List.flatMap_cons, ih]
        rfl
      · rw [List.filter_cons_of_neg (by simp [hfamily, hkind]),
          List.filter_cons_of_neg (by simp [hkind]), ih]
    · rw [named_cons_of_neg hexported, ih]
      by_cases hname : familyName start s.kind s.name = name
      · -- a series without samples adds none
        have hempty : s.samples = [] := by
          by_contra hsamples
          exact hexported ⟨hname, hsamples⟩
        rw [List.filter_cons]
        split
        · rw [List.flatMap_cons, hempty, List.map_nil, List.nil_append]
        · rfl
      · rw [List.filter_cons_of_neg (by simp [hname])]

/-- The first series that is exported under a name decides about its family. -/
theorem merged_of_first {before later : List Series} {s : Series}
    (hbefore : ∀ s' ∈ before, ¬ ExportedAs start s' name) (hs : ExportedAs start s name) :
    merged start (before ++ s :: later) name = some
      { name
        help := s.help
        kind := .ofMetric s.kind
        samples := pooled start (before ++ s :: later) name (.ofMetric s.kind) } := by
  have hnamed : named start (before ++ s :: later) name =
      familyOf start s :: named start later name := by
    rw [named_append, named_eq_nil hbefore, List.nil_append, named_cons_of_pos hs]
  simp only [← named_pooled, merged, hnamed, foldl_joined]
  rw [List.filter_cons_of_pos (by simp [familyOf]), List.flatMap_cons]
  simp only [familyOf, hs.1]

/-- **Under a name stands what the series merge into.** -/
theorem merged_eq_some_iff :
    merged start series name = some f ↔ f.name = name ∧ Merges start series f := by
  constructor
  · intro h
    have hcame : ∃ s ∈ series, ExportedAs start s name := by
      by_contra hnone
      rw [merged, named_eq_nil fun s hs hexported => hnone ⟨s, hs, hexported⟩] at h
      exact absurd h.symm (Option.some_ne_none f)
    obtain ⟨s, hfound⟩ : ∃ s, series.find? (ExportedAs start · name) = some s :=
      Option.isSome_iff_exists.mp (by simpa using hcame)
    obtain ⟨hs, before, later, rfl, hbefore⟩ := List.find?_eq_some_iff_append.mp hfound
    have hbefore : ∀ s' ∈ before, ¬ ExportedAs start s' name := by simpa using hbefore
    rw [merged_of_first hbefore (of_decide_eq_true hs), Option.some.injEq] at h
    subst h
    exact ⟨rfl, ⟨before, s, later, rfl, hbefore, of_decide_eq_true hs, rfl, rfl⟩, rfl⟩
  · rintro ⟨rfl, ⟨before, s, later, rfl, hbefore, hs, hhelp, hkind⟩, hsamples⟩
    rw [merged_of_first hbefore hs, ← hkind, ← hhelp, ← hsamples]

theorem mem_pooled {kind : FamilyKind} {x : LabelledValue} :
    x ∈ pooled start series name kind ↔ ∃ s ∈ series, familyName start s.kind s.name = name ∧
      .ofMetric s.kind = kind ∧ ∃ y ∈ s.samples, ⟨s.labelNames.zip y.labels, y.value⟩ = x := by
  simp [pooled, and_assoc]

/-- **Under a name stand the samples of all its series**, when these have one type. -/
theorem merged_samples (hkind : ∀ s ∈ series, ∀ s' ∈ series,
      (familyOf start s).name = (familyOf start s').name → s.kind = s'.kind)
    (h : merged start series name = some f) : f.name = name ∧ f.samples =
      ((series.map (familyOf start)).filter (·.name = name)).flatMap (·.samples) := by
  obtain ⟨rfl, ⟨before, s, later, rfl, -, hs, -, hfirst⟩, hsamples⟩ := merged_eq_some_iff.mp h
  refine ⟨rfl, ?_⟩
  rw [hsamples, pooled, List.filter_map, List.flatMap_map]
  congr 1
  refine List.filter_congr fun s' hs' => ?_
  -- the series of the name have the type of the first one
  have hsame : familyName start s'.kind s'.name = f.name → FamilyKind.ofMetric s'.kind = f.kind :=
    fun hname => by rw [hfirst, hkind s' hs' s (by simp) (hname.trans hs.1.symm)]
  exact decide_eq_decide.mpr (and_iff_left_of_imp hsame)

/-- A name has a family when a series of it has samples. -/
theorem merged_isSome (start : String) {s : Series} (hs : s ∈ series) (hsome : s.samples ≠ []) :
    ∃ f, merged start series (familyOf start s).name = some f := by
  have hmem : familyOf start s ∈ named start series (familyOf start s).name := by
    refine List.mem_filter.mpr ⟨List.mem_map_of_mem hs, ?_⟩
    simpa [familyOf] using hsome
  rw [merged]
  split
  case h_1 hnone =>
    rw [hnone] at hmem
    cases hmem
  case h_2 first later _ => exact ⟨_, rfl⟩

/-- A series that is exported has a family. -/
theorem exists_merges {s : Series} (hs : s ∈ series) (hsamples : s.samples ≠ []) :
    ∃ f, Merges start series f ∧ f.name = familyName start s.kind s.name := by
  obtain ⟨f, hf⟩ := merged_isSome start hs hsamples
  obtain ⟨hname, hmerges⟩ := merged_eq_some_iff.mp hf
  exact ⟨f, hmerges, hname⟩

end RouterMetrics.Exposition

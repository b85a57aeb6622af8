import RouterMetrics.LoadStats
import RouterMetrics.Proofs.Dict
import RouterMetrics.Proofs.Exposition.Families

/-!
# Merging conserves samples

The families of a scrape have distinct names, in their order, and none is empty. Those of collectors
are what their series merge into (`Exposition.Merges`): a name has the help and the type of the
first series with samples that is exported under it, and all samples of the series of that type. A
series without samples, or of another type, could as well not be there. Then come the statistics
whose names are free (`Exposition.gather_conserves`).
-/

namespace RouterMetrics

namespace Exposition

variable {start name : String} {series : List Series} {statistics : List Family} {f : Family}

/-! ## What series merge into -/

theorem familyName_ne_empty (start : String) (kind : MetricKind) (name : String) :
    familyName start kind name ≠ "" := by
  cases kind with
  | info => simp [familyName]
  | gauge => simp [familyName]
  | counter =>
    simp only [familyName]
    split
    · simp
    · simp

/-- What series merge into has samples and a name. -/
theorem Merges.nonempty (h : Merges start series f) : f.samples ≠ [] ∧ f.name ≠ "" := by
  obtain ⟨⟨before, s, later, rfl, -, hs, -, hkind⟩, hsamples⟩ := h
  obtain ⟨y, hy⟩ := List.exists_mem_of_ne_nil _ hs.2
  refine ⟨?_, hs.1 ▸ familyName_ne_empty start s.kind s.name⟩
  rw [hsamples]
  exact List.ne_nil_of_mem (mem_pooled.mpr
    ⟨s, List.mem_append_right _ List.mem_cons_self, hs.1, hkind.symm, y, hy, rfl⟩)

/-- **A series without samples or of another type than the family of its name changes nothing.** -/
theorem merged_remove {before later : List Series} {s : Series}
    (h : s.samples = [] ∨ ∃ f, Merges start (before ++ s :: later) f ∧
      f.name = familyName start s.kind s.name ∧ f.kind ≠ .ofMetric s.kind) (name : String) :
    merged start (before ++ later) name = merged start (before ++ s :: later) name := by
  by_cases hexported : ExportedAs start s name
  · obtain hempty | ⟨f, hmerges, hname, hkind⟩ := h
    · exact absurd hempty hexported.2
    have hmerged := merged_eq_some_iff.mpr ⟨hname.trans hexported.1, hmerges⟩
    rw [merged, named_append, named_cons_of_pos hexported] at hmerged
    rw [merged, merged, named_append, named_append, named_cons_of_pos hexported]
    cases hnamed : named start before name with
    | nil =>
      -- the family would have the type of the series
      simp only [hnamed, List.nil_append, foldl_joined, Option.some.injEq] at hmerged
      exact absurd (congrArg Family.kind hmerged).symm hkind
    | cons first rest =>
      simp only [hnamed, List.cons_append, foldl_joined, Option.some.injEq] at hmerged
      simp only [List.cons_append, foldl_joined]
      have hfirst : (familyOf start s).kind ≠ first.kind :=
        fun heq => hkind ((congrArg Family.kind hmerged).symm.trans heq.symm)
      rw [List.filter_append, List.filter_append,
        List.filter_cons_of_neg (by simpa using hfirst)]
  · rw [merged, merged, named_append, named_append, named_cons_of_neg hexported]

/-! ## What is gathered -/

/-- Families stand under their own names. -/
theorem gathered_name (h : (gathered start series statistics).get? name = some f) :
    f.name = name := by
  rw [gathered_get?] at h
  rcases Option.or_eq_some_iff.mp h with hmerged | ⟨-, hfound⟩
  · exact (merged_eq_some_iff.mp hmerged).1
  · simpa using List.find?_some hfound

/-- **The names of families are distinct, in increasing order.** -/
theorem gather_pairwise (start : String) (series : List Series) (statistics : List Family) :
    (gather start series statistics).Pairwise fun f g => f.name < g.name := by
  refine List.pairwise_map.mpr ((gathered start series statistics).ordered.imp_of_mem ?_)
  rintro ⟨name, f⟩ ⟨name', f'⟩ hf hf' hlt
  rwa [gathered_name (Dict.mem_toList.mp hf), gathered_name (Dict.mem_toList.mp hf')]

theorem gather_nodup (start : String) (series : List Series) (statistics : List Family) :
    (gather start series statistics).Nodup := by
  refine (gather_pairwise start series statistics).imp ?_
  rintro f _ hlt rfl
  exact String.lt_irrefl _ hlt

/-- Series under whose names the same stands are gathered alike. -/
theorem gather_congr {series' : List Series}
    (h : ∀ name, merged start series name = merged start series' name) :
    gather start series statistics = gather start series' statistics := by
  have hsame : gathered start series statistics = gathered start series' statistics :=
    Dict.ext_get? fun name => by rw [gathered_get?, gathered_get?, h]
  exact congrArg (fun d => d.toList.map (·.2)) hsame

/-- What is gathered without statistics is what the series merge into. -/
theorem mem_gather_nil : f ∈ gather start series [] ↔ Merges start series f := by
  simp [mem_gather, merged_eq_some_iff]

/-- **Statistics come under names that are free**, when their own names are distinct. -/
theorem gather_perm (hnames : (statistics.map (·.name)).Nodup) :
    (gather start series statistics).Perm (gather start series [] ++
      statistics.filter fun f => ∀ g ∈ gather start series [], g.name ≠ f.name) := by
  have hnodup : (gather start series [] ++
      statistics.filter fun f => ∀ g ∈ gather start series [], g.name ≠ f.name).Nodup := by
    refine List.nodup_append.mpr ⟨gather_nodup start series [], hnames.of_map.filter _, ?_⟩
    rintro f hf _ hf' rfl
    exact of_decide_eq_true (List.mem_filter.mp hf').2 f hf rfl
  refine (List.perm_ext_iff_of_nodup (gather_nodup start series statistics) hnodup).mpr fun f => ?_
  rw [mem_gather, List.mem_append, List.mem_filter, mem_gather_nil]
  constructor
  · rintro ⟨name, hf⟩
    rcases Option.or_eq_some_iff.mp hf with hmerged | ⟨hfree, hfound⟩
    · exact .inl (merged_eq_some_iff.mp hmerged).2
    · refine .inr ⟨List.mem_of_find?_eq_some hfound, decide_eq_true fun g hg hname => ?_⟩
      have hf : f.name = name := by simpa using List.find?_some hfound
      have hg := merged_eq_some_iff.mpr ⟨hname.trans hf, mem_gather_nil.mp hg⟩
      rw [hfree] at hg
      cases hg
  · rintro (hmerges | ⟨hf, hfree⟩)
    · exact ⟨f.name, by rw [merged_eq_some_iff.mpr ⟨rfl, hmerges⟩, Option.some_or]⟩
    · have hfree := of_decide_eq_true hfree
      have hnone : merged start series f.name = none := by
        refine Option.eq_none_iff_forall_ne_some.mpr fun g hg => ?_
        obtain ⟨hname, hmerges⟩ := merged_eq_some_iff.mp hg
        exact hfree g (mem_gather_nil.mpr hmerges) hname
      obtain ⟨g, hfound⟩ : ∃ g, statistics.find? (fun g => g.name = f.name) = some g :=
        Option.isSome_iff_exists.mp (by simpa using ⟨f, hf, rfl⟩)
      have hg : g.name = f.name := by simpa using List.find?_some hfound
      have hsame := List.inj_on_of_nodup_map hnames (List.mem_of_find?_eq_some hfound) hf hg
      exact ⟨f.name, by rw [hnone, Option.none_or, hfound, hsame]⟩

/-! ## Families of statistics -/

end Exposition

namespace LoadStats

/-- Statistics have distinct names. -/
theorem families_names_nodup (s : LoadStats) : (s.families.map (·.name)).Nodup := by
  have hends : ["_data_load_count", "_data_load_errors", "_data_load_last_run", "_data_load_time",
      "_data_loads_total"].Nodup := by decide
  have hnames := hends.map (f := (s.start ++ ·)) fun _ _ h => (String.append_right_inj _).mp h
  exact hnames.sublist (List.filter_sublist.map _)

/-- Statistics have samples and names. -/
theorem families_nonempty {s : LoadStats} {f : Family} (h : f ∈ s.families) :
    f.samples ≠ [] ∧ f.name ≠ "" := by
  obtain ⟨hf, hsamples⟩ := List.mem_filter.mp h
  refine ⟨by simpa using hsamples, ?_⟩
  simp only [List.mem_cons, List.not_mem_nil, or_false] at hf
  rcases hf with rfl | rfl | rfl | rfl | rfl
  · simp [LoadStats.family]
  · simp [LoadStats.family]
  · simp [LoadStats.family]
  · simp [LoadStats.family]
  · simp

end LoadStats

namespace Exposition

/-- **Merging conserves samples.** The families of a scrape have increasing names, and each has a
name and samples. Those that are not statistics are what the series of the collectors merge into,
in the order of the collectors; every series with samples has one of its name. Statistics are there
whose names none of these has. A series without samples, or of another type than the family of its
name, changes nothing. -/
theorem gather_conserves (start : String) (collectors : List (List Series))
    (stats : Option LoadStats) :
    (gather start collectors.flatten (stats.elim [] LoadStats.families)).Pairwise
      (fun f g => f.name < g.name) ∧
    (∀ f ∈ gather start collectors.flatten (stats.elim [] LoadStats.families),
      f.samples ≠ [] ∧ f.name ≠ "") ∧
    (∀ f, f ∈ gather start collectors.flatten [] ↔ Merges start collectors.flatten f) ∧
    (∀ s ∈ collectors.flatten, s.samples ≠ [] →
      ∃ f ∈ gather start collectors.flatten [], f.name = familyName start s.kind s.name) ∧
    (gather start collectors.flatten (stats.elim [] LoadStats.families)).Perm
      (gather start collectors.flatten [] ++ (stats.elim [] LoadStats.families).filter
        fun f => ∀ g ∈ gather start collectors.flatten [], g.name ≠ f.name) ∧
    ∀ before s later, collectors.flatten = before ++ s :: later →
      (s.samples = [] ∨ ∃ f ∈ gather start collectors.flatten [],
        f.name = familyName start s.kind s.name ∧ f.kind ≠ .ofMetric s.kind) →
      gather start (before ++ later) (stats.elim [] LoadStats.families) =
        gather start collectors.flatten (stats.elim [] LoadStats.families) := by
  have hnames : ((stats.elim [] LoadStats.families).map (·.name)).Nodup := by
    cases stats with
    | none => exact .nil
    | some s => exact s.families_names_nodup
  have hperm : (gather start collectors.flatten (stats.elim [] LoadStats.families)).Perm _ :=
    gather_perm hnames
  refine ⟨gather_pairwise .., ?_, fun f => mem_gather_nil, ?_, hperm, ?_⟩
  · intro f hf
    rcases List.mem_append.mp (hperm.mem_iff.mp hf) with hf | hf
    · exact (mem_gather_nil.mp hf).nonempty
    · cases stats with
      | none => cases hf
      | some s => exact LoadStats.families_nonempty (List.mem_of_mem_filter hf)
  · intro s hs hsamples
    obtain ⟨f, hmerges, hname⟩ := exists_merges hs hsamples
    exact ⟨f, mem_gather_nil.mpr hmerges, hname⟩
  · intro before s later hseries hs
    rw [hseries] at hs ⊢
    exact gather_congr (merged_remove (hs.imp_right fun ⟨f, hf, hname, hkind⟩ =>
      ⟨f, mem_gather_nil.mp hf, hname, hkind⟩))

/-- A series with one sample for each tag. -/
def tagged (kind : MetricKind) (name : String) (tags : List String) : Series :=
  ⟨kind, name, "", ["tag"], tags.map fun tag => ⟨[tag], Decimal.ofInt 1⟩⟩

/-- Series that are all exported under one name: a gauge without samples, two counters, and
between them a gauge. -/
def crossed : List (List Series) :=
  [[tagged .gauge "bytes_total" []], [tagged .counter "bytes" ["a", "b"]],
    [tagged .gauge "bytes_total" ["c"], tagged .counter "bytes_total" ["d"]]]

/-- The counters are merged, and the gauge between them could as well not be there. -/
theorem gather_conserves_crossed :
    (∃ f, Merges "mtik" crossed.flatten f ∧ f.name = "mtik_bytes_total" ∧ f.kind = .counter ∧
      f.samples.map (·.labels) = [[("tag", "a")], [("tag", "b")], [("tag", "d")]]) ∧
    gather "mtik" [tagged .gauge "bytes_total" [], tagged .counter "bytes" ["a", "b"],
      tagged .counter "bytes_total" ["d"]] [] = gather "mtik" crossed.flatten [] := by
  obtain ⟨-, -, hmerges, hnamed, -, hsame⟩ := gather_conserves "mtik" crossed none
  obtain ⟨f, hf, hname⟩ :=
    hnamed (tagged .counter "bytes" ["a", "b"]) (by simp [crossed]) (by simp [tagged])
  have hall : ∀ g ∈ gather "mtik" crossed.flatten [], g.name = "mtik_bytes_total" ∧
      g.kind = .counter ∧
        g.samples.map (·.labels) = [[("tag", "a")], [("tag", "b")], [("tag", "d")]] := by
    decide +kernel
  refine ⟨⟨f, (hmerges f).mp hf, hall f hf⟩, ?_⟩
  refine hsame [tagged .gauge "bytes_total" [], tagged .counter "bytes" ["a", "b"]]
    (tagged .gauge "bytes_total" ["c"]) [tagged .counter "bytes_total" ["d"]] rfl
    (.inr ⟨f, hf, hname, ?_⟩)
  rw [(hall f hf).2.1]
  decide

end Exposition

end RouterMetrics

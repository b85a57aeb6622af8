import Mathlib.Data.List.TakeWhile
import RouterMetrics.Text.Blank

/-!
# The words of a text

The words of a text are what stands between its white space: there is none in white space
(`Text.words_eq_nil_iff`), and the first one of any other text stands behind white space or nothing
and goes up to the next white space, which the other words stand behind (`Text.words_eq_cons_iff`).
-/

namespace RouterMetrics.Text

variable {w cs gap rest : List Char} {ws : List (List Char)}

/-- A word: characters, none of them white space. -/
structure IsWord (w : List Char) : Prop where
  some : w ≠ []
  no_blank : ∀ c ∈ w, isBlank c = false

/-- White space or nothing. -/
def IsGap (gap : List Char) : Prop := ∀ c ∈ gap, isBlank c = true

/-- White space before the words changes nothing. -/
theorem words_gap_append (h : IsGap gap) (cs : List Char) : words (gap ++ cs) = words cs := by
  induction gap with
  | nil => rfl
  | cons c gap ih =>
    obtain ⟨hc, hgap⟩ := List.forall_mem_cons.mp h
    rw [List.cons_append, words, List.splitOnP_cons_eq_if_modifyHead, if_pos hc,
      List.filter_cons_of_neg (by simp), ← words, ih hgap]

/-- A word goes up to the next white space. -/
theorem words_append (h : IsWord w) (hrest : ∀ c ∈ rest.head?, isBlank c = true) :
    words (w ++ rest) = w :: words rest := by
  have hkept : ∀ pieces : List (List Char), ((w :: pieces).filter fun w => !w.isEmpty) =
      w :: pieces.filter fun w => !w.isEmpty := fun pieces => by simp [h.some]
  cases rest with
  | nil =>
    rw [List.append_nil, words, List.splitOnP_eq_singleton h.no_blank, hkept]
    rfl
  | cons c rest =>
    have hc : IsGap [c] := List.forall_mem_singleton.mpr (hrest c rfl)
    rw [← List.singleton_append (x := c), words_gap_append hc, List.singleton_append, words,
      List.splitOnP_append_cons_of_forall_mem h.no_blank c (hrest c rfl), hkept, ← words]

/-- A text that is not all white space has a first word. -/
theorem exists_word (h : ¬ IsGap cs) : ∃ gap w rest, cs = gap ++ (w ++ rest) ∧ IsGap gap ∧
    IsWord w ∧ ∀ c ∈ rest.head?, isBlank c = true := by
  have hsome : cs.dropWhile isBlank ≠ [] := fun hnil => h (List.dropWhile_eq_nil_iff.mp hnil)
  refine ⟨cs.takeWhile isBlank, (cs.dropWhile isBlank).takeWhile fun c => !isBlank c,
    (cs.dropWhile isBlank).dropWhile fun c => !isBlank c, ?_, ?_, ⟨?_, ?_⟩, ?_⟩
  · rw [List.takeWhile_append_dropWhile, List.takeWhile_append_dropWhile]
  · exact fun c hc => List.mem_takeWhile_imp hc
  · obtain ⟨c, rest, hdrop⟩ := List.exists_cons_of_ne_nil hsome
    have hstop := List.head?_dropWhile_not isBlank cs
    rw [hdrop] at hstop ⊢
    have hc : isBlank c = false := hstop
    simp [hc]
  · intro c hc
    simpa using List.mem_takeWhile_imp hc
  · intro c hc
    have hstop := List.head?_dropWhile_not (fun c => !isBlank c) (cs.dropWhile isBlank)
    rw [Option.mem_def.mp hc] at hstop
    simpa using hstop

/-- **There are no words in white space**, and in any other text there are. -/
theorem words_eq_nil_iff : words cs = [] ↔ IsGap cs := by
  constructor
  · intro hnone
    by_contra h
    obtain ⟨gap, w, rest, rfl, hgap, hw, hrest⟩ := exists_word h
    rw [words_gap_append hgap, words_append hw hrest] at hnone
    cases hnone
  · intro h
    have hwords := words_gap_append h []
    rwa [List.append_nil] at hwords

/-- **The first word stands behind white space or nothing, and before white space or nothing.** -/
theorem words_eq_cons_iff : words cs = w :: ws ↔ ∃ gap rest, cs = gap ++ (w ++ rest) ∧
    IsGap gap ∧ IsWord w ∧ (∀ c ∈ rest.head?, isBlank c = true) ∧ words rest = ws := by
  constructor
  · intro hwords
    have h : ¬ IsGap cs := fun hgap => by
      rw [words_eq_nil_iff.mpr hgap] at hwords
      cases hwords
    obtain ⟨gap, w', rest, rfl, hgap, hw, hrest⟩ := exists_word h
    rw [words_gap_append hgap, words_append hw hrest] at hwords
    cases hwords
    exact ⟨gap, rest, rfl, hgap, hw, hrest, rfl⟩
  · rintro ⟨gap, rest, rfl, hgap, hw, hrest, rfl⟩
    rw [words_gap_append hgap, words_append hw hrest]

/-- **A text of two words** has white space between them, and around them none or some. -/
theorem words_eq_pair_iff {v t : List Char} : words cs = [v, t] ↔
    ∃ before between behind, cs = before ++ v ++ between ++ t ++ behind ∧ IsGap before ∧
      IsGap between ∧ IsGap behind ∧ between ≠ [] ∧ IsWord v ∧ IsWord t := by
  simp only [words_eq_cons_iff, words_eq_nil_iff]
  constructor
  · rintro ⟨before, rest, rfl, hbefore, hv, hhead, between, behind, rfl, hbetween, ht, -, hbehind⟩
    refine ⟨before, between, behind, by simp, hbefore, hbetween, hbehind, ?_, hv, ht⟩
    -- without white space between them the second word would go on with the first
    rintro rfl
    obtain ⟨c, t, rfl⟩ := List.exists_cons_of_ne_nil ht.some
    have hblank := hhead c rfl
    rw [ht.no_blank c List.mem_cons_self] at hblank
    cases hblank
  · rintro ⟨before, between, behind, rfl, hbefore, hbetween, hbehind, hsome, hv, ht⟩
    refine ⟨before, between ++ (t ++ behind), by simp, hbefore, hv, ?_, between, behind, rfl,
      hbetween, ht, ?_, hbehind⟩
    · obtain ⟨c, between, rfl⟩ := List.exists_cons_of_ne_nil hsome
      rintro _ ⟨⟩
      exact hbetween c List.mem_cons_self
    · exact fun c hc => hbehind c (List.mem_of_mem_head? hc)

end RouterMetrics.Text

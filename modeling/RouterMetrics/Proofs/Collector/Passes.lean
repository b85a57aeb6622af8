import Mathlib.Data.List.TakeWhile
import Mathlib.Logic.Function.Iterate
import RouterMetrics.Proofs.Collector.Names

/-!
# Normalizing a name again

A pass of normalization takes one separator from each end of a name, so a normal form that still
starts or ends with an underscore is not its own normal form. The passes of a name are one
underscoring behind as many strippings (`normalizeName_iterate`). Each of them lowers the layers of
separators by one (`layers_stripped`), so a name settles after as many passes as it has layers
(`normalizeName_iterate_eq_iff`). It settles after the first when one stripping is all that its ends
ask for (`FieldName.second_pass`).
-/

namespace RouterMetrics

namespace FieldName

/-- The number of separators before everything else in a name. -/
def separatorsBefore (cs : List Char) : Nat := (cs.takeWhile isSeparator).length

/-- The number of separators behind everything else in a name. -/
def separatorsBehind (cs : List Char) : Nat := separatorsBefore cs.reverse

/-- A name without one separator at each end. The first end goes first, so that a name of one
separator has none left for the other end. -/
def stripped (cs : List Char) : List Char := (dropSeparator (dropSeparator cs).reverse).reverse

/-- How many strippings find a separator at an end. In a name of separators alone they come from
both ends to the same ones. -/
def layers (cs : List Char) : Nat :=
  if cs.all isSeparator then (cs.length + 1) / 2
  else max (separatorsBefore cs) (separatorsBehind cs)

theorem normalizeName_eq (cs : List Char) : normalizeName cs = (stripped cs).map underscore := rfl

/-! ## Underscores -/

theorem underscore_of_isSeparator {c : Char} (h : isSeparator c = true) : underscore c = '_' := by
  rcases isSeparator_iff.mp h with (rfl | rfl) | rfl
  · rfl
  · rfl
  · rfl

theorem underscore_clean (c : Char) : underscore c ≠ '.' ∧ underscore c ≠ '-' := by
  rcases underscore_cases c with ⟨-, h⟩ | ⟨hclean, h⟩
  · rw [h]
    decide
  · rwa [h]

theorem underscore_underscore (c : Char) : underscore (underscore c) = underscore c := by
  rcases underscore_cases c with ⟨-, h⟩ | ⟨-, h⟩
  · rw [h]
    rfl
  · rw [h, h]

theorem map_underscore_underscore (cs : List Char) :
    (cs.map underscore).map underscore = cs.map underscore := by
  rw [List.map_map]
  exact List.map_congr_left fun c _ => underscore_underscore c

/-- Separators stay separators, so they can be dropped before or after the underscoring. -/
theorem dropSeparator_map (cs : List Char) :
    dropSeparator (cs.map underscore) = (dropSeparator cs).map underscore := by
  cases cs with
  | nil => rfl
  | cons c rest =>
    rw [List.map_cons, dropSeparator, dropSeparator, isSeparator_underscore]
    by_cases hc : isSeparator c = true
    · rw [if_pos hc, if_pos hc]
    · rw [if_neg hc, if_neg hc, List.map_cons]

theorem stripped_map (cs : List Char) :
    stripped (cs.map underscore) = (stripped cs).map underscore := by
  rw [stripped, dropSeparator_map, ← List.map_reverse, dropSeparator_map, ← List.map_reverse]
  rfl

/-- **Passes are strippings with one underscoring behind them.** -/
theorem normalizeName_iterate (n : Nat) (cs : List Char) :
    normalizeName^[n + 1] cs = (stripped^[n + 1] cs).map underscore := by
  induction n with
  | zero => rfl
  | succ n ih =>
    rw [Function.iterate_succ_apply', ih, normalizeName_eq, stripped_map,
      map_underscore_underscore, Function.iterate_succ_apply' stripped (n + 1)]

/-! ## What a stripping takes -/

/-- What is dropped from the start of a name: nothing, or one separator. -/
theorem dropSeparator_behind (cs : List Char) :
    ∃ front, cs = front ++ dropSeparator cs ∧ front.length ≤ 1 ∧ front.all isSeparator = true := by
  cases cs with
  | nil => exact ⟨[], rfl, Nat.zero_le 1, rfl⟩
  | cons c rest =>
    by_cases hc : isSeparator c = true
    · refine ⟨[c], ?_, Nat.le_refl 1, by simpa using hc⟩
      rw [dropSeparator, if_pos hc, List.singleton_append]
    · refine ⟨[], ?_, Nat.zero_le 1, rfl⟩
      rw [dropSeparator, if_neg hc, List.nil_append]

/-- What is stripped from a name: nothing or one separator at each end. -/
theorem stripped_between (cs : List Char) :
    ∃ front back, cs = front ++ stripped cs ++ back ∧
      (front.length ≤ 1 ∧ front.all isSeparator = true) ∧
      (back.length ≤ 1 ∧ back.all isSeparator = true) := by
  obtain ⟨front, hfront, hends⟩ := dropSeparator_behind cs
  obtain ⟨back, hback, hlength, hall⟩ := dropSeparator_behind (dropSeparator cs).reverse
  refine ⟨front, back.reverse, ?_, hends, ?_⟩
  · have hinner : dropSeparator cs = stripped cs ++ back.reverse := by
      rw [stripped, ← List.reverse_append, ← hback, List.reverse_reverse]
    rw [List.append_assoc, ← hinner, ← hfront]
  · rw [List.length_reverse, List.all_reverse]
    exact ⟨hlength, hall⟩

/-- A stripping that takes nothing off the length takes nothing. -/
theorem stripped_eq_of_length {cs : List Char} (h : (stripped cs).length = cs.length) :
    stripped cs = cs := by
  obtain ⟨front, back, hcs, -, -⟩ := stripped_between cs
  have hlength := congrArg List.length hcs
  rw [List.length_append, List.length_append] at hlength
  have hfront : front = [] := List.eq_nil_of_length_eq_zero (by omega)
  have hback : back = [] := List.eq_nil_of_length_eq_zero (by omega)
  rw [hfront, hback, List.nil_append, List.append_nil] at hcs
  exact hcs.symm

/-! ## Layers -/

theorem separatorsBefore_le (cs : List Char) : separatorsBefore cs ≤ cs.length :=
  (List.takeWhile_sublist isSeparator).length_le

theorem separatorsBehind_le (cs : List Char) : separatorsBehind cs ≤ cs.length := by
  rw [separatorsBehind, ← List.length_reverse]
  exact separatorsBefore_le cs.reverse

theorem separatorsBefore_dropSeparator (cs : List Char) :
    separatorsBefore (dropSeparator cs) = separatorsBefore cs - 1 := by
  cases cs with
  | nil => rfl
  | cons c rest =>
    by_cases hc : isSeparator c = true
    · simp [separatorsBefore, dropSeparator, hc]
    · simp [separatorsBefore, dropSeparator, hc]

/-- Where a name has more than separators, something stands behind those at its start. -/
theorem separatorsBefore_lt {cs : List Char} (h : cs.all isSeparator = false) :
    separatorsBefore cs < cs.length := by
  refine Nat.lt_of_le_of_ne (separatorsBefore_le cs) fun hlength => ?_
  have hself := (List.takeWhile_prefix (l := cs) isSeparator).eq_of_length hlength
  rw [List.takeWhile_eq_self_iff, ← List.all_eq_true, h] at hself
  cases hself

/-- Where a name has more than separators, what is dropped at its start is not at its end. -/
theorem separatorsBehind_dropSeparator {cs : List Char} (h : cs.all isSeparator = false) :
    separatorsBehind (dropSeparator cs) = separatorsBehind cs ∧
      (dropSeparator cs).all isSeparator = false := by
  cases cs with
  | nil => cases h
  | cons c rest =>
    by_cases hc : isSeparator c = true
    · rw [List.all_cons, hc, Bool.true_and] at h
      rw [dropSeparator, if_pos hc]
      refine ⟨?_, h⟩
      -- the run at the end does not come as far as the start of `rest`, so it cannot reach `c`
      have hstops : (rest.reverse.takeWhile isSeparator).length ≠ rest.reverse.length :=
        Nat.ne_of_lt (separatorsBefore_lt (by rw [List.all_reverse, h]))
      rw [separatorsBehind, separatorsBehind, separatorsBefore, separatorsBefore, List.reverse_cons,
        List.takeWhile_append, if_neg hstops]
    · rw [dropSeparator, if_neg hc]
      exact ⟨rfl, h⟩

/-- Where a name has more than separators, a stripping takes one from each end that has any. -/
theorem stripped_of_mixed {cs : List Char} (h : cs.all isSeparator = false) :
    separatorsBefore (stripped cs) = separatorsBefore cs - 1 ∧
      separatorsBehind (stripped cs) = separatorsBehind cs - 1 ∧
      (stripped cs).all isSeparator = false := by
  obtain ⟨hbehind, hmixed⟩ := separatorsBehind_dropSeparator h
  have hreversed : (dropSeparator cs).reverse.all isSeparator = false := by
    rw [List.all_reverse, hmixed]
  obtain ⟨hbefore, hrest⟩ := separatorsBehind_dropSeparator hreversed
  refine ⟨?_, ?_, ?_⟩
  · rw [separatorsBehind, separatorsBehind, List.reverse_reverse] at hbefore
    rw [stripped, hbefore, separatorsBefore_dropSeparator]
  · rw [stripped, separatorsBehind, List.reverse_reverse, separatorsBefore_dropSeparator,
      ← separatorsBehind, hbehind]
  · rw [stripped, List.all_reverse, hrest]

theorem dropSeparator_of_all {cs : List Char} (h : cs.all isSeparator = true) :
    (dropSeparator cs).length = cs.length - 1 ∧ (dropSeparator cs).all isSeparator = true := by
  cases cs with
  | nil => exact ⟨rfl, rfl⟩
  | cons c rest =>
    rw [List.all_cons, Bool.and_eq_true] at h
    rw [dropSeparator, if_pos h.1]
    exact ⟨rfl, h.2⟩

/-- Of separators alone a stripping takes two, as long as there are two. -/
theorem stripped_of_all {cs : List Char} (h : cs.all isSeparator = true) :
    (stripped cs).length = cs.length - 2 ∧ (stripped cs).all isSeparator = true := by
  obtain ⟨hlength, hall⟩ := dropSeparator_of_all h
  have hreversed : (dropSeparator cs).reverse.all isSeparator = true := by
    rw [List.all_reverse, hall]
  obtain ⟨hlength', hall'⟩ := dropSeparator_of_all hreversed
  rw [List.length_reverse, hlength] at hlength'
  rw [stripped, List.length_reverse, List.all_reverse, hlength']
  exact ⟨by omega, hall'⟩

/-- **A stripping takes one layer.** -/
theorem layers_stripped (cs : List Char) : layers (stripped cs) = layers cs - 1 := by
  unfold layers
  by_cases h : cs.all isSeparator = true
  · obtain ⟨hlength, hall⟩ := stripped_of_all h
    rw [if_pos h, if_pos hall, hlength]
    omega
  · obtain ⟨hbefore, hbehind, hmixed⟩ := stripped_of_mixed (Bool.eq_false_iff.mpr h)
    rw [if_neg h, if_neg (Bool.eq_false_iff.mp hmixed), hbefore, hbehind]
    omega

theorem layers_iterate (n : Nat) (cs : List Char) : layers (stripped^[n] cs) = layers cs - n := by
  induction n with
  | zero => rfl
  | succ n ih =>
    rw [Function.iterate_succ_apply', layers_stripped, ih]
    omega

theorem dropSeparator_of_none {cs : List Char} (h : separatorsBefore cs = 0) :
    dropSeparator cs = cs := by
  refine dropSeparator_of_head (Bool.eq_false_iff.mpr fun hstart => ?_)
  cases cs with
  | nil => cases hstart
  | cons c rest =>
    have hc : isSeparator c = true := hstart
    simp [separatorsBefore, hc] at h

/-- A name is left as it is when it has no layers. -/
theorem stripped_eq_iff {cs : List Char} : stripped cs = cs ↔ layers cs = 0 := by
  constructor
  · intro h
    have hlayers := layers_stripped cs
    rw [h] at hlayers
    omega
  · intro h
    have hnone : separatorsBefore cs = 0 ∧ separatorsBehind cs = 0 := by
      have hle := separatorsBefore_le cs
      have hle' := separatorsBehind_le cs
      unfold layers at h
      split at h
      case isTrue => omega
      case isFalse => omega
    have hreversed : dropSeparator cs.reverse = cs.reverse := dropSeparator_of_none hnone.2
    rw [stripped, dropSeparator_of_none hnone.1, hreversed, List.reverse_reverse]

/-- **A name settles after as many passes as it has layers.** The first pass is left out, as it
also underscores. -/
theorem normalizeName_iterate_eq_iff (n : Nat) (cs : List Char) :
    normalizeName^[n + 2] cs = normalizeName^[n + 1] cs ↔ layers cs ≤ n + 1 := by
  have hlayers : layers (stripped^[n + 1] cs) = 0 ↔ layers cs ≤ n + 1 := by
    rw [layers_iterate]
    omega
  rw [normalizeName_iterate, normalizeName_iterate, ← hlayers, ← stripped_eq_iff,
    Function.iterate_succ_apply']
  constructor
  · -- underscoring hides which separators there were, but not how many
    intro h
    have hlength := congrArg List.length h
    rw [List.length_map, List.length_map] at hlength
    exact stripped_eq_of_length hlength
  · intro h
    rw [h]

/-- One stripping is all that the ends of a name ask for when it has at most one separator at each
of them. The only other names of that kind are two separators. -/
theorem layers_le_one_iff (cs : List Char) :
    layers cs ≤ 1 ↔ cs.length ≤ 2 ∨ separatorsBefore cs ≤ 1 ∧ separatorsBehind cs ≤ 1 := by
  have hbefore := separatorsBefore_le cs
  have hbehind := separatorsBehind_le cs
  unfold layers
  by_cases h : cs.all isSeparator = true
  · have hself := List.takeWhile_eq_self_iff.mpr (List.all_eq_true.mp h)
    have hfull : separatorsBefore cs = cs.length := by rw [separatorsBefore, hself]
    rw [if_pos h]
    omega
  · have hlt := separatorsBefore_lt (Bool.eq_false_iff.mpr h)
    have hlt' : separatorsBehind cs < cs.reverse.length :=
      separatorsBefore_lt (by rw [List.all_reverse, Bool.eq_false_iff.mpr h])
    rw [List.length_reverse] at hlt'
    rw [if_neg h]
    omega

/-! ## The second pass -/

theorem toList_normalizeKey (key : String) :
    (normalizeKey key).toList = normalizeName key.toList := String.toList_ofList

/-- What a pass takes from an end that has underscores already. -/
theorem ofList_map_underscore {cs : List Char} (hlength : cs.length ≤ 1)
    (hall : cs.all isSeparator = true) : String.ofList (cs.map underscore) ∈ ["", "_"] := by
  cases cs with
  | nil => exact List.mem_cons_self
  | cons c rest =>
    obtain rfl : rest = [] := by simpa using hlength
    have hc : isSeparator c = true := by simpa using hall
    rw [List.map_singleton, underscore_of_isSeparator hc]
    exact List.mem_cons_of_mem "" List.mem_cons_self

/-- **A normal form has neither dots nor hyphens, and normalizing it again changes nothing exactly
when the name had no more than two characters, or at most one separator at each end.** Of any other
name the second pass takes an underscore, or one at each end, and nothing else. -/
theorem second_pass (key : String) :
    ('.' ∉ (normalizeKey key).toList ∧ '-' ∉ (normalizeKey key).toList) ∧
    (normalizeKey (normalizeKey key) = normalizeKey key ↔
      key.length ≤ 2 ∨ separatorsBefore key.toList ≤ 1 ∧ separatorsBehind key.toList ≤ 1) ∧
    ∃ front ∈ ["", "_"], ∃ back ∈ ["", "_"],
      normalizeKey key = front ++ normalizeKey (normalizeKey key) ++ back := by
  have hagain : normalizeKey (normalizeKey key) =
      String.ofList (normalizeName (normalizeName key.toList)) := by
    rw [normalizeKey, toList_normalizeKey]
  have hclean : ∀ c ∈ (normalizeKey key).toList, c ≠ '.' ∧ c ≠ '-' := by
    intro c hc
    rw [toList_normalizeKey, normalizeName_eq] at hc
    obtain ⟨d, -, rfl⟩ := List.mem_map.mp hc
    exact underscore_clean d
  refine ⟨⟨fun hdot => (hclean _ hdot).1 rfl, fun hhyphen => (hclean _ hhyphen).2 rfl⟩, ?_, ?_⟩
  · rw [hagain, normalizeKey, String.ofList_inj, ← String.length_toList, ← layers_le_one_iff]
    exact normalizeName_iterate_eq_iff 0 key.toList
  · obtain ⟨front, back, hbetween, hfront, hback⟩ := stripped_between (stripped key.toList)
    refine ⟨_, ofList_map_underscore hfront.1 hfront.2, _,
      ofList_map_underscore hback.1 hback.2, ?_⟩
    have htwice : normalizeName (normalizeName key.toList) =
        (stripped (stripped key.toList)).map underscore := normalizeName_iterate 1 key.toList
    rw [hagain, htwice, normalizeKey, normalizeName_eq, ← String.ofList_append,
      ← String.ofList_append, ← List.map_append, ← List.map_append, ← hbetween]

/-- Of two dots before a name one pass leaves an underscore, which the next one takes. -/
theorem about_normalized_again :
    normalizeKey "..about" = "_about" ∧ normalizeKey (normalizeKey "..about") = "about" ∧
      ¬ ∀ key, normalizeKey (normalizeKey key) = normalizeKey key := by
  have honce : normalizeKey "..about" = "_about" := by decide
  have htwice : normalizeKey "_about" = "about" := by decide
  refine ⟨honce, by rw [honce, htwice], fun h => ?_⟩
  have habout := h "..about"
  rw [honce, htwice] at habout
  exact absurd habout (by decide)

end FieldName

end RouterMetrics

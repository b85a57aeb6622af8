import Mathlib.Data.List.Induction
import Mathlib.Data.List.Sort
import RouterMetrics.Dict

/-!
# Maps by what is looked up in them

Maps are the same when every key is looked up alike (`Dict.ext_get?`). A map that is made of a list
has the last value that the list has for a key (`Dict.ofList_get?_iff`), and a map to which the
bindings of another one are added has those of the other one first (`Dict.get?_foldl_insert`).
-/

namespace RouterMetrics

variable {α : Type}

/-- An element of a list with one more element at its end is that one or stands before it. -/
theorem append_singleton_eq_iff {l before after : List α} {e x : α} :
    l ++ [e] = before ++ x :: after ↔
      (l = before ∧ e = x ∧ after = []) ∨
        ∃ after', after = after' ++ [e] ∧ l = before ++ x :: after' := by
  constructor
  · intro heq
    cases after using List.reverseRecOn with
    | nil =>
      obtain ⟨hbefore, hlast⟩ := List.append_inj' heq rfl
      exact .inl ⟨hbefore, List.singleton_inj.mp hlast, rfl⟩
    | append_singleton after e' =>
      rw [← List.cons_append, ← List.append_assoc] at heq
      obtain ⟨hbefore, hlast⟩ := List.append_inj' heq rfl
      exact .inr ⟨after, by rw [List.singleton_inj.mp hlast], hbefore⟩
  · rintro (⟨rfl, rfl, rfl⟩ | ⟨after', rfl, rfl⟩)
    · rfl
    · simp

namespace Dict

/-- Maps are the same when every key is looked up alike. -/
theorem ext_get? {d d' : Dict α} (h : ∀ k, d.get? k = d'.get? k) : d = d' := by
  have hmem : ∀ e, e ∈ d.entries ↔ e ∈ d'.entries := fun (k, v) => by
    rw [← Dict.toList, ← Dict.toList, Dict.mem_toList, Dict.mem_toList, h]
  have hperm : d.entries.Perm d'.entries :=
    (List.perm_ext_iff_of_nodup d.toList_keys_nodup.of_map d'.toList_keys_nodup.of_map).mpr hmem
  have heq : d.entries = d'.entries :=
    hperm.eq_of_pairwise (fun a b _ _ hab hba => absurd hba (String.lt_asymm hab)) d.ordered
      d'.ordered
  obtain ⟨entries, ordered⟩ := d
  cases heq
  rfl

/-! ## Maps made of lists -/

theorem ofList_append_singleton (l : List (String × α)) (e : String × α) :
    ofList (l ++ [e]) = (ofList l).insert e.1 e.2 := by
  rw [ofList, List.foldl_append]
  rfl

/-- **A key is bound to the last value that a list has for it.** -/
theorem ofList_get?_iff {l : List (String × α)} {k : String} {v : α} :
    (ofList l).get? k = some v ↔
      ∃ before after, l = before ++ (k, v) :: after ∧ ∀ e ∈ after, e.1 ≠ k := by
  induction l using List.reverseRecOn with
  | nil => simp [ofList]
  | append_singleton l e ih =>
    simp only [ofList_append_singleton, get?_insert, append_singleton_eq_iff]
    by_cases he : e.1 = k
    · rw [if_pos he]
      constructor
      · rintro ⟨⟩
        exact ⟨l, [], .inl ⟨rfl, by rw [← he], rfl⟩, by simp⟩
      · rintro ⟨before, after, ⟨-, rfl, -⟩ | ⟨after', rfl, -⟩, hafter⟩
        · rfl
        · exact absurd he (hafter e (List.mem_append_right _ List.mem_cons_self))
    · rw [if_neg he, ih]
      constructor
      · rintro ⟨before, after, rfl, hafter⟩
        refine ⟨before, after ++ [e], .inr ⟨after, rfl, rfl⟩, ?_⟩
        exact List.forall_mem_append.mpr ⟨hafter, List.forall_mem_singleton.mpr he⟩
      · rintro ⟨before, after, ⟨-, rfl, -⟩ | ⟨after', rfl, rfl⟩, hafter⟩
        · exact absurd rfl he
        · exact ⟨before, after', rfl, fun e he => hafter e (List.mem_append_left _ he)⟩

/-- A key is not bound when a list has no value for it. -/
theorem ofList_get?_eq_none_iff {l : List (String × α)} {k : String} :
    (ofList l).get? k = none ↔ ∀ e ∈ l, e.1 ≠ k := by
  induction l using List.reverseRecOn with
  | nil => simp [ofList]
  | append_singleton l e ih =>
    rw [ofList_append_singleton, get?_insert, List.forall_mem_append, List.forall_mem_singleton,
      ← ih]
    by_cases he : e.1 = k
    · simp [he]
    · simp [he]

theorem mem_of_ofList_get? {l : List (String × α)} {k : String} {v : α}
    (h : (ofList l).get? k = some v) : (k, v) ∈ l := by
  obtain ⟨before, after, rfl, -⟩ := ofList_get?_iff.mp h
  exact List.mem_append_right _ List.mem_cons_self

/-- A key that a list has one value for is bound to it. -/
theorem ofList_get?_of_unique {l : List (String × α)} {k : String} {v : α} (hmem : (k, v) ∈ l)
    (unique : ∀ e ∈ l, e.1 = k → e = (k, v)) : (ofList l).get? k = some v := by
  cases h : (ofList l).get? k with
  | none => exact absurd rfl (ofList_get?_eq_none_iff.mp h _ hmem)
  | some v' => rw [(Prod.mk.inj (unique _ (mem_of_ofList_get? h) rfl)).2]

/-- A list that has one value for each key is looked up as it stands. -/
theorem ofList_get?_iff_mem {l : List (String × α)} (distinct : (l.map (·.1)).Nodup) {k : String}
    {v : α} : (ofList l).get? k = some v ↔ (k, v) ∈ l := by
  rw [ofList_get?_iff]
  constructor
  · rintro ⟨before, after, rfl, -⟩
    exact List.mem_append_right _ List.mem_cons_self
  · intro hmem
    obtain ⟨before, after, rfl⟩ := List.append_of_mem hmem
    refine ⟨before, after, rfl, fun e he heq => ?_⟩
    rw [List.map_append, List.map_cons] at distinct
    have hnew := (List.nodup_cons.mp (List.nodup_append.mp distinct).2.1).1
    exact hnew (List.mem_map.mpr ⟨e, he, heq⟩)

theorem ofList_toList (d : Dict α) : ofList d.toList = d := by
  refine ext_get? fun k => Option.ext fun v => ?_
  rw [ofList_get?_iff_mem d.toList_keys_nodup, mem_toList]

/-! ## Maps made of maps -/

/-- **Bindings that are added to a map come before its own.** -/
theorem get?_foldl_insert (e d : Dict α) (k : String) :
    (e.toList.foldl (fun d b => d.insert b.1 b.2) d).get? k = (e.get? k).or (d.get? k) := by
  conv => rhs; rw [← ofList_toList e]
  induction e.toList using List.reverseRecOn with
  | nil => rfl
  | append_singleton l b ih =>
    rw [List.foldl_append, ofList_append_singleton, get?_insert]
    show (Dict.insert _ b.1 b.2).get? k = _
    rw [get?_insert]
    by_cases hb : b.1 = k
    · rw [if_pos hb, if_pos hb, Option.some_or]
    · rw [if_neg hb, if_neg hb, ih]

/-- Only the keys that pass the test are looked up as before. -/
theorem get?_filterKeys (d : Dict α) (p : String → Bool) (k : String) :
    (d.filterKeys p).get? k = if p k then d.get? k else none := by
  refine Option.ext fun v => ?_
  have hmem : (k, v) ∈ (d.filterKeys p).toList ↔ (k, v) ∈ d.toList ∧ p k = true :=
    List.mem_filter
  rw [← mem_toList, hmem, mem_toList]
  by_cases hk : p k = true
  · simp [hk]
  · simp [hk]

end Dict

end RouterMetrics

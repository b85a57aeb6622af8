import Mathlib.Data.List.Forall2

/-!
# Lists that are related element by element

What is said of two lists place by place is said of their elements (`exists_of_mem_forall₂`,
`getElem?_of_forall₂`), of what is made of them (`map_of_forall₂`, `filterMap_of_forall₂`,
`zipWith_of_forall₂`), and along a list in between (`forall₂_comp`).
-/

namespace RouterMetrics

/-- A list that is mapped in part has its elements in their order. -/
theorem filterMap_forall₂ {α β : Type} (f : α → Option β) (l : List α) :
    List.Forall₂ (fun a b => f a = some b) (l.filter fun a => (f a).isSome) (l.filterMap f) := by
  induction l with
  | nil => exact .nil
  | cons a rest ih =>
    cases ha : f a with
    | none => simpa [ha] using ih
    | some b => simpa [ha] using ih

/-- An element on the right is related to one on the left. -/
theorem exists_of_mem_forall₂ {α β : Type} {R : α → β → Prop} {l : List α} {m : List β}
    (h : List.Forall₂ R l m) {b : β} (hb : b ∈ m) : ∃ a ∈ l, R a b := by
  induction h with
  | nil => cases hb
  | cons hfirst _ ih =>
    rcases List.mem_cons.mp hb with rfl | hb
    · exact ⟨_, List.mem_cons_self, hfirst⟩
    · obtain ⟨a, ha, hrel⟩ := ih hb
      exact ⟨a, List.mem_cons_of_mem _ ha, hrel⟩

/-- Related lists have related elements, or none, at every place. -/
theorem getElem?_of_forall₂ {α β : Type} {R : α → β → Prop} {l : List α} {m : List β}
    (h : List.Forall₂ R l m) (i : Nat) : Option.Rel R l[i]? m[i]? := by
  induction h generalizing i with
  | nil => exact .none
  | cons hfirst _ ih =>
    cases i with
    | zero => exact .some hfirst
    | succ i => exact ih i

/-- Lists stay related when related elements are put at one place. -/
theorem set_of_forall₂ {α β : Type} {R : α → β → Prop} {l : List α} {m : List β}
    (h : List.Forall₂ R l m) {a : α} {b : β} (hab : R a b) (i : Nat) :
    List.Forall₂ R (l.set i a) (m.set i b) := by
  induction h generalizing i with
  | nil => exact .nil
  | cons hfirst hrest ih =>
    cases i with
    | zero => exact .cons hab hrest
    | succ i => exact .cons hfirst (ih i)

/-- Lists that are put together place by place stay related. -/
theorem zipWith_of_forall₂ {α α' β β' γ γ' : Type} {R : α → α' → Prop} {S : β → β' → Prop}
    {T : γ → γ' → Prop} {f : α → β → γ} {g : α' → β' → γ'} {l : List α} {l' : List α'}
    {m : List β} {m' : List β'} (hl : List.Forall₂ R l l') (hm : List.Forall₂ S m m')
    (hfg : ∀ a a' b b', R a a' → S b b' → T (f a b) (g a' b')) :
    List.Forall₂ T (List.zipWith f l m) (List.zipWith g l' m') := by
  induction hl generalizing m m' with
  | nil => exact .nil
  | cons ha _ ih =>
    cases hm with
    | nil => exact .nil
    | cons hb hrest => exact .cons (hfg _ _ _ _ ha hb) (ih hrest)

/-- Related lists are mapped to the same when their elements are. -/
theorem map_of_forall₂ {α β γ : Type} {R : α → β → Prop} {f : α → γ} {g : β → γ} {l : List α}
    {m : List β} (h : List.Forall₂ R l m) (hsame : ∀ a b, R a b → f a = g b) :
    l.map f = m.map g := by
  induction h with
  | nil => rfl
  | cons hfirst _ ih => rw [List.map_cons, List.map_cons, hsame _ _ hfirst, ih]

/-- Related lists come to the same when their elements do. -/
theorem filterMap_of_forall₂ {α β γ : Type} {R : α → β → Prop} {f : α → Option γ}
    {g : β → Option γ} {l : List α} {m : List β} (h : List.Forall₂ R l m)
    (hsame : ∀ a b, R a b → f a = g b) : l.filterMap f = m.filterMap g := by
  induction h with
  | nil => rfl
  | cons hfirst _ ih => rw [List.filterMap_cons, List.filterMap_cons, hsame _ _ hfirst, ih]

/-- What is left of a list on the right is related to a part of that on the left. -/
theorem forall₂_filter {α β : Type} {R : α → β → Prop} (p : β → Bool) {l : List α} {m : List β}
    (h : List.Forall₂ R l m) : ∃ part, part.Sublist l ∧ List.Forall₂ R part (m.filter p) := by
  induction h with
  | nil => exact ⟨[], List.nil_sublist _, .nil⟩
  | @cons a b _ _ hfirst _ ih =>
    obtain ⟨part, hpart, hrest⟩ := ih
    by_cases hb : p b = true
    · rw [List.filter_cons_of_pos hb]
      exact ⟨a :: part, hpart.cons_cons a, .cons hfirst hrest⟩
    · rw [List.filter_cons_of_neg hb]
      exact ⟨part, hpart.cons a, hrest⟩

/-- What is related to what is related. -/
theorem forall₂_comp {α β γ : Type} {R : α → β → Prop} {S : β → γ → Prop} {as : List α}
    {bs : List β} {cs : List γ} (h : List.Forall₂ R as bs) (h' : List.Forall₂ S bs cs) :
    List.Forall₂ (fun a c => ∃ b, R a b ∧ S b c) as cs := by
  induction h generalizing cs with
  | nil =>
    cases h'
    exact .nil
  | cons hab _ ih =>
    cases h' with
    | cons hbc hrest => exact .cons ⟨_, hab, hbc⟩ (ih hrest)

end RouterMetrics

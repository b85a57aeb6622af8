import Mathlib.Data.Bool.AllAny
import Mathlib.Tactic.SplitIfs
import RouterMetrics.Json.Reader
import RouterMetrics.Proofs.Text.Numerals

/-!
# What a document can hold

Whatever its bytes are, an object that a document holds has its members in order, and so have the
objects of a list (`Json.value_ordered`, `Json.value_items_ordered`). A text of nothing but white
space holds no value (`Json.read_blank`).
-/

namespace RouterMetrics.Json

variable {room depth : Nat} {c : Char} {cs rest : List Char} {v : Json}

/-! ## Numbers -/

/-- A number, whole or not. -/
def IsNumber (v : Json) : Prop := (∃ i, v = .int i) ∨ ∃ x, v = .float x

theorem floatOf_isNumber {negative : Bool} {word : Nat} {e : Int}
    (h : (floatOf negative word e).map (·, rest) = some (v, cs)) : IsNumber v := by
  rw [floatOf, Option.map_map, Option.map_eq_some_iff] at h
  obtain ⟨x, -, h⟩ := h
  exact .inr ⟨_, (Prod.mk.inj h).1.symm⟩

theorem exponentPart_isNumber {negative : Bool} {word : Nat} {e : Int}
    (h : exponentPart negative word e cs = some (v, rest)) : IsNumber v := by
  simp only [exponentPart] at h
  split at h
  case isTrue => cases h
  case isFalse =>
    split at h
    case isTrue => exact floatOf_isNumber h
    case isFalse =>
      split at h
      case isTrue => cases h
      case isFalse => exact .inr ⟨_, (Prod.mk.inj (Option.some.inj h)).1.symm⟩

theorem afterDigits_isNumber {negative : Bool} {word : Nat} {e : Int}
    (h : afterDigits negative word e cs = some (v, rest)) : IsNumber v := by
  unfold afterDigits at h
  split at h
  case h_1 =>
    split at h
    case isTrue => exact exponentPart_isNumber h
    case isFalse => exact floatOf_isNumber h
  case h_2 => exact floatOf_isNumber h

/-- What is read as a number is one. -/
theorem number_isNumber {negative : Bool} (h : number negative cs = some (v, rest)) :
    IsNumber v := by
  unfold number at h
  split at h
  case h_1 => cases h
  case h_2 c tail =>
    simp only at h
    split_ifs at h
    all_goals
      split at h
      case h_1 r _ =>
        unfold fractionPart at h
        split at h
        case h_1 => cases h
        case h_2 =>
          split_ifs at h
          exact afterDigits_isNumber h
      case h_2 r _ =>
        split_ifs at h
        · exact afterDigits_isNumber h
        all_goals
          cases h
          first
          | exact .inl ⟨_, rfl⟩
          | exact .inr ⟨_, rfl⟩

/-! ## Lists and objects -/

theorem keyword_eq {word : String} {u : Json} (h : keyword word u cs = some (v, rest)) : v = u := by
  simp only [keyword] at h
  split_ifs at h
  cases h
  rfl

theorem ordered_foldl_put {l acc : List (String × Json)} (h : Assoc.Ordered acc) :
    Assoc.Ordered (l.foldl (fun acc m => Assoc.put m.1 m.2 acc) acc) := by
  induction l generalizing acc with
  | nil => exact h
  | cons m l ih => exact ih h.put

theorem listBody_eq {read : ValueReader} (h : listBody room read cs = some (v, rest)) :
    ∃ items, v = .list items := by
  unfold listBody at h
  split at h
  case h_1 =>
    cases h
    exact ⟨_, rfl⟩
  case h_2 =>
    simp only [Option.bind_eq_bind, Option.bind_eq_some_iff, Option.some.injEq, Prod.mk.injEq] at h
    obtain ⟨_, _, _, _, rfl, _⟩ := h
    exact ⟨_, rfl⟩

theorem objectBody_eq {read : ValueReader} (h : objectBody room read cs = some (v, rest)) :
    ∃ members, Assoc.Ordered members ∧ v = .object members := by
  unfold objectBody at h
  split at h
  case h_1 =>
    cases h
    exact ⟨[], List.Pairwise.nil, rfl⟩
  case h_2 =>
    simp only [Option.bind_eq_bind, Option.bind_eq_some_iff, Option.some.injEq, Prod.mk.injEq] at h
    obtain ⟨_, _, _, _, rfl, _⟩ := h
    exact ⟨_, ordered_foldl_put List.Pairwise.nil, rfl⟩

theorem moreItems_forall {read : ValueReader} {P : Json → Prop}
    (reads : ∀ cs v rest, read cs = some (v, rest) → P v) {fuel : Nat} {items : List Json}
    (h : moreItems read fuel cs = some (items, rest)) : ∀ v ∈ items, P v := by
  induction fuel generalizing cs items with
  | zero => cases h
  | succ fuel ih =>
    unfold moreItems at h
    split at h
    case h_1 =>
      cases h
      simp
    case h_2 =>
      simp only [Option.bind_eq_bind, Option.bind_eq_some_iff, Option.some.injEq,
        Prod.mk.injEq] at h
      obtain ⟨⟨v, r⟩, hv, ⟨vs, r'⟩, hvs, rfl, rfl⟩ := h
      exact List.forall_mem_cons.mpr ⟨reads _ _ _ hv, ih hvs⟩
    case h_3 => cases h

/-- What holds of all values that a reader reads holds of the items of a list. -/
theorem listBody_forall {read : ValueReader} {P : Json → Prop}
    (reads : ∀ cs v rest, read cs = some (v, rest) → P v) {items : List Json}
    (h : listBody room read cs = some (.list items, rest)) : ∀ v ∈ items, P v := by
  unfold listBody at h
  split at h
  case h_1 =>
    cases h
    simp
  case h_2 =>
    simp only [Option.bind_eq_bind, Option.bind_eq_some_iff, Option.some.injEq, Prod.mk.injEq] at h
    obtain ⟨⟨v, r⟩, hv, ⟨vs, r'⟩, hvs, heq, rfl⟩ := h
    cases heq
    exact List.forall_mem_cons.mpr ⟨reads _ _ _ hv, moreItems_forall reads hvs⟩

/-- The characters that a value begins with when it is not a number of digits alone. -/
def marks : List Char := ['"', '-', '[', '\x7b', 'n', 't', 'f']

/-- A value that begins with none of these is read as a number. -/
theorem value_of_no_mark (hcs : skipSpace cs = c :: rest) (hc : c ∉ marks) :
    value room depth cs = number false (c :: rest) := by
  have hne : ∀ d ∈ marks, ∀ ds, c :: rest ≠ d :: ds := by
    rintro d hd ds heq
    exact hc ((List.cons.inj heq).1 ▸ hd)
  simp only [marks, List.forall_mem_cons] at hne
  obtain ⟨hquote, hminus, hlist, hobject, hnull, htrue, hfalse, -⟩ := hne
  unfold value
  rw [hcs]
  split
  case h_1 heq => cases heq
  case h_2 heq => exact absurd heq (hquote _)
  case h_3 heq => exact absurd heq (hminus _)
  case h_4 heq => exact absurd heq (hlist _)
  case h_5 heq => exact absurd heq (hobject _)
  case h_6 heq => exact absurd heq (hnull _)
  case h_7 heq => exact absurd heq (htrue _)
  case h_8 heq => exact absurd heq (hfalse _)
  case h_9 => rfl

/-- What a reader reads: a value that is no list or object, or what stands between brackets or
braces. -/
theorem value_eq_some (h : value room depth cs = some (v, rest)) :
    (v = .null ∨ (∃ b, v = .bool b) ∨ (∃ s, v = .text s) ∨ IsNumber v) ∨
      ∃ depth' cs', listBody room (value room depth') cs' = some (v, rest) ∨
        objectBody room (value room depth') cs' = some (v, rest) := by
  unfold value at h
  split at h
  case h_1 => cases h
  case h_2 =>
    obtain ⟨found, -, heq⟩ := Option.map_eq_some_iff.mp h
    exact .inl (.inr (.inr (.inl ⟨_, (Prod.mk.inj heq).1.symm⟩)))
  case h_3 => exact .inl (.inr (.inr (.inr (number_isNumber h))))
  case h_4 =>
    split at h
    case h_1 => cases h
    case h_2 => exact .inr ⟨_, _, .inl h⟩
  case h_5 =>
    split at h
    case h_1 => cases h
    case h_2 => exact .inr ⟨_, _, .inr h⟩
  case h_6 => exact .inl (.inl (keyword_eq h))
  case h_7 => exact .inl (.inr (.inl ⟨_, keyword_eq h⟩))
  case h_8 => exact .inl (.inr (.inl ⟨_, keyword_eq h⟩))
  case h_9 => exact .inl (.inr (.inr (.inr (number_isNumber h))))

/-- An object that is read has its members in order. -/
theorem value_ordered {members : List (String × Json)}
    (h : value room depth cs = some (.object members, rest)) : Assoc.Ordered members := by
  rcases value_eq_some h with (h | ⟨_, h⟩ | ⟨_, h⟩ | ⟨_, h⟩ | ⟨_, h⟩) | ⟨_, _, h | h⟩
  all_goals try cases h
  · obtain ⟨items, heq⟩ := listBody_eq h
    cases heq
  · obtain ⟨members', hordered, heq⟩ := objectBody_eq h
    cases heq
    exact hordered

/-- So have the objects of a list. -/
theorem value_items_ordered {items : List Json}
    (h : value room depth cs = some (.list items, rest)) {members : List (String × Json)}
    (hmem : .object members ∈ items) : Assoc.Ordered members := by
  rcases value_eq_some h with (h | ⟨_, h⟩ | ⟨_, h⟩ | ⟨_, h⟩ | ⟨_, h⟩) | ⟨depth', _, h | h⟩
  all_goals try cases h
  · have hreads : ∀ cs v rest, value room depth' cs = some (v, rest) →
        ∀ members, v = .object members → Assoc.Ordered members := by
      rintro cs v rest hv members rfl
      exact value_ordered hv
    exact listBody_forall hreads h _ hmem members rfl
  · obtain ⟨members', -, heq⟩ := objectBody_eq h
    cases heq

/-- A document holds a value with nothing before it but white space. -/
theorem value_of_readChars (h : readChars cs = some v) :
    ∃ rest, value (cs.length + 1) depthLimit cs = some (v, rest) := by
  unfold readChars at h
  split at h
  case h_1 v' rest hvalue =>
    split at h
    case isTrue => exact ⟨rest, hvalue.trans (by rw [Option.some.inj h])⟩
    case isFalse => cases h
  case h_2 => cases h

/-! ## White space -/

theorem value_blank (h : ∀ c ∈ cs, Text.isBlank c = true) : value room depth cs = none := by
  have hblank : ∀ c ∈ skipSpace cs, Text.isBlank c = true := fun c hc =>
    h c ((List.dropWhile_sublist _).subset hc)
  cases hcs : skipSpace cs with
  | nil =>
    unfold value
    rw [hcs]
  | cons c rest =>
    have hc : Text.isBlank c = true := hblank c (hcs ▸ List.mem_cons_self)
    have hmarks : ∀ d ∈ marks, Text.isBlank d = false :=
      List.all_iff_forall_prop.mp rfl
    have hmark : c ∉ marks := fun hmem => Text.ne_of_isBlank hc (hmarks c hmem) rfl
    rw [value_of_no_mark hcs hmark, number, Text.isDigit_of_isBlank hc]
    rfl

theorem read_blank (h : ∀ c ∈ cs, Text.isBlank c = true) : readChars cs = none := by
  rw [readChars, value_blank h]

end RouterMetrics.Json

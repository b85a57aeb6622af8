/-!
Finite maps from texts, kept as a list in strictly increasing order of the keys, so that two maps
with the same bindings are equal and every walk over one has the same order. Texts are ordered by
code points, which is also the order of their UTF-8 bytes.

The main statements: looking up after an insertion or a deletion, and that a binding is in the
list exactly when it is looked up.
-/

namespace RouterMetrics

universe u v

variable {α : Type u} {β : Type v}

namespace Assoc

/-- Binds a key in an ordered list of bindings, in place of an older binding. -/
def put (k : String) (v : α) : List (String × α) → List (String × α)
  | [] => [(k, v)]
  | (k', v') :: rest =>
    if k < k' then (k, v) :: (k', v') :: rest
    else if k = k' then (k, v) :: rest
    else (k', v') :: put k v rest

/-- The value bound to a key. -/
def find? (k : String) (entries : List (String × α)) : Option α :=
  (entries.find? fun e => e.1 == k).map (·.2)

/-- Strictly increasing keys. -/
def Ordered (entries : List (String × α)) : Prop :=
  entries.Pairwise fun a b => a.1 < b.1

theorem mem_put {k : String} {v : α} {entries : List (String × α)} {e : String × α}
    (h : e ∈ put k v entries) : e = (k, v) ∨ e ∈ entries := by
  induction entries with
  | nil => simpa [put] using h
  | cons head rest ih =>
    simp only [put] at h
    split at h
    · simpa using h
    · split at h
      · rcases List.mem_cons.mp h with h | h
        · exact .inl h
        · exact .inr (List.mem_cons_of_mem _ h)
      · rcases List.mem_cons.mp h with h | h
        · exact .inr (h ▸ List.mem_cons_self)
        · exact (ih h).imp id (List.mem_cons_of_mem _)

theorem Ordered.put {k : String} {v : α} {entries : List (String × α)} (h : Ordered entries) :
    Ordered (put k v entries) := by
  induction entries with
  | nil => simp [Assoc.put, Ordered]
  | cons head rest ih =>
    obtain ⟨k', v'⟩ := head
    have hrest : Ordered rest := (List.pairwise_cons.mp h).2
    have hhead := (List.pairwise_cons.mp h).1
    simp only [Assoc.put]
    split
    case isTrue hlt =>
      refine List.pairwise_cons.mpr ⟨fun e he => ?_, h⟩
      rcases List.mem_cons.mp he with rfl | he
      · exact hlt
      · exact String.lt_trans hlt (hhead e he)
    case isFalse hlt =>
      split
      case isTrue heq =>
        subst heq
        exact List.pairwise_cons.mpr ⟨fun e he => hhead e he, hrest⟩
      case isFalse hne =>
        refine List.pairwise_cons.mpr ⟨fun e he => ?_, ih hrest⟩
        rcases mem_put he with rfl | he
        · exact Std.lt_of_le_of_ne (Std.not_lt.mp hlt) (Ne.symm hne)
        · exact hhead e he

theorem find?_cons (j : String) (e : String × α) (rest : List (String × α)) :
    find? j (e :: rest) = if e.1 = j then some e.2 else find? j rest := by
  by_cases h : e.1 = j
  · simp [find?, h]
  · simp [find?, h]

/-- A key is bound to the value that was put under it, and every other key as before. -/
theorem find?_put (j k : String) (v : α) (entries : List (String × α)) :
    find? j (put k v entries) = if k = j then some v else find? j entries := by
  induction entries with
  | nil => exact find?_cons j (k, v) []
  | cons head rest ih =>
    obtain ⟨k', v'⟩ := head
    simp only [put]
    split
    case isTrue => exact find?_cons j (k, v) _
    case isFalse hlt =>
      split
      case isTrue heq =>
        subst heq
        rw [find?_cons, find?_cons]
        split
        · rfl
        · rfl
      case isFalse hne =>
        rw [find?_cons, find?_cons, ih]
        by_cases hj : k' = j
        · subst hj
          simp [hne]
        · simp [hj]

/-- A binding is in an ordered list when its value is the one that is found under its key. -/
theorem Ordered.mem_iff {k : String} {v : α} {entries : List (String × α)} (h : Ordered entries) :
    (k, v) ∈ entries ↔ find? k entries = some v := by
  induction entries with
  | nil => simp [find?]
  | cons head rest ih =>
    have hhead := (List.pairwise_cons.mp h).1
    rw [List.mem_cons, find?_cons, ih (List.pairwise_cons.mp h).2]
    by_cases heq : head.1 = k
    · -- the key is not bound again in the rest
      have hnone : find? k rest ≠ some v := fun hfound =>
        String.lt_irrefl k (heq ▸ hhead (k, v)
          ((ih (List.pairwise_cons.mp h).2).mpr hfound))
      simp only [heq, if_pos, Option.some.injEq]
      constructor
      · rintro (rfl | hfound)
        · rfl
        · exact absurd hfound hnone
      · rintro rfl
        exact .inl (heq ▸ rfl)
    · simp only [heq, if_false, or_iff_right_iff_imp]
      rintro rfl
      exact absurd rfl heq

end Assoc

/-- A map from texts to `α` with its bindings in the order of the keys. -/
structure Dict (α : Type u) where
  entries : List (String × α)
  ordered : Assoc.Ordered entries

namespace Dict

/-- The map without bindings. -/
def empty : Dict α := ⟨[], List.Pairwise.nil⟩

instance : Inhabited (Dict α) := ⟨empty⟩

/-- Binds a key, in place of an older binding. -/
def insert (d : Dict α) (k : String) (v : α) : Dict α :=
  ⟨Assoc.put k v d.entries, d.ordered.put⟩

/-- The value bound to a key. -/
def get? (d : Dict α) (k : String) : Option α := Assoc.find? k d.entries

/-- The map without the bindings whose key fails a test. -/
def filterKeys (d : Dict α) (p : String → Bool) : Dict α :=
  ⟨d.entries.filter fun e => p e.1, List.Pairwise.filter _ d.ordered⟩

/-- The map without a binding of one key. -/
def erase (d : Dict α) (k : String) : Dict α := d.filterKeys (· != k)

/-- The bindings of a list, a later binding of a key in place of an earlier one. -/
def ofList (l : List (String × α)) : Dict α := l.foldl (fun d e => d.insert e.1 e.2) empty

/-- The bindings in the order of the keys. -/
def toList (d : Dict α) : List (String × α) := d.entries

/-- The keys in their order. -/
def keys (d : Dict α) : List String := d.entries.map (·.1)

/-- Whether a key is bound. -/
def contains (d : Dict α) (k : String) : Bool := (d.get? k).isSome

@[simp] theorem get?_empty (k : String) : (empty : Dict α).get? k = none := rfl

/-- **A key is bound to what was last inserted under it.** -/
theorem get?_insert (d : Dict α) (k : String) (v : α) (j : String) :
    (d.insert k v).get? j = if k = j then some v else d.get? j :=
  Assoc.find?_put j k v d.entries

/-- **A binding is in the list exactly when it is looked up.** -/
theorem mem_toList {d : Dict α} {k : String} {v : α} :
    (k, v) ∈ d.toList ↔ d.get? k = some v :=
  d.ordered.mem_iff

/-- The keys of the list are distinct. -/
theorem toList_keys_nodup (d : Dict α) : (d.toList.map (·.1)).Nodup := by
  refine List.pairwise_map.mpr (d.ordered.imp fun hlt heq => ?_)
  exact String.lt_irrefl _ (heq ▸ hlt)

end Dict

end RouterMetrics

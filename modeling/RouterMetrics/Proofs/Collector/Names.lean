import RouterMetrics.Proofs.Dict
import RouterMetrics.Record

/-!
# The names of fields

A record is kept under the normal forms of its field names. Of several names with one normal form
the greatest is kept (`Record.normalizeKeys_get?_iff`). A name that is its own normal form and
starts above the separators is the greatest of those that do not end in a separator
(`le_of_normalizeKey`), so a record without names that do keeps its field
(`Record.Plain.normalizeKeys_get?`).
-/

namespace RouterMetrics

/-- The text of a value is found where there is a text. -/
theorem Json.bind_asText?_eq_some_iff {found : Option Json} {text : String} :
    found.bind Json.asText? = some text ↔ found = some (.text text) := by
  cases found with
  | none => simp
  | some v => cases v <;> simp [Json.asText?]

theorem Record.text?_eq_some_iff {r : Record} {field text : String} :
    r.text? field = some text ↔ r.get? field = some (.text text) :=
  Json.bind_asText?_eq_some_iff

/-- **Of several names with one normal form the greatest is kept.** -/
theorem Record.normalizeKeys_get?_iff {r : Record} {k : String} {v : Json} :
    r.normalizeKeys.get? k = some v ↔ ∃ name, r.get? name = some v ∧ normalizeKey name = k ∧
      ∀ name' v', r.get? name' = some v' → normalizeKey name' = k → name' ≤ name := by
  rw [normalizeKeys, Dict.ofList_get?_iff]
  constructor
  · rintro ⟨before, after, heq, hafter⟩
    obtain ⟨entries, rest, hentries, rfl, hrest⟩ := List.map_eq_append_iff.mp heq
    obtain ⟨⟨name, v'⟩, later, rfl, hname, rfl⟩ := List.map_eq_cons_iff.mp hrest
    cases hname
    have hmem : (name, v') ∈ r.toList := by simp [hentries]
    refine ⟨name, Dict.mem_toList.mp hmem, rfl, fun name' v'' hget hnormal => ?_⟩
    have hordered : Assoc.Ordered (entries ++ (name, v') :: later) := hentries ▸ r.ordered
    have hmem' := Dict.mem_toList.mpr hget
    rw [hentries, List.mem_append, List.mem_cons] at hmem'
    rcases hmem' with hbefore | hsame | hlater
    · have hlt := (List.pairwise_append.mp hordered).2.2 _ hbefore _ List.mem_cons_self
      exact Std.le_of_lt hlt
    · cases hsame
      exact Std.le_refl _
    · exact absurd hnormal (hafter _ (List.mem_map_of_mem hlater))
  · rintro ⟨name, hget, rfl, hgreatest⟩
    obtain ⟨before, after, hentries⟩ := List.append_of_mem (Dict.mem_toList.mpr hget)
    have hordered : Assoc.Ordered (before ++ (name, v) :: after) := hentries ▸ r.ordered
    have hafter := (List.pairwise_cons.mp (List.pairwise_append.mp hordered).2.1).1
    refine ⟨_, _, by rw [hentries, List.map_append, List.map_cons], fun e he hnormal => ?_⟩
    obtain ⟨⟨name', v'⟩, hmem, rfl⟩ := List.mem_map.mp he
    have hget' : r.get? name' = some v' := Dict.mem_toList.mp (by simp [hentries, hmem])
    exact Std.not_lt.mpr (hgreatest name' v' hget' hnormal) (hafter _ hmem)

/-- A normal form that one field of a list comes to is bound to its value. -/
theorem Record.normalizeKeys_get?_of_unique {l : List (String × Json)} {name k : String} {v : Json}
    (hmem : (name, v) ∈ l) (hname : normalizeKey name = k)
    (unique : ∀ e ∈ l, normalizeKey e.1 = k → e = (name, v)) :
    (Record.normalizeKeys (Dict.ofList l)).get? k = some v := by
  have hget : (Dict.ofList l).get? name = some v :=
    Dict.ofList_get?_of_unique hmem fun e he heq => unique e he (heq ▸ hname)
  refine normalizeKeys_get?_iff.mpr ⟨name, hget, hname, fun name' v' hget' hname' => ?_⟩
  obtain ⟨rfl, -⟩ := Prod.mk.inj (unique _ (Dict.mem_of_ofList_get? hget') hname')
  exact Std.le_refl _

/-- A normal form that no field of a list comes to is not bound. -/
theorem Record.normalizeKeys_get?_of_none {l : List (String × Json)} {k : String}
    (h : ∀ e ∈ l, normalizeKey e.1 ≠ k) :
    (Record.normalizeKeys (Dict.ofList l)).get? k = none := by
  cases hget : (Record.normalizeKeys (Dict.ofList l)).get? k with
  | none => rfl
  | some v =>
    obtain ⟨name, hname, hnormal, -⟩ := normalizeKeys_get?_iff.mp hget
    exact absurd hnormal (h (name, v) (Dict.mem_of_ofList_get? hname))

/-- A record keeps its names when they are their own normal forms. -/
theorem Record.normalizeKeys_of_normal {r : Record} (h : ∀ e ∈ r.toList, normalizeKey e.1 = e.1) :
    r.normalizeKeys = r := by
  have hsame : r.toList.map (fun e => (normalizeKey e.1, e.2)) = r.toList.map id :=
    List.map_congr_left fun e he => by rw [h e he, id]
  rw [normalizeKeys, hsame, List.map_id, Dict.ofList_toList]

/-! ## Names with one normal form -/

/-- The last character of a name is a separator. -/
def endsInSeparator (name : String) : Bool := name.toList.getLast?.any isSeparator

/-- A name that is its own normal form, and starts above the separators. -/
def IsSettled (name : String) : Prop :=
  normalizeKey name = name ∧ name.toList.head?.all ('_' < ·) = true

instance (name : String) : Decidable (IsSettled name) := inferInstanceAs (Decidable (_ ∧ _))

theorem dropSeparator_of_head {cs : List Char} (h : cs.head?.any isSeparator = false) :
    dropSeparator cs = cs := by
  cases cs with
  | nil => rfl
  | cons c rest =>
    have hc : isSeparator c = false := h
    rw [dropSeparator, hc, if_neg Bool.false_ne_true]

/-- What does not end in a separator does not do so without its first character. -/
theorem getLast?_dropSeparator {cs : List Char} (h : cs.getLast?.any isSeparator = false) :
    (dropSeparator cs).getLast?.any isSeparator = false := by
  cases cs with
  | nil => rfl
  | cons c rest =>
    rw [dropSeparator]
    split
    case isTrue hc =>
      cases rest with
      | nil => rfl
      | cons c' rest => rwa [List.getLast?_cons_cons] at h
    case isFalse => exact h

theorem normalizeName_of_end {cs : List Char} (h : cs.getLast?.any isSeparator = false) :
    normalizeName cs = (dropSeparator cs).map underscore := by
  have hhead : (dropSeparator cs).reverse.head?.any isSeparator = false := by
    rw [List.head?_reverse]
    exact getLast?_dropSeparator h
  rw [normalizeName, dropSeparator_of_head hhead, List.reverse_reverse]

theorem isSeparator_iff {c : Char} : isSeparator c = true ↔ (c = '.' ∨ c = '_') ∨ c = '-' := by
  simp only [isSeparator, Bool.or_eq_true, beq_iff_eq]

/-- A dot and a hyphen become underscores, and everything else is left as it is. -/
theorem underscore_cases (c : Char) :
    (c = '.' ∨ c = '-') ∧ underscore c = '_' ∨ (c ≠ '.' ∧ c ≠ '-') ∧ underscore c = c := by
  by_cases h : c = '.' ∨ c = '-'
  · exact .inl ⟨h, by simp [underscore, h]⟩
  · exact .inr ⟨not_or.mp h, by simp [underscore, h]⟩

theorem isSeparator_underscore (c : Char) : isSeparator (underscore c) = isSeparator c := by
  rcases underscore_cases c with ⟨rfl | rfl, -⟩ | ⟨-, h⟩
  · rfl
  · rfl
  · rw [h]

theorem le_underscore (c : Char) : c ≤ underscore c := by
  rcases underscore_cases c with ⟨rfl | rfl, -⟩ | ⟨-, h⟩
  · decide
  · decide
  · exact h.symm ▸ Std.le_refl c

theorem not_map_underscore_lt (cs : List Char) : ¬ cs.map underscore < cs := by
  induction cs with
  | nil => exact List.not_lt_nil _
  | cons c rest ih =>
    rw [List.map_cons, List.cons_lt_cons_iff]
    rintro (hlt | ⟨-, hrest⟩)
    · exact Std.not_lt.mpr (le_underscore c) hlt
    · exact ih hrest

theorem le_of_isSeparator {c : Char} (h : isSeparator c = true) : c ≤ '_' := by
  rcases isSeparator_iff.mp h with (rfl | rfl) | rfl
  · decide
  · decide
  · decide

/-- **A settled name is the greatest of its names that do not end in a separator.** -/
theorem le_of_normalizeKey {name : String} (hend : endsInSeparator name = false)
    (settled : IsSettled (normalizeKey name)) : name ≤ normalizeKey name := by
  have hnormal : (normalizeKey name).toList = (dropSeparator name.toList).map underscore := by
    rw [normalizeKey, String.toList_ofList, normalizeName_of_end hend]
  have hstart := settled.2
  refine Std.not_lt.mp fun hlt => ?_
  rw [String.lt_iff, hnormal] at hlt
  unfold endsInSeparator at hend
  rw [hnormal] at hstart
  generalize name.toList = cs at hend hstart hlt
  cases cs with
  | nil => exact List.not_lt_nil _ hlt
  | cons c rest =>
    rw [dropSeparator] at hstart hlt
    split at hstart
    case isTrue hc =>
      rw [if_pos hc] at hlt
      cases rest with
      | nil => exact absurd hc (Bool.eq_false_iff.mp hend)
      | cons c' rest =>
        -- a separator is dropped, and what stands behind it starts above the separators
        have habove : '_' < underscore c' := of_decide_eq_true hstart
        have hbelow : c < underscore c' := Std.lt_of_le_of_lt (le_of_isSeparator hc) habove
        rw [List.map_cons, List.cons_lt_cons_iff] at hlt
        rcases hlt with hlt | ⟨heq, -⟩
        · exact Std.lt_irrefl (Std.lt_trans hlt hbelow)
        · exact Std.lt_irrefl (heq ▸ hbelow)
    case isFalse hc =>
      rw [if_neg hc] at hlt
      exact not_map_underscore_lt _ hlt

/-! ## Names with an ending -/

theorem dropSeparator_append {cs : List Char} (h : cs ≠ []) (ds : List Char) :
    dropSeparator (cs ++ ds) = dropSeparator cs ++ ds := by
  obtain ⟨c, rest, rfl⟩ := List.exists_cons_of_ne_nil h
  rw [List.cons_append, dropSeparator, dropSeparator]
  split
  case isTrue => rfl
  case isFalse => rfl

/-- A last character that is no separator stays the last one. -/
theorem getLast?_normalizeName {cs : List Char} {c : Char} (h : cs.getLast? = some c)
    (hc : isSeparator c = false) : (normalizeName cs).getLast? = some c := by
  have hsame : underscore c = c := by
    simp only [isSeparator, Bool.or_eq_false_iff] at hc
    simp [underscore, hc]
  obtain ⟨before, rfl⟩ := List.getLast?_eq_some_iff.mp h
  rw [normalizeName_of_end (by rw [h]; exact hc)]
  cases before with
  | nil => simp [dropSeparator, hc, hsame]
  | cons c' rest =>
    rw [dropSeparator_append (List.cons_ne_nil _ _), List.map_append, List.map_singleton, hsame,
      List.getLast?_append, List.getLast?_singleton, Option.some_or]

/-- **Names that come to one name with an ending come to one name without it.** -/
theorem normalizeName_of_append {cs ending : List Char} {field : List Char}
    (hend : ('_' :: ending).getLast?.any isSeparator = false)
    (hending : ending.map underscore = ending) (hfield : field ≠ [])
    (hlast : field.getLast?.any isSeparator = false)
    (h : normalizeName (cs ++ '_' :: ending) = field ++ '_' :: ending) :
    normalizeName cs = field := by
  have hend' : (cs ++ '_' :: ending).getLast?.any isSeparator = false := by
    rwa [List.getLast?_append_of_ne_nil _ (List.cons_ne_nil _ _)]
  rw [normalizeName_of_end hend'] at h
  have hcs : cs ≠ [] := by
    rintro rfl
    have hlength := congrArg List.length h
    have hpos := List.length_pos_of_ne_nil hfield
    simp [dropSeparator, isSeparator] at hlength
    omega
  rw [dropSeparator_append hcs, List.map_append, List.map_cons, hending] at h
  have hstart : (dropSeparator cs).map underscore = field := List.append_cancel_right h
  -- a separator at the end would be one at the end of `field`
  have hcs' : cs.getLast?.any isSeparator = false := by
    obtain ⟨before, c, rfl⟩ : ∃ before c, cs = before ++ [c] :=
      ⟨_, _, (List.dropLast_append_getLast hcs).symm⟩
    rw [List.getLast?_append, List.getLast?_singleton, Option.some_or, Option.any_some]
    refine Bool.eq_false_iff.mpr fun hsep => ?_
    have hunderscore : isSeparator (underscore c) = true := (isSeparator_underscore c).trans hsep
    cases before with
    | nil => exact hfield (by rw [← hstart, List.nil_append, dropSeparator, if_pos hsep]; rfl)
    | cons c' rest =>
      rw [dropSeparator_append (List.cons_ne_nil _ _), List.map_append,
        List.map_singleton] at hstart
      rw [← hstart, List.getLast?_append, List.getLast?_singleton, Option.some_or, Option.any_some,
        hunderscore] at hlast
      cases hlast
  rw [normalizeName_of_end hcs', hstart]

/-! ## Records whose other names give way -/

namespace Record

variable {r : Record} {k k' : String} {v : Json}

/-- No name of a record that comes to a field stands behind the name of the field itself. -/
def GivesWay (r : Record) (field : String) : Prop :=
  ∀ e ∈ r.toList, normalizeKey e.1 = field → e.1 ≤ field

theorem GivesWay.insert (givesWay : r.GivesWay k) (normal : normalizeKey k' = k') :
    GivesWay (r.insert k' v) k := by
  rintro ⟨name, v'⟩ hmem hname
  rw [Dict.mem_toList, Dict.get?_insert] at hmem
  by_cases hk : k' = name
  · obtain rfl : k = name := by rw [← hname, ← hk, normal]
    exact Std.le_refl _
  · rw [if_neg hk] at hmem
    exact givesWay _ (Dict.mem_toList.mpr hmem) hname

/-- **A field that the other names give way to is kept.** -/
theorem GivesWay.normalizeKeys_get? (givesWay : r.GivesWay k) (normal : normalizeKey k = k)
    (h : r.get? k = some v) : r.normalizeKeys.get? k = some v :=
  normalizeKeys_get?_iff.mpr ⟨k, h, normal, fun name v' hname hnormal =>
    givesWay (name, v') (Dict.mem_toList.mpr hname) hnormal⟩

/-- No field name of a record ends in a separator. -/
def Plain (r : Record) : Prop := ∀ e ∈ r.toList, endsInSeparator e.1 = false

instance (r : Record) : Decidable r.Plain :=
  inferInstanceAs (Decidable (∀ e ∈ r.toList, endsInSeparator e.1 = false))

theorem Plain.insert (plain : r.Plain) (hk : endsInSeparator k = false) :
    Plain (r.insert k v) := by
  rintro ⟨name, v'⟩ hmem
  rw [Dict.mem_toList, Dict.get?_insert] at hmem
  by_cases hname : k = name
  · rwa [← hname]
  · rw [if_neg hname] at hmem
    exact plain _ (Dict.mem_toList.mpr hmem)

/-- The names of a plain record give way to a settled name. -/
theorem Plain.givesWay (plain : r.Plain) (settled : IsSettled k) : r.GivesWay k := by
  rintro e he rfl
  exact le_of_normalizeKey (plain e he) settled

/-- **A plain record keeps the field of a settled name**, whatever other names come to it. -/
theorem Plain.normalizeKeys_get? (plain : r.Plain) (settled : IsSettled k) (h : r.get? k = some v) :
    r.normalizeKeys.get? k = some v :=
  (plain.givesWay settled).normalizeKeys_get? settled.1 h

end Record

/-- A name with a hyphen and one behind a dot come to the settled name, and give way to it. -/
example : IsSettled "dhcp_name" ∧
    (Record.normalizeKeys (Dict.ofList [(".dhcp_name", .text "a"), ("dhcp-name", .text "b"),
      ("dhcp_name", .text "c")])).text? "dhcp_name" = some "c" := by decide

end RouterMetrics

import Mathlib.Data.List.TakeWhile
import Mathlib.Data.Set.List
import RouterMetrics.Device.Rest
import RouterMetrics.Proofs.Json.Documents
import RouterMetrics.Proofs.Json.RoundTrip

/-!
# Records and the bytes that tell them

The bytes of an answer are characters of Latin-1. Records that are written as one list, or a record
that is written alone, are read back from these bytes; and whatever bytes are answered, there are
records in them only when they are all white space or hold objects and nothing else. One item that
is no object fails the whole answer (`Rest.answers_decoded`).
-/

namespace RouterMetrics

namespace Text

/-- Nothing is left of a text of white space. -/
theorem trim_eq_nil_iff {cs : List Char} : trim cs = [] ↔ ∀ c ∈ cs, isBlank c = true := by
  rw [trim, trimEnd, List.reverse_eq_nil_iff, List.dropWhile_eq_nil_iff]
  simp only [List.mem_reverse]
  constructor
  · intro h c hc
    rw [← List.takeWhile_append_dropWhile (p := isBlank) (l := cs), List.mem_append] at hc
    exact hc.elim List.mem_takeWhile_imp (h c)
  · exact fun h c hc => h c ((List.dropWhile_sublist _).subset hc)

end Text

namespace Rest

/-! ## Latin-1 -/

/-- A character of Latin-1. -/
def IsLatin (c : Char) : Prop := c.toNat < 256

instance : DecidablePred IsLatin := fun c => inferInstanceAs (Decidable (c.toNat < 256))

/-- The bytes of a text in Latin-1. -/
def latin (s : String) : List UInt8 := s.toList.map fun c => c.toNat.toUInt8

/-- The text that bytes write in Latin-1. -/
def latinText (bytes : List UInt8) : String := String.ofList (bytes.map fun b => Char.ofNat b.toNat)

/-- Bytes that are all white space. -/
def Blank (bytes : List UInt8) : Prop := ∀ c ∈ (latinText bytes).toList, Text.isBlank c = true

instance (bytes : List UInt8) : Decidable (Blank bytes) :=
  inferInstanceAs (Decidable (∀ c ∈ (latinText bytes).toList, Text.isBlank c = true))

theorem latinText_latin {s : String} (h : ∀ c ∈ s.toList, IsLatin c) : latinText (latin s) = s := by
  have hsame : s.toList.map (fun c => Char.ofNat c.toNat.toUInt8.toNat) = s.toList.map id := by
    refine List.map_congr_left fun c hc => ?_
    have hbyte : c.toNat.toUInt8.toNat = c.toNat := Nat.mod_eq_of_lt (h c hc)
    rw [hbyte, Char.ofNat_toNat, id]
  rw [latinText, latin, List.map_map]
  exact (congrArg String.ofList (hsame.trans (List.map_id _))).trans (String.ofList_toList)

/-! ## Records of objects -/

variable {bytes : List UInt8} {items : List Json} {item v : Json} {r : Record}
  {rs : List Record}

/-- A value is an object. -/
def IsObject (v : Json) : Prop := ∃ members, v = .object members

/-- The objects of a document have their members in order. -/
def InOrder (v : Json) : Prop := ∀ members, v = .object members → Assoc.Ordered members

theorem isObject_toJson (r : Record) : IsObject r.toJson := ⟨r.entries, rfl⟩

theorem ofJson?_toJson (r : Record) : Record.ofJson? r.toJson = some r :=
  congrArg some (Dict.ofList_toList r)

theorem ofJson?_of_not_isObject (other : ¬ IsObject v) : Record.ofJson? v = none := by
  cases v with
  | object members => exact absurd ⟨members, rfl⟩ other
  | _ => rfl

theorem IsObject.exists_toJson (h : IsObject v) (ordered : InOrder v) :
    ∃ r : Record, v = r.toJson := by
  obtain ⟨members, rfl⟩ := h
  exact ⟨⟨members, ordered members rfl⟩, rfl⟩

theorem objects_map_toJson (rs : List Record) : objects (rs.map Record.toJson) = .ok rs := by
  induction rs with
  | nil => rfl
  | cons r rs ih =>
    rw [List.map_cons, objects, ofJson?_toJson]
    dsimp only
    rw [ih]
    rfl

/-- **The first item that is no object fails them all.** -/
theorem objects_of_first {before later : List Json} (objectsBefore : ∀ v ∈ before, IsObject v)
    (other : ¬ IsObject item) : objects (before ++ item :: later) =
      .error (.decode ("expected object in array, got " ++ item.compact)) := by
  induction before with
  | nil => rw [List.nil_append, objects, ofJson?_of_not_isObject other]
  | cons v before ih =>
    obtain ⟨⟨members, rfl⟩, hbefore⟩ := List.forall_mem_cons.mp objectsBefore
    rw [List.cons_append, objects, Record.ofJson?]
    dsimp only
    rw [ih hbefore]
    rfl

/-- Items that are not all objects have a first one that is none. -/
theorem exists_first_other (h : item ∈ items) (other : ¬ IsObject item) :
    ∃ before first later, items = before ++ first :: later ∧ (∀ v ∈ before, IsObject v) ∧
      ¬ IsObject first := by
  induction items with
  | nil => cases h
  | cons v items ih =>
    by_cases hv : IsObject v
    · have hmem : item ∈ items := (List.mem_cons.mp h).resolve_left fun heq => other (heq ▸ hv)
      obtain ⟨before, first, later, rfl, hbefore, hfirst⟩ := ih hmem
      exact ⟨v :: before, first, later, rfl, List.forall_mem_cons.mpr ⟨hv, hbefore⟩, hfirst⟩
    · exact ⟨[], v, items, rfl, fun _ hnone => absurd hnone List.not_mem_nil, hv⟩

/-- **Items have records when they are all objects.** -/
theorem objects_eq_ok_iff (ordered : ∀ v ∈ items, InOrder v) :
    objects items = .ok rs ↔ items = rs.map Record.toJson := by
  refine ⟨fun h => ?_, fun h => h ▸ objects_map_toJson rs⟩
  by_cases hall : ∀ v ∈ items, IsObject v
  · have hrecords : ∀ v ∈ items, v ∈ Set.range Record.toJson := fun v hv =>
      have ⟨r, hr⟩ := (hall v hv).exists_toJson (ordered v hv)
      ⟨r, hr.symm⟩
    obtain ⟨rs', rfl⟩ : items ∈ Set.range (List.map Record.toJson) := by
      rwa [Set.range_list_map, Set.mem_ofPred_eq]
    rw [Except.ok.inj ((objects_map_toJson rs').symm.trans h)]
  · simp only [not_forall] at hall
    obtain ⟨item, hitem, other⟩ := hall
    obtain ⟨before, first, later, rfl, hbefore, hfirst⟩ := exists_first_other hitem other
    cases (objects_of_first hbefore hfirst).symm.trans h

/-! ## Answers -/

theorem trim_eq_nil_iff_blank :
    Text.trim (bytes.map fun b => Char.ofNat b.toNat) = [] ↔ Blank bytes := by
  rw [Text.trim_eq_nil_iff, Blank, latinText, String.toList_ofList]

theorem decode_blank (h : Blank bytes) : decode bytes = .ok [] := by
  rw [decode, trim_eq_nil_iff_blank.mpr h]
  rfl

/-- What other bytes hold is read as a document. -/
theorem decode_of_not_blank (h : ¬ Blank bytes) :
    decode bytes = match Json.read (latinText bytes) with
      | none => .error (.decode "malformed JSON")
      | some (.list items) => objects items
      | some v =>
        match Record.ofJson? v with
        | some r => .ok [r]
        | none => .error (.decode ("expected object or array, got " ++ v.compact)) := by
  have htrim : (Text.trim (bytes.map fun b => Char.ofNat b.toNat)).isEmpty = false :=
    List.isEmpty_eq_false_iff.mpr (mt trim_eq_nil_iff_blank.mp h)
  simp only [decode, htrim]
  rfl

theorem not_blank_of_read (h : Json.read (latinText bytes) = some v) : ¬ Blank bytes := by
  intro blank
  rw [Json.read, Json.read_blank blank] at h
  cases h

theorem inOrder_of_read (h : Json.read (latinText bytes) = some v) : InOrder v := by
  rintro members rfl
  obtain ⟨rest, hvalue⟩ := Json.value_of_readChars h
  exact Json.value_ordered hvalue

theorem inOrder_items_of_read (h : Json.read (latinText bytes) = some (.list items)) :
    ∀ v ∈ items, InOrder v := by
  rintro _ hmem members rfl
  obtain ⟨rest, hvalue⟩ := Json.value_of_readChars h
  exact Json.value_items_ordered hvalue hmem

theorem decode_list (h : Json.read (latinText bytes) = some (.list items)) :
    decode bytes = objects items := by
  rw [decode_of_not_blank (not_blank_of_read h), h]

theorem decode_object (h : Json.read (latinText bytes) = some r.toJson) :
    decode bytes = .ok [r] := by
  rw [decode_of_not_blank (not_blank_of_read h), h]
  dsimp only [Record.toJson]
  rw [← Record.toJson, ofJson?_toJson]

/-- There are records in white space, in a list of objects and in an object, and nowhere else. -/
theorem decode_eq_ok_iff : decode bytes = .ok rs ↔
    (Blank bytes ∧ rs = []) ∨ Json.read (latinText bytes) = some (.list (rs.map Record.toJson)) ∨
      ∃ r, rs = [r] ∧ Json.read (latinText bytes) = some r.toJson := by
  constructor
  · intro h
    by_cases blank : Blank bytes
    · exact .inl ⟨blank, Except.ok.inj (h.symm.trans (decode_blank blank))⟩
    · rw [decode_of_not_blank blank] at h
      cases hread : Json.read (latinText bytes) with
      | none => rw [hread] at h; cases h
      | some v =>
        rw [hread] at h
        cases v with
        | list items =>
          rw [(objects_eq_ok_iff (inOrder_items_of_read hread)).mp h]
          exact .inr (.inl rfl)
        | object members =>
          cases h
          obtain ⟨r, hr⟩ := IsObject.exists_toJson ⟨members, rfl⟩ (inOrder_of_read hread)
          rw [hr, show Dict.ofList members = r from
            Option.some.inj ((congrArg Record.ofJson? hr).trans (ofJson?_toJson r))]
          exact .inr (.inr ⟨r, rfl, rfl⟩)
        | _ => cases h
  · rintro (⟨blank, rfl⟩ | hread | ⟨r, rfl, hread⟩)
    · exact decode_blank blank
    · rw [decode_list hread, objects_map_toJson]
    · exact decode_object hread

/-- Bytes that are written in Latin-1 are read as what they write. -/
theorem read_latin {n : Nat} (h : Json.Exact IsLatin n v) (deep : n ≤ Json.depthLimit) :
    Json.read (latinText (latin v.compact)) = some v := by
  have hlatin : ∀ c ∈ v.compact.toList, IsLatin c := by
    rw [Json.compact, String.toList_ofList]
    exact h.chars fun c hc => Nat.lt_trans hc (by decide)
  rw [latinText_latin hlatin, h.read_compact deep]

/-- **Records are read from the bytes that tell them, and from no others.** Records that are
written as a list in Latin-1 are read back in order, and so is one that is written alone. Whatever
the bytes are, there are no records in white space, and otherwise records are told only by a list
of objects or by one object; the first item of a list that is no object fails the whole answer. -/
theorem answers_decoded (rs : List Record) (r : Record) (bytes : List UInt8) (items : List Json) :
    (Json.Exact IsLatin Json.depthLimit (.list (rs.map Record.toJson)) →
      decode (latin (Json.list (rs.map Record.toJson)).compact) = .ok rs) ∧
    (Json.Exact IsLatin Json.depthLimit r.toJson → decode (latin r.toJson.compact) = .ok [r]) ∧
    (decode bytes = .ok rs ↔
      (Blank bytes ∧ rs = []) ∨
      Json.read (latinText bytes) = some (.list (rs.map Record.toJson)) ∨
      ∃ r, rs = [r] ∧ Json.read (latinText bytes) = some r.toJson) ∧
    (Json.read (latinText bytes) = some (.list items) → (∃ item ∈ items, ¬ IsObject item) →
      ∃ before first later, items = before ++ first :: later ∧ (∀ v ∈ before, IsObject v) ∧
        ¬ IsObject first ∧
        decode bytes = .error (.decode ("expected object in array, got " ++ first.compact))) := by
  refine ⟨fun hexact => ?_, fun hexact => ?_, decode_eq_ok_iff, ?_⟩
  · exact decode_eq_ok_iff.mpr (.inr (.inl (read_latin hexact le_rfl)))
  · exact decode_eq_ok_iff.mpr (.inr (.inr ⟨r, rfl, read_latin hexact le_rfl⟩))
  · rintro hread ⟨item, hitem, other⟩
    obtain ⟨before, first, later, rfl, hbefore, hfirst⟩ := exists_first_other hitem other
    refine ⟨before, first, later, rfl, hbefore, hfirst, ?_⟩
    rw [decode_list hread, objects_of_first hbefore hfirst]

/-- A record with a name beyond ASCII, a number of 64 bits and a list. -/
def lounge : Record := Dict.ofList
  [("bytes", .int 18446744073709551615), ("name", .text "Caf\u00e9 \"1\"\n"),
   ("rules", .list [.object [("low", .int (-5))], .null, .bool true])]

theorem exact_lounge (n : Nat) : Json.Exact IsLatin (n + 3) lounge.toJson := by
  have hlow : Json.Exact IsLatin (n + 1) (.object [("low", .int (-5))]) :=
    .object (List.pairwise_singleton _ _)
      (List.forall_mem_singleton.mpr (List.all_iff_forall_prop.mp rfl))
      (List.forall_mem_singleton.mpr (.int n (by decide) (by decide)))
  have hrules : ∀ v ∈ [.object [("low", .int (-5))], .null, .bool true],
      Json.Exact IsLatin (n + 1) v := List.forall_mem_cons.mpr
    ⟨hlow, List.forall_mem_cons.mpr ⟨.null _, List.forall_mem_singleton.mpr (.bool _ true)⟩⟩
  refine .object lounge.ordered ?_ (List.forall_mem_cons.mpr ⟨.int _ (by decide) (by decide), ?_⟩)
  · exact List.forall_mem_cons.mpr ⟨List.all_iff_forall_prop.mp rfl, List.forall_mem_cons.mpr
      ⟨List.all_iff_forall_prop.mp rfl,
        List.forall_mem_singleton.mpr (List.all_iff_forall_prop.mp rfl)⟩⟩
  · exact List.forall_mem_cons.mpr
      ⟨.text _ (List.all_iff_forall_prop.mp rfl), List.forall_mem_singleton.mpr (.list hrules)⟩

/-- The record is read back from either form, and a number beside it fails the answer. -/
theorem answers_decoded_lounge :
    decode (latin (Json.list ([lounge, Dict.empty].map Record.toJson)).compact) =
      .ok [lounge, Dict.empty] ∧
    decode (latin lounge.toJson.compact) = .ok [lounge] ∧
    decode [32, 160, 10] = .ok [] ∧
    decode (latin (Json.list [lounge.toJson, .int 7, .null]).compact) =
      .error (.decode "expected object in array, got 7") := by
  have hlist : ∀ items, (∀ v ∈ items, Json.Exact IsLatin 126 v) →
      Json.Exact IsLatin Json.depthLimit (.list items) := fun items h => .list h
  have hempty : Json.Exact IsLatin 126 (Record.toJson Dict.empty) := .object .nil nofun nofun
  have hrecords : ∀ v ∈ [lounge, Dict.empty].map Record.toJson, Json.Exact IsLatin 126 v :=
    List.forall_mem_cons.mpr ⟨exact_lounge 123, List.forall_mem_singleton.mpr hempty⟩
  obtain ⟨hback, -, -, -⟩ := answers_decoded [lounge, Dict.empty] lounge [] []
  obtain ⟨-, halone, hblank, -⟩ := answers_decoded [] lounge [32, 160, 10] []
  have hmixed : ∀ v ∈ [lounge.toJson, .int 7, .null], Json.Exact IsLatin 126 v :=
    List.forall_mem_cons.mpr ⟨exact_lounge 123, List.forall_mem_cons.mpr
      ⟨.int _ (by decide) (by decide), List.forall_mem_singleton.mpr (.null _)⟩⟩
  have hother : ¬ IsObject (.int 7) := nofun
  obtain ⟨-, -, -, hfails⟩ := answers_decoded [] lounge
    (latin (Json.list [lounge.toJson, .int 7, .null]).compact) [lounge.toJson, .int 7, .null]
  refine ⟨hback (hlist _ hrecords), halone (exact_lounge 124),
    hblank.mpr (.inl ⟨List.all_iff_forall_prop.mp rfl, rfl⟩), ?_⟩
  obtain ⟨before, first, later, heq, hbefore, hfirst, herror⟩ :=
    hfails (read_latin (hlist _ hmixed) le_rfl) ⟨.int 7, by simp, hother⟩
  -- the first item is an object, and the second one is none
  rcases before with _ | ⟨_, _ | ⟨_, before⟩⟩
  · obtain ⟨rfl, -⟩ := List.cons.inj heq
    exact absurd (isObject_toJson lounge) hfirst
  · obtain ⟨-, heq⟩ := List.cons.inj heq
    obtain ⟨rfl, -⟩ := List.cons.inj heq
    exact herror
  · obtain ⟨-, heq⟩ := List.cons.inj heq
    obtain ⟨rfl, -⟩ := List.cons.inj heq
    exact absurd (hbefore _ (List.mem_cons_of_mem _ List.mem_cons_self)) hother

end Rest
end RouterMetrics

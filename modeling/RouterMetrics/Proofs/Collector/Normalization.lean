import RouterMetrics.Proofs.Collector.Identity
import RouterMetrics.Proofs.Collector.Names
import RouterMetrics.Proofs.Text.ByteOrder

/-!
# What a store keeps of a record

A record that its device has switched off is left out. Any other is kept under the normal forms of
its field names, with the identity of the store in place of what the device says under those names
(`Store.IsBase`), and then translated field by field, each translation on what the one before has
left (`Store.TranslatedBy`). These two relations leave no choice, so they say what is kept of every
record (`Store.normalization`).
-/

namespace RouterMetrics

namespace Record

/-- The device has switched the record off: its field `disabled` is true, as a text or as a
boolean. -/
def SwitchedOff (raw : Record) : Prop :=
  raw.get? "disabled" = some (.text "true") ∨ raw.get? "disabled" = some (.bool true)

theorem isDisabled_iff {raw : Record} : raw.isDisabled = true ↔ raw.SwitchedOff := by
  unfold isDisabled SwitchedOff
  cases raw.get? "disabled" with
  | none => simp [Json.isTrue]
  | some v => cases v <;> simp [Json.isTrue]

instance (raw : Record) : Decidable raw.SwitchedOff := decidable_of_iff _ isDisabled_iff

/-- The value that is kept under a name: of all fields whose names have that normal form, the one
with the name that is the greatest by its bytes. -/
def KeptUnder (raw : Record) (k : String) (v : Json) : Prop :=
  ∃ name, raw.get? name = some v ∧ normalizeKey name = k ∧
    ∀ name' v', raw.get? name' = some v' → normalizeKey name' = k →
      Text.bytes name' ≤ Text.bytes name

theorem normalizeKeys_keeps {raw : Record} {k : String} {v : Json} :
    raw.normalizeKeys.get? k = some v ↔ raw.KeptUnder k v := by
  simp only [normalizeKeys_get?_iff, KeptUnder, Text.bytes_le_iff]

theorem normalizeKeys_get?_eq_none_iff {raw : Record} {k : String} :
    raw.normalizeKeys.get? k = none ↔
      ∀ name v, raw.get? name = some v → normalizeKey name ≠ k := by
  rw [normalizeKeys, Dict.ofList_get?_eq_none_iff, List.forall_mem_map]
  constructor
  · intro h name v hget
    exact h (name, v) (Dict.mem_toList.mpr hget)
  · rintro h ⟨name, v⟩ hmem
    exact h name v (Dict.mem_toList.mp hmem)

end Record

namespace Store

variable {identity : List (String × String)} {raw r r' base : Record}

/-! ## The base -/

/-- The record that translations start from: the texts of an identity under its names, and under
every other name what is kept of the fields of a raw record. -/
structure IsBase (identity : List (String × String)) (raw base : Record) : Prop where
  identified : ∀ e ∈ identity, base.get? e.1 = some (.text e.2)
  kept : ∀ k ∉ identity.map (·.1), ∀ v, base.get? k = some v ↔ raw.KeptUnder k v
  absent : ∀ k ∉ identity.map (·.1),
    base.get? k = none ↔ ∀ name v, raw.get? name = some v → normalizeKey name ≠ k

theorem isBase_withIdentity (distinct : (identity.map (·.1)).Nodup) (raw : Record) :
    IsBase identity raw (withIdentity identity raw.normalizeKeys) := by
  have hother : ∀ k ∉ identity.map (·.1),
      (withIdentity identity raw.normalizeKeys).get? k = raw.normalizeKeys.get? k := by
    intro k hk
    refine withIdentity_get?_of_ne (fun e he heq => hk ?_) _
    exact heq ▸ List.mem_map_of_mem he
  exact {
    identified := fun e he => withIdentity_get? distinct he _
    kept := fun k hk v => by rw [hother k hk, Record.normalizeKeys_keeps]
    absent := fun k hk => by rw [hother k hk, Record.normalizeKeys_get?_eq_none_iff] }

/-- There is one base. -/
theorem IsBase.unique {base' : Record} (h : IsBase identity raw base)
    (h' : IsBase identity raw base') : base = base' := by
  refine Dict.ext_get? fun k => ?_
  by_cases hk : k ∈ identity.map (·.1)
  · obtain ⟨e, he, rfl⟩ := List.mem_map.mp hk
    rw [h.identified e he, h'.identified e he]
  · exact Option.ext fun v => (h.kept k hk v).trans (h'.kept k hk v).symm

/-! ## Translations -/

/-- What a translation sees of a field: the text of its label, which is empty for null. It sees
nothing only when there is no such field. -/
inductive Seen (r : Record) (field : String) : Option String → Prop
  | absent : r.get? field = none → Seen r field none
  | null : r.get? field = some .null → Seen r field (some "")
  | value {v : Json} : r.get? field = some v → v ≠ .null →
      Seen r field (some (Json.label (some v)))

theorem seen_iff {field : String} {seen : Option String} :
    Seen r field seen ↔ priorText r field = seen := by
  unfold priorText
  constructor
  · rintro (h | h | ⟨h, -⟩)
    · rw [h]
      rfl
    · rw [h]
      rfl
    · rw [h]
      rfl
  · rintro rfl
    cases h : r.get? field with
    | none => exact .absent h
    | some v =>
      by_cases hv : v = .null
      · subst hv
        exact .null h
      · exact .value h hv

/-- What a translation makes of a record: it replaces its one field by a value, or changes
nothing. -/
inductive Translated (t : Translation) (r : Record) : Record → Prop
  | replaced {seen : Option String} {v : Json} {r' : Record} : Seen r t.field seen →
      t.apply seen = some v → r'.get? t.field = some v →
      (∀ k, k ≠ t.field → r'.get? k = r.get? k) → Translated t r r'
  | same {seen : Option String} : Seen r t.field seen → t.apply seen = none → Translated t r r

theorem translated_iff {t : Translation} : Translated t r r' ↔ translate r t = r' := by
  unfold translate
  constructor
  · rintro (⟨hseen, happly, hfield, hother⟩ | ⟨hseen, happly⟩)
    · rw [seen_iff.mp hseen, happly]
      refine Dict.ext_get? fun k => ?_
      rw [Dict.get?_insert]
      by_cases hk : t.field = k
      · rw [if_pos hk, ← hk, hfield]
      · rw [if_neg hk, hother k (Ne.symm hk)]
    · rw [seen_iff.mp hseen, happly]
  · rintro rfl
    have hseen : Seen r t.field (priorText r t.field) := seen_iff.mpr rfl
    cases happly : t.apply (priorText r t.field) with
    | none => exact .same hseen happly
    | some v =>
      refine .replaced hseen happly (by simp [Dict.get?_insert]) fun k hk => ?_
      rw [Dict.get?_insert, if_neg hk.symm]

/-- What translations make of a record in their order. -/
inductive TranslatedBy : List Translation → Record → Record → Prop
  | nil (r : Record) : TranslatedBy [] r r
  | cons {t : Translation} {rest : List Translation} {r r' r'' : Record} : Translated t r r' →
      TranslatedBy rest r' r'' → TranslatedBy (t :: rest) r r''

theorem translatedBy_iff {ts : List Translation} :
    TranslatedBy ts r r' ↔ ts.foldl translate r = r' := by
  induction ts generalizing r with
  | nil =>
    constructor
    · rintro ⟨⟩
      rfl
    · rintro rfl
      exact .nil _
  | cons t rest ih =>
    rw [List.foldl_cons, ← ih]
    constructor
    · rintro (_ | ⟨ht, hrest⟩)
      rwa [translated_iff.mp ht]
    · exact .cons (translated_iff.mpr rfl)

/-! ## Records that are kept -/

theorem normalize_eq_none_iff {s : Store} : s.normalize raw = none ↔ raw.SwitchedOff := by
  rw [normalize, ← Record.isDisabled_iff]
  split
  case isTrue h => simp [h]
  case isFalse h => simp [h]

theorem normalize_eq_some_iff {s : Store} (distinct : (s.identity.map (·.1)).Nodup)
    {kept : Record} : s.normalize raw = some kept ↔ ¬ raw.SwitchedOff ∧
      ∃ base, IsBase s.identity raw base ∧ TranslatedBy s.translations base kept := by
  have hbase := isBase_withIdentity distinct raw
  rw [normalize, ← Record.isDisabled_iff]
  split
  case isTrue h => simp [h]
  case isFalse h =>
    rw [Option.some.injEq, ← translatedBy_iff]
    constructor
    · exact fun hkept => ⟨h, _, hbase, hkept⟩
    · rintro ⟨-, base, hbase', hkept⟩
      rwa [hbase.unique hbase']

/-- A field that is neither of the identity nor translated is the one of the base. -/
theorem TranslatedBy.get? {ts : List Translation} {k : String} (h : TranslatedBy ts r r')
    (hk : ∀ t ∈ ts, t.field ≠ k) : r'.get? k = r.get? k := by
  rw [← translatedBy_iff.mp h, foldl_translate_get? hk]

/-- Of records that are set those that are not switched off are kept, in their order. -/
theorem set_keeps (s : Store) (raws : List Record) (now : Moment) :
    List.Forall₂ (fun raw kept => s.normalize raw = some kept)
      (raws.filter fun raw => ¬ raw.SwitchedOff) (s.set raws now).snapshot.records := by
  have hsome : ∀ raw : Record, (s.normalize raw).isSome = decide (¬ raw.SwitchedOff) := by
    intro raw
    have hnone : s.normalize raw = none ↔ raw.SwitchedOff := normalize_eq_none_iff
    cases h : s.normalize raw with
    | none => simp [hnone.mp h]
    | some kept => simp [← hnone, h]
  have hkept := filterMap_forall₂ s.normalize raws
  simp only [hsome] at hkept
  exact hkept

/-- So are the records that are made of rows, where a record is switched off when its row is. -/
theorem set_keeps_made (s : Store) {make : Record → Option Record}
    (same : ∀ row raw, make row = some raw → (raw.SwitchedOff ↔ row.SwitchedOff))
    (rows : List Record) (now : Moment) :
    List.Forall₂ (fun row kept => ∃ raw, make row = some raw ∧ s.normalize raw = some kept)
      (rows.filter fun row => ¬ row.SwitchedOff ∧ (make row).isSome)
      (s.set (rows.filterMap make) now).snapshot.records := by
  have hraws : List.Forall₂ (fun row raw => make row = some raw)
      ((rows.filter fun row => (make row).isSome).filter fun row => ¬ row.SwitchedOff)
      ((rows.filterMap make).filter fun raw => ¬ raw.SwitchedOff) := by
    refine List.rel_filter (fun row raw hraw => ?_) (filterMap_forall₂ make rows)
    simp [same row raw hraw]
  have hrows : ((rows.filter fun row => (make row).isSome).filter fun row => ¬ row.SwitchedOff) =
      rows.filter fun row => ¬ row.SwitchedOff ∧ (make row).isSome := by
    simp [List.filter_filter]
  rw [← hrows]
  exact forall₂_comp hraws (s.set_keeps _ now)

/-- And the records that all rows are made into. -/
theorem set_keeps_map (s : Store) {f : Record → Record}
    (same : ∀ row, (f row).SwitchedOff ↔ row.SwitchedOff) (rows : List Record) (now : Moment) :
    List.Forall₂ (fun row kept => s.normalize (f row) = some kept)
      (rows.filter fun row => ¬ row.SwitchedOff) (s.set (rows.map f) now).snapshot.records := by
  have hkept := s.set_keeps (rows.map f) now
  rw [List.filter_map, List.forall₂_map_left_iff] at hkept
  simp only [Function.comp_def, same] at hkept
  exact hkept

/-- **What a store keeps of a record.** It leaves out a record that is switched off, and of any
other it keeps what its translations make of the base, in their order: each sees the text that its
field has by then. A field that is neither of the identity nor translated keeps its raw value, and
records that are set stay in their order. -/
theorem normalization (s : Store) (distinct : (s.identity.map (·.1)).Nodup) :
    (∀ raw, s.normalize raw = none ↔ raw.SwitchedOff) ∧
      (∀ raw kept, s.normalize raw = some kept ↔ ¬ raw.SwitchedOff ∧
        ∃ base, IsBase s.identity raw base ∧ TranslatedBy s.translations base kept) ∧
      (∀ raw kept, s.normalize raw = some kept → ∀ k ∉ s.identity.map (·.1),
        (∀ t ∈ s.translations, t.field ≠ k) → ∀ v, kept.get? k = some v ↔ raw.KeptUnder k v) ∧
      ∀ raws now, List.Forall₂ (fun raw kept => s.normalize raw = some kept)
        (raws.filter fun raw => ¬ raw.SwitchedOff) (s.set raws now).snapshot.records := by
  refine ⟨fun raw => normalize_eq_none_iff, fun raw kept => normalize_eq_some_iff distinct,
    fun raw kept hkept k hk htranslated v => ?_, s.set_keeps⟩
  obtain ⟨-, base, hbase, htranslations⟩ := (normalize_eq_some_iff distinct).mp hkept
  rw [htranslations.get? htranslated, hbase.kept k hk]

/-- A store that translates one field twice. -/
def ports : Store :=
  .create (Identity.labels ⟨"gateway", "10.0.0.1"⟩) ["name"]
    [⟨"running", Catalog.flag⟩, ⟨"running", Catalog.flagIfPresent⟩,
      ⟨"owner", Catalog.emptyIfAbsent⟩] [] (.ofSeconds 10)

/-- A record with three names for one field, a name of the identity and a null. -/
def port : Record :=
  Dict.ofList [("rx_byte_", .text "3"), ("rx-byte", .text "1"), ("rx_byte", .text "2"),
    ("device-name", .text "other"), (".disabled", .text "true"), ("running", .text "true"),
    ("owner", .null)]

/-- The name that ends in a separator is the greatest. What the first translation makes of a field
is a text that the second one takes for no truth. -/
theorem normalization_ports : (ports.identity.map (·.1)).Nodup ∧
    ∃ base kept, ports.normalize port = some kept ∧ IsBase ports.identity port base ∧
      TranslatedBy ports.translations base kept ∧ port.KeptUnder "rx_byte" (.text "3") ∧
      kept.toList.map (fun e => (e.1, Json.label (some e.2))) =
        [("device_address", "10.0.0.1"), ("device_name", "gateway"), ("disabled", "true"),
          ("owner", ""), ("running", "0"), ("rx_byte", "3")] := by
  have distinct : (ports.identity.map (·.1)).Nodup := by decide
  obtain ⟨hnone, hsome, hraw, -⟩ := normalization ports distinct
  have hshown : (ports.normalize port).map (fun kept =>
      kept.toList.map fun e => (e.1, Json.label (some e.2))) =
      some [("device_address", "10.0.0.1"), ("device_name", "gateway"), ("disabled", "true"),
        ("owner", ""), ("running", "0"), ("rx_byte", "3")] := by decide +kernel
  cases hkept : ports.normalize port with
  | none => exact absurd ((hnone port).mp hkept) (by decide)
  | some kept =>
    obtain ⟨-, base, hbase, htranslated⟩ := (hsome port kept).mp hkept
    have hfield : (ports.normalize port).map (·.get? "rx_byte") = some (some (.text "3")) := rfl
    rw [hkept] at hshown hfield
    refine ⟨distinct, base, kept, rfl, hbase, htranslated, ?_, Option.some.inj hshown⟩
    exact (hraw port kept hkept "rx_byte" (by decide) (by decide) _).mp (Option.some.inj hfield)

end Store

end RouterMetrics

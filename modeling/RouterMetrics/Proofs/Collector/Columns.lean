import Mathlib.Data.List.TakeWhile
import RouterMetrics.Proofs.Collector.Projection

/-!
# Series of texts

A text with a separator in it has two halves (`Catalog.halfOf`). Rows tell a text or none, and their
records have it in one field. The series that reads this field fails exactly when one of the texts
is no number (`Store.emit_fails_iff_of_column`). Else it has a sample of every row that tells a
text, in their order, and passes the others over (`Store.samples_of_column`).
-/

namespace RouterMetrics

/-! ## Texts of two halves -/

namespace Catalog

variable {sep : Char} {s a b : String}

theorem cutAt_eq_none_iff : cutAt sep s = none ↔ sep ∉ s.toList := by
  have hdrop : s.toList.dropWhile (· != sep) = [] ↔ sep ∉ s.toList := by
    rw [List.dropWhile_eq_nil_iff]
    refine ⟨fun h hmem => by simpa using h sep hmem, fun h c hc => ?_⟩
    exact bne_iff_ne.mpr fun heq => h (heq ▸ hc)
  rw [cutAt, ← hdrop]
  cases s.toList.dropWhile (· != sep) with
  | nil => simp
  | cons c rest => simp

/-- A text is cut at the first separator in it. -/
theorem cutAt_append (h : sep ∉ a.toList) :
    cutAt sep (a ++ String.singleton sep ++ b) = some (a, b) := by
  have hbefore : ∀ c ∈ a.toList, (c != sep) = true := fun c hc =>
    bne_iff_ne.mpr fun heq => h (heq ▸ hc)
  rw [cutAt, String.toList_append, String.toList_append, String.toList_singleton,
    List.append_assoc, List.dropWhile_append_of_pos hbefore, List.takeWhile_append_of_pos hbefore]
  simp

/-- One of the two halves of a text that is cut. -/
inductive Half
  | first | second

/-- The one of two halves that is meant. -/
def Half.of : Half → String × String → String
  | .first, halves => halves.1
  | .second, halves => halves.2

/-- What stands before and behind the first separator in a field. -/
def halves (sep : Char) (field : String) (row : Record) : Option (String × String) :=
  (row.text? field).bind (cutAt sep)

/-- A field has halves when it is a text with a separator in it. -/
theorem halves_isSome_iff {field : String} {row : Record} :
    (halves sep field row).isSome = true ↔ ∃ text ∈ row.text? field, sep ∈ text.toList := by
  unfold halves
  cases row.text? field with
  | none => simp
  | some text =>
    rw [Option.bind_some, ← not_iff_not, Bool.not_eq_true, Option.isSome_eq_false_iff,
      Option.isNone_iff_eq_none, cutAt_eq_none_iff]
    simp

/-- One half of a field. -/
def halfOf (sep : Char) (h : Half) (field : String) (row : Record) : Option String :=
  (halves sep field row).map h.of

end Catalog

/-! ## Columns -/

namespace Store

variable {α : Type} {R : α → Record → Prop} {told : α → Option String} {field : String} {row : α}
  {r : Record} {rows : List α} {s : Store} {d : SeriesDef} {snapshot : Snapshot} {x : Series}

/-- A record has in a field the text that its row tells, and nothing where the row tells none. -/
def Column (field : String) (told : α → Option String) (row : α) (r : Record) : Prop :=
  r.get? field = (told row).map .text

/-- A sample has the labels of the record of a row. -/
def LabelledBy (R : α → Record → Prop) (names : List String) (row : α) (y : Sample) : Prop :=
  ∃ r, R row r ∧ y.labels = names.map fun n => Json.label (r.get? n)

/-- The samples of a series are of some of the rows, in their order. -/
theorem samples_labelled (h : List.Forall₂ R rows snapshot.records)
    (hx : s.emit d snapshot = .ok x) :
    ∃ shown, shown.Sublist rows ∧ List.Forall₂ (LabelledBy R x.labelNames) shown x.samples := by
  obtain ⟨samples, hsamples, rfl⟩ := emit_eq_ok_iff.mp hx
  obtain ⟨shown, hshown, hrecords⟩ := forall₂_filter (fun r => decide (d.Counts r)) h
  refine ⟨shown, hshown, (forall₂_comp hrecords (samplesOf_ok hsamples).2).imp ?_⟩
  rintro row y ⟨r, hr, hy⟩
  exact ⟨r, hr, hy.labels_eq⟩

theorem Column.unreadable_iff (h : Column field told row r) (measured : d.kind ≠ .info)
    (hd : d.valueField = some field) : (∃ f v, d.Unreadable r f v) ↔
      ∃ text, told row = some text ∧ Json.textNumber text = none := by
  constructor
  · rintro ⟨f, v, -, hf, hv, -, hnumeric⟩
    obtain rfl : field = f := Option.some.inj (hd.symm.trans hf)
    obtain ⟨text, htext, rfl⟩ := Option.map_eq_some_iff.mp (h.symm.trans hv)
    exact ⟨text, htext, hnumeric⟩
  · rintro ⟨text, htext, hnumber⟩
    have hget : r.get? field = some (.text text) := by rw [h, htext, Option.map_some]
    exact ⟨field, .text text, measured, hd, hget, nofun, hnumber⟩

theorem Column.counts_iff (h : Column field told row r) (measured : d.kind ≠ .info)
    (hd : d.valueField = some field) : d.Counts r ↔ (told row).isSome = true := by
  have hcounts : d.Counts r ↔ ∃ v, r.get? field = some v ∧ v ≠ .null := by
    simp [SeriesDef.Counts, measured, hd]
  rw [hcounts, h]
  cases told row with
  | none => simp
  | some text => simp

/-- **A series fails exactly when a row tells a text that is no number.** -/
theorem emit_fails_iff_of_column (h : List.Forall₂ R rows snapshot.records)
    (hcolumn : ∀ row r, R row r → Column field told row r) (measured : d.kind ≠ .info)
    (hd : d.valueField = some field) : (∃ e, s.emit d snapshot = .error e) ↔
      ∃ row ∈ rows, ∃ text, told row = some text ∧ Json.textNumber text = none := by
  rw [emit_fails_iff]
  constructor
  · rintro ⟨r, hr, hunreadable⟩
    obtain ⟨row, hrow, hrel⟩ := exists_of_mem_forall₂ h hr
    exact ⟨row, hrow, ((hcolumn row r hrel).unreadable_iff measured hd).mp hunreadable⟩
  · rintro ⟨row, hrow, htext⟩
    obtain ⟨r, hr, hrel⟩ := exists_of_mem_forall₂ h.flip hrow
    exact ⟨r, hr, ((hcolumn row r hrel).unreadable_iff measured hd).mpr htext⟩

/-- **Else it has a sample of every row that tells a text**, in their order, with its number. -/
theorem samples_of_column (h : List.Forall₂ R rows snapshot.records)
    (hcolumn : ∀ row r, R row r → Column field told row r) (measured : d.kind ≠ .info)
    (hd : d.valueField = some field) (hx : s.emit d snapshot = .ok x) :
    List.Forall₂ (fun row y => (told row).bind Json.textNumber = some y.value ∧
        LabelledBy R x.labelNames row y)
      (rows.filter fun row => (told row).isSome) x.samples := by
  obtain ⟨samples, hsamples, rfl⟩ := emit_eq_ok_iff.mp hx
  have hcounted : List.Forall₂ R (rows.filter fun row => (told row).isSome)
      (snapshot.records.filter fun r => d.Counts r) := by
    refine List.rel_filter (fun row r hrel => ?_) h
    exact (decide_eq_true_iff.trans ((hcolumn row r hrel).counts_iff measured hd)).symm
  have hread := forall₂_comp hcounted (samplesOf_ok hsamples).2
  refine ((List.forall₂_and_left _ _).mpr ⟨fun row hrow => hrow, hread⟩).imp ?_
  rintro row y ⟨hrow, r, hrel, hy⟩
  refine ⟨?_, r, hrel, hy.labels_eq⟩
  obtain ⟨text, htext⟩ := Option.isSome_iff_exists.mp (List.mem_filter.mp hrow).2
  have hget : r.get? field = some (.text text) := by
    rw [hcolumn row r hrel, htext, Option.map_some]
  rw [htext]
  exact hy.measured measured field _ hd hget

end Store

end RouterMetrics

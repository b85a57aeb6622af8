import Mathlib.Data.List.TakeWhile
import RouterMetrics.Proofs.Collector.Names
import RouterMetrics.Proofs.Decimal.WholeNumbers
import RouterMetrics.Value.Version

/-!
# Two spellings of one value

A device may answer a flag or a whole number as such, or as the text that writes it
(`Json.Spelled`). The two have one label, are one number and are as true as each other
(`Json.Spelled.same`), so whatever reads a value in these ways cannot tell them apart. What asks for
a text can: there is none in a flag or a number.
-/

namespace RouterMetrics

namespace Json

/-- A boolean or a whole number, and the text that writes it. -/
inductive Spelled : Json → String → Prop
  | bool (b : Bool) : Spelled (.bool b) (if b then "true" else "false")
  | int (i : Int) : Spelled (.int i) (String.ofList (intChars i))

/-- A value that is answered in place of another: the same one, or the text of a boolean or of a
whole number. -/
inductive Respelled : Json → Json → Prop
  | same (v : Json) : Respelled v v
  | text {v : Json} {s : String} : Spelled v s → Respelled v (.text s)

/-- Two values are read alike: as a label, as a number, as null, and as a flag. -/
structure Same (v v' : Json) : Prop where
  label : Json.label (some v) = Json.label (some v')
  numeric : v.numeric = v'.numeric
  null_iff : v = .null ↔ v' = .null
  flag : isTrue (some v) = isTrue (some v')

variable {v v' : Json} {s : String}

theorem Same.refl (v : Json) : Same v v := ⟨rfl, rfl, Iff.rfl, rfl⟩

/-! ## Whole numbers -/

theorem spanSign_intChars (i : Int) :
    Decimal.spanSign (intChars i) = (decide (i < 0), Text.digits i.natAbs) := by
  rw [intChars]
  split
  case isTrue hneg => rw [decide_eq_true hneg]; rfl
  case isFalse hneg =>
    rw [decide_eq_false hneg]
    obtain ⟨c, rest, hdigits, hc⟩ := Text.exists_digits_cons i.natAbs
    rw [hdigits, Decimal.spanSign]
    · rintro cs ⟨⟩
      cases hc
    · rintro cs ⟨⟩
      cases hc

/-- A whole number is written in digits, behind a hyphen when it is negative. -/
theorem integer_intChars (i : Int) :
    Decimal.Integer (intChars i) ⟨decide (i < 0), i.natAbs, 0⟩ := by
  have hinteger := Decimal.Integer.digits (spanSign_intChars i) (Text.digits_ne_nil _)
    fun _ => Text.isDigit_of_mem_digits
  rwa [Text.numberOf_digits] at hinteger

theorem exists_digit_intChars (i : Int) : ∃ c ∈ intChars i, c.isDigit = true := by
  obtain ⟨c, rest, hdigits, hc⟩ := Text.exists_digits_cons i.natAbs
  refine ⟨c, ?_, hc⟩
  rw [intChars, hdigits]
  split
  · exact List.mem_cons_of_mem _ List.mem_cons_self
  · exact List.mem_cons_self

/-- A text without digits writes no whole number. -/
theorem intChars_ne {i : Int} (h : s.toList.all fun c => !c.isDigit) :
    String.ofList (intChars i) ≠ s := by
  rintro rfl
  obtain ⟨c, hc, hdigit⟩ := exists_digit_intChars i
  rw [String.toList_ofList, List.all_eq_true] at h
  have hno := h c hc
  rw [hdigit] at hno
  cases hno

/-! ## The text of a spelling -/

namespace Spelled

theorem asText? (h : Spelled v s) : v.asText? = none := by
  cases h with
  | bool => rfl
  | int => rfl

theorem label (h : Spelled v s) : Json.label (some v) = s := by
  cases h with
  | bool b => cases b <;> rfl
  | int => rfl

theorem numeric (h : Spelled v s) : v.numeric = textNumber s := by
  cases h with
  | bool b => cases b <;> rfl
  | int i =>
    have hinteger := integer_intChars i
    rw [← String.toList_ofList (l := intChars i)] at hinteger
    exact hinteger.textNumber.symm

theorem isTrue (h : Spelled v s) : Json.isTrue (some v) = (s == "true") := by
  cases h with
  | bool b => cases b <;> rfl
  | int i => exact (beq_eq_false_iff_ne.mpr (intChars_ne rfl)).symm

/-- **A boolean or a whole number and its text are read alike.** -/
theorem same (h : Spelled v s) : Same v (.text s) where
  label := h.label
  numeric := h.numeric
  null_iff := by cases h <;> simp
  flag := h.isTrue

/-- No white space, slash or comma stands in a spelling. -/
theorem plain (h : Spelled v s) :
    ∀ c ∈ s.toList, Text.isBlank c = false ∧ c ≠ '/' ∧ c ≠ ',' := by
  cases h with
  | bool b =>
    have hall : (String.toList (if b then "true" else "false")).all
        (fun c => !Text.isBlank c && (c != '/' && c != ',')) = true := by
      cases b <;> rfl
    intro c hc
    simpa using List.all_eq_true.mp hall c hc
  | int i =>
    intro c hc
    rw [String.toList_ofList] at hc
    rcases (integer_intChars i).mem hc with rfl | rfl | hdigit
    · decide
    · decide
    · refine ⟨Text.isBlank_of_isDigit hdigit, ?_, ?_⟩
      · rintro rfl
        cases hdigit
      · rintro rfl
        cases hdigit

/-- A spelling tells no version with a channel. -/
theorem versionAndChannel (h : Spelled v s) : Value.versionAndChannel s = none := by
  have hline : ∀ c ∈ s.toList, (c != '\n') = true := by
    intro c hc
    refine bne_iff_ne.mpr ?_
    rintro rfl
    cases (h.plain _ hc).1
  have hdrop : s.toList.dropWhile (· == '\n') = s.toList := by
    cases htext : s.toList with
    | nil => rfl
    | cons c rest =>
      have hc := hline c (htext ▸ List.mem_cons_self)
      exact List.dropWhile_cons_of_neg (by simpa using hc)
  have hspan : (s.toList ++ []).span (· != '\n') = (s.toList, []) := Text.span_append hline nofun
  have hblank : s.toList.reverse.dropWhile (fun c => !Text.isBlank c) = [] := by
    rw [List.dropWhile_eq_nil_iff]
    intro c hc
    rw [(h.plain c (List.mem_reverse.mp hc)).1]
    rfl
  rw [List.append_nil] at hspan
  simp only [Value.versionAndChannel, hdrop, hspan, Value.cutAtLastBlank, hblank]
  rfl

end Spelled

/-! ## Spellings as names -/

/-- A name that no field gets from a spelling: no truth value, and not starting with a digit. -/
def isName (k : String) : Bool :=
  k != "true" && k != "false" && !k.toList.head?.any Char.isDigit

theorem underscore_of_isDigit {c : Char} (h : c.isDigit = true) : underscore c = c := by
  rcases underscore_cases c with ⟨rfl | rfl, -⟩ | ⟨-, hsame⟩
  · cases h
  · cases h
  · exact hsame

theorem isSeparator_of_isDigit {c : Char} (h : c.isDigit = true) : isSeparator c = false := by
  refine Bool.eq_false_iff.mpr fun hc => ?_
  rcases isSeparator_iff.mp hc with (rfl | rfl) | rfl
  all_goals cases h

/-- The hyphen of a negative number is dropped, and digits stay. -/
theorem normalizeName_intChars (i : Int) :
    normalizeName (intChars i) = Text.digits i.natAbs := by
  have hdigits : ∀ c ∈ Text.digits i.natAbs, c.isDigit = true :=
    fun _ => Text.isDigit_of_mem_digits
  have hends : ∀ found : Option Char, (∀ c ∈ found, c.isDigit = true) →
      found.any isSeparator = false := by
    rintro (_ | c) hc
    · rfl
    · exact isSeparator_of_isDigit (hc c rfl)
  have hhead := hends _ fun c hc => hdigits c (List.mem_of_mem_head? hc)
  have hlast := hends _ fun c hc => hdigits c (List.mem_of_mem_getLast? hc)
  have hdrop : dropSeparator (intChars i) = Text.digits i.natAbs := by
    rw [intChars]
    split
    · rfl
    · exact dropSeparator_of_head hhead
  have hend : (intChars i).getLast? = (Text.digits i.natAbs).getLast? := by
    rw [intChars]
    split
    · exact List.getLast?_cons_of_ne_nil (Text.digits_ne_nil _)
    · rfl
  rw [normalizeName_of_end (hend ▸ hlast), hdrop]
  calc (Text.digits i.natAbs).map underscore
      _ = (Text.digits i.natAbs).map id :=
        List.map_congr_left fun c hc => underscore_of_isDigit (hdigits c hc)
      _ = Text.digits i.natAbs := List.map_id _

theorem Spelled.isName_normalizeKey (h : Spelled v s) : isName (normalizeKey s) = false := by
  cases h with
  | bool b => cases b <;> rfl
  | int i =>
    rw [normalizeKey, String.toList_ofList, normalizeName_intChars]
    obtain ⟨c, rest, hdigits, hc⟩ := Text.exists_digits_cons i.natAbs
    simp [isName, hdigits, hc]

end Json

end RouterMetrics

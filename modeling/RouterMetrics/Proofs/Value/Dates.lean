import Mathlib.Tactic.IntervalCases
import RouterMetrics.Calendar

/-!
# Dates in order

The days of a year that begins in March are told by its months, and no month or year is longer than
the days up to the next one. So a later date is a greater number of days
(`CivilDate.toDays_lt`).
-/

namespace RouterMetrics.CivilDate

variable {d d' : CivilDate}

/-- A date comes before another one, by year, month and day. -/
def Before (d d' : CivilDate) : Prop :=
  d.year < d'.year ∨ d.year = d'.year ∧
    (d.month < d'.month ∨ d.month = d'.month ∧ d.day < d'.day)

/-! ## Years that begin in March -/

/-- The year from March that a date is in. -/
def marchYear (d : CivilDate) : Int := if d.month ≤ 2 then d.year - 1 else d.year

/-- The month of a date, counted from March. -/
def marchMonth (d : CivilDate) : Int := (d.month + 9) % 12

/-- The days from the first of March to the first of a month. -/
def daysToMonth (m : Int) : Int := (153 * m + 2) / 5

/-- The days to the first of March of a year. -/
def daysToMarch (y : Int) : Int := 365 * y + y / 4 - y / 100 + y / 400

theorem toDays_eq (d : CivilDate) :
    d.toDays = daysToMarch d.marchYear + daysToMonth d.marchMonth + d.day - 719469 := by
  simp only [toDays, daysToMarch, daysToMonth, marchMonth, marchYear]
  generalize (if d.month ≤ 2 then d.year - 1 else d.year) = y
  omega

theorem isValid_iff : d.isValid = true ↔ (yearRange.1 ≤ d.year ∧ d.year ≤ yearRange.2) ∧
    (1 ≤ d.month ∧ d.month ≤ 12) ∧ 1 ≤ d.day ∧ d.day ≤ daysInMonth d.year d.month := by
  simp [isValid, and_assoc]

/-- No month has more than 31 days. -/
theorem daysInMonth_le (y : Int) (m : Nat) : daysInMonth y m ≤ 31 := by
  simp only [daysInMonth]
  repeat' split
  all_goals decide

/-- Every month but February is over when the next one begins. -/
theorem day_le_of_ne (h : d.isValid = true) (hmonth : d.marchMonth ≠ 11) :
    daysToMonth d.marchMonth + d.day ≤ daysToMonth (d.marchMonth + 1) := by
  obtain ⟨-, ⟨hlow, hhigh⟩, -, hday⟩ := isValid_iff.mp h
  obtain ⟨year, month, day⟩ := d
  simp only [marchMonth, daysToMonth, daysInMonth] at hlow hhigh hday hmonth ⊢
  interval_cases month
  all_goals simp at hday hmonth ⊢
  all_goals omega

/-- February is over when the next year begins. -/
theorem day_le (h : d.isValid = true) : daysToMarch d.marchYear + daysToMonth d.marchMonth + d.day ≤
    daysToMarch (d.marchYear + 1) := by
  obtain ⟨-, ⟨hlow, hhigh⟩, -, hday⟩ := isValid_iff.mp h
  obtain ⟨year, month, day⟩ := d
  simp only [marchMonth, marchYear, daysToMonth, daysToMarch, daysInMonth, isLeapYear]
    at hlow hhigh hday ⊢
  interval_cases month
  all_goals simp at hday ⊢
  all_goals (try split at hday)
  all_goals omega

theorem daysToMarch_mono {y y' : Int} (h : y ≤ y') : daysToMarch y ≤ daysToMarch y' := by
  simp only [daysToMarch]
  omega

theorem daysToMonth_mono {m m' : Int} (h : m ≤ m') : daysToMonth m ≤ daysToMonth m' := by
  simp only [daysToMonth]
  omega

/-- **A later date is a greater number of days.** -/
theorem toDays_lt (h : d.isValid = true) (h' : d'.isValid = true) (before : Before d d') :
    d.toDays < d'.toDays := by
  obtain ⟨-, ⟨hlow, hhigh⟩, hfirst, -⟩ := isValid_iff.mp h
  obtain ⟨-, ⟨hlow', hhigh'⟩, hfirst', -⟩ := isValid_iff.mp h'
  rw [toDays_eq, toDays_eq]
  have hyears : d.marchYear < d'.marchYear ∨ d.marchYear = d'.marchYear ∧
      (d.marchMonth < d'.marchMonth ∨ d.marchMonth = d'.marchMonth ∧ d.day < d'.day) := by
    simp only [marchYear, marchMonth]
    rcases before with hyear | ⟨hyear, hmonth | ⟨hmonth, hday⟩⟩
    all_goals split <;> split <;> omega
  have hstart : 0 ≤ daysToMonth d'.marchMonth := by
    simp only [daysToMonth, marchMonth]
    omega
  rcases hyears with hyear | ⟨hyear, hmonth | ⟨hmonth, hday⟩⟩
  · have hover := day_le h
    have hnext := daysToMarch_mono (show d.marchYear + 1 ≤ d'.marchYear by omega)
    omega
  · have hlast : d.marchMonth ≠ 11 := by
      simp only [marchMonth] at hmonth ⊢
      omega
    have hover := day_le_of_ne h hlast
    have hnext := daysToMonth_mono (show d.marchMonth + 1 ≤ d'.marchMonth by omega)
    rw [hyear]
    omega
  · rw [hyear, hmonth]
    omega

/-- The days of the years that the calendar is kept for. -/
theorem natAbs_toDays_lt (h : d.isValid = true) : d.toDays.natAbs < 100000000 := by
  obtain ⟨⟨hlow, hhigh⟩, -, -, hday⟩ := isValid_iff.mp h
  have hlength := daysInMonth_le d.year d.month
  rw [toDays_eq]
  simp only [yearRange] at hlow hhigh
  simp only [marchYear, marchMonth, daysToMarch, daysToMonth]
  split
  all_goals omega

end RouterMetrics.CivilDate

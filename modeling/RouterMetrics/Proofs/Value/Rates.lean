import RouterMetrics.Proofs.Decimal.Signs
import RouterMetrics.Value.Rate

/-!
# Rates

The amount of a rate is digits with a point among them or none, and is read as the number that it
writes (`Decimal.Amount.readNumber`). It is found whole, with the letter behind it
(`Value.rateAtHead_amount`). So a rate with a letter is its amount in thousands, millions or
billions, but one without a letter is read in tenths (`Value.rates_read`).
-/

namespace RouterMetrics

/-! ## Amounts -/

namespace Decimal

variable {cs : List Char} {n : Numeral}

/-- A digit is no sign. -/
theorem spanSign_of_isDigit {c : Char} (h : c.isDigit = true) :
    spanSign (c :: cs) = (false, c :: cs) := by
  unfold spanSign
  split
  case h_1 heq =>
    cases heq
    cases h
  case h_2 heq =>
    cases heq
    cases h
  case h_3 => rfl

/-- Digits, at least one, with a point before, among or behind them or none, write a number. -/
inductive Amount : List Char → Numeral → Prop
  | whole {ds : List Char} : ds ≠ [] → (∀ c ∈ ds, c.isDigit = true) →
      Amount ds ⟨false, Text.numberOf ds, 0⟩
  | point {ds fs : List Char} : ds ++ fs ≠ [] → (∀ c ∈ ds ++ fs, c.isDigit = true) →
      Amount (ds ++ '.' :: fs) ⟨false, Text.numberOf (ds ++ fs), -fs.length⟩

theorem Amount.mem (h : Amount cs n) {c : Char} (hc : c ∈ cs) : c.isDigit = true ∨ c = '.' := by
  cases h with
  | whole _ digits => exact .inl (digits c hc)
  | @point ds fs _ digits =>
    rw [List.mem_append, List.mem_cons] at hc
    rcases hc with hwhole | rfl | hfraction
    · exact .inl (digits c (List.mem_append_left _ hwhole))
    · exact .inr rfl
    · exact .inl (digits c (List.mem_append_right _ hfraction))

theorem Amount.negative (h : Amount cs n) : n.negative = false := by
  cases h with
  | whole => rfl
  | point => rfl

theorem Amount.ne_nil (h : Amount cs n) : cs ≠ [] := by
  cases h with
  | whole some_digit => exact some_digit
  | point => simp

theorem Amount.readUnsigned (h : Amount cs n) :
    Decimal.readUnsigned cs = some (n.mantissa, n.exponent) := by
  cases h with
  | whole some_digit digits => exact readUnsigned_digits some_digit digits
  | @point ds fs some_digit digits =>
    obtain ⟨hwhole, hfraction⟩ := List.forall_mem_append.mp digits
    have hpoint : ∀ c ∈ ('.' :: fs).head?, c.isDigit = false := by
      rintro c ⟨⟩
      rfl
    have hsome : (ds.isEmpty && fs.isEmpty) = false := by simpa using some_digit
    simp [Decimal.readUnsigned, Text.spanDigits_append hwhole hpoint, spanDigits_digits hfraction,
      hsome, readExponent]

/-- **An amount is read as the number that it writes.** -/
theorem Amount.readNumber (h : Amount cs n) : Decimal.readNumber cs = some n.toFloat := by
  have hunsigned := h.readUnsigned
  obtain ⟨c, rest, rfl⟩ := List.exists_cons_of_ne_nil h.ne_nil
  have hstart : spanSign (c :: rest) = (false, c :: rest) ∧ c.toLower ≠ 'i' ∧ c.toLower ≠ 'n' := by
    rcases h.mem List.mem_cons_self with hdigit | rfl
    · exact ⟨spanSign_of_isDigit hdigit, toLower_of_isDigit hdigit⟩
    · exact ⟨rfl, by decide, by decide⟩
  rw [readNumber_of_start hstart.1 hstart.2.1 hstart.2.2, hunsigned, Option.map_some,
    ← h.negative]

end Decimal

/-! ## Rates -/

namespace Value

open Decimal (Amount Numeral nearest)

variable {cs : List Char} {n : Numeral}

theorem findRate_of_rateAtHead {found : List Char × Option Char} (h : rateAtHead cs = some found) :
    findRate cs = some found := by
  cases cs with
  | nil => cases h
  | cons c cs => rw [findRate, h]

/-- The letters of a rate, and none, with the powers of ten that they are read as. -/
def scales : List (Option Char × Int) :=
  [(none, -1), (some 'k', 3), (some 'K', 3), (some 'm', 6), (some 'M', 6), (some 'g', 9),
    (some 'G', 9)]

/-- The text of a rate. -/
def rateText (amount : String) (letter : Option Char) : String :=
  amount ++ String.ofList letter.toList ++ "bps"

theorem toList_rateText (amount : String) (letter : Option Char) :
    (rateText amount letter).toList = amount.toList ++ (letter.toList ++ "bps".toList) := by
  simp [rateText]

/-- **An amount is found whole**, with the letter behind it. -/
theorem rateAtHead_amount (amount : Amount cs n) {scale : Option Char × Int}
    (hscale : scale ∈ scales) :
    rateAtHead (cs ++ (scale.1.toList ++ "bps".toList)) = some (cs, scale.1) := by
  have hnone : ∀ scale ∈ scales,
      (scale.1.toList ++ "bps".toList).head?.any Text.isDigit = false := by decide
  have hstop := (Option.any_eq_false _ _).mp (hnone scale hscale)
  have hletter : scale.1 ∈ [none, some 'k', some 'K', some 'm', some 'M', some 'g', some 'G'] :=
    List.mem_map_of_mem (f := Prod.fst) hscale
  clear hnone hscale
  generalize scale.1 = letter at hstop hletter ⊢
  simp only [List.mem_cons, List.not_mem_nil, or_false] at hletter
  cases amount with
  | @whole ds some_digit digits =>
    have hspan := Text.span_append (fun c hc => Text.isDigit_of_ascii (digits c hc)) hstop
    rw [rateAtHead, hspan]
    rcases hletter with rfl | rfl | rfl | rfl | rfl | rfl | rfl
    all_goals simp [isRateLetter]
  | @point ds fs some_digit digits =>
    obtain ⟨hwhole, hfraction⟩ := List.forall_mem_append.mp digits
    have hpoint : ∀ c ∈ ('.' :: (fs ++ (letter.toList ++ "bps".toList))).head?,
        Text.isDigit c = false := by
      rintro c ⟨⟩
      decide
    have hspan := Text.span_append (fun c hc => Text.isDigit_of_ascii (hwhole c hc)) hpoint
    have hspan' := Text.span_append (fun c hc => Text.isDigit_of_ascii (hfraction c hc)) hstop
    rw [List.append_assoc, List.cons_append, rateAtHead, hspan]
    dsimp only
    simp only [hspan']
    rcases hletter with rfl | rfl | rfl | rfl | rfl | rfl | rfl
    all_goals simp [isRateLetter]

/-- **What is told of a rate.** Its amount is read as the double nearest to the number that it
writes, and the rate is that double times a power of ten: of thousands, millions and billions with a
letter, each a thousand times the one before, but of tenths without one. No rate is below zero. -/
theorem rates_read {amount : String} {n : Numeral} (h : Amount amount.toList n) :
    Decimal.readNumber amount.toList = some n.toFloat ∧
    (∀ scale ∈ scales, rate (some (rateText amount scale.1)) = n.toFloat * nearest 1 scale.2 ∧
      0 ≤ rate (some (rateText amount scale.1))) ∧
    ∀ e ∈ [3, 6], nearest 1 (e + 3) = nearest 1 e * Decimal.ofInt 1000 := by
  have hread := h.readNumber
  refine ⟨hread, fun scale hscale => ?_, by decide +kernel⟩
  have hexponent : ∀ scale ∈ scales, rateExponent scale.1 = scale.2 := by decide
  have hpower : ∀ scale ∈ scales,
      Decimal.isPositive (nearest 1 scale.2).toModel.unpack = true := by decide +kernel
  have hrate : rate (some (rateText amount scale.1)) = n.toFloat * nearest 1 scale.2 := by
    rw [rate, toList_rateText, findRate_of_rateAtHead (rateAtHead_amount h hscale)]
    dsimp only
    rw [hread, hexponent scale hscale]
  refine ⟨hrate, ?_⟩
  rw [hrate]
  have hunsigned := Decimal.isUnsigned_toFloat h.negative
  exact Decimal.nonneg_of_isUnsigned
    (Decimal.isUnsigned_pack (Decimal.isUnsigned_mul hunsigned (hpower scale hscale)))

/-- An uplink with half a million bits more than two. -/
theorem rates_read_uplink :
    Amount "2.5".toList ⟨false, 25, -1⟩ ∧ (some 'M', 6) ∈ scales ∧
      rate (some "2.5Mbps") = Decimal.ofInt 2500000 ∧ 0 ≤ rate (some "2.5Mbps") := by
  have amount : Amount "2.5".toList ⟨false, 25, -1⟩ :=
    show Amount (['2'] ++ '.' :: ['5']) _ from .point (by decide) (List.all_eq_true.mp rfl)
  have hscale : (some 'M', 6) ∈ scales := by decide
  obtain ⟨-, hrates, -⟩ := rates_read amount
  obtain ⟨hrate, hnonneg⟩ := hrates _ hscale
  exact ⟨amount, hscale, hrate.trans (by decide +kernel), hnonneg⟩

/-- A hundred bits per second are told as ten. -/
theorem bare_rate_in_tenths :
    Amount "100".toList ⟨false, 100, 0⟩ ∧
      rate (some (rateText "100" none)) = Decimal.ofInt 10 ∧
      Numeral.toFloat ⟨false, 100, 0⟩ * nearest 1 0 = Decimal.ofInt 100 ∧
      Decimal.ofInt 10 ≠ Decimal.ofInt 100 :=
  ⟨.whole (by decide) (List.all_eq_true.mp rfl), by decide +kernel, by decide +kernel,
    by decide +kernel⟩

end Value

end RouterMetrics

import Mathlib.Tactic.Positivity
import RouterMetrics.Proofs.Text.Numerals
import RouterMetrics.Record

/-!
# Whole numbers as doubles

Rounding keeps the magnitude of a number, up to one carry. A whole number below `2 ^ 53` is far from
the largest double, so the double that it rounds to is finite (`Decimal.isFinite_ofInt`). A text of
digits, with a sign before them or none, is read as the number that it writes
(`Decimal.Integer.textNumber`).
-/

namespace RouterMetrics.Decimal

open Float.Model Float.Model.UnpackedFloat

/-! ## Rounding -/

theorem mantissa_shiftRight (em : ExtendedMantissa) (k : Nat) :
    (em >>> k).mantissa = em.mantissa / 2 ^ k := by
  induction k with
  | zero => exact (Nat.div_one _).symm
  | succ k ih =>
    have hstep : (em >>> (k + 1)).mantissa = (em >>> k).mantissa / 2 := rfl
    rw [hstep, ih, Nat.div_div_eq_div_mul, Nat.pow_succ]

theorem roundedMantissa_le (em : ExtendedMantissa) : em.roundedMantissa ≤ em.mantissa + 1 := by
  obtain ⟨m, roundBit, stickyBit⟩ := em
  cases roundBit <;> cases stickyBit <;>
    simp [ExtendedMantissa.roundedMantissa, ExtendedMantissa.accuracy,
      Accuracy.roundToNearestEven]
  omega

theorem log2_le {m w : Nat} (h : m < 2 ^ (w + 1)) : m.log2 ≤ w := by
  rcases Nat.eq_zero_or_pos m with rfl | hpos
  · simp
  · exact Nat.lt_succ_iff.mp ((Nat.log2_lt hpos.ne').mpr h)

theorem targetExponent_eq (m : Nat) (e : Int) :
    Format.binary64.targetExponent (totalExponent m e) = max (m.log2 + e - 52) (-1074) := by
  have hbits : (Format.binary64.mantissaBits : Int) = 53 := rfl
  have hleast : Format.binary64.minExponent = -1074 := rfl
  rw [Format.targetExponent, totalExponent, hbits, hleast]
  omega

/-- Shifting goes up to the exponent for a mantissa of 53 bits, and down to none. -/
theorem exponent_shift (m : Nat) (e : Int) :
    (shiftToTargetExponent Format.binary64 m e .exact).2 =
      max e (max (m.log2 + e - 52) (-1074)) := by
  rw [shiftToTargetExponent, targetExponent_eq, shiftToExponent]
  omega

/-- What is rounded has no more than 53 bits, or is the first number that does. -/
theorem log2_rounded_le (m : Nat) (e : Int) :
    (shiftToTargetExponent Format.binary64 m e .exact).1.roundedMantissa.log2 ≤ 53 := by
  have hround := roundedMantissa_le (shiftToTargetExponent Format.binary64 m e .exact).1
  rw [shiftToTargetExponent, targetExponent_eq, shiftToExponent] at hround ⊢
  dsimp only at hround ⊢
  rw [mantissa_shiftRight] at hround
  generalize hk : (max ((m.log2 : Int) + e - 52) (-1074) - e).toNat = k at hround ⊢
  have hbits : m < 2 ^ (53 + k) :=
    Nat.lt_of_lt_of_le Nat.lt_log2_self (Nat.pow_le_pow_right (by decide) (by omega))
  have hfloor : m / 2 ^ k < 2 ^ 53 := by
    rw [Nat.div_lt_iff_lt_mul (by positivity), ← Nat.pow_add]
    exact hbits
  generalize (ExtendedMantissa.ofMantissaAndAccuracy m .exact >>> k).roundedMantissa = r at hround ⊢
  have hr : r < 2 ^ 54 := Nat.lt_of_le_of_lt hround (by
    have hm : (ExtendedMantissa.ofMantissaAndAccuracy m .exact).mantissa = m := rfl
    rw [hm]
    omega)
  exact log2_le hr

/-- A double that is zero, or finite with a binary exponent up to a bound. -/
def ExponentLe (k : Int) : UnpackedFloat → Prop
  | .zero _ => True
  | .finite _ _ e _ => e ≤ k
  | _ => False

/-- **Rounding moves the exponent to the place of a mantissa of 53 bits**, or one more. -/
theorem exponentLe_round {s : Sign} {m : Nat} {e k : Int} (smallest : -1074 ≤ k) (he : e ≤ k)
    (hm : m.log2 + e - 52 ≤ k) :
    ExponentLe (k + 1) (roundWithAccuracy Format.binary64 s m e .exact) := by
  have hfirst := exponent_shift m e
  have hbits := log2_rounded_le m e
  rw [roundWithAccuracy]
  generalize shiftToTargetExponent Format.binary64 m e .exact = first at hfirst hbits ⊢
  obtain ⟨em, e₁⟩ := first
  dsimp only at hfirst hbits ⊢
  have hlast := exponent_shift em.roundedMantissa e₁
  generalize shiftToTargetExponent Format.binary64 em.roundedMantissa e₁ .exact = last at hlast ⊢
  by_cases hzero : last.1.mantissa = 0
  · rw [dif_pos hzero]
    trivial
  · rw [dif_neg hzero]
    show last.2 ≤ k + 1
    omega

/-! ## Packing -/

/-- A double that is zero, or finite with a mantissa of 53 bits and an exponent up to a bound. -/
def FitsWord (k : Int) : UnpackedFloat → Prop
  | .zero _ => True
  | .finite _ m e _ => m < 2 ^ 53 ∧ e ≤ k
  | _ => False

theorem fitsWord_packComponents {s : Sign} {biased : BitVec 11} {mantissa : BitVec 52} {k : Int}
    (finite : biased ≠ -1#11) (smallest : -1074 ≤ k) (h : (biased.toNat : Int) - 1075 ≤ k) :
    FitsWord k (unpack Format.binary64 (packComponents Format.binary64 s biased mantissa)) := by
  have hbias : (Format.binary64.exponentBias : Int) = 1023 := rfl
  have hexponent : unpackExponent (packComponents Format.binary64 s biased mantissa) = biased :=
    unpackExponent_packComponents
  generalize packComponents Format.binary64 s biased mantissa = word at hexponent
  have hbits : (1#1 ++ unpackMantissa word).toNat < 2 ^ 53 := (1#1 ++ unpackMantissa word).isLt
  have hfraction : (unpackMantissa word).toNat < 2 ^ 52 := (unpackMantissa word).isLt
  unfold UnpackedFloat.unpack
  dsimp only
  rw [if_neg (hexponent ▸ finite)]
  by_cases hzero : unpackExponent word = 0#11
  · rw [if_pos hzero]
    by_cases hmantissa : unpackMantissa word = 0#52
    · rw [dif_pos hmantissa]
      trivial
    · rw [dif_neg hmantissa]
      refine ⟨by omega, ?_⟩
      rw [hzero, hbias]
      simpa using smallest
  · rw [if_neg hzero]
    refine ⟨hbits, ?_⟩
    rw [hexponent, hbias]
    simpa using h

/-- A finite double is packed with its exponent, or with none when its mantissa is short. -/
theorem pack_finite (s : Sign) (m : Nat) (e : Int) (hm : 0 < m) :
    UnpackedFloat.pack Format.binary64 (.finite s m e hm) =
      if 2 ^ 11 ≤ (e + 1023 + 52).toNat + 1 then packedInfinity Format.binary64 s
      else if m.log2 + 1 = 53 then
        packComponents Format.binary64 s (BitVec.ofNat 11 (e + 1023 + 52).toNat) (BitVec.ofNat 52 m)
      else packComponents Format.binary64 s 0#11 (BitVec.ofNat 52 m) :=
  rfl

theorem ofNat_ne_ones {biased : Nat} (h : biased < 2047) : BitVec.ofNat 11 biased ≠ -1#11 := by
  intro heq
  have hword := congrArg BitVec.toNat heq
  rw [BitVec.toNat_ofNat, Nat.mod_eq_of_lt (by omega)] at hword
  have hones : (-1#11).toNat = 2047 := by decide
  omega

/-- **A double below the largest exponent stays finite when it is packed.** -/
theorem fitsWord_pack {u : UnpackedFloat} {k : Int} (h : ExponentLe k u) (smallest : -1074 ≤ k)
    (largest : k < 971) : FitsWord k (Float.Model.pack u).unpack := by
  show FitsWord k (unpack Format.binary64 (UnpackedFloat.pack Format.binary64 u))
  cases u with
  | infinity s => exact h.elim
  | notANumber => exact h.elim
  | zero s => exact fitsWord_packComponents (by decide) smallest (by simp; omega)
  | finite s m e hm =>
    have he : e ≤ k := h
    rw [pack_finite]
    generalize hbiased : (e + 1023 + 52).toNat = biased
    have hfits : biased < 2047 := by omega
    have hword : (BitVec.ofNat 11 biased).toNat = biased :=
      (BitVec.toNat_ofNat _ _).trans (Nat.mod_eq_of_lt (by omega))
    rw [if_neg (by omega)]
    split
    case isTrue =>
      exact fitsWord_packComponents (ofNat_ne_ones hfits) smallest (by omega)
    case isFalse => exact fitsWord_packComponents (by decide) smallest (by simp; omega)

/-! ## Whole numbers -/

theorem exponentLe_ofNat {n : Nat} (h : n < 2 ^ 53) :
    ExponentLe 1 (UnpackedFloat.ofNat Format.binary64 n) := by
  rcases Nat.eq_zero_or_pos n with rfl | hpos
  · trivial
  · have hsign : compare (n : Int) 0 = .gt := by
      rw [compare_gt_iff_gt]
      omega
    have hlog : n.log2 ≤ 52 := log2_le h
    rw [UnpackedFloat.ofNat, UnpackedFloat.ofInt, UnpackedFloat.normalize, hsign]
    dsimp only
    rw [UnpackedFloat.round, targetExponent_eq, Int.toNat_natCast, decreaseExponent]
    dsimp only
    generalize hshift : ((0 : Int) - max ((n.log2 : Int) + 0 - 52) (-1074)).toNat = k
    have hbits : n <<< k < 2 ^ (n.log2 + k + 1) := by
      rw [Nat.shiftLeft_eq, Nat.add_right_comm, Nat.pow_add]
      exact Nat.mul_lt_mul_of_pos_right Nat.lt_log2_self (by positivity)
    have hshifted : (n <<< k).log2 ≤ n.log2 + k := log2_le hbits
    exact exponentLe_round (k := 0) (by decide) (by omega) (by omega)

/-- One, by which whole numbers are scaled. -/
theorem unpack_one : (Float.ofBits 0x3ff0000000000000).toModel.unpack =
    .finite .positive (2 ^ 52) (-52) (by decide) := rfl

theorem exponentLe_mul_one {u : UnpackedFloat} (h : FitsWord 1 u) :
    ExponentLe 2 (UnpackedFloat.mul Format.binary64 u
      (Float.ofBits 0x3ff0000000000000).toModel.unpack) := by
  rw [unpack_one]
  cases u with
  | infinity s => exact h.elim
  | notANumber => exact h.elim
  | zero s => trivial
  | finite s m e hm =>
    obtain ⟨hbits, he⟩ := h
    have hlog : (m * 2 ^ 52).log2 ≤ 104 := log2_le (by omega)
    exact exponentLe_round (k := 1) (by decide) (by omega) (by omega)

theorem FitsWord.isFinite {u : UnpackedFloat} {k : Int} (h : FitsWord k u) : u.isFinite = true := by
  cases u with
  | infinity s => exact h.elim
  | notANumber => exact h.elim
  | zero s => rfl
  | finite s m e hm => rfl

theorem FitsWord.neg {u : UnpackedFloat} {k : Int} (h : FitsWord k u) : ExponentLe k u.neg := by
  cases u with
  | infinity s => exact h.elim
  | notANumber => exact h.elim
  | zero s => trivial
  | finite s m e hm => exact h.2

theorem fitsWord_nearest {n : Nat} (h : n < 2 ^ 53) : FitsWord 2 (nearest n 0).toModel.unpack := by
  have hword : n.toUInt64.toNat = n := Nat.mod_eq_of_lt (Nat.lt_trans h (by decide))
  have hnat : ExponentLe 1 (UnpackedFloat.ofUInt64 Format.binary64 n.toUInt64) := by
    rw [UnpackedFloat.ofUInt64, hword]
    exact exponentLe_ofNat h
  have hscaled := exponentLe_mul_one (fitsWord_pack hnat (by decide) (by decide))
  have hnearest : nearest n 0 = n.toUInt64.toFloat * Float.ofBits 0x3ff0000000000000 := by
    rw [nearest, if_pos (Int.le_refl 0), Float.ofScientific, dif_pos ⟨h, by decide⟩]
    rfl
  rw [hnearest]
  exact fitsWord_pack hscaled (by decide) (by decide)

/-- **A whole number below `2 ^ 53` is a finite double.** -/
theorem isFinite_ofInt {i : Int} (h : i.natAbs < 2 ^ 53) : (ofInt i).isFinite = true := by
  have hfits := fitsWord_nearest h
  rw [ofInt, withSign]
  split
  case isTrue => exact (fitsWord_pack hfits.neg (by decide) (by decide)).isFinite
  case isFalse => exact hfits.isFinite

/-! ## Digits -/

/-- Digits, with a sign before them or none, write a whole number. -/
inductive Integer : List Char → Numeral → Prop
  | digits {cs ds : List Char} {negative : Bool} (sign : spanSign cs = (negative, ds))
      (some_digit : ds ≠ []) (all_digits : ∀ c ∈ ds, c.isDigit = true) :
      Integer cs ⟨negative, Text.numberOf ds, 0⟩

variable {cs ds : List Char} {n : Numeral} {c : Char}

theorem spanSign_cases (cs : List Char) :
    (∃ c, (c = '-' ∨ c = '+') ∧ cs = c :: (spanSign cs).2) ∨ cs = (spanSign cs).2 := by
  unfold spanSign
  split
  case h_1 => exact .inl ⟨'-', .inl rfl, rfl⟩
  case h_2 => exact .inl ⟨'+', .inr rfl, rfl⟩
  case h_3 => exact .inr rfl

theorem Integer.mem (h : Integer cs n) (hc : c ∈ cs) : c = '-' ∨ c = '+' ∨ c.isDigit = true := by
  obtain ⟨sign, -, all_digits⟩ := h
  rcases spanSign_cases cs with ⟨c', hc', hcs⟩ | hcs
  · rw [hcs, sign, List.mem_cons] at hc
    rcases hc with rfl | hc
    · exact hc'.imp_right .inl
    · exact .inr (.inr (all_digits c hc))
  · rw [hcs, sign] at hc
    exact .inr (.inr (all_digits c hc))

/-- A digit is not a letter. -/
theorem toLower_of_isDigit (h : c.isDigit = true) : c.toLower ≠ 'i' ∧ c.toLower ≠ 'n' := by
  have hall : ∀ n < 58, 48 ≤ n → (Char.ofNat n).toLower ≠ 'i' ∧ (Char.ofNat n).toLower ≠ 'n' := by
    decide
  rw [Char.isDigit, Bool.and_eq_true, decide_eq_true_eq, decide_eq_true_eq,
    ge_iff_le, UInt32.le_iff_toNat_le, UInt32.le_iff_toNat_le] at h
  have h0 : '0'.val.toNat = 48 := rfl
  have h9 : '9'.val.toNat = 57 := rfl
  have hdigit := hall c.toNat (show c.val.toNat < 58 by omega) (show 48 ≤ c.val.toNat by omega)
  rwa [Char.ofNat_toNat] at hdigit

theorem spanDigits_digits (digits : ∀ c ∈ ds, c.isDigit = true) :
    Text.spanDigits ds = (ds, []) := by
  have hspan : Text.spanDigits (ds ++ []) = (ds, []) := Text.spanDigits_append digits nofun
  rwa [List.append_nil] at hspan

theorem readUnsigned_digits (hne : ds ≠ []) (digits : ∀ c ∈ ds, c.isDigit = true) :
    readUnsigned ds = some (Text.numberOf ds, 0) := by
  rw [readUnsigned, spanDigits_digits digits]
  simp [hne, readExponent]

/-- The words for what is no number start with a letter, so any other text is read as digits. -/
theorem readNumber_of_start {negative : Bool} {rest : List Char}
    (sign : spanSign cs = (negative, c :: rest)) (hi : c.toLower ≠ 'i') (hn : c.toLower ≠ 'n') :
    readNumber cs =
      (readUnsigned (c :: rest)).map fun n => Numeral.toFloat ⟨negative, n.1, n.2⟩ := by
  have hword : ∀ d ds, c.toLower ≠ d →
      (String.ofList ((c :: rest).map Char.toLower) == String.ofList (d :: ds)) = false := by
    intro d ds hd
    refine beq_eq_false_iff_ne.mpr fun heq => hd ?_
    rw [String.ofList_inj, List.map_cons] at heq
    exact (List.cons.inj heq).1
  have hinf := hword 'i' "nf".toList hi
  have hinfinity := hword 'i' "nfinity".toList hi
  have hnan := hword 'n' "an".toList hn
  rw [readNumber, sign]
  dsimp only
  rw [show "inf" = String.ofList ('i' :: "nf".toList) from rfl, hinf,
    show "infinity" = String.ofList ('i' :: "nfinity".toList) from rfl, hinfinity,
    show "nan" = String.ofList ('n' :: "an".toList) from rfl, hnan]
  rfl

/-- **A whole number is read as what it writes.** -/
theorem Integer.readNumber (h : Integer cs n) : Decimal.readNumber cs = some n.toFloat := by
  obtain ⟨sign, some_digit, all_digits⟩ := h
  obtain ⟨c, rest, rfl⟩ := List.exists_cons_of_ne_nil some_digit
  obtain ⟨hi, hn⟩ := toLower_of_isDigit (all_digits c List.mem_cons_self)
  rw [readNumber_of_start sign hi hn, readUnsigned_digits some_digit all_digits, Option.map_some]

/-- There is no white space in a whole number, and it is no word. -/
theorem Integer.textNumber {s : String} (h : Integer s.toList n) :
    Json.textNumber s = some n.toFloat := by
  have hblank : ∀ c ∈ s.toList, Text.isBlank c = false := by
    intro c hc
    rcases h.mem hc with rfl | rfl | hdigit
    · decide
    · decide
    · exact Text.isBlank_of_isDigit hdigit
  have hword : ∀ c ∈ s.toList, c ≠ 'e' := by
    rintro c hc rfl
    rcases h.mem hc with hc | hc | hc
    all_goals cases hc
  rw [Json.textNumber, Text.trim_of_no_blank hblank, if_neg fun heq => ?_, if_neg fun heq => ?_,
    h.readNumber]
  · exact hword 'e' (heq ▸ by decide) rfl
  · exact hword 'e' (heq ▸ by decide) rfl

end RouterMetrics.Decimal

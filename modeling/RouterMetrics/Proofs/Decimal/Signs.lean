import Mathlib
import RouterMetrics.Proofs.Decimal.WholeNumbers

/-!
# Numbers without a sign

Packing keeps the sign of a double, and a product or quotient of doubles without a minus has none
either. So the double nearest to a numeral without a sign is a number that is not below zero, be it
too large for a finite double or too small for one above zero (`Decimal.isUnsigned_nearest`,
`Decimal.nonneg_of_isUnsigned`).
-/

namespace RouterMetrics.Decimal

open Float.Model Float.Model.UnpackedFloat

/-- A number without a minus: zero, finite or infinite. -/
def isUnsigned : UnpackedFloat → Bool
  | .infinity .positive | .zero .positive | .finite .positive _ _ _ => true
  | _ => false

/-- A finite number above zero. -/
def isPositive : UnpackedFloat → Bool
  | .finite .positive _ _ _ => true
  | _ => false

variable {u v : UnpackedFloat}

/-! ## Packing -/

theorem isUnsigned_packComponents {biased : BitVec 11} {mantissa : BitVec 52}
    (number : biased = -1#11 → mantissa = 0#52) :
    isUnsigned (unpack Format.binary64
      (packComponents Format.binary64 .positive biased mantissa)) = true := by
  have hmantissa : unpackMantissa (packComponents Format.binary64 .positive biased mantissa) =
      mantissa := unpackMantissa_packComponents
  have hexponent : unpackExponent (packComponents Format.binary64 .positive biased mantissa) =
      biased := unpackExponent_packComponents
  have hsign : unpackSign (packComponents Format.binary64 .positive biased mantissa) =
      Sign.positive.toBitVec := unpackSign_packComponents _ _ _
  generalize packComponents Format.binary64 .positive biased mantissa = word
    at hmantissa hexponent hsign
  unfold UnpackedFloat.unpack
  dsimp only
  rw [hsign, Sign.ofBitVec_toBitVec]
  by_cases hones : biased = -1#11
  · rw [if_pos (hexponent ▸ hones), if_pos (hmantissa ▸ number hones)]
    rfl
  · rw [if_neg (hexponent ▸ hones)]
    split
    · split
      · rfl
      · rfl
    · rfl

/-- **A number without a minus has none when it is packed.** -/
theorem isUnsigned_pack (h : isUnsigned u = true) :
    isUnsigned (Float.Model.pack u).unpack = true := by
  show isUnsigned (unpack Format.binary64 (UnpackedFloat.pack Format.binary64 u)) = true
  unfold isUnsigned at h
  split at h
  · exact isUnsigned_packComponents fun _ => rfl
  · exact isUnsigned_packComponents fun _ => rfl
  case h_3 m e hm =>
    rw [pack_finite]
    generalize (e + 1023 + 52).toNat = biased
    split
    · exact isUnsigned_packComponents fun _ => rfl
    case isFalse hsmall =>
      split
      · exact isUnsigned_packComponents fun hones => absurd hones (ofNat_ne_ones (by omega))
      · exact isUnsigned_packComponents fun hones => absurd hones (by decide)
  · cases h

/-! ## Products and quotients -/

theorem isUnsigned_roundWithAccuracy (m : Nat) (e : Int) (accuracy : Accuracy) :
    isUnsigned (roundWithAccuracy Format.binary64 .positive m e accuracy) = true := by
  rw [roundWithAccuracy]
  dsimp only
  split
  · rfl
  · rfl

theorem isUnsigned_mul (hu : isUnsigned u = true) (hv : isPositive v = true) :
    isUnsigned (UnpackedFloat.mul Format.binary64 u v) = true := by
  unfold isPositive at hv
  split at hv
  · unfold isUnsigned at hu
    split at hu
    · rfl
    · rfl
    · exact isUnsigned_roundWithAccuracy _ _ _
    · cases hu
  · cases hv

theorem isUnsigned_div (hu : isUnsigned u = true) (hv : isPositive v = true) :
    isUnsigned (UnpackedFloat.div Format.binary64 u v) = true := by
  unfold isPositive at hv
  split at hv
  · unfold isUnsigned at hu
    split at hu
    · rfl
    · rfl
    · exact isUnsigned_roundWithAccuracy _ _ _
    · cases hu
  · cases hv

/-! ## Numerals -/

theorem isUnsigned_ofNat (n : Nat) :
    isUnsigned (UnpackedFloat.ofNat Format.binary64 n) = true := by
  rcases Nat.eq_zero_or_pos n with rfl | hpos
  · rfl
  · have hsign : compare (n : Int) 0 = .gt := by
      rw [compare_gt_iff_gt]
      omega
    rw [UnpackedFloat.ofNat, UnpackedFloat.ofInt, UnpackedFloat.normalize, hsign]
    exact isUnsigned_roundWithAccuracy _ _ _

/-- The powers of ten that are read from a table are above zero. -/
theorem isPositive_powers :
    ∀ x ∈ Float.exactlyRepresentablePowersOfTen.toList, isPositive x.toModel.unpack = true := by
  decide +kernel

theorem isUnsigned_ofScientific (m : Nat) (e : Int) :
    isUnsigned (UnpackedFloat.ofScientific Format.binary64 m e) = true := by
  unfold UnpackedFloat.ofScientific
  split
  · rfl
  · split
    · rfl
    · split
      · rfl
      · split
        · exact isUnsigned_roundWithAccuracy _ _ _
        · exact isUnsigned_roundWithAccuracy _ _ _

theorem isUnsigned_float (m : Nat) (small : Bool) (e : Nat) :
    isUnsigned (Float.ofScientific m small e).toModel.unpack = true := by
  rw [Float.ofScientific]
  split
  case isTrue h =>
    have hword : isUnsigned m.toUInt64.toFloat.toModel.unpack = true :=
      isUnsigned_pack (isUnsigned_ofNat _)
    have hsize : e < Float.exactlyRepresentablePowersOfTen.size := Nat.lt_succ_of_le h.2
    have hpower := isPositive_powers _ (Array.getElem_mem_toList hsize)
    split
    · exact isUnsigned_pack (isUnsigned_div hword hpower)
    · exact isUnsigned_pack (isUnsigned_mul hword hpower)
  case isFalse => exact isUnsigned_pack (isUnsigned_ofScientific _ _)

/-- **The double nearest to a numeral without a sign is a number without a minus.** -/
theorem isUnsigned_nearest (m : Nat) (e : Int) :
    isUnsigned (nearest m e).toModel.unpack = true := by
  rw [nearest]
  split
  · exact isUnsigned_float _ _ _
  · exact isUnsigned_float _ _ _

theorem isUnsigned_toFloat {n : Numeral} (h : n.negative = false) :
    isUnsigned n.toFloat.toModel.unpack = true := by
  rw [Numeral.toFloat, h, withSign, if_neg Bool.false_ne_true]
  exact isUnsigned_nearest _ _

theorem zero_le_of_isUnsigned (h : isUnsigned u = true) :
    UnpackedFloat.le (.zero .positive) u = true := by
  unfold isUnsigned at h
  split at h
  · rfl
  · rfl
  · rfl
  · cases h

/-- **A number without a minus is not below zero.** -/
theorem nonneg_of_isUnsigned {x : Float} (h : isUnsigned x.toModel.unpack = true) : 0 ≤ x := by
  have hzero : (0 : Float).toModel.unpack = .zero .positive := rfl
  refine decide_eq_true ?_
  show UnpackedFloat.le (0 : Float).toModel.unpack x.toModel.unpack = true
  rw [hzero]
  exact zero_le_of_isUnsigned h

end RouterMetrics.Decimal

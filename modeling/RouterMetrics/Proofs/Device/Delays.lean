import Mathlib.Algebra.Order.Floor.Semifield
import Mathlib.Data.Rat.Floor
import Mathlib.Tactic.FieldSimp
import RouterMetrics.Proofs.Device.Pacing

/-!
# Pauses over their whole range

The pause after failures is computed in words of 128 bits from a duration, a divisor and a count of
32 bits, and none of what is computed on the way leaves such a word (`Backoff.product_lt`). It is
the longest pause from the first count on whose growth reaches that, or a word of 64 bits. As long
as the longest pause is below that word, the pause is the exact growth, cut and then rounded down
(`Backoff.delay_eq_floor`).
-/

namespace RouterMetrics.Backoff

variable (b : Backoff)

/-! ## Words -/

theorem ns_lt (d : Duration) : d.ns < 2 ^ 94 :=
  Nat.lt_trans d.fits (by decide)

/-- The largest number on the way fits a word of 128 bits. -/
theorem product_lt {divisor failures : Nat} (initial : Duration) (hdivisor : divisor < 2 ^ 32)
    (hfailures : failures < 2 ^ 32) : initial.ns * (divisor + failures) < 2 ^ 128 :=
  calc initial.ns * (divisor + failures)
      ≤ 2 ^ 94 * 2 ^ 33 := Nat.mul_le_mul (ns_lt initial).le (by omega)
    _ < 2 ^ 128 := by decide

/-- Computed in words of 128 bits, which drop what they cannot hold, the growth is the same. -/
theorem growth_in_words {failures : Nat} (hdivisor : b.divisor < 2 ^ 32)
    (hfailures : failures < 2 ^ 32) :
    (BitVec.ofNat 128 b.initial.ns * (BitVec.ofNat 128 b.divisor + BitVec.ofNat 128 failures) /
      BitVec.ofNat 128 b.divisor).toNat = b.growth failures := by
  have hproduct := product_lt b.initial hdivisor hfailures
  have hinitial := ns_lt b.initial
  rw [BitVec.toNat_udiv, BitVec.toNat_mul, BitVec.toNat_add, BitVec.toNat_ofNat,
    BitVec.toNat_ofNat, BitVec.toNat_ofNat, Nat.mod_eq_of_lt (by omega : b.initial.ns < 2 ^ 128),
    Nat.mod_eq_of_lt (by omega : b.divisor < 2 ^ 128),
    Nat.mod_eq_of_lt (by omega : failures < 2 ^ 128),
    Nat.mod_eq_of_lt (by omega : b.divisor + failures < 2 ^ 128), Nat.mod_eq_of_lt hproduct, growth]

/-! ## The cut -/

theorem delay_eq_max {n : Nat} (h : b.max.ns ≤ b.growth n ∨ 2 ^ 64 ≤ b.growth n) :
    b.delay n = b.max := by
  unfold delay
  rw [dif_neg]
  omega

theorem delay_eq_growth {n : Nat} (hmax : b.growth n < b.max.ns) (hword : b.growth n < 2 ^ 64) :
    (b.delay n).ns = b.growth n := by
  rw [delay_ns, if_pos ⟨hmax, hword⟩]

theorem delay_le_max (n : Nat) : (b.delay n).ns ≤ b.max.ns := by
  rw [delay_ns]
  split <;> omega

/-- Once the pause is the longest one it stays so. -/
theorem delay_eq_max_of_le {m n : Nat} (h : m ≤ n) (hm : b.delay m = b.max) :
    b.delay n = b.max := by
  have hle := b.delay_mono h
  rw [hm] at hle
  have hns : (b.delay n).ns = b.max.ns := Nat.le_antisymm (b.delay_le_max n) hle
  cases hdelay : b.delay n
  cases hmax : b.max
  rw [hdelay, hmax] at hns
  cases hns
  rfl

/-- The growth is the exact one, rounded down. -/
theorem growth_eq_floor (n : Nat) :
    b.growth n = ⌊(b.initial.ns : ℚ) * (1 + n / b.divisor)⌋₊ := by
  have hdivisor : (b.divisor : ℚ) ≠ 0 := Nat.cast_ne_zero.mpr b.divisor_pos.ne'
  have hexact : (b.initial.ns : ℚ) * (1 + n / b.divisor) =
      ((b.initial.ns * (b.divisor + n) : Nat) : ℚ) / (b.divisor : ℚ) := by
    push_cast
    field_simp
  rw [hexact, Nat.floor_div_eq_div, growth]

/-- **Below a longest pause that fits a word of 64 bits the pause is exact to the nanosecond.** -/
theorem delay_eq_floor (hmax : b.max.ns < 2 ^ 64) (n : Nat) :
    (b.delay n).ns = ⌊min (b.max.ns : ℚ) (b.initial.ns * (1 + n / b.divisor))⌋₊ := by
  have hfloor : ⌊min (b.max.ns : ℚ) (b.initial.ns * (1 + n / b.divisor))⌋₊ =
      min b.max.ns (b.growth n) := by
    rw [growth_eq_floor, ← Nat.floor_natCast (R := ℚ) b.max.ns]
    exact Nat.floor_mono.map_min
  rw [hfloor, delay_ns]
  split <;> omega

/-- **The pause over its whole range.** For all durations, and divisors and counts of 32 bits, no
result on the way exceeds 128 bits, and words of that width give the growth. The pause is the growth
while that is below the longest pause and fits a word of 64 bits, and else the longest pause. So it
is never above that, never shrinks as failures are counted, stays the longest once it is, and is
exact to the nanosecond when the longest pause fits a word of 64 bits. -/
theorem delay_in_words (initial max : Duration) (divisor failures : UInt32) :
    let b := Backoff.of initial divisor.toNat max
    let d := Nat.max 1 divisor.toNat
    let n := failures.toNat
    let v := initial.ns * (d + n) / d
    (initial.ns < 2 ^ 128 ∧ max.ns < 2 ^ 128 ∧ d + n < 2 ^ 128 ∧
        initial.ns * (d + n) < 2 ^ 128 ∧ v < 2 ^ 128) ∧
      (BitVec.ofNat 128 initial.ns * (BitVec.ofNat 128 d + BitVec.ofNat 128 n) /
        BitVec.ofNat 128 d).toNat = v ∧
      (max.ns ≤ v ∨ 2 ^ 64 ≤ v → b.delay n = max) ∧
      (v < max.ns → v < 2 ^ 64 → (b.delay n).ns = v) ∧
      (b.delay n).ns ≤ max.ns ∧
      (∀ later : UInt32, failures ≤ later → (b.delay n).ns ≤ (b.delay later.toNat).ns) ∧
      (max.ns < 2 ^ 64 →
        (b.delay n).ns = ⌊min (max.ns : ℚ) (initial.ns * (1 + (n : ℚ) / (d : ℚ)))⌋₊) ∧
      ∀ later : UInt32, failures ≤ later → b.delay n = max → b.delay later.toNat = max := by
  intro b d n v
  have hd : d < 2 ^ 32 := Nat.max_lt.mpr ⟨by decide, divisor.toNat_lt⟩
  have hn : n < 2 ^ 32 := failures.toNat_lt
  have hproduct : initial.ns * (d + n) < 2 ^ 128 := product_lt initial hd hn
  have hv : v < 2 ^ 128 := Nat.lt_of_le_of_lt (Nat.div_le_self ..) hproduct
  have hinitial := ns_lt initial
  have hmax := ns_lt max
  exact ⟨⟨by omega, by omega, by omega, hproduct, hv⟩, b.growth_in_words hd hn, b.delay_eq_max,
    b.delay_eq_growth, b.delay_le_max n, fun later h => b.delay_mono h,
    fun hfits => b.delay_eq_floor hfits n, fun later h => b.delay_eq_max_of_le h⟩

/-- The longest durations and counts fit. A growth beyond a word of 64 bits makes the pause the
longest at once. A pause of two minutes that grows by a fifth is below a quarter of an hour for the
last time after 32 failures. -/
theorem delay_in_words_seams :
    let far := Backoff.of (.ofSeconds 10000000000) 1 .longest
    let near := Backoff.of (.ofSeconds 120) 5 (.ofSeconds 900)
    Duration.longest.ns * (1 + 4294967295) < 2 ^ 128 ∧
      far.growth 1 < far.max.ns ∧ far.delay 1 = .longest ∧
      (near.delay 32).ns = 888 * nanosPerSecond ∧
      (near.delay 32).ns =
        ⌊min ((Duration.ofSeconds 900).ns : ℚ)
          ((Duration.ofSeconds 120).ns * (1 + (32 : ℕ) / (5 : ℕ)))⌋₊ ∧
      near.delay 33 = .ofSeconds 900 ∧ near.delay 4294967295 = .ofSeconds 900 := by
  intro far near
  obtain ⟨-, -, -, hwide, -⟩ := (delay_in_words .longest .longest 1 4294967295).1
  have hfar := (delay_in_words (.ofSeconds 10000000000) .longest 1 1).2.2.1 (.inr (by decide))
  obtain ⟨-, -, -, hgrowth, -, -, hexact, -⟩ :=
    delay_in_words (.ofSeconds 120) (.ofSeconds 900) 5 32
  obtain ⟨-, -, hmax, -, -, -, -, hstays⟩ := delay_in_words (.ofSeconds 120) (.ofSeconds 900) 5 33
  have hreached := hmax (.inl (by decide))
  refine ⟨hwide, by decide, hfar, ?_, hexact (by decide), hreached,
    hstays 4294967295 (by decide) hreached⟩
  exact hgrowth (by decide) (by decide)

end RouterMetrics.Backoff

import Mathlib.Algebra.Group.Nat.Defs
import Mathlib.Data.List.TakeDrop
import RouterMetrics.Text.Digit

/-!
# Numbers and the digits that write them

A number is written in digits that stand for it (`Text.numberOf_digits`), at least one of them, and
without a leading zero unless it is zero. Filled up with zeros to one width, numbers are in the
order of their texts (`Text.padded_append_lt`).
-/

namespace RouterMetrics.Text

variable {n : Nat} {c : Char}

/-- A text is cut behind the characters that pass a test. -/
theorem span_append {p : Char → Bool} {cs rest : List Char} (h : ∀ c ∈ cs, p c = true)
    (stop : ∀ c ∈ rest.head?, p c = false) : (cs ++ rest).span p = (cs, rest) := by
  have hstop : rest.takeWhile p = [] ∧ rest.dropWhile p = rest := by
    cases rest with
    | nil => exact ⟨rfl, rfl⟩
    | cons c rest => simp [stop c rfl]
  rw [List.span_eq_takeWhile_dropWhile, List.takeWhile_append_of_pos h,
    List.dropWhile_append_of_pos h, hstop.1, hstop.2, List.append_nil]

/-- Digits are read to their end. -/
theorem spanDigits_append {ds rest : List Char} (digits : ∀ c ∈ ds, c.isDigit = true)
    (ends : ∀ c ∈ rest.head?, c.isDigit = false) : spanDigits (ds ++ rest) = (ds, rest) :=
  span_append digits ends

/-- The digits of all scripts begin with those of ASCII. -/
theorem isDigit_of_ascii (h : c.isDigit = true) : isDigit c = true := by
  rw [Char.isDigit, Bool.and_eq_true, decide_eq_true_eq, decide_eq_true_eq,
    ge_iff_le, UInt32.le_iff_toNat_le, UInt32.le_iff_toNat_le] at h
  refine List.any_eq_true.mpr ⟨(0x30, 0x39), List.mem_cons_self, ?_⟩
  rw [Bool.and_eq_true, decide_eq_true_eq, decide_eq_true_eq]
  exact h

theorem numberOf_digits (n : Nat) : numberOf (digits n) = n :=
  Nat.ofDigitChars_toDigits (by decide) (by decide)

theorem isDigit_of_mem_digits (h : c ∈ digits n) : c.isDigit = true :=
  Nat.isDigit_of_mem_toDigits (by decide) (by decide) h

theorem digits_ne_nil (n : Nat) : digits n ≠ [] := Nat.toDigits_ne_nil

/-- A number starts with a digit. -/
theorem exists_digits_cons (n : Nat) : ∃ c rest, digits n = c :: rest ∧ c.isDigit = true := by
  obtain ⟨c, rest, hdigits⟩ := List.exists_cons_of_ne_nil (digits_ne_nil n)
  exact ⟨c, rest, hdigits, isDigit_of_mem_digits (n := n) (hdigits ▸ List.mem_cons_self)⟩

theorem digits_zero : digits 0 = ['0'] := rfl

theorem digits_of_le (h : 10 ≤ n) : digits n = digits (n / 10) ++ [(n % 10).digitChar] :=
  Nat.toDigits_of_base_le (by decide) h

/-- A number that is not zero has no leading zero. -/
theorem head?_digits_ne_zero (h : 0 < n) : (digits n).head? ≠ some '0' := by
  induction n using Nat.strongRecOn with
  | ind n ih =>
    rcases Nat.lt_or_ge n 10 with hlt | hge
    · have hall : ∀ n < 10, 0 < n → (digits n).head? ≠ some '0' := by decide
      exact hall n hlt h
    · have hrest := ih (n / 10) (by omega) (by omega)
      rw [digits_of_le hge, List.head?_append]
      cases hdigits : digits (n / 10) with
      | nil => exact absurd hdigits (digits_ne_nil _)
      | cons d ds => simpa [hdigits] using hrest

/-! ## White space -/

theorem ne_of_isBlank {d : Char} (h : isBlank c = true) (hd : isBlank d = false) : c ≠ d := by
  rintro rfl
  rw [h] at hd
  cases hd

theorem isDigit_of_isBlank (h : isBlank c = true) : c.isDigit = false := by
  simp only [isBlank, inRanges, blankRanges, List.any_cons, List.any_nil, Bool.or_eq_true,
    Bool.and_eq_true, decide_eq_true_eq, Bool.or_false] at h
  refine Bool.eq_false_iff.mpr fun hdigit => ?_
  rw [Char.isDigit, Bool.and_eq_true, decide_eq_true_eq, decide_eq_true_eq,
    ge_iff_le, UInt32.le_iff_toNat_le, UInt32.le_iff_toNat_le] at hdigit
  have hnat : c.toNat = c.val.toNat := rfl
  have h0 : '0'.val.toNat = 48 := rfl
  have h9 : '9'.val.toNat = 57 := rfl
  omega

theorem isBlank_of_isDigit (h : c.isDigit = true) : isBlank c = false := by
  refine Bool.eq_false_iff.mpr fun hblank => ?_
  rw [isDigit_of_isBlank hblank] at h
  cases h

theorem dropWhile_of_head {cs : List Char} (h : ∀ c ∈ cs.head?, isBlank c = false) :
    cs.dropWhile isBlank = cs := by
  cases cs with
  | nil => rfl
  | cons c rest => rw [List.dropWhile_cons_of_neg (by simp [h c rfl])]

/-- Nothing is trimmed of a text that neither starts nor ends with white space. -/
theorem trim_of_ends {cs : List Char} (hhead : ∀ c ∈ cs.head?, isBlank c = false)
    (hlast : ∀ c ∈ cs.getLast?, isBlank c = false) : trim cs = cs := by
  rw [← List.head?_reverse] at hlast
  rw [trim, trimStart, dropWhile_of_head hhead, trimEnd, dropWhile_of_head hlast,
    List.reverse_reverse]

/-- Nothing is trimmed of a text without white space. -/
theorem trim_of_no_blank {cs : List Char} (h : ∀ c ∈ cs, isBlank c = false) : trim cs = cs :=
  trim_of_ends (fun c hc => h c (List.mem_of_mem_head? hc))
    fun c hc => h c (List.mem_of_mem_getLast? hc)

/-! ## Numbers of a fixed width -/

variable {w m : Nat}

theorem length_digits_le (hw : 0 < w) (h : n < 10 ^ w) : (digits n).length ≤ w :=
  (Nat.length_toDigits_le_iff (by decide) hw).mpr h

theorem length_padded (hw : 0 < w) (h : n < 10 ^ w) : (padded w n).length = w := by
  have hlength := length_digits_le hw h
  rw [padded, List.length_append, List.length_replicate]
  omega

theorem isDigit_of_mem_padded (h : c ∈ padded w n) : c.isDigit = true := by
  rcases List.mem_append.mp h with h | h
  · rw [List.eq_of_mem_replicate h]
    rfl
  · exact isDigit_of_mem_digits h

theorem numberOf_padded (w n : Nat) : numberOf (padded w n) = n := by
  have hnumber : ∀ ds, numberOf ds = Nat.ofDigitChars 10 ds 0 := fun _ => rfl
  rw [hnumber, padded, Nat.ofDigitChars_append, Nat.ofDigitChars_replicate_zero, Nat.mul_zero]
  exact numberOf_digits n

/-- The last place of a number with more than one. -/
theorem padded_succ (w n : Nat) :
    padded (w + 2) n = padded (w + 1) (n / 10) ++ [(n % 10).digitChar] := by
  rcases Nat.lt_or_ge n 10 with h | h
  · have hn : digits n = [n.digitChar] := Nat.toDigits_of_lt_base h
    rw [padded, padded, hn, Nat.div_eq_of_lt h, Nat.mod_eq_of_lt h, digits_zero]
    simp [List.replicate_succ', List.append_assoc]
  · have hwidth : w + 2 - ((digits (n / 10)).length + 1) = w + 1 - (digits (n / 10)).length := by
      omega
    rw [padded, padded, digits_of_le h, List.length_append, List.length_singleton, hwidth,
      List.append_assoc]

theorem padded_one (h : n < 10) : padded 1 n = [n.digitChar] := by
  have hn : digits n = [n.digitChar] := Nat.toDigits_of_lt_base h
  rw [padded, hn]
  rfl

theorem digitChar_lt : ∀ m < 10, ∀ n < m, n.digitChar < m.digitChar := by decide

/-- **A smaller number of a width stands before a greater one**, whatever follows them. -/
theorem padded_append_lt (h : n < m) (hm : m < 10 ^ (w + 1)) (rest rest' : List Char) :
    padded (w + 1) n ++ rest < padded (w + 1) m ++ rest' := by
  induction w generalizing n m rest rest' with
  | zero =>
    have hm' : m < 10 := hm
    rw [padded_one hm', padded_one (Nat.lt_trans h hm')]
    exact List.cons_lt_cons_iff.mpr (.inl (digitChar_lt m hm' n h))
  | succ w ih =>
    rw [padded_succ, padded_succ, List.append_assoc, List.append_assoc]
    rcases Nat.lt_or_ge (n / 10) (m / 10) with hhead | hhead
    · exact ih hhead (Nat.div_lt_of_lt_mul (by rwa [Nat.pow_succ'] at hm)) _ _
    · -- the numbers differ in their last place
      rw [show n / 10 = m / 10 by omega]
      refine List.append_left_lt (List.cons_lt_cons_iff.mpr (.inl ?_))
      exact digitChar_lt (m % 10) (by omega) (n % 10) (by omega)

/-- Behind one number and a character, what follows them decides. -/
theorem padded_append_cons_lt {rest rest' : List Char} (hm : m < 10 ^ (w + 1))
    (h : n < m ∨ n = m ∧ rest < rest') :
    padded (w + 1) n ++ c :: rest < padded (w + 1) m ++ c :: rest' := by
  rcases h with h | ⟨rfl, h⟩
  · exact padded_append_lt h hm _ _
  · exact List.append_left_lt (List.cons_lt_cons_self.mpr h)

end RouterMetrics.Text

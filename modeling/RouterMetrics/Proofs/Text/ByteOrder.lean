import Mathlib.Tactic.SplitIfs

/-!
# Texts are ordered as their bytes

Where two characters differ, the bytes of the greater one are the greater at the first place where
they differ (`Text.encode_append_lt`). So texts are in the same order as the bytes of their UTF-8
forms (`Text.bytes_le_iff`), in which the field names of a record are compared.
-/

namespace RouterMetrics.Text

/-- The bytes of a text in UTF-8. -/
def bytes (s : String) : List UInt8 := s.toUTF8.data.toList

theorem byte_cons_lt {m n : Nat} (hm : m < 256) (hn : n < 256) (xs ys : List UInt8) :
    UInt8.ofNat m :: xs < UInt8.ofNat n :: ys ↔ m < n ∨ m = n ∧ xs < ys := by
  rw [List.cons_lt_cons_iff, UInt8.lt_iff_toNat_lt, ← UInt8.toNat_inj, UInt8.toNat_ofNat',
    UInt8.toNat_ofNat', Nat.mod_eq_of_lt hm, Nat.mod_eq_of_lt hn]

/-- Numbers are compared by their digits in base 64. -/
theorem digits_lt {m n : Nat} (h : m < n) :
    m / 262144 < n / 262144 ∨ m / 262144 = n / 262144 ∧
      (m / 4096 % 64 < n / 4096 % 64 ∨ m / 4096 % 64 = n / 4096 % 64 ∧
        (m / 64 % 64 < n / 64 % 64 ∨ m / 64 % 64 = n / 64 % 64 ∧ m % 64 < n % 64)) := by
  rcases Nat.lt_or_ge (m / 64) (n / 64) with hupper | hupper
  · rcases Nat.lt_or_ge (m / 4096) (n / 4096) with hhead | hhead
    · omega
    · omega
  · omega

theorem val_lt (c : Char) : c.val.toNat < 1114112 := by
  rcases c.valid with hlow | ⟨-, hhigh⟩
  · exact Nat.lt_trans hlow (by decide)
  · exact hhigh

/-- **The greater of two characters has the greater bytes**, whatever stands behind them. -/
theorem encode_append_lt {c d : Char} (h : c < d) (xs ys : List UInt8) :
    String.utf8EncodeChar c ++ xs < String.utf8EncodeChar d ++ ys := by
  have hlt : c.val.toNat < d.val.toNat := h
  have hdigits := digits_lt hlt
  have hd := val_lt d
  have hc : c.val.toNat / 262144 % 8 = c.val.toNat / 262144 := by omega
  have hd' : d.val.toNat / 262144 % 8 = d.val.toNat / 262144 := by omega
  simp only [String.utf8EncodeChar, hc, hd']
  -- a form of more bytes begins with a greater one; forms of as many bytes differ as the digits do
  split_ifs
  all_goals simp (disch := omega) only [List.cons_append, List.nil_append, byte_cons_lt]
  all_goals omega

theorem encode_lt {cs ds : List Char} (h : cs < ds) :
    cs.flatMap String.utf8EncodeChar < ds.flatMap String.utf8EncodeChar := by
  induction ds generalizing cs with
  | nil => exact absurd h (List.not_lt_nil cs)
  | cons d ds ih =>
    cases cs with
    | nil =>
      obtain ⟨b, bs, hd⟩ := List.exists_cons_of_ne_nil (String.utf8EncodeChar_ne_nil (c := d))
      rw [List.flatMap_nil, List.flatMap_cons, hd]
      exact List.nil_lt_cons _ _
    | cons c cs =>
      rw [List.flatMap_cons, List.flatMap_cons]
      rcases List.cons_lt_cons_iff.mp h with hlt | ⟨rfl, hlt⟩
      · exact encode_append_lt hlt _ _
      · exact List.append_left_lt (ih hlt)

theorem bytes_eq (s : String) : bytes s = s.toList.flatMap String.utf8EncodeChar := by
  have hbytes : (String.ofList s.toList).toByteArray = s.toList.utf8Encode :=
    String.toByteArray_ofList
  rw [String.ofList_toList] at hbytes
  show s.toByteArray.data.toList = _
  rw [hbytes]
  simp [List.utf8Encode]

theorem bytes_lt {s t : String} (h : s < t) : bytes s < bytes t := by
  rw [bytes_eq, bytes_eq]
  exact encode_lt (String.lt_iff.mp h)

/-- **Texts are in the order of their bytes.** -/
theorem bytes_le_iff {s t : String} : bytes s ≤ bytes t ↔ s ≤ t := by
  constructor
  · intro h
    exact Std.not_lt.mp fun hlt => Std.not_lt.mpr h (bytes_lt hlt)
  · intro h
    rcases Std.le_iff_lt_or_eq.mp h with hlt | rfl
    · exact Std.le_of_lt (bytes_lt hlt)
    · exact Std.le_refl _

end RouterMetrics.Text

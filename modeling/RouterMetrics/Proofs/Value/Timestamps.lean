import RouterMetrics.Calendar.Moment
import RouterMetrics.Proofs.Text.Numerals
import RouterMetrics.Proofs.Value.Dates
import RouterMetrics.Value.Timestamp

/-!
# Points in time in one form

A date and a time that are written with all their places, from the year down to the second, are
read back (`Value.Stamp.unixSeconds_text`). Texts of this one form are in the order of the times
they stand for (`Value.Stamp.seconds_le`).
-/

namespace RouterMetrics.Value

/-! ## Numbers with all their places -/

section Fields

variable {w n : Nat}

theorem padded_ne_nil (w n : Nat) : Text.padded w n ≠ [] :=
  List.append_ne_nil_of_right_ne_nil _ (Text.digits_ne_nil n)

/-- A number begins with a digit. -/
theorem exists_padded_cons (w n : Nat) :
    ∃ c cs, c.isDigit = true ∧ Text.padded w n = c :: cs := by
  obtain ⟨c, cs, h⟩ := List.exists_cons_of_ne_nil (padded_ne_nil w n)
  exact ⟨c, cs, Text.isDigit_of_mem_padded (h ▸ List.mem_cons_self), h⟩

theorem trimStart_padded (w n : Nat) (rest : List Char) :
    Text.trimStart (Text.padded w n ++ rest) = Text.padded w n ++ rest := by
  obtain ⟨c, cs, hc, h⟩ := exists_padded_cons w n
  rw [h, List.cons_append, Text.trimStart, List.dropWhile_cons_of_neg]
  simp [Text.isBlank_of_isDigit hc]

theorem readDigits_padded (hw : 0 < w) (h : n < 10 ^ w) (fits : n < signedLimit)
    (rest : List Char) : readDigits (some w) (Text.padded w n ++ rest) = some (n, rest) := by
  have hlength := Text.length_padded hw h
  have htaken : ((Text.padded w n ++ rest).takeWhile Char.isDigit).take w = Text.padded w n := by
    rw [List.takeWhile_append_of_pos fun c hc => Text.isDigit_of_mem_padded hc,
      List.take_append_of_le_length hlength.ge, List.take_of_length_le hlength.le]
  have hsome : (Text.padded w n).isEmpty = false :=
    List.isEmpty_eq_false_iff.mpr (padded_ne_nil w n)
  have hfits : decide (n ≥ signedLimit) = false := decide_eq_false (Nat.not_le.mpr fits)
  simp only [readDigits, htaken, Text.numberOf_padded, hsome, hfits, List.drop_left]
  rfl

theorem readField_padded (hw : 0 < w) (h : n < 10 ^ w) (fits : n < signedLimit)
    (rest : List Char) : readField w (Text.padded w n ++ rest) = some (n, rest) := by
  rw [readField, trimStart_padded, readDigits_padded hw h fits]

/-- A year of four places has no sign. -/
theorem readYear_padded (h : n < 10 ^ 4) (rest : List Char) :
    readYear (Text.padded 4 n ++ rest) = some ((n : Int), rest) := by
  have hread := readDigits_padded (by decide) h (Nat.lt_trans h (by decide)) rest
  rw [readYear, trimStart_padded]
  obtain ⟨c, cs, hc, hcons⟩ := exists_padded_cons 4 n
  rw [hcons] at hread ⊢
  split
  case h_1 heq => rw [(List.cons.inj heq).1] at hc; cases hc
  case h_2 heq => rw [(List.cons.inj heq).1] at hc; cases hc
  case h_3 => rw [hread]; rfl

end Fields

/-- A date of a year with four places, and a time of its day. There may be a leap second. -/
structure Stamp where
  year : Nat
  month : Nat
  day : Nat
  hour : Nat
  minute : Nat
  second : Nat
  date_isValid : CivilDate.isValid ⟨year, month, day⟩ = true
  year_lt : year < 10 ^ 4
  hour_lt : hour < 24
  minute_lt : minute < 60
  second_le : second ≤ 60

namespace Stamp

variable {t t' : Stamp} {sep : Char}

/-- The date of a point in time. -/
def date (t : Stamp) : CivilDate := ⟨t.year, t.month, t.day⟩

/-- The seconds of the day. -/
def clock (t : Stamp) : Nat := t.hour * 3600 + t.minute * 60 + min t.second 59

/-- The seconds since 1970. -/
def seconds (t : Stamp) : Int := t.date.toDays * 86400 + t.clock

/-- The text of the time of the day. -/
def clockText (t : Stamp) : List Char :=
  Text.padded 2 t.hour ++ ':' :: (Text.padded 2 t.minute ++ ':' :: Text.padded 2 t.second)

/-- The text of a point in time, with a character between date and time. -/
def chars (sep : Char) (t : Stamp) : List Char :=
  Text.padded 4 t.year ++ '-' :: (Text.padded 2 t.month ++ '-' :: (Text.padded 2 t.day ++
    sep :: t.clockText))

/-- `chars` as a string. -/
def text (sep : Char) (t : Stamp) : String := String.ofList (t.chars sep)

theorem isValid_date (t : Stamp) : t.date.isValid = true := t.date_isValid

theorem month_lt (t : Stamp) : t.month < 10 ^ 2 := by
  have hmonth : t.month ≤ 12 := (CivilDate.isValid_iff.mp t.date_isValid).2.1.2
  omega

theorem day_lt (t : Stamp) : t.day < 10 ^ 2 := by
  have hlength := CivilDate.daysInMonth_le t.year t.month
  have hday : t.day ≤ CivilDate.daysInMonth t.year t.month :=
    (CivilDate.isValid_iff.mp t.date_isValid).2.2.2
  omega

theorem clock_lt (t : Stamp) : t.clock < 86400 := by
  have hhour := t.hour_lt
  have hminute := t.minute_lt
  rw [clock]
  omega

/-! ## Order -/

/-- A point in time comes before another one, by its places. -/
def Before (t t' : Stamp) : Prop :=
  t.year < t'.year ∨ t.year = t'.year ∧ (t.month < t'.month ∨ t.month = t'.month ∧
    (t.day < t'.day ∨ t.day = t'.day ∧ (t.hour < t'.hour ∨ t.hour = t'.hour ∧
      (t.minute < t'.minute ∨ t.minute = t'.minute ∧ t.second < t'.second))))

/-- The text of an earlier point in time is the smaller one. -/
theorem chars_lt (before : t.Before t') : t.chars sep < t'.chars sep := by
  have hsecond := t'.second_le
  have hminute := t'.minute_lt
  have hhour := t'.hour_lt
  rw [chars, chars, clockText, clockText]
  refine Text.padded_append_cons_lt t'.year_lt (before.imp_right (And.imp_right fun before => ?_))
  refine Text.padded_append_cons_lt t'.month_lt (before.imp_right (And.imp_right fun before => ?_))
  refine Text.padded_append_cons_lt t'.day_lt (before.imp_right (And.imp_right fun before => ?_))
  refine Text.padded_append_cons_lt (by omega) (before.imp_right (And.imp_right fun before => ?_))
  refine Text.padded_append_cons_lt (by omega) (before.imp_right (And.imp_right fun before => ?_))
  simpa using Text.padded_append_lt before (by omega) [] []

theorem before_of_seconds_lt (h : t.seconds < t'.seconds) : t.Before t' := by
  have hclock := t.clock_lt
  have hclock' := t'.clock_lt
  by_contra hnot
  -- the date of `t` is the later one, or the dates are the same
  have hdates : t'.date.Before t.date ∨ t.date = t'.date := by
    simp only [CivilDate.Before, date, CivilDate.mk.injEq, Before] at hnot ⊢
    omega
  rcases hdates with hdate | hdate
  · have hdays := CivilDate.toDays_lt t'.isValid_date t.isValid_date hdate
    simp only [seconds] at h
    omega
  · rw [seconds, seconds, hdate] at h
    simp only [date, CivilDate.mk.injEq] at hdate
    have hminute := t.minute_lt
    have hminute' := t'.minute_lt
    simp only [clock, Before] at h hnot
    omega

/-- **A text of this form that is not greater stands for a time that is not later.** -/
theorem seconds_le (h : t.text sep ≤ t'.text sep) : t.seconds ≤ t'.seconds := by
  by_contra hlater
  have hlt : t'.chars sep < t.chars sep := chars_lt (before_of_seconds_lt (Int.not_le.mp hlater))
  refine Std.not_lt.mpr h (String.lt_iff.mpr ?_)
  rwa [text, text, String.toList_ofList, String.toList_ofList]

/-! ## Reading -/

theorem readDashedDate_chars (t : Stamp) (rest : List Char) :
    readDashedDate (Text.padded 4 t.year ++ '-' :: (Text.padded 2 t.month ++
      '-' :: (Text.padded 2 t.day ++ rest))) = some (t.date, rest) := by
  have hmonth := readField_padded (by decide) t.month_lt (Nat.lt_trans t.month_lt (by decide))
  have hday := readField_padded (by decide) t.day_lt (Nat.lt_trans t.day_lt (by decide))
  simp [readDashedDate, readYear_padded t.year_lt, expect, hmonth, hday, date]

theorem readClock_clockText (t : Stamp) : readClock t.clockText = some t.clock := by
  have hhour := t.hour_lt
  have hminute := t.minute_lt
  have hsecond := t.second_le
  have hlimit : 100 < signedLimit := by decide
  have h2 : (10 ^ 2 : Nat) = 100 := by decide
  have htwo : ∀ n < 10 ^ 2, ∀ rest, readField 2 (Text.padded 2 n ++ rest) = some (n, rest) :=
    fun n hn rest => readField_padded (by decide) hn (by omega) rest
  have hlast := htwo t.second (by omega) []
  rw [List.append_nil] at hlast
  simp [readClock, clockText, htwo t.hour (by omega), htwo t.minute (by omega), hlast, expect,
    hhour, hminute, hsecond, clock]

/-- Neither end of a text is white space. -/
theorem trim_chars (t : Stamp) (sep : Char) : Text.trim (t.chars sep) = t.chars sep := by
  have hlast : (t.second % 10).digitChar.isDigit = true := by
    have hall : ∀ n < 10, n.digitChar.isDigit = true := by decide
    exact hall _ (Nat.mod_lt _ (by decide))
  obtain ⟨before, hend⟩ : ∃ before, t.chars sep = before ++ [(t.second % 10).digitChar] := by
    rw [chars, clockText, Text.padded_succ 0 t.second]
    simp only [← List.append_assoc, ← List.cons_append]
    exact ⟨_, rfl⟩
  have hstart : Text.trimStart (t.chars sep) = t.chars sep := trimStart_padded _ _ _
  rw [Text.trim, hstart, Text.trimEnd, hend, List.reverse_append, List.reverse_singleton,
    List.singleton_append, List.dropWhile_cons_of_neg (by simp [Text.isBlank_of_isDigit hlast]),
    List.reverse_cons, List.reverse_reverse]

theorem trimStart_clockText (t : Stamp) : Text.trimStart t.clockText = t.clockText :=
  trimStart_padded _ _ _

/-- A text with a space in it has the first form. -/
theorem readSpaced_chars (t : Stamp) : readSpaced (t.chars ' ') = some t.seconds := by
  have hblank : Text.trimStart (' ' :: t.clockText) = t.clockText := t.trimStart_clockText
  rw [readSpaced, chars, readDashedDate_chars]
  simp [hblank, readClock_clockText, secondsOf, t.isValid_date, seconds]

/-- A text with a letter in it has the second form. -/
theorem readJoined_chars (t : Stamp) : readJoined (t.chars 'T') = some t.seconds := by
  rw [readJoined, chars, readDashedDate_chars]
  simp [expect, readClock_clockText, secondsOf, t.isValid_date, seconds]

theorem readSpaced_chars_letter (t : Stamp) : readSpaced (t.chars 'T') = none := by
  have hletter : readClock (Text.trimStart ('T' :: t.clockText)) = none := rfl
  rw [readSpaced, chars, readDashedDate_chars]
  simp [hletter]

/-- **A text of this form is read back.** -/
theorem unixSeconds_text (t : Stamp) (hsep : sep = ' ' ∨ sep = 'T') :
    unixSeconds (t.text sep) = some t.seconds := by
  rw [unixSeconds, text, String.toList_ofList, trim_chars]
  rcases hsep with rfl | rfl
  · rw [readSpaced_chars]
    rfl
  · rw [readSpaced_chars_letter, readJoined_chars]
    rfl

end Stamp

/-! ## Times that are read -/

theorem readClock_lt {cs : List Char} {clock : Nat} (h : readClock cs = some clock) :
    clock < 86400 := by
  simp only [readClock, Option.bind_eq_bind, Option.bind_eq_some_iff] at h
  obtain ⟨⟨hour, _⟩, -, _, -, ⟨minute, _⟩, -, _, -, ⟨second, _⟩, -, h⟩ := h
  simp only [Option.ite_none_right_eq_some, Bool.and_eq_true, decide_eq_true_eq] at h
  obtain ⟨⟨⟨⟨-, hhour⟩, hminute⟩, -⟩, h⟩ := h
  obtain rfl := Option.some.inj h
  omega

/-- Whatever is read is a date that exists and a time of its day. -/
theorem unixSeconds_eq {text : String} {t : Int} (h : unixSeconds text = some t) :
    ∃ (date : CivilDate) (clock : Nat), date.isValid = true ∧ clock < 86400 ∧
      t = date.toDays * 86400 + clock := by
  have hform : ∀ {date : CivilDate} {cs : List Char},
      ((readClock cs).bind fun clock => secondsOf date clock) = some t →
        ∃ (date : CivilDate) (clock : Nat), date.isValid = true ∧ clock < 86400 ∧
          t = date.toDays * 86400 + clock := by
    intro date cs h
    obtain ⟨clock, hclock, h⟩ := Option.bind_eq_some_iff.mp h
    rw [secondsOf, Option.ite_none_right_eq_some] at h
    exact ⟨date, clock, h.1, readClock_lt hclock, (Option.some.inj h.2).symm⟩
  -- the three forms differ before the time of the day
  rw [unixSeconds, Option.orElse_eq_or, Option.orElse_eq_or, Option.or_eq_some_iff,
    Option.or_eq_some_iff] at h
  rcases h with h | ⟨-, h | ⟨-, h⟩⟩
  · obtain ⟨⟨date, cs⟩, -, h⟩ := Option.bind_eq_some_iff.mp h
    exact hform h
  · obtain ⟨⟨date, cs⟩, -, h⟩ := Option.bind_eq_some_iff.mp h
    obtain ⟨cs, -, h⟩ := Option.bind_eq_some_iff.mp h
    exact hform h
  · obtain ⟨⟨date, cs⟩, -, h⟩ := Option.bind_eq_some_iff.mp h
    exact hform h

/-- A time that is read is a whole number that doubles have. -/
theorem natAbs_unixSeconds_lt {text : String} {t : Int} (h : unixSeconds text = some t) :
    t.natAbs < 2 ^ 53 := by
  obtain ⟨date, clock, hdate, hclock, rfl⟩ := unixSeconds_eq h
  have hdays := CivilDate.natAbs_toDays_lt hdate
  omega

end RouterMetrics.Value

import RouterMetrics.Proofs.Text.Words
import RouterMetrics.Proofs.Value.Rates
import RouterMetrics.Value.Span

/-!
# Lengths of time

A length of time is written part by part, and a part as its amount with the symbol of its unit
(`Value.SpanPart.written`). A text has one division into parts and what is left, which starts with
no part (`Value.Divided`), and that is what is read of it (`Value.divided_iff`). So the parts of a
written length of time come back, whatever stands behind them, and their seconds are added up from
left to right (`Value.spans_read`).
-/

namespace RouterMetrics

/-! ## White space around a text -/

namespace Text

variable {gap core tail : List Char}

/-- A text that does not end with white space keeps what is left of the text behind it. -/
theorem trimEnd_append (hlast : ∀ c ∈ core.getLast?, isBlank c = false) (tail : List Char) :
    trimEnd (core ++ tail) = core ++ trimEnd tail := by
  have hcore : core.reverse.dropWhile isBlank = core.reverse :=
    dropWhile_of_head (by rwa [List.head?_reverse])
  rw [trimEnd, trimEnd, List.reverse_append, List.dropWhile_append]
  split
  case isTrue hempty => simp [List.isEmpty_iff.mp hempty, hcore]
  case isFalse => simp

/-- What is left of a text starts as the text does. -/
theorem head?_trimEnd {c : Char} (h : c ∈ (trimEnd tail).head?) : c ∈ tail.head? := by
  have hprefix : trimEnd tail <+: tail := by
    rw [← List.reverse_suffix, trimEnd, List.reverse_reverse]
    exact List.dropWhile_suffix _
  obtain ⟨rest, hrest⟩ := hprefix
  cases hleft : trimEnd tail with
  | nil => simp [hleft] at h
  | cons d left =>
    rw [hleft] at h hrest
    rw [← hrest]
    exact h

/-- White space before a text does not count, and that behind what follows the text does not. -/
theorem trim_between (hgap : IsGap gap) (hsome : core ≠ [])
    (hhead : ∀ c ∈ core.head?, isBlank c = false)
    (hlast : ∀ c ∈ core.getLast?, isBlank c = false) (tail : List Char) :
    trim (gap ++ (core ++ tail)) = core ++ trimEnd tail := by
  have hstart : trimStart (gap ++ (core ++ tail)) = core ++ tail := by
    rw [trimStart, List.dropWhile_append_of_pos hgap]
    refine dropWhile_of_head ?_
    rwa [List.head?_append_of_ne_nil _ hsome]
  rw [trim, hstart, trimEnd_append hlast]

end Text

namespace Value

variable {cs rest tail : List Char} {p : SpanPart} {parts : List SpanPart}

/-! ## Units -/

namespace SpanUnit

/-- The written form of a unit. -/
def symbol : SpanUnit → List Char
  | .week => ['w']
  | .day => ['d']
  | .hour => ['h']
  | .minute => ['m']
  | .second => ['s']
  | .millisecond => ['m', 's']
  | .microsecond => ['u', 's']

variable {u : SpanUnit}

theorem symbol_ne_nil (u : SpanUnit) : u.symbol ≠ [] := by
  cases u <;> exact List.cons_ne_nil _ _

/-- No character of a symbol is a digit or white space. -/
theorem symbol_chars (u : SpanUnit) :
    ∀ c ∈ u.symbol, Text.isDigit c = false ∧ Text.isBlank c = false := by
  have hall : (u.symbol.all fun c => !Text.isDigit c && !Text.isBlank c) = true := by
    cases u <;> rfl
  simpa using hall

/-- **A unit is read where its symbol stands**, but a minute before an `s` is a millisecond. -/
theorem read_eq_some_iff :
    read cs = some (u, rest) ↔ cs = u.symbol ++ rest ∧ (u = .minute → rest.head? ≠ some 's') := by
  constructor
  · intro h
    unfold read at h
    split at h
    case h_6 cs hlong =>
      -- the pattern of a millisecond has been tried before
      cases h
      refine ⟨rfl, fun _ hhead => ?_⟩
      obtain ⟨after, rfl⟩ := List.head?_eq_some_iff.mp hhead
      exact hlong after rfl
    case h_8 => cases h
    all_goals
      cases h
      exact ⟨rfl, nofun⟩
  · rintro ⟨rfl, hminute⟩
    cases u with
    | minute =>
      cases rest with
      | nil => rfl
      | cons c rest =>
        have hc : c ≠ 's' := by simpa using hminute rfl
        simp [symbol, read, hc]
    | _ => rfl

end SpanUnit

/-! ## Parts -/

namespace SpanPart

/-- The written form of a part. -/
def written (p : SpanPart) : List Char := p.amount ++ p.unit.symbol

/-- A text starts with a part: digits of any script, at least one, and a symbol, which is not the
start of a longer one. -/
structure Heads (p : SpanPart) (cs rest : List Char) : Prop where
  some_digit : p.amount ≠ []
  digits : ∀ c ∈ p.amount, Text.isDigit c = true
  text : cs = p.written ++ rest
  whole : p.unit = .minute → rest.head? ≠ some 's'

end SpanPart

theorem readPart_eq_some_iff : readPart cs = some (p, rest) ↔ p.Heads cs rest := by
  constructor
  · intro h
    simp only [readPart] at h
    split at h
    case isTrue => cases h
    case isFalse hsome =>
      obtain ⟨⟨u, after⟩, hunit, heq⟩ := Option.map_eq_some_iff.mp h
      cases heq
      obtain ⟨hrest, hwhole⟩ := SpanUnit.read_eq_some_iff.mp hunit
      rw [List.span_eq_takeWhile_dropWhile] at hsome hrest ⊢
      refine ⟨by simpa using hsome, fun c hc => List.mem_takeWhile_imp hc, ?_, hwhole⟩
      dsimp only at hrest
      rw [SpanPart.written, List.append_assoc, ← hrest, List.takeWhile_append_dropWhile]
  · rintro ⟨hsome, hdigits, rfl, hwhole⟩
    obtain ⟨c, symbol, hsymbol⟩ := List.exists_cons_of_ne_nil p.unit.symbol_ne_nil
    have hstop : ∀ c ∈ (p.unit.symbol ++ rest).head?, Text.isDigit c = false := by
      rw [hsymbol]
      rintro _ ⟨⟩
      exact (p.unit.symbol_chars c (by simp [hsymbol])).1
    have hunit : SpanUnit.read (p.unit.symbol ++ rest) = some (p.unit, rest) :=
      SpanUnit.read_eq_some_iff.mpr ⟨rfl, hwhole⟩
    rw [readPart, SpanPart.written, List.append_assoc, Text.span_append hdigits hstop]
    simp [hsome, hunit]

/-! ## Divisions -/

/-- A text is divided into parts and what is left of it, which starts with no part. -/
inductive Divided : List Char → List SpanPart → Prop
  | stop {cs : List Char} : (∀ p rest, ¬ SpanPart.Heads p cs rest) → Divided cs []
  | part {p : SpanPart} {cs rest : List Char} {parts : List SpanPart} : p.Heads cs rest →
      Divided rest parts → Divided cs (p :: parts)

/-- A part takes characters of its text. -/
theorem SpanPart.Heads.length_lt (h : p.Heads cs rest) : rest.length < cs.length := by
  have hsome := List.length_pos_iff.mpr h.some_digit
  rw [h.text, SpanPart.written, List.length_append, List.length_append]
  omega

/-- **What is read of a text is its division**: a step for each character does not cut it short, and
there is no other. -/
theorem divided_iff {fuel : Nat} (h : cs.length ≤ fuel) :
    Divided cs parts ↔ readParts fuel cs = parts := by
  induction fuel generalizing cs parts with
  | zero =>
    obtain rfl : cs = [] := List.eq_nil_of_length_eq_zero (Nat.le_zero.mp h)
    have hstop : ∀ p rest, ¬ SpanPart.Heads p [] rest := fun p rest hheads =>
      absurd hheads.length_lt (Nat.not_lt_zero _)
    constructor
    · rintro (_ | ⟨hheads, -⟩)
      · rfl
      · exact absurd hheads (hstop _ _)
    · rintro rfl
      exact .stop hstop
  | succ fuel ih =>
    cases hpart : readPart cs with
    | none =>
      have hstop : ∀ p rest, ¬ SpanPart.Heads p cs rest := fun p rest hheads => by
        rw [readPart_eq_some_iff.mpr hheads] at hpart
        cases hpart
      simp only [readParts, hpart]
      constructor
      · rintro (_ | ⟨hheads, -⟩)
        · rfl
        · exact absurd hheads (hstop _ _)
      · rintro rfl
        exact .stop hstop
    | some found =>
      obtain ⟨p, rest⟩ := found
      have hheads := readPart_eq_some_iff.mp hpart
      have hfuel : rest.length ≤ fuel := by
        have hlt := hheads.length_lt
        omega
      simp only [readParts, hpart]
      constructor
      · rintro (hstop | ⟨hheads', hrest⟩)
        · exact absurd hheads (hstop _ _)
        · have hsame := readPart_eq_some_iff.mpr hheads'
          rw [hpart] at hsame
          cases hsame
          rw [(ih hfuel).mp hrest]
      · rintro rfl
        exact .part hheads ((ih hfuel).mpr rfl)

theorem divided_spanParts (text : String) : Divided (Text.trim text.toList) (spanParts text) :=
  (divided_iff (Nat.le_refl _)).mpr rfl

theorem spanParts_eq {text : String} (h : Divided (Text.trim text.toList) parts) :
    spanParts text = parts :=
  (divided_iff (Nat.le_refl _)).mp h

/-! ## Written lengths of time -/

/-- The amount of a part is written in ASCII digits. -/
structure SpanPart.Plain (p : SpanPart) : Prop where
  some_digit : p.amount ≠ []
  ascii : ∀ c ∈ p.amount, c.isDigit = true

/-- No part goes on behind a text: it is empty, or starts with neither a digit of any script nor
the letter that makes a minute a millisecond. -/
def EndsSpan (tail : List Char) : Prop := ∀ c ∈ tail.head?, Text.isDigit c = false ∧ c ≠ 's'

theorem SpanPart.Plain.written_head (h : p.Plain) (rest : List Char) :
    ∃ c after, p.written ++ rest = c :: after ∧ c.isDigit = true := by
  obtain ⟨c, amount, hamount⟩ := List.exists_cons_of_ne_nil h.some_digit
  refine ⟨c, amount ++ p.unit.symbol ++ rest, ?_, h.ascii c (by simp [hamount])⟩
  rw [SpanPart.written, hamount, List.cons_append, List.cons_append]

theorem SpanPart.Plain.number (h : p.Plain) :
    p.seconds = Decimal.nearest (Text.numberOf p.amount) 0 * p.unit.seconds := by
  have hread := (Decimal.Amount.whole h.some_digit h.ascii).readNumber
  rw [SpanPart.seconds, hread]
  rfl

/-- **Parts that are written one after the other are the division of their text**, whatever stands
behind them. -/
theorem divided_written (hparts : ∀ p ∈ parts, p.Plain) (htail : EndsSpan tail) :
    Divided (parts.flatMap SpanPart.written ++ tail) parts := by
  induction parts with
  | nil =>
    refine .stop fun p rest hheads => ?_
    obtain ⟨c, amount, hamount⟩ := List.exists_cons_of_ne_nil hheads.some_digit
    have hc := hheads.digits c (by simp [hamount])
    have hhead : c ∈ tail.head? := by
      rw [show tail = _ from hheads.text, SpanPart.written, hamount]
      rfl
    rw [(htail c hhead).1] at hc
    cases hc
  | cons p rest ih =>
    obtain ⟨hp, hrest⟩ := List.forall_mem_cons.mp hparts
    rw [List.flatMap_cons, List.append_assoc]
    refine .part ⟨hp.some_digit, fun c hc => Text.isDigit_of_ascii (hp.ascii c hc), rfl, ?_⟩
      (ih hrest)
    -- the next part starts with a digit, and the tail with no `s`
    intro _ hs
    cases rest with
    | nil => exact (htail 's' hs).2 rfl
    | cons q rest =>
      obtain ⟨c, after, hafter, hc⟩ := (hrest q List.mem_cons_self).written_head
        (rest.flatMap SpanPart.written ++ tail)
      rw [List.flatMap_cons, List.append_assoc, hafter] at hs
      cases hs
      cases hc

/-- What is written for parts neither starts nor ends with white space. -/
theorem flatMap_written_ends (hparts : ∀ p ∈ parts, p.Plain) (hsome : parts ≠ []) :
    let core := parts.flatMap SpanPart.written
    core ≠ [] ∧ (∀ c ∈ core.head?, Text.isBlank c = false) ∧
      ∀ c ∈ core.getLast?, Text.isBlank c = false := by
  have hchars : ∀ c ∈ parts.flatMap SpanPart.written, Text.isBlank c = false := by
    intro c hc
    obtain ⟨p, hp, hc⟩ := List.mem_flatMap.mp hc
    rcases List.mem_append.mp hc with hamount | hsymbol
    · exact Text.isBlank_of_isDigit ((hparts p hp).ascii c hamount)
    · exact (p.unit.symbol_chars c hsymbol).2
  refine ⟨?_, fun c hc => hchars c (List.mem_of_mem_head? hc),
    fun c hc => hchars c (List.mem_of_mem_getLast? hc)⟩
  obtain ⟨p, rest, rfl⟩ := List.exists_cons_of_ne_nil hsome
  obtain ⟨c, after, hafter, -⟩ :=
    (hparts p List.mem_cons_self).written_head (rest.flatMap SpanPart.written)
  rw [List.flatMap_cons, hafter]
  exact List.cons_ne_nil c after

/-- The sum of parts is that of their numbers of units. -/
theorem sumSeconds_plain (hparts : ∀ p ∈ parts, p.Plain) : sumSeconds parts =
    parts.foldl
      (fun s p => s + Decimal.nearest (Text.numberOf p.amount) 0 * p.unit.seconds) 0.0 :=
  List.foldl_ext _ _ _ fun s p hp => by rw [(hparts p hp).number]

/-- **What is read of lengths of time.** Parts with amounts in ASCII digits, in any order and
repeated or not, are read back from their text, behind white space and before anything that does not
go on with a part; their seconds are added up from left to right. Every text is read to the end of
its division, and one that starts with no digits before a unit is zero. -/
theorem spans_read :
    (∀ gap parts tail, Text.IsGap gap → parts ≠ [] → (∀ p ∈ parts, SpanPart.Plain p) →
      EndsSpan tail →
      let text := String.ofList (gap ++ (parts.flatMap SpanPart.written ++ tail))
      spanParts text = parts ∧ spanSeconds text = parts.foldl
        (fun s p => s + Decimal.nearest (Text.numberOf p.amount) 0 * p.unit.seconds) 0.0) ∧
    (∀ text, Divided (Text.trim text.toList) (spanParts text)) ∧
    (∀ text : String, (∀ amount u rest, amount ≠ [] → (∀ c ∈ amount, Text.isDigit c = true) →
        Text.trim text.toList ≠ amount ++ SpanUnit.symbol u ++ rest) →
      spanParts text = [] ∧ spanSeconds text = 0.0) ∧
    (∀ e ∈ [(SpanUnit.week, 604800), (.day, 86400), (.hour, 3600), (.minute, 60), (.second, 1)],
      e.1.seconds = Decimal.ofInt e.2) ∧
    SpanUnit.millisecond.seconds = Decimal.nearest 1 (-3) ∧
    SpanUnit.microsecond.seconds = Decimal.nearest 1 (-6) := by
  refine ⟨fun gap parts tail hgap hsome hparts htail => ?_, divided_spanParts, fun text hnone => ?_,
    by decide +kernel, rfl, rfl⟩
  · intro text
    obtain ⟨hcore, hhead, hlast⟩ := flatMap_written_ends hparts hsome
    have hends : EndsSpan (Text.trimEnd tail) := fun c hc => htail c (Text.head?_trimEnd hc)
    have hread : spanParts text = parts := by
      refine spanParts_eq ?_
      rw [String.toList_ofList, Text.trim_between hgap hcore hhead hlast]
      exact divided_written hparts hends
    exact ⟨hread, by rw [spanSeconds, hread, sumSeconds_plain hparts]⟩
  · have hread : spanParts text = [] := spanParts_eq (.stop fun p rest hheads =>
      hnone p.amount p.unit rest hheads.some_digit hheads.digits hheads.text)
    exact ⟨hread, by rw [spanSeconds, hread]; rfl⟩

/-- Two minutes, five milliseconds, seven hours and three minutes more, before a word. -/
theorem spans_read_session :
    let parts : List SpanPart := [⟨['2'], .minute⟩, ⟨['5'], .millisecond⟩, ⟨['0', '7'], .hour⟩,
      ⟨['3'], .minute⟩]
    Text.IsGap ['\t', ' '] ∧ parts ≠ [] ∧ (∀ p ∈ parts, p.Plain) ∧ EndsSpan " left".toList ∧
      spanParts "\t 2m5ms07h3m left" = parts ∧
      spanSeconds "\t 2m5ms07h3m left" = Decimal.nearest 25500005 (-3) := by
  intro parts
  have hgap : Text.IsGap ['\t', ' '] := List.all_eq_true.mp rfl
  have hparts : ∀ p ∈ parts, p.Plain := by
    have hall : (parts.all fun p => !p.amount.isEmpty && p.amount.all Char.isDigit) = true := rfl
    intro p hp
    have hp := List.all_eq_true.mp hall p hp
    simp only [Bool.and_eq_true, Bool.not_eq_true', List.isEmpty_eq_false_iff,
      List.all_eq_true] at hp
    exact ⟨hp.1, hp.2⟩
  have htail : EndsSpan " left".toList := by
    rintro c ⟨⟩
    decide +kernel
  obtain ⟨hread, hsum⟩ := spans_read.1 _ parts _ hgap (List.cons_ne_nil _ _) hparts htail
  exact ⟨hgap, List.cons_ne_nil _ _, hparts, htail, hread, hsum.trans (by decide +kernel)⟩

end Value

end RouterMetrics

import Mathlib.Data.List.TakeWhile
import RouterMetrics.Net.Url

/-!
# Paths of URLs

The segments of a path are entered one after another, and a double dot takes back the last one. So
what stands before the end of a path leaves nothing in it exactly when its segments cancel
(`Net.Url.absolutePath_append`, `Net.Url.segmentsText_append_eq_iff`). A path of letters, digits,
hyphens and slashes is kept as it is below a base (`Net.Url.join_plain`).
-/

namespace RouterMetrics.Net.Url

open Text

variable {cs tail : List Char} {above segs : List (List Char)}

/-! ## Classes of characters -/

theorem drop_takeWhile {α : Type} (p : α → Bool) (l : List α) :
    l.drop (l.takeWhile p).length = l.dropWhile p := by
  have hsplit := List.prefix_iff_eq_append.mp (List.takeWhile_prefix (l := l) p)
  exact List.append_cancel_left (hsplit.trans List.takeWhile_append_dropWhile.symm)

/-- There is nothing behind a run that takes all of a list. -/
theorem tail?_drop_takeWhile {α : Type} {p : α → Bool} {l : List α} :
    (l.drop (l.takeWhile p).length).tail? = none ↔ ∀ a ∈ l, p a = true := by
  rw [drop_takeWhile, ← List.dropWhile_eq_nil_iff]
  cases l.dropWhile p with
  | nil => simp
  | cons a rest => simp

/-- A path ends at a question mark or a number sign. -/
theorem divide_of_path (h : ∀ c ∈ cs, c ≠ '?' ∧ c ≠ '#') : divide cs = (cs, none, none) := by
  have hfragment : ∀ c ∈ cs, (c != '#') = true := fun c hc => by simpa using (h c hc).2
  have hquery : ∀ c ∈ cs, (c != '?') = true := fun c hc => by simpa using (h c hc).1
  have hbefore := List.takeWhile_eq_self_iff.mpr hfragment
  have hpath := List.takeWhile_eq_self_iff.mpr hquery
  simp [divide, hbefore, hpath]

/-- **A text has neither a query nor a fragment when no character starts one.** -/
theorem divide_eq_iff :
    (divide cs).2 = (none, none) ↔ ∀ c ∈ cs, c ≠ '?' ∧ c ≠ '#' := by
  constructor
  · intro h
    obtain ⟨hquery, hfragment⟩ := Prod.mk.inj h
    have hnumber := tail?_drop_takeWhile.mp hfragment
    rw [List.takeWhile_eq_self_iff.mpr hnumber] at hquery
    have hmark := tail?_drop_takeWhile.mp hquery
    exact fun c hc => ⟨by simpa using hmark c hc, by simpa using hnumber c hc⟩
  · intro h
    rw [divide_of_path h]

/-! ## Segments -/

/-- The levels of a path after one more segment that is not the last. -/
def enter (above : List (List Char)) (s : List Char) : List (List Char) :=
  if isDoubleDot s then dropLevel above else if isDot s then above else above ++ [s]

theorem addSegments_append (above segs : List (List Char)) {s : List Char}
    {later : List (List Char)} :
    addSegments above (segs ++ s :: later) = addSegments (segs.foldl enter above) (s :: later) := by
  induction segs generalizing above with
  | nil => rfl
  | cons first rest ih =>
    rw [List.foldl_cons, ← ih]
    obtain ⟨next, more, hmore⟩ := List.exists_cons_of_ne_nil
      (show rest ++ s :: later ≠ [] from
        List.append_ne_nil_of_right_ne_nil _ (List.cons_ne_nil _ _))
    rw [List.cons_append, hmore, addSegments, enter]
    · split
      · rfl
      · split
        · rfl
        · rfl
    · exact List.cons_ne_nil _ _

theorem segmentsText_append (a b : List (List Char)) :
    segmentsText (a ++ b) = segmentsText a ++ segmentsText b := by
  simp [segmentsText, String.ofList_append]

/-- Levels before the end of a path leave nothing in it only when there are none. -/
theorem segmentsText_append_eq_iff {rest : String} :
    segmentsText segs ++ rest = rest ↔ segs = [] := by
  constructor
  · intro h
    have hlength := congrArg (fun s => s.toList.length) h
    cases segs with
    | nil => rfl
    | cons s more =>
      simp only [segmentsText, String.toList_append, String.toList_ofList, List.length_append,
        List.flatMap_cons, List.length_cons] at hlength
      omega
  · rintro rfl
    simp [segmentsText]

/-- The segments that a text behind an authority enters. -/
def levels : List Char → List (List Char)
  | [] => []
  | _ :: cs => ((cs.splitOnP (isSlash true)).map (percentEncode inPathSet)).foldl enter []

/-- **A directory at the end of a path stands below the levels of what is before it.** -/
theorem absolutePath_append (htail : ∀ c ∈ tail.head?, isSlash true c = true) :
    absolutePath true (tail ++ "/rest/".toList) = segmentsText (levels tail) ++ "/rest/" := by
  have hend : ("rest/".toList.splitOnP (isSlash true)).map (percentEncode inPathSet) =
      ["rest".toList, []] := by decide
  have hadd : ∀ above, addSegments above ["rest".toList, []] = above ++ ["rest".toList, []] := by
    intro above
    rw [addSegments, if_neg (by decide), if_neg (by decide), addSegments, if_neg (by decide),
      if_neg (by decide), List.append_assoc]
    · rfl
    · exact List.cons_ne_nil _ _
  have hrest : segmentsText ["rest".toList, []] = "/rest/" := by decide
  cases tail with
  | nil =>
    show pathBelow true [] "rest/".toList = _
    rw [pathBelow, hend, hadd, segmentsText_append, hrest]
    rfl
  | cons c cs =>
    have hc : isSlash true c = true := htail c rfl
    have hsplit : (cs ++ "/rest/".toList).splitOnP (isSlash true) =
        cs.splitOnP (isSlash true) ++ "rest/".toList.splitOnP (isSlash true) :=
      List.splitOnP_append_cons cs "rest/".toList rfl
    rw [List.cons_append, absolutePath, if_pos hc, pathBelow, hsplit, List.map_append, hend,
      addSegments_append, hadd, segmentsText_append, hrest]
    rfl

/-! ## Plain paths -/

/-- Letters, digits, hyphens and slashes. -/
def isPlain (c : Char) : Bool := c.isAlphanum || c == '-' || c == '/'

/-- A path of plain characters, which starts with no slash. -/
structure PlainPath (cs : List Char) : Prop where
  plain : ∀ c ∈ cs, isPlain c = true
  start : ∃ c rest, cs = c :: rest ∧ c ≠ '/'

/-- Whether a path is plain. -/
def checkPath (cs : List Char) : Bool := cs.all isPlain && cs.head?.any (· != '/')

theorem PlainPath.of_check (h : checkPath cs = true) : PlainPath cs := by
  obtain ⟨hall, hhead⟩ := Bool.and_eq_true_iff.mp h
  obtain ⟨c, hc, hslash⟩ := (Option.any_eq_true ..).mp hhead
  obtain ⟨rest, rfl⟩ := List.head?_eq_some_iff.mp hc
  exact ⟨List.all_eq_true.mp hall, c, rest, rfl, by simpa using hslash⟩

/-- A character has no meaning of its own in a path, and is written as it is. -/
structure Inert (c : Char) : Prop where
  edge : isEdge c = false
  counts : isOneOf "\t\n\r" c = false
  encoded : inPathSet c = false
  ascii : c.toNat < 0x80
  query : c ≠ '?'
  fragment : c ≠ '#'
  backslash : c ≠ '\\'
  colon : c ≠ ':'
  point : c ≠ '.'
  percent : c ≠ '%'

theorem inert_of_isPlain {c : Char} (h : isPlain c = true) : Inert c := by
  have hne : ∀ d, isPlain d = false → c ≠ d := by
    rintro d hd rfl
    rw [hd] at h
    cases h
  have hrange : 0x20 < c.toNat ∧ c.toNat < 0x7f := by
    have hclass : c.isAlphanum = ((decide ('A'.val ≤ c.val ∧ c.val ≤ 'Z'.val) ||
        (decide ('a'.val ≤ c.val) && decide (c.val ≤ 'z'.val))) ||
        (decide ('0'.val ≤ c.val) && decide (c.val ≤ '9'.val))) := rfl
    simp only [isPlain, hclass, Bool.or_eq_true, Bool.and_eq_true, decide_eq_true_eq,
      beq_iff_eq] at h
    rcases h with (((h | h) | h) | rfl) | rfl
    · exact ⟨Nat.lt_of_lt_of_le (by decide) h.1, Nat.lt_of_le_of_lt h.2 (by decide)⟩
    · exact ⟨Nat.lt_of_lt_of_le (by decide) h.1, Nat.lt_of_le_of_lt h.2 (by decide)⟩
    · exact ⟨Nat.lt_of_lt_of_le (by decide) h.1, Nat.lt_of_le_of_lt h.2 (by decide)⟩
    · decide
    · decide
  have hedge : isEdge c = false := by
    simp only [isEdge, decide_eq_false_iff_not]
    omega
  have hcontrol : isAsciiControl c = false := by
    simp only [isAsciiControl, Bool.or_eq_false_iff, decide_eq_false_iff_not, beq_eq_false_iff_ne]
    omega
  have hset : inPathSet c = false := by
    have hspace := hne ' ' rfl
    have hquote := hne '"' rfl
    have hless := hne '<' rfl
    have hmore := hne '>' rfl
    have htick := hne '\x60' rfl
    have hopen := hne '\x7b' rfl
    have hclose := hne '\x7d' rfl
    have hnumber := hne '#' rfl
    have hmark := hne '?' rfl
    simp [inPathSet, inFragmentSet, isOneOf, *]
  have hbreak : isOneOf "\t\n\r" c = false := by
    have htab := hne '\t' rfl
    have hline := hne '\n' rfl
    have hreturn := hne '\r' rfl
    simp [isOneOf, *]
  exact ⟨hedge, hbreak, hset, by omega, hne '?' rfl, hne '#' rfl, hne '\\' rfl, hne ':' rfl,
    hne '.' rfl, hne '%' rfl⟩

namespace PlainPath

/-- No white space or control stands in a plain path. -/
theorem significant_eq_self {text : String} (h : PlainPath text.toList) :
    significant text = text.toList := by
  have hedge : ∀ c ∈ text.toList, isEdge c = false := fun c hc =>
    (inert_of_isPlain (h.plain c hc)).edge
  have hstart : text.toList.dropWhile isEdge = text.toList := by
    refine List.dropWhile_eq_self_iff.mpr fun hlt => ?_
    simpa using hedge _ (List.getElem_mem hlt)
  have hend : text.toList.reverse.dropWhile isEdge = text.toList.reverse := by
    refine List.dropWhile_eq_self_iff.mpr fun hlt => ?_
    simpa using hedge _ (List.mem_reverse.mp (List.getElem_mem hlt))
  rw [significant, hstart, hend, List.reverse_reverse]
  exact List.filter_eq_self.mpr fun c hc => by simp [(inert_of_isPlain (h.plain c hc)).counts]

/-- A plain path has no scheme. -/
theorem readScheme_eq_none (h : PlainPath cs) : readScheme cs = none := by
  obtain ⟨c, rest, rfl, -⟩ := h.start
  simp only [readScheme]
  split
  case isFalse => rfl
  case isTrue =>
    split
    case h_1 hcolon =>
      have hmem : ':' ∈ c :: rest := List.mem_of_mem_drop (by rw [hcolon]; exact List.mem_cons_self)
      exact absurd rfl (inert_of_isPlain (h.plain _ hmem)).colon
    case h_2 => rfl

theorem percentEncode_eq_self (h : ∀ c ∈ cs, isPlain c = true) :
    percentEncode inPathSet cs = cs := by
  induction cs with
  | nil => rfl
  | cons c rest ih =>
    obtain ⟨hc, hrest⟩ := List.forall_mem_cons.mp h
    have hinert := inert_of_isPlain hc
    have hchar : percentChar inPathSet c = [c] := by
      rw [percentChar, hinert.encoded, if_neg]
      simpa using hinert.ascii
    rw [percentEncode, List.flatMap_cons, hchar, ← percentEncode, ih hrest]
    rfl

/-- A small letter may have been a capital one, and nothing else. -/
theorem eq_of_toLower {c d : Char} (h : c.toLower = d) (hd : d.isLower = false) : c = d := by
  unfold Char.toLower at h
  split at h
  case isTrue hupper =>
    have hA : 'A'.val.toNat = 65 := rfl
    have hZ : 'Z'.val.toNat = 90 := rfl
    have hc : c.toNat = c.val.toNat := rfl
    rw [← h] at hd
    have hlower : ∀ e : Char, e.isLower = (decide ('a'.val ≤ e.val) && decide (e.val ≤ 'z'.val)) :=
      fun _ => rfl
    simp only [ge_iff_le, UInt32.le_iff_toNat_le] at hupper
    simp [hlower, UInt32.le_iff_toNat_le] at hd
    omega
  case isFalse => exact h

/-- A plain segment stands for no other level. -/
theorem no_dot (h : ∀ c ∈ cs, isPlain c = true) : isDoubleDot cs = false ∧ isDot cs = false := by
  have hlower : ∀ d ∈ ['.', '%'], d ∉ cs.map Char.toLower := by
    intro d hd hmem
    obtain ⟨c, hc, heq⟩ := List.mem_map.mp hmem
    have hinert := inert_of_isPlain (h c hc)
    rcases List.mem_cons.mp hd with rfl | hd
    · exact hinert.point (eq_of_toLower heq rfl)
    · rw [List.mem_singleton] at hd
      subst hd
      exact hinert.percent (eq_of_toLower heq rfl)
  have hpoint := hlower '.' (by simp)
  have hpercent := hlower '%' (by simp)
  have hne : ∀ s : String, ('.' ∈ s.toList ∨ '%' ∈ s.toList) →
      String.ofList (cs.map Char.toLower) ≠ s := by
    rintro s hs rfl
    rw [String.toList_ofList] at hs
    exact hs.elim hpoint hpercent
  simp [isDoubleDot, isDot, hne]

end PlainPath

/-- Pieces hold characters of what is cut. -/
theorem mem_splitOnP {p : Char → Bool} {c : Char} {piece : List Char} (h : piece ∈ cs.splitOnP p)
    (hc : c ∈ piece) : c ∈ cs := by
  induction cs generalizing piece with
  | nil =>
    rw [List.splitOnP_nil, List.mem_singleton] at h
    rw [h] at hc
    cases hc
  | cons d rest ih =>
    obtain ⟨first, pieces, hsplit⟩ := List.exists_cons_of_ne_nil (List.splitOnP_ne_nil p rest)
    rw [List.splitOnP_cons_eq_if_modifyHead, hsplit] at h
    rw [hsplit] at ih
    split at h
    case isTrue =>
      rcases List.mem_cons.mp h with rfl | h
      · cases hc
      · exact List.mem_cons_of_mem d (ih h hc)
    case isFalse =>
      rcases List.mem_cons.mp h with rfl | h
      · rcases List.mem_cons.mp hc with rfl | hc
        · exact List.mem_cons_self
        · exact List.mem_cons_of_mem d (ih List.mem_cons_self hc)
      · exact List.mem_cons_of_mem d (ih (List.mem_cons_of_mem first h) hc)

/-- Segments with slashes between them are the text that was cut. -/
theorem flatMap_splitOnP (h : ∀ c ∈ cs, c ≠ '\\') :
    (cs.splitOnP (isSlash true)).flatMap (fun s => '/' :: s) = '/' :: cs := by
  induction cs with
  | nil => rfl
  | cons c rest ih =>
    obtain ⟨hc, hrest⟩ := List.forall_mem_cons.mp h
    obtain ⟨first, pieces, hsplit⟩ :=
      List.exists_cons_of_ne_nil (List.splitOnP_ne_nil (isSlash true) rest)
    have hcut := ih hrest
    rw [List.splitOnP_cons_eq_if_modifyHead]
    split
    case isTrue hslash =>
      have hc' : c = '/' := by simpa [isSlash, hc] using hslash
      rw [List.flatMap_cons, hcut, hc']
      rfl
    case isFalse =>
      rw [hsplit] at hcut ⊢
      rw [List.flatMap_cons, List.cons_append] at hcut
      rw [List.modifyHead_cons, List.flatMap_cons, List.cons_append, List.cons_append,
        (List.cons.inj hcut).2]

/-- Segments without dots are all entered. -/
theorem addSegments_of_no_dot (h : ∀ s ∈ segs, isDoubleDot s = false ∧ isDot s = false) :
    addSegments above segs = above ++ segs := by
  induction segs generalizing above with
  | nil => simp [addSegments]
  | cons s rest ih =>
    obtain ⟨⟨hdouble, hdot⟩, hrest⟩ := List.forall_mem_cons.mp h
    cases rest with
    | nil => simp [addSegments, hdouble, hdot]
    | cons s' rest => simp [addSegments, hdouble, hdot, ih hrest]

namespace PlainPath

variable {text : String}

/-- Below a directory a plain path is kept. -/
theorem pathBelow_eq (h : PlainPath text.toList) :
    pathBelow true ["rest".toList] text.toList = "/rest/" ++ text := by
  have hpieces : ∀ s ∈ text.toList.splitOnP (isSlash true), ∀ c ∈ s, isPlain c = true :=
    fun s hs c hc => h.plain c (mem_splitOnP hs hc)
  have hencoded : (text.toList.splitOnP (isSlash true)).map (percentEncode inPathSet) =
      text.toList.splitOnP (isSlash true) :=
    (List.map_congr_left fun s hs => percentEncode_eq_self (hpieces s hs)).trans (List.map_id _)
  have htext : segmentsText (text.toList.splitOnP (isSlash true)) = "/" ++ text := by
    rw [segmentsText, flatMap_splitOnP fun c hc => (inert_of_isPlain (h.plain c hc)).backslash]
    exact String.toList_inj.mp (by simp)
  rw [pathBelow, hencoded, addSegments_of_no_dot fun s hs => no_dot (hpieces s hs),
    segmentsText_append, htext]
  exact String.toList_inj.mp (by simp [segmentsText])

/-- A plain path is read as a path, without a query or a fragment. -/
theorem relative_eq (h : PlainPath text.toList) (u : Url) : u.relative text.toList =
    .ok { u with path := pathBelow true (level u.path) text.toList, query := none,
                 fragment := none } := by
  have hchars := fun c hc => inert_of_isPlain (h.plain c hc)
  have hdivide : divide text.toList = (text.toList, none, none) :=
    divide_of_path fun c hc => ⟨(hchars c hc).query, (hchars c hc).fragment⟩
  obtain ⟨c, rest, hcons, hslash⟩ := h.start
  have hc := hchars c (by simp [hcons])
  have hnone : (text.toList.takeWhile (isSlash true)).length = 0 := by
    rw [hcons, List.takeWhile_cons_of_neg (by simp [isSlash, hslash, hc.backslash])]
    rfl
  rw [relative, hnone, if_neg (by decide), if_neg (by decide), withRest, hdivide]
  · rfl
  · exact fun hempty => by simp [hempty] at hcons
  · exact fun after heq => hc.fragment (List.cons.inj (hcons.symm.trans heq)).1
  · exact fun after heq => hc.query (List.cons.inj (hcons.symm.trans heq)).1

end PlainPath

/-- **A plain path stands below its base as it is.** -/
theorem join_plain {u : Url} (hbase : u.path = "/rest/") {text : String}
    (h : PlainPath text.toList) :
    u.join text = .ok { u with path := "/rest/" ++ text, query := none, fragment := none } := by
  have hlevel : level u.path = ["rest".toList] := by rw [hbase]; decide
  rw [join, h.significant_eq_self, h.readScheme_eq_none]
  show u.relative text.toList = _
  rw [h.relative_eq, hlevel, h.pathBelow_eq]

end RouterMetrics.Net.Url

import RouterMetrics.Proofs.Dict
import RouterMetrics.Proofs.Json.Documents

/-!
# Reading inverts writing

A value whose numbers are whole and fit a word, and whose objects are in order, is read back from
its compact form when it nests lists and objects no deeper than a document may
(`Json.Exact.read_compact`). Parts of a value are read back whatever stands behind them that does
not go on with a number (`Json.Exact.readsBack`), since numbers alone have no closing mark.
-/

namespace RouterMetrics.Json

variable {room depth : Nat} {c : Char} {cs rest : List Char} {v : Json}

/-! ## Numbers -/

/-- A text that begins with no character of a number. -/
def EndsNumber (rest : List Char) : Prop :=
  ∀ c ∈ rest.head?, c.isDigit = false ∧ c ≠ '.' ∧ c ≠ 'e' ∧ c ≠ 'E'

/-- More digits do not make a number smaller. -/
theorem le_foldl_digits (ds : List Char) (w : Nat) :
    w ≤ ds.foldl (fun n c => 10 * n + Text.digitValue c) w := by
  induction ds generalizing w with
  | nil => exact Nat.le_refl w
  | cons d ds ih => exact Nat.le_trans (by omega) (ih (10 * w + Text.digitValue d))

/-- Digits of a word are read to their end. -/
theorem wordDigits_append {ds : List Char} (digits : ∀ c ∈ ds, c.isDigit = true)
    (ends : ∀ c ∈ rest.head?, c.isDigit = false) {w : Nat} (k : Nat)
    (fits : ds.foldl (fun n c => 10 * n + Text.digitValue c) w < wordSize) :
    wordDigits w k (ds ++ rest) =
      (ds.foldl (fun n c => 10 * n + Text.digitValue c) w, k + ds.length, rest) := by
  induction ds generalizing w k with
  | nil =>
    cases rest with
    | nil => rfl
    | cons c rest =>
      have hc : c.isDigit = false := ends c rfl
      simp [wordDigits, hc]
  | cons d ds ih =>
    obtain ⟨hd, hds⟩ := List.forall_mem_cons.mp digits
    rw [List.foldl_cons] at fits ⊢
    have hword : w * 10 + Text.digitValue d = 10 * w + Text.digitValue d := by omega
    have hfits := Nat.lt_of_le_of_lt (le_foldl_digits ds _) fits
    rw [List.cons_append, wordDigits, hword, hd, Bool.true_and, if_pos (by simpa using hfits),
      ih hds (k + 1) fits, List.length_cons, Nat.add_assoc, Nat.add_comm 1]

theorem spanDigits_of_ends (ends : EndsNumber rest) :
    Text.spanDigits rest = ([], rest) := by
  have hspan : Text.spanDigits ([] ++ rest) = ([], rest) :=
    Text.spanDigits_append nofun fun c hc => (ends c hc).1
  rwa [List.nil_append] at hspan

/-- A number of a word is read back, and what stands behind it is left. -/
theorem number_digits {negative : Bool} {n : Nat} (fits : n < wordSize)
    (below : negative = true → n ≠ 0 ∧ n ≤ 1 <<< 63) (ends : EndsNumber rest) :
    number negative (Text.digits n ++ rest) =
      some (.int (if negative then -(n : Int) else n), rest) := by
  obtain ⟨c, tail, hcs⟩ := List.exists_cons_of_ne_nil (Text.digits_ne_nil n)
  have hall : ∀ d ∈ c :: tail, d.isDigit = true := fun d hd =>
    Text.isDigit_of_mem_digits (hcs ▸ hd)
  have hends : ∀ d ∈ rest.head?, d.isDigit = false := fun d hd => (ends d hd).1
  have hc : c.isDigit = true := hall c List.mem_cons_self
  have hfold : (c :: tail).foldl (fun n c => 10 * n + Text.digitValue c) 0 = n := by
    rw [← hcs]
    exact Text.numberOf_digits n
  have hword : wordDigits 0 0 (c :: (tail ++ rest)) = (n, 0 + (c :: tail).length, rest) := by
    rw [← List.cons_append, wordDigits_append hall hends 0 (by rwa [hfold]), hfold]
  have hzero : c = '0' → n = 0 ∧ tail = [] := by
    rintro rfl
    rcases Nat.eq_zero_or_pos n with rfl | hpos
    · exact ⟨rfl, (List.cons.inj (hcs.symm.trans Text.digits_zero)).2⟩
    · exact absurd (by rw [hcs]; rfl) (Text.head?_digits_ne_zero hpos)
  have hread : (if c == '0' then (0, 1, tail ++ rest) else wordDigits 0 0 (c :: (tail ++ rest))) =
      (n, (c :: tail).length, rest) := by
    by_cases hc0 : c = '0'
    · obtain ⟨rfl, rfl⟩ := hzero hc0
      simp [hc0]
    · simp [hc0, hword]
  have hlead : (c == '0' && ((tail ++ rest).head?.map Char.isDigit).getD false) = false := by
    by_cases hc0 : c = '0'
    · obtain ⟨-, rfl⟩ := hzero hc0
      cases rest with
      | nil => simp
      | cons d rest => simp [hends d rfl]
    · simp [hc0]
  have hmark : (rest.head?.map fun c => c == 'e' || c == 'E').getD false = false := by
    cases rest with
    | nil => rfl
    | cons d rest =>
      obtain ⟨-, -, he, hE⟩ := ends d rfl
      simp [he, hE]
  rw [hcs, List.cons_append]
  simp only [number, hc, hread, hlead, spanDigits_of_ends ends]
  have hlast : (if !negative then some (Json.int n, rest)
      else if n == 0 || n > 1 <<< 63 then some (.float (-(Decimal.nearest n 0)), rest)
      else some (.int (-(n : Int)), rest)) =
        some (.int (if negative then -(n : Int) else n), rest) := by
    cases negative with
    | false => rfl
    | true =>
      obtain ⟨hsome, hle⟩ := below rfl
      have hbig : (n == 0 || decide (n > 1 <<< 63)) = false :=
        Bool.or_eq_false_iff.mpr ⟨by simpa using hsome, decide_eq_false (Nat.not_lt.mpr hle)⟩
      rw [hbig]
      rfl
  rw [if_neg (by decide), if_neg (by decide)]
  split
  case h_1 r => exact absurd rfl (ends '.' rfl).2.1
  case h_2 => rw [hmark]; exact hlast

/-! ## Texts -/

theorem hexValue?_hexDigit : ∀ n < 16, Text.hexValue? (hexDigit n) = some n := by decide

theorem escape_control (h : c.toNat < 32) (rest : List Char) :
    escape ('u' :: '0' :: '0' :: hexDigit (c.toNat / 16) :: hexDigit (c.toNat % 16) :: rest) =
      some (c, rest) := by
  have hhigh := hexValue?_hexDigit (c.toNat / 16) (by omega)
  have hlow := hexValue?_hexDigit (c.toNat % 16) (by omega)
  have hzero : Text.hexValue? '0' = some 0 := rfl
  have hcode : ((0 * 16 + 0) * 16 + c.toNat / 16) * 16 + c.toNat % 16 = c.toNat := by omega
  have hhex : hex4 ('0' :: '0' :: hexDigit (c.toNat / 16) :: hexDigit (c.toNat % 16) :: rest) =
      some (c.toNat, rest) := by
    simp only [hex4, hzero, hhigh, hlow, hcode, Option.bind_eq_bind, Option.bind_some]
  have hlead : ¬ (0xd800 ≤ c.toNat ∧ c.toNat < 0xdc00) := by omega
  have htrail : ¬ (0xdc00 ≤ c.toNat ∧ c.toNat < 0xe000) := by omega
  simp only [escape, unicodeEscape, hhex, Option.bind_eq_bind, Option.bind_some, Bool.and_eq_true,
    decide_eq_true_eq, hlead, htrail, if_false, Char.ofNat_toNat]

theorem hexDigit_lt : ∀ n < 16, (hexDigit n).toNat < 128 := by decide

/-- A character is quoted by an escape in ASCII that stands for it, or it stands for itself. -/
theorem quoteChar_cases (c : Char) :
    (∃ cs, quoteChar c = '\\' :: cs ∧ (∀ d ∈ cs, d.toNat < 128) ∧
        ∀ rest, escape (cs ++ rest) = some (c, rest)) ∨
      (quoteChar c = [c] ∧ c ≠ '"' ∧ c ≠ '\\' ∧ ¬ c.toNat < 32) := by
  unfold quoteChar
  by_cases hquote : c = '"'
  · subst hquote
    exact .inl ⟨_, rfl, by simp, fun _ => rfl⟩
  by_cases hback : c = '\\'
  · subst hback
    exact .inl ⟨_, rfl, by simp, fun _ => rfl⟩
  rw [if_neg hquote, if_neg hback]
  split_ifs with hb hf hn hr ht hcontrol
  · exact .inl ⟨_, rfl, by simp, fun _ => by rw [← Char.ofNat_toNat c, hb]; rfl⟩
  · exact .inl ⟨_, rfl, by simp, fun _ => by rw [← Char.ofNat_toNat c, hf]; rfl⟩
  · exact .inl ⟨_, rfl, by simp, fun _ => by rw [hn]; rfl⟩
  · exact .inl ⟨_, rfl, by simp, fun _ => by rw [hr]; rfl⟩
  · exact .inl ⟨_, rfl, by simp, fun _ => by rw [ht]; rfl⟩
  · refine .inl ⟨_, rfl, ?_, escape_control hcontrol⟩
    have hhigh := hexDigit_lt (c.toNat / 16) (by omega)
    have hlow := hexDigit_lt (c.toNat % 16) (by omega)
    simpa using ⟨hhigh, hlow⟩
  · exact .inr ⟨rfl, hquote, hback, hcontrol⟩

/-- A character that is quoted is read back. -/
theorem textBody_quoteChar (room : Nat) (c : Char) (rest : List Char) :
    textBody (room + 1) (quoteChar c ++ rest) =
      (textBody room rest).map fun found => (c :: found.1, found.2) := by
  rcases quoteChar_cases c with ⟨cs, hcs, -, hescape⟩ | ⟨hself, hquote, hback, hcontrol⟩
  · rw [hcs, List.cons_append, textBody, if_neg (by decide), if_pos rfl, hescape rest]
    cases hbody : textBody room rest with
    | none => simp [hbody]
    | some found => simp [hbody]
  · rw [hself, List.singleton_append, textBody, if_neg hquote, if_neg hback, if_neg hcontrol]
    cases hbody : textBody room rest with
    | none => rfl
    | some found => rfl

/-- A text is read back up to its closing quote. -/
theorem textBody_quoted (h : cs.length < room) (rest : List Char) :
    textBody room (cs.flatMap quoteChar ++ '"' :: rest) = some (cs, rest) := by
  induction cs generalizing room with
  | nil =>
    obtain ⟨room, rfl⟩ : ∃ n, room = n + 1 := ⟨room - 1, by rw [List.length_nil] at h; omega⟩
    rfl
  | cons c cs ih =>
    obtain ⟨room, rfl⟩ : ∃ n, room = n + 1 := ⟨room - 1, by rw [List.length_cons] at h; omega⟩
    rw [List.flatMap_cons, List.append_assoc, textBody_quoteChar, ih (Nat.lt_of_succ_lt_succ h)]
    rfl

theorem quoted_quote {s : String} (h : s.toList.length < room) (rest : List Char) :
    quoted room (s.toList.flatMap quoteChar ++ '"' :: rest) = some (s, rest) := by
  rw [quoted, textBody_quoted h, Option.map_some]
  simp only [String.ofList_toList]

/-! ## Values -/

/-- A value that a document tells exactly: without doubles, its whole numbers in the range of a
word, its objects in order, the characters of its texts of one kind, and lists and objects nested
at most a number of times. -/
inductive Exact (p : Char → Prop) : Nat → Json → Prop
  | null (n : Nat) : Exact p n .null
  | bool (n : Nat) (b : Bool) : Exact p n (.bool b)
  | int (n : Nat) {i : Int} : -(1 <<< 63 : Nat) ≤ i → i < (1 <<< 64 : Nat) → Exact p n (.int i)
  | text (n : Nat) {s : String} : (∀ c ∈ s.toList, p c) → Exact p n (.text s)
  | list {n : Nat} {items : List Json} : (∀ v ∈ items, Exact p n v) → Exact p (n + 1) (.list items)
  | object {n : Nat} {members : List (String × Json)} : Assoc.Ordered members →
      (∀ m ∈ members, ∀ c ∈ m.1.toList, p c) → (∀ m ∈ members, Exact p n m.2) →
      Exact p (n + 1) (.object members)

theorem skipSpace_cons (h : isSpace c = false) (cs : List Char) :
    skipSpace (c :: cs) = c :: cs := by
  rw [skipSpace, List.dropWhile_cons_of_neg (by simp [h])]

theorem isSpace_of_isDigit (h : c.isDigit = true) : isSpace c = false := by
  simp only [isSpace, Bool.or_eq_false_iff, beq_eq_false_iff_ne]
  refine ⟨⟨⟨?_, ?_⟩, ?_⟩, ?_⟩
  all_goals
    rintro rfl
    exact absurd h (by decide)

theorem value_digit (h : c.isDigit = true) :
    value room depth (c :: cs) = number false (c :: cs) := by
  have hmarks : ∀ d ∈ marks, d.isDigit = false := List.all_iff_forall_prop.mp rfl
  refine value_of_no_mark (skipSpace_cons (isSpace_of_isDigit h) cs) fun hmem => ?_
  rw [hmarks c hmem] at h
  cases h

theorem value_quote : value room depth ('"' :: cs) =
    (quoted room cs).map fun found => (.text found.1, found.2) := by
  unfold value
  rfl

theorem value_minus : value room depth ('-' :: cs) = number true cs := by
  unfold value
  rfl

theorem value_list : value room (depth + 1) ('[' :: cs) = listBody room (value room depth) cs := by
  rw [value]
  rfl

theorem value_object :
    value room (depth + 1) ('\x7b' :: cs) = objectBody room (value room depth) cs := by
  rw [value]
  rfl


theorem value_int {i : Int} (low : -(1 <<< 63 : Nat) ≤ i) (high : i < (1 <<< 64 : Nat))
    (ends : EndsNumber rest) :
    value room depth (intChars i ++ rest) = some (.int i, rest) := by
  have hword : wordSize = 1 <<< 64 := rfl
  rw [intChars]
  split
  case isTrue hneg =>
    have hsome : i.natAbs ≠ 0 ∧ i.natAbs ≤ 1 <<< 63 := by omega
    have hbelow : (1 <<< 63 : Nat) < 1 <<< 64 := by decide
    rw [List.cons_append, value_minus, number_digits (by omega) (fun _ => hsome) ends, if_pos rfl]
    congr
    omega
  case isFalse hneg =>
    obtain ⟨c, tail, hcs⟩ := List.exists_cons_of_ne_nil (Text.digits_ne_nil i.natAbs)
    have hdigit : c.isDigit = true := Text.isDigit_of_mem_digits (hcs ▸ List.mem_cons_self)
    have hread : number false (Text.digits i.natAbs ++ rest) = some (.int i.natAbs, rest) :=
      number_digits (by omega) nofun ends
    rw [hcs, List.cons_append] at hread ⊢
    rw [value_digit hdigit, hread, Int.natAbs_of_nonneg (by omega)]

/-! ## Lists and objects -/

/-- A value is read back from its written form, whatever stands behind it that ends a number. -/
def ReadsBack (read : ValueReader) (v : Json) : Prop :=
  ∀ rest, EndsNumber rest → read (v.write ++ rest) = some (v, rest)

theorem endsNumber_cons (h : c = ',' ∨ c = ']' ∨ c = '\x7d') : EndsNumber (c :: rest) := by
  rintro d ⟨⟩
  rcases h with rfl | rfl | rfl
  all_goals decide

theorem writeItems_cons (v : Json) (items : List Json) :
    writeItems (v :: items) = v.write ++ items.flatMap fun v => ',' :: v.write := by
  induction items generalizing v with
  | nil => simp [writeItems]
  | cons v' items ih => rw [writeItems, ih, List.flatMap_cons, List.cons_append]; simp

theorem moreItems_written {read : ValueReader} {items : List Json}
    (reads : ∀ v ∈ items, ReadsBack read v) {fuel : Nat} (h : items.length < fuel)
    (rest : List Char) :
    moreItems read fuel ((items.flatMap fun v => ',' :: v.write) ++ ']' :: rest) =
      some (items, rest) := by
  induction items generalizing fuel with
  | nil =>
    obtain ⟨fuel, rfl⟩ : ∃ n, fuel = n + 1 := ⟨fuel - 1, by rw [List.length_nil] at h; omega⟩
    rfl
  | cons v items ih =>
    obtain ⟨hv, hitems⟩ := List.forall_mem_cons.mp reads
    obtain ⟨fuel, rfl⟩ : ∃ n, fuel = n + 1 := ⟨fuel - 1, by rw [List.length_cons] at h; omega⟩
    have hends : EndsNumber ((items.flatMap fun v => ',' :: v.write) ++ ']' :: rest) := by
      cases items with
      | nil => exact endsNumber_cons (by simp)
      | cons => exact endsNumber_cons (by simp)
    rw [List.flatMap_cons, List.append_assoc, List.cons_append, moreItems,
      skipSpace_cons (by decide)]
    simp only [hv _ hends, ih hitems (Nat.lt_of_succ_lt_succ h), Option.bind_eq_bind,
      Option.bind_some]


/-- No written value begins with white space or a closing bracket. -/
theorem Exact.write_head {p : Char → Prop} {n : Nat} (h : Exact p n v) :
    ∃ c cs, v.write = c :: cs ∧ isSpace c = false ∧ c ≠ ']' := by
  cases h with
  | null => exact ⟨_, _, rfl, by decide⟩
  | bool n b =>
    cases b with
    | false => exact ⟨_, _, rfl, by decide⟩
    | true => exact ⟨_, _, rfl, by decide⟩
  | @int _ i =>
    rw [write, intChars]
    split
    case isTrue => exact ⟨_, _, rfl, by decide⟩
    case isFalse =>
      obtain ⟨c, tail, hcs⟩ := List.exists_cons_of_ne_nil (Text.digits_ne_nil i.natAbs)
      have hdigit : c.isDigit = true := Text.isDigit_of_mem_digits (hcs ▸ List.mem_cons_self)
      refine ⟨c, tail, hcs, isSpace_of_isDigit hdigit, ?_⟩
      rintro rfl
      cases hdigit
  | text => exact ⟨_, _, rfl, by decide⟩
  | list => exact ⟨_, _, rfl, by decide⟩
  | object => exact ⟨_, _, rfl, by decide⟩

theorem listBody_written {read : ValueReader} {items : List Json}
    (heads : ∀ v ∈ items, ∃ c cs, v.write = c :: cs ∧ isSpace c = false ∧ c ≠ ']')
    (reads : ∀ v ∈ items, ReadsBack read v) (h : items.length ≤ room) (rest : List Char) :
    listBody room read (writeItems items ++ ']' :: rest) = some (.list items, rest) := by
  cases items with
  | nil => rfl
  | cons v items =>
    obtain ⟨hv, hitems⟩ := List.forall_mem_cons.mp reads
    obtain ⟨c, cs, hcs, hspace, hclose⟩ := heads v List.mem_cons_self
    have hends : EndsNumber ((items.flatMap fun v => ',' :: v.write) ++ ']' :: rest) := by
      cases items with
      | nil => exact endsNumber_cons (by simp)
      | cons => exact endsNumber_cons (by simp)
    have hread := hv _ hends
    rw [writeItems_cons, List.append_assoc]
    rw [hcs, List.cons_append] at hread ⊢
    unfold listBody
    rw [skipSpace_cons hspace]
    split
    case h_1 heq => exact absurd (List.cons.inj heq).1 hclose
    case h_2 =>
      simp only [hread, moreItems_written hitems h rest, Option.bind_eq_bind, Option.bind_some]

/-- A member as it is written. -/
def writeMember (m : String × Json) : List Char := quote m.1 ++ ':' :: m.2.write

theorem writeMembers_cons (m : String × Json) (members : List (String × Json)) :
    writeMembers (m :: members) =
      writeMember m ++ members.flatMap fun m => ',' :: writeMember m := by
  induction members generalizing m with
  | nil => simp [writeMembers, writeMember]
  | cons m' members ih =>
    rw [writeMembers, ih, List.flatMap_cons, List.cons_append]
    · simp [writeMember]
    · simp

theorem member_written {read : ValueReader} {m : String × Json}
    (reads : ReadsBack read m.2) (h : m.1.toList.length < room) (ends : EndsNumber rest) :
    member room read (writeMember m ++ rest) = some (m, rest) := by
  have hquote : writeMember m ++ rest =
      '"' :: (m.1.toList.flatMap quoteChar ++ '"' :: ':' :: (m.2.write ++ rest)) := by
    simp [writeMember, quote]
  rw [hquote, member, skipSpace_cons (by decide)]
  simp only [quoted_quote h, skipSpace_cons (show isSpace ':' = false by decide), reads rest ends,
    Option.bind_eq_bind, Option.bind_some]

theorem moreMembers_written {read : ValueReader} {members : List (String × Json)}
    (reads : ∀ m ∈ members, ReadsBack read m.2) (short : ∀ m ∈ members, m.1.toList.length < room)
    {fuel : Nat} (h : members.length < fuel) (rest : List Char) :
    moreMembers room read fuel ((members.flatMap fun m => ',' :: writeMember m) ++ '\x7d' :: rest) =
      some (members, rest) := by
  induction members generalizing fuel with
  | nil =>
    obtain ⟨fuel, rfl⟩ : ∃ n, fuel = n + 1 := ⟨fuel - 1, by rw [List.length_nil] at h; omega⟩
    rfl
  | cons m members ih =>
    obtain ⟨hm, hmembers⟩ := List.forall_mem_cons.mp reads
    obtain ⟨hshort, hrest⟩ := List.forall_mem_cons.mp short
    obtain ⟨fuel, rfl⟩ : ∃ n, fuel = n + 1 := ⟨fuel - 1, by rw [List.length_cons] at h; omega⟩
    have hends :
        EndsNumber ((members.flatMap fun m => ',' :: writeMember m) ++ '\x7d' :: rest) := by
      cases members with
      | nil => exact endsNumber_cons (by simp)
      | cons => exact endsNumber_cons (by simp)
    rw [List.flatMap_cons, List.append_assoc, List.cons_append, moreMembers,
      skipSpace_cons (by decide)]
    simp only [member_written hm hshort hends, ih hmembers hrest (Nat.lt_of_succ_lt_succ h),
      Option.bind_eq_bind, Option.bind_some]

theorem ofMembers_of_ordered {members : List (String × Json)} (h : Assoc.Ordered members) :
    ofMembers members = .object members := by
  have hentries : ∀ (l : List (String × Json)) (d : Dict Json),
      (l.foldl (fun d e => d.insert e.1 e.2) d).entries =
        l.foldl (fun acc m => Assoc.put m.1 m.2 acc) d.entries := by
    intro l
    induction l with
    | nil => exact fun _ => rfl
    | cons e l ih => exact fun d => ih (d.insert e.1 e.2)
  have hsame := congrArg Dict.entries (Dict.ofList_toList ⟨members, h⟩)
  rw [Dict.ofList, hentries] at hsame
  exact congrArg Json.object hsame

theorem objectBody_written {read : ValueReader} {members : List (String × Json)}
    (ordered : Assoc.Ordered members) (reads : ∀ m ∈ members, ReadsBack read m.2)
    (short : ∀ m ∈ members, m.1.toList.length < room) (h : members.length ≤ room)
    (rest : List Char) :
    objectBody room read (writeMembers members ++ '\x7d' :: rest) =
      some (.object members, rest) := by
  cases members with
  | nil => rfl
  | cons m members =>
    obtain ⟨hm, hmembers⟩ := List.forall_mem_cons.mp reads
    obtain ⟨hshort, hrest⟩ := List.forall_mem_cons.mp short
    have hends :
        EndsNumber ((members.flatMap fun m => ',' :: writeMember m) ++ '\x7d' :: rest) := by
      cases members with
      | nil => exact endsNumber_cons (by simp)
      | cons => exact endsNumber_cons (by simp)
    have hread := member_written hm hshort hends
    have hhead : ∃ cs, writeMember m = '"' :: cs := ⟨_, rfl⟩
    obtain ⟨cs, hcs⟩ := hhead
    rw [writeMembers_cons, List.append_assoc]
    rw [hcs, List.cons_append] at hread ⊢
    unfold objectBody
    rw [skipSpace_cons (by decide)]
    split
    case h_1 heq => cases heq
    case h_2 =>
      simp only [hread, moreMembers_written hmembers hrest h rest, Option.bind_eq_bind,
        Option.bind_some, ofMembers_of_ordered ordered]


/-! ## Characters -/

/-- What is written for a character is that character or ASCII. -/
theorem mem_quoteChar {d : Char} (h : d ∈ quoteChar c) : d = c ∨ d.toNat < 128 := by
  rcases quoteChar_cases c with ⟨cs, hcs, hascii, -⟩ | ⟨hself, -⟩
  · rw [hcs] at h
    exact .inr (List.forall_mem_cons.mpr ⟨by decide, hascii⟩ d h)
  · rw [hself] at h
    exact .inl (List.mem_singleton.mp h)

theorem mem_quote {s : String} (h : c ∈ quote s) : c ∈ s.toList ∨ c.toNat < 128 := by
  simp only [quote, List.cons_append, List.mem_cons, List.mem_append, List.mem_flatMap,
    List.not_mem_nil, or_false] at h
  rcases h with rfl | ⟨d, hd, hc⟩ | rfl
  · exact .inr (by decide)
  · rcases mem_quoteChar hc with rfl | hascii
    · exact .inl hd
    · exact .inr hascii
  · exact .inr (by decide)

theorem mem_intChars {i : Int} (h : c ∈ intChars i) : c.toNat < 128 := by
  have hdigit : ∀ c ∈ Text.digits i.natAbs, c.toNat < 128 := by
    intro c hc
    have hd := Text.isDigit_of_mem_digits hc
    rw [Char.isDigit, Bool.and_eq_true, decide_eq_true_eq, decide_eq_true_eq,
      UInt32.le_iff_toNat_le] at hd
    exact Nat.lt_of_le_of_lt hd.2 (by decide)
  unfold intChars at h
  split at h
  case isTrue => exact List.forall_mem_cons.mpr ⟨by decide, hdigit⟩ c h
  case isFalse => exact hdigit c h

theorem mem_writeItems {items : List Json} (h : c ∈ writeItems items) :
    (∃ v ∈ items, c ∈ v.write) ∨ c = ',' := by
  cases items with
  | nil => cases h
  | cons v items =>
    rw [writeItems_cons, List.mem_append, List.mem_flatMap] at h
    rcases h with hc | ⟨v', hv', hc⟩
    · exact .inl ⟨v, List.mem_cons_self, hc⟩
    · rcases List.mem_cons.mp hc with rfl | hc
      · exact .inr rfl
      · exact .inl ⟨v', List.mem_cons_of_mem _ hv', hc⟩

theorem mem_writeMember {m : String × Json} (h : c ∈ writeMember m) :
    (c ∈ quote m.1 ∨ c ∈ m.2.write) ∨ c = ':' := by
  rw [writeMember, List.mem_append, List.mem_cons] at h
  rcases h with hc | rfl | hc
  · exact .inl (.inl hc)
  · exact .inr rfl
  · exact .inl (.inr hc)

theorem mem_writeMembers {members : List (String × Json)} (h : c ∈ writeMembers members) :
    (∃ m ∈ members, c ∈ quote m.1 ∨ c ∈ m.2.write) ∨ c = ':' ∨ c = ',' := by
  cases members with
  | nil => cases h
  | cons m members =>
    rw [writeMembers_cons, List.mem_append, List.mem_flatMap] at h
    rcases h with hc | ⟨m', hm', hc⟩
    · exact (mem_writeMember hc).imp (fun hc => ⟨m, List.mem_cons_self, hc⟩) .inl
    · rcases List.mem_cons.mp hc with rfl | hc
      · exact .inr (.inr rfl)
      · exact (mem_writeMember hc).imp (fun hc => ⟨m', List.mem_cons_of_mem _ hm', hc⟩) .inl

/-- **A value is written with the characters of its texts and those of ASCII.** -/
theorem Exact.chars {p : Char → Prop} (ascii : ∀ c : Char, c.toNat < 128 → p c) {n : Nat}
    (h : Exact p n v) : ∀ c ∈ v.write, p c := by
  induction h with
  | null =>
    have hall : ∀ c ∈ Json.null.write, c.toNat < 128 := List.all_iff_forall_prop.mp rfl
    exact fun c hc => ascii c (hall c hc)
  | bool n b =>
    have hall : ∀ c ∈ (Json.bool b).write, c.toNat < 128 := by
      cases b <;> exact List.all_iff_forall_prop.mp rfl
    exact fun c hc => ascii c (hall c hc)
  | int => exact fun c hc => ascii c (mem_intChars hc)
  | text n htext => exact fun c hc => (mem_quote hc).elim (htext c) (ascii c)
  | @list n items _ ih =>
    intro c hc
    simp only [write, List.cons_append, List.mem_cons, List.mem_append, List.not_mem_nil,
      or_false] at hc
    rcases hc with rfl | hc | rfl
    · exact ascii _ (by decide)
    · rcases mem_writeItems hc with ⟨v, hv, hc⟩ | rfl
      · exact ih v hv c hc
      · exact ascii _ (by decide)
    · exact ascii _ (by decide)
  | @object n members _ hkeys _ ih =>
    intro c hc
    simp only [write, List.cons_append, List.mem_cons, List.mem_append, List.not_mem_nil,
      or_false] at hc
    rcases hc with rfl | hc | rfl
    · exact ascii _ (by decide)
    · rcases mem_writeMembers hc with ⟨m, hm, hc | hc⟩ | hc
      · exact (mem_quote hc).elim (hkeys m hm c) (ascii c)
      · exact ih m hm c hc
      · rcases hc with rfl | rfl
        · exact ascii _ (by decide)
        · exact ascii _ (by decide)
    · exact ascii _ (by decide)

/-! ## Room for a value -/

theorem length_le_flatMap {α β : Type} {f : α → List β} {l : List α}
    (h : ∀ a ∈ l, f a ≠ []) : l.length ≤ (l.flatMap f).length := by
  induction l with
  | nil => exact Nat.le_refl 0
  | cons a l ih =>
    obtain ⟨ha, hl⟩ := List.forall_mem_cons.mp h
    have hsome := List.length_pos_of_ne_nil ha
    have hrest := ih hl
    rw [List.flatMap_cons, List.length_append, List.length_cons]
    omega

theorem length_flatMap_of_mem {α β : Type} (f : α → List β) {l : List α} {a : α} (h : a ∈ l) :
    (f a).length ≤ (l.flatMap f).length := by
  rw [List.flatMap_def]
  exact (List.sublist_flatten_of_mem (List.mem_map_of_mem h)).length_le

theorem quoteChar_ne_nil (c : Char) : quoteChar c ≠ [] := by
  rcases quoteChar_cases c with ⟨cs, hcs, -⟩ | ⟨hself, -⟩
  · rw [hcs]
    exact List.cons_ne_nil _ _
  · rw [hself]
    exact List.cons_ne_nil _ _

theorem length_quote (s : String) : s.toList.length + 2 ≤ (quote s).length := by
  have hchars := length_le_flatMap fun c (_ : c ∈ s.toList) => quoteChar_ne_nil c
  simp only [quote, List.length_append, List.length_cons, List.length_nil]
  omega

theorem length_writeItems (items : List Json) :
    items.length ≤ (writeItems items).length + 1 ∧
      ∀ v ∈ items, v.write.length ≤ (writeItems items).length := by
  cases items with
  | nil => simp
  | cons v items =>
    have hcount := length_le_flatMap (f := fun v => ',' :: write v) (l := items)
      fun v _ => List.cons_ne_nil _ _
    rw [writeItems_cons, List.length_append]
    refine ⟨by rw [List.length_cons]; omega, List.forall_mem_cons.mpr ⟨by omega, ?_⟩⟩
    intro v' hv'
    have hone := length_flatMap_of_mem (fun v => ',' :: write v) hv'
    rw [List.length_cons] at hone
    omega

theorem length_writeMembers (members : List (String × Json)) :
    members.length ≤ (writeMembers members).length + 1 ∧
      ∀ m ∈ members, (writeMember m).length ≤ (writeMembers members).length := by
  cases members with
  | nil => simp
  | cons m members =>
    have hcount := length_le_flatMap (f := fun m => ',' :: writeMember m) (l := members)
      fun m _ => List.cons_ne_nil _ _
    rw [writeMembers_cons, List.length_append]
    refine ⟨by rw [List.length_cons]; omega, List.forall_mem_cons.mpr ⟨by omega, ?_⟩⟩
    intro m' hm'
    have hone := length_flatMap_of_mem (fun m => ',' :: writeMember m) hm'
    rw [List.length_cons] at hone
    omega

/-- **A value is read back from its written form** where it may nest so deep, in room that is longer
than the form. -/
theorem Exact.readsBack {p : Char → Prop} {n : Nat} (h : Exact p n v)
    (deep : n ≤ depth) (long : v.write.length < room) : ReadsBack (value room depth) v := by
  induction h generalizing depth with
  | null =>
    intro rest _
    rw [value]
    rfl
  | bool n b =>
    intro rest _
    rw [value]
    cases b with
    | false => rfl
    | true => rfl
  | int n low high => exact fun rest ends => value_int low high ends
  | @text n s =>
    intro rest _
    have hlength := length_quote s
    have hquote : (Json.text s).write ++ rest =
        '"' :: (s.toList.flatMap quoteChar ++ '"' :: rest) := by
      simp [write, quote]
    rw [write] at long
    rw [hquote, value_quote, quoted_quote (by omega)]
    rfl
  | @list n items hitems ih =>
    intro rest _
    obtain ⟨depth, rfl⟩ : ∃ d, depth = d + 1 := ⟨depth - 1, by omega⟩
    obtain ⟨hcount, heach⟩ := length_writeItems items
    have hlist : (Json.list items).write ++ rest = '[' :: (writeItems items ++ ']' :: rest) := by
      simp [write]
    have hlength : (Json.list items).write.length = (writeItems items).length + 2 := by
      simp [write]
    rw [hlist, value_list]
    refine listBody_written (fun v hv => (hitems v hv).write_head) (fun v hv => ?_) (by omega) rest
    have hone := heach v hv
    exact ih v hv (by omega) (by omega)
  | @object n members ordered hkeys hmembers ih =>
    intro rest _
    obtain ⟨depth, rfl⟩ : ∃ d, depth = d + 1 := ⟨depth - 1, by omega⟩
    obtain ⟨hcount, heach⟩ := length_writeMembers members
    have hobject : (Json.object members).write ++ rest =
        '\x7b' :: (writeMembers members ++ '\x7d' :: rest) := by
      simp [write]
    have hlength : (Json.object members).write.length = (writeMembers members).length + 2 := by
      simp [write]
    have hmember : ∀ m ∈ members, m.1.toList.length < room ∧ m.2.write.length < room := by
      intro m hm
      have hone := heach m hm
      have hquote := length_quote m.1
      rw [writeMember, List.length_append, List.length_cons] at hone
      omega
    rw [hobject, value_object]
    refine objectBody_written ordered (fun m hm => ?_) (fun m hm => (hmember m hm).1) (by omega)
      rest
    exact ih m hm (by omega) (hmember m hm).2

/-- **A document is read back from its compact form.** -/
theorem Exact.read_compact {p : Char → Prop} {n : Nat} (h : Exact p n v) (deep : n ≤ depthLimit) :
    read v.compact = some v := by
  have hback : value (v.write.length + 1) depthLimit (v.write ++ []) = some (v, []) :=
    h.readsBack deep (Nat.lt_succ_self _) [] nofun
  rw [List.append_nil] at hback
  rw [read, compact, String.toList_ofList, readChars, hback]
  rfl

end RouterMetrics.Json

import Mathlib.Data.List.Chain
import Mathlib.Data.List.TakeWhile
import RouterMetrics.Config.Environment

/-!
# References are replaced in one pass

A reference is read off the head of a text exactly where one is written
(`Config.readReference_eq_some_iff`), and what follows it is read on its own. So a text that is put
together of pieces comes to what its pieces come to, and a text without a reference stays as it is
(`Config.references_replaced`). What is put in for a reference is never read again.
-/

namespace RouterMetrics.Config

variable {env : Environment} {cs name rest : List Char} {fallback : Option (List Char)}
  {r : Reference}

/-! ## Written references -/

/-- A variable's name: letters and digits of ASCII and underscores, with no digit first. -/
def IsName (name : List Char) : Prop :=
  ∃ c later, name = c :: later ∧ isNameStart c = true ∧ ∀ d ∈ later, isNameChar d = true

/-- A default that can be written, which is one without a closing brace, or none. -/
def IsFallback (fallback : Option (List Char)) : Prop := ∀ d ∈ fallback, '\x7d' ∉ d

/-- What is written behind the name. -/
def ending : Option (List Char) → List Char
  | none => ['\x7d']
  | some d => ':' :: '-' :: d ++ ['\x7d']

/-- A reference as it is written. -/
def marked (name : List Char) (fallback : Option (List Char)) : List Char :=
  '$' :: '\x7b' :: name ++ ending fallback

theorem readName_append (h : IsName name) (hrest : ∀ c ∈ rest.head?, isNameChar c = false) :
    readName (name ++ rest) = some (name, rest) := by
  obtain ⟨c, later, rfl, hc, hlater⟩ := h
  have hstop : rest.takeWhile isNameChar = [] ∧ rest.dropWhile isNameChar = rest := by
    cases rest with
    | nil => exact ⟨rfl, rfl⟩
    | cons d rest => simp [hrest d rfl]
  rw [List.cons_append, readName, if_pos hc, List.takeWhile_append_of_pos hlater,
    List.dropWhile_append_of_pos hlater, hstop.1, hstop.2, List.append_nil]

theorem readName_eq_some (h : readName cs = some (name, rest)) :
    IsName name ∧ cs = name ++ rest := by
  cases cs with
  | nil => cases h
  | cons c later =>
    rw [readName] at h
    split at h
    case isFalse => cases h
    case isTrue hc =>
      cases h
      exact ⟨⟨c, _, rfl, hc, fun d hd => List.mem_takeWhile_imp hd⟩, by simp⟩

theorem head?_ending (fallback : Option (List Char)) (rest : List Char) :
    ∀ c ∈ (ending fallback ++ rest).head?, isNameChar c = false := by
  cases fallback with
  | none =>
    rintro _ ⟨⟩
    rfl
  | some d =>
    rintro _ ⟨⟩
    rfl

theorem readFallback_ending (h : IsFallback fallback) (rest : List Char) :
    readFallback (ending fallback ++ rest) = some (fallback.getD [], rest) := by
  cases fallback with
  | none => rfl
  | some d =>
    have hbrace : ∀ c ∈ d, (c != '\x7d') = true := fun c hc =>
      bne_iff_ne.mpr fun heq => h d rfl (heq ▸ hc)
    have hending : ending (some d) ++ rest = ':' :: '-' :: (d ++ '\x7d' :: rest) := by
      simp [ending]
    rw [hending, readFallback, List.dropWhile_append_of_pos hbrace,
      List.takeWhile_append_of_pos hbrace]
    simp

theorem readFallback_eq_some {d : List Char} (h : readFallback cs = some (d, rest)) :
    ∃ fallback, IsFallback fallback ∧ fallback.getD [] = d ∧ cs = ending fallback ++ rest := by
  unfold readFallback at h
  split at h
  case h_1 =>
    cases h
    exact ⟨none, nofun, rfl, rfl⟩
  case h_2 cs =>
    split at h
    case h_1 => cases h
    case h_2 c later hdrop =>
      cases h
      -- the default goes up to the first brace
      have hc : c = '\x7d' := by
        have hhead := List.head?_dropWhile_not (· != '\x7d') cs
        simpa [hdrop] using hhead
      refine ⟨some (cs.takeWhile (· != '\x7d')), ?_, rfl, ?_⟩
      · rintro _ ⟨⟩ hmem
        simpa using List.mem_takeWhile_imp hmem
      · have hsplit := List.takeWhile_append_dropWhile (p := (· != '\x7d')) (l := cs)
        rw [hdrop, hc] at hsplit
        simp [ending, hsplit]
  case h_3 => cases h

/-- **A reference is read exactly where one is written.** -/
theorem readReference_eq_some_iff : readReference cs = some (r, rest) ↔
    ∃ fallback, IsName r.name ∧ IsFallback fallback ∧ fallback.getD [] = r.fallback ∧
      cs = marked r.name fallback ++ rest := by
  constructor
  · intro h
    unfold readReference at h
    split at h
    case h_2 => cases h
    case h_1 cs =>
      obtain ⟨⟨name, cs'⟩, hname, h⟩ := Option.bind_eq_some_iff.mp h
      obtain ⟨⟨d, rest'⟩, hfallback, h⟩ := Option.bind_eq_some_iff.mp h
      cases h
      obtain ⟨isName, rfl⟩ := readName_eq_some hname
      obtain ⟨fallback, isFallback, rfl, rfl⟩ := readFallback_eq_some hfallback
      exact ⟨fallback, isName, isFallback, rfl, by simp [marked]⟩
  · rintro ⟨fallback, isName, isFallback, hfallback, rfl⟩
    have hcs : marked r.name fallback ++ rest =
        '$' :: '\x7b' :: (r.name ++ (ending fallback ++ rest)) := by simp [marked]
    rw [hcs, readReference, readName_append isName (head?_ending fallback rest)]
    dsimp only [Option.bind_eq_bind, Option.bind_some]
    rw [readFallback_ending isFallback, hfallback]
    rfl

theorem length_of_readReference (h : readReference cs = some (r, rest)) :
    rest.length < cs.length := by
  obtain ⟨fallback, -, -, -, rfl⟩ := readReference_eq_some_iff.mp h
  simp [marked]
  omega

/-- No reference is read where no mark stands. -/
theorem readReference_of_no_mark (h : ¬ ['$', '\x7b'] <+: cs) : readReference cs = none := by
  unfold readReference
  split
  case h_1 cs => exact absurd (List.prefix_append ['$', '\x7b'] cs) h
  case h_2 => rfl

/-! ## One pass -/

/-- As many steps as characters suffice. -/
theorem expandChars_of_length_le {n m : Nat} (hn : cs.length ≤ n) (hm : cs.length ≤ m) :
    expandChars env n cs = expandChars env m cs := by
  induction n generalizing cs m with
  | zero =>
    obtain rfl := List.length_eq_zero_iff.mp (Nat.le_zero.mp hn)
    cases m <;> rfl
  | succ n ih =>
    cases cs with
    | nil => cases m <;> rfl
    | cons c cs =>
      obtain ⟨m, rfl⟩ : ∃ k, m = k + 1 := Nat.exists_eq_succ_of_ne_zero (by simp at hm; omega)
      rw [expandChars, expandChars]
      rw [List.length_cons] at hn hm
      cases hread : readReference (c :: cs) with
      | none => exact congrArg (c :: ·) (ih (by omega) (by omega))
      | some found =>
        have hlt := length_of_readReference hread
        rw [List.length_cons] at hlt
        exact congrArg (found.1.value env ++ ·) (ih (by omega) (by omega))

/-- The characters that a text comes to. -/
def expanded (env : Environment) (cs : List Char) : List Char := expandChars env cs.length cs

theorem expanded_of_readReference (h : readReference cs = some (r, rest)) :
    expanded env cs = r.value env ++ expanded env rest := by
  have hlt := length_of_readReference h
  cases cs with
  | nil => cases h
  | cons c cs =>
    rw [List.length_cons] at hlt
    rw [expanded, List.length_cons, expandChars, h]
    exact congrArg (r.value env ++ ·) (expandChars_of_length_le (by omega) le_rfl)

theorem expanded_cons {c : Char} (h : readReference (c :: cs) = none) :
    expanded env (c :: cs) = c :: expanded env cs := by
  rw [expanded, List.length_cons, expandChars, h]
  rfl

/-- A text that no reference is read in stays as it is. -/
theorem expanded_of_none (h : ∀ before later, cs = before ++ later → readReference later = none) :
    expanded env cs = cs := by
  induction cs with
  | nil => rfl
  | cons c cs ih =>
    rw [expanded_cons (h [] _ rfl), ih]
    rintro before later rfl
    exact h (c :: before) later rfl

/-! ## Pieces -/

/-- A piece of a text: a text that stands for itself, or a reference with a default or none. -/
inductive Piece
  | literal (text : String)
  | reference (name : String) (fallback : Option String)

namespace Piece

/-- A piece as it is written. -/
def text : Piece → String
  | literal text => text
  | reference name none => "$\x7b" ++ name ++ "\x7d"
  | reference name (some fallback) => "$\x7b" ++ name ++ ":-" ++ fallback ++ "\x7d"

/-- What a piece comes to: a reference to the variable's value, or to its default if the variable is
not set, which is empty if there is none. -/
def value (env : Environment) : Piece → String
  | literal text => text
  | reference name fallback =>
    match env.get? name with
    | some value => value
    | none => fallback.getD ""

/-- A piece that can be told: a text without the mark of a reference, or a reference with a proper
name and a default without a closing brace. -/
def IsProper : Piece → Prop
  | literal text => ¬ ['$', '\x7b'] <:+: text.toList
  | reference name fallback => IsName name.toList ∧ ∀ d ∈ fallback, '\x7d' ∉ d.toList

/-- A piece that stands for itself. -/
def IsLiteral : Piece → Prop
  | literal _ => True
  | reference _ _ => False

theorem toList_text_reference (name : String) (fallback : Option String) :
    (reference name fallback).text.toList =
      marked name.toList (fallback.map String.toList) := by
  cases fallback with
  | none => simp [text, marked, ending]
  | some d => simp [text, marked, ending]

theorem readReference_text {name : String} {fallback : Option String}
    (proper : (reference name fallback).IsProper) (rest : List Char) :
    readReference ((reference name fallback).text.toList ++ rest) =
      some (⟨name.toList, (fallback.getD "").toList⟩, rest) := by
  obtain ⟨isName, hbrace⟩ := proper
  refine readReference_eq_some_iff.mpr ⟨fallback.map String.toList, isName, ?_, ?_, ?_⟩
  · rintro _ hwritten
    obtain ⟨d, hd, rfl⟩ := Option.map_eq_some_iff.mp hwritten
    exact hbrace d hd
  · cases fallback <;> rfl
  · rw [toList_text_reference]

theorem value_reference (env : Environment) (name : String) (fallback : Option String) :
    Reference.value env ⟨name.toList, (fallback.getD "").toList⟩ =
      ((reference name fallback).value env).toList := by
  rw [Reference.value, value, String.ofList_toList]
  cases env.get? name <;> rfl

/-- A literal stays as it is when a reference or nothing follows it. -/
theorem expanded_literal {cs : List Char} (hcs : ¬ ['$', '\x7b'] <:+: cs)
    (hrest : rest.head? ≠ some '\x7b') : expanded env (cs ++ rest) = cs ++ expanded env rest := by
  induction cs with
  | nil => rfl
  | cons c cs ih =>
    have hmark : ¬ ['$', '\x7b'] <+: c :: (cs ++ rest) := by
      rw [List.cons_prefix_cons]
      rintro ⟨rfl, hbrace⟩
      cases cs with
      | nil =>
        obtain ⟨later, rfl⟩ := hbrace
        exact hrest rfl
      | cons d cs =>
        obtain ⟨rfl, -⟩ := List.cons_prefix_cons.mp hbrace
        exact hcs (List.prefix_append ['$', '\x7b'] cs).isInfix
    have hlater : ¬ ['$', '\x7b'] <:+: cs := fun hmarked =>
      hcs (hmarked.trans (List.suffix_cons c cs).isInfix)
    rw [List.cons_append, expanded_cons (readReference_of_no_mark hmark), ih hlater]
    rfl

/-- **Pieces come to what each of them comes to.** -/
theorem expanded_pieces {pieces : List Piece} (proper : ∀ p ∈ pieces, p.IsProper)
    (apart : pieces.IsChain fun p q => ¬ (p.IsLiteral ∧ q.IsLiteral)) :
    expanded env (pieces.flatMap fun p => p.text.toList) =
      pieces.flatMap fun p => (p.value env).toList := by
  induction pieces with
  | nil => rfl
  | cons p pieces ih =>
    obtain ⟨hp, hpieces⟩ := List.forall_mem_cons.mp proper
    obtain ⟨hnext, hapart⟩ := List.isChain_cons.mp apart
    rw [List.flatMap_cons, List.flatMap_cons, ← ih hpieces hapart]
    cases p with
    | reference name fallback =>
      rw [expanded_of_readReference (readReference_text hp _), value_reference]
    | literal text =>
      refine expanded_literal hp ?_
      -- a reference starts with its mark, not with a brace
      cases pieces with
      | nil => exact nofun
      | cons q pieces =>
        cases q with
        | literal text => exact absurd ⟨trivial, trivial⟩ (hnext _ rfl)
        | reference name fallback =>
          rw [List.flatMap_cons, toList_text_reference, marked]
          exact nofun

end Piece

/-- **References are replaced in one pass.** A text that is put together of texts without the mark
of a reference, no two of them side by side, and of references comes to its pieces in their order:
the texts as they are, and in place of a reference the value of its variable, also an empty one, or
its default when the variable is not set. Values and defaults are put in as they are. A text in
which no reference is written stays as it is. -/
theorem references_replaced (env : Environment) :
    (∀ pieces : List Piece, (∀ p ∈ pieces, p.IsProper) →
      (pieces.IsChain fun p q => ¬ (p.IsLiteral ∧ q.IsLiteral)) →
      expand env (String.join (pieces.map Piece.text)) =
        String.join (pieces.map (Piece.value env))) ∧
    ∀ text : String,
      (∀ before later name fallback, (Piece.reference name fallback).IsProper →
        text ≠ before ++ (Piece.reference name fallback).text ++ later) →
      expand env text = text := by
  constructor
  · intro pieces proper apart
    rw [← String.toList_inj, expand, String.toList_ofList, String.toList_join, String.toList_join,
      List.flatMap_map, List.flatMap_map]
    exact Piece.expanded_pieces proper apart
  · intro text unmarked
    rw [← String.toList_inj, expand, String.toList_ofList]
    refine expanded_of_none fun before later hsplit => Option.eq_none_iff_forall_ne_some.mpr ?_
    rintro ⟨r, rest⟩ hread
    obtain ⟨fallback, isName, isFallback, -, rfl⟩ := readReference_eq_some_iff.mp hread
    refine unmarked (String.ofList before) (String.ofList rest) (String.ofList r.name)
      (fallback.map String.ofList) ⟨?_, ?_⟩ ?_
    · rwa [String.toList_ofList]
    · rintro _ hwritten
      obtain ⟨d, hd, rfl⟩ := Option.map_eq_some_iff.mp hwritten
      rw [String.toList_ofList]
      exact isFallback d hd
    · rw [← String.toList_inj, String.toList_append, String.toList_append,
        Piece.toList_text_reference, hsplit]
      simp [Function.comp_def]

/-- The name of a user that looks like a reference, and a greeting that is empty. -/
def lobby : Environment := Dict.ofList [("USER", "$\x7bHOST\x7d$1"), ("GREETING", "")]

/-- References beside a dollar and beside a brace, one with a default that looks like another, and
a text in which a name starts with a digit and another is not closed. -/
theorem references_replaced_lobby :
    let pieces := [.literal "a\x7d$", .reference "USER" none, .literal "\x7d",
      .reference "GREETING" (some "hi"), .reference "HOST" (some "$\x7bUSER:-$2"),
      Piece.reference "HOST" none]
    (∀ p ∈ pieces, p.IsProper) ∧ (pieces.IsChain fun p q => ¬ (p.IsLiteral ∧ q.IsLiteral)) ∧
      expand lobby (String.join (pieces.map Piece.text)) =
        "a\x7d$$\x7bHOST\x7d$1\x7d$\x7bUSER:-$2" ∧
      expand lobby "$\x7b1A\x7d $\x7bUSER" = "$\x7b1A\x7d $\x7bUSER" := by
  intro pieces
  obtain ⟨hpieces, htext⟩ := references_replaced lobby
  have hname : ∀ name ∈ ["USER", "GREETING", "HOST"], IsName name.toList := by
    intro name hname
    have hlater : ∀ name ∈ ["USER", "GREETING", "HOST"],
        name.toList.tail.all isNameChar = true := by decide
    refine ⟨name.toList.headD ' ', name.toList.tail, ?_, ?_,
      List.all_eq_true.mp (hlater name hname)⟩
    all_goals revert name; decide
  have proper : ∀ p ∈ pieces, p.IsProper := by
    simp only [pieces, List.forall_mem_cons, Piece.IsProper]
    refine ⟨by decide, ⟨hname _ (by decide), by decide⟩, by decide,
      ⟨hname _ (by decide), by decide⟩, ⟨hname _ (by decide), by decide⟩,
      ⟨hname _ (by decide), by decide⟩, nofun⟩
  have apart : pieces.IsChain fun p q => ¬ (p.IsLiteral ∧ q.IsLiteral) := by
    simp [pieces, Piece.IsLiteral]
  refine ⟨proper, apart, (hpieces pieces proper apart).trans (by decide), htext _ ?_⟩
  intro before later name fallback hreference heq
  have hnone : ∀ n ≤ 13, readReference ("$\x7b1A\x7d $\x7bUSER".toList.drop n) = none := by decide
  have hlength : before.toList.length ≤ 13 := by
    have htotal := congrArg (fun s => s.toList.length) heq
    simp at htotal
    omega
  have hread := hnone _ hlength
  rw [heq] at hread
  simp only [String.toList_append, List.append_assoc, List.drop_left] at hread
  rw [Piece.readReference_text hreference] at hread
  cases hread

end RouterMetrics.Config

import RouterMetrics.Yaml.Cursor
import RouterMetrics.Json.Reader

/-!
The scalars of a YAML document: plain, quoted and block.

Plain and quoted scalars are folded: gaps around a line break are dropped, one break becomes a
space, and of several breaks the first is dropped. A block scalar keeps its lines (literal) or
folds them (folded), less their common indentation, and the breaks after it are clipped, stripped
or kept.
-/

namespace RouterMetrics.Yaml

/-! ## Folding -/

/-- What stands between two runs of text: the gaps before the first line break, and the breaks.
After an escaped line break there is no first break to fold. -/
structure Fold where
  gaps : List Char
  breaks : List Char
  escaped : Bool
deriving Repr

namespace Fold

/-- Nothing between two runs. -/
def none : Fold := ⟨[], [], false⟩

/-- A line break has been met. -/
def broken (f : Fold) : Bool := f.escaped || !f.breaks.isEmpty

/-- The text that a fold leaves. -/
def text (f : Fold) : List Char :=
  if f.escaped then f.breaks
  else match f.breaks with
    | [] => f.gaps
    | ['\n'] => [' ']
    | '\n' :: more => more
    | breaks => breaks

end Fold

/-- Reads gaps and breaks. A tab is refused in the indentation of a line below a least column. -/
def readFold (leastColumn : Nat) : Nat → Cursor → Fold → Option (Fold × Cursor)
  | 0, _, _ => .none
  | fuel + 1, c, f =>
    match c.rest with
    | [] => some (f, c)
    | x :: _ =>
      if isBreak x then
        readFold leastColumn fuel c.skipBreak { f with breaks := f.breaks ++ [c.breakChar] }
      else if isGap x then
        if f.broken then
          if x == '\t' && c.column < leastColumn then .none
          else readFold leastColumn fuel (c.skip 1) f
        else readFold leastColumn fuel (c.skip 1) { f with gaps := f.gaps ++ [x] }
      else some (f, c)

/-! ## Plain scalars -/

/-- The indicators of flow collections. -/
def isFlowIndicator (c : Char) : Bool :=
  c == ',' || c == '[' || c == ']' || c == '\x7b' || c == '\x7d'

/-- A run of a plain scalar without gaps. In a flow collection it ends before an indicator, and a
colon must not stand before one. -/
def plainRun (flow : Bool) : List Char → Option (List Char)
  | [] => some []
  | c :: cs =>
    if isGap c || isBreak c then some []
    else if flow && c == ':' &&
        ((cs.head?.map fun d => isFlowIndicator d || d == '?').getD false) then none
    else if c == ':' && atGapOrEnd cs then some []
    else if flow && isFlowIndicator c then some []
    else (plainRun flow cs).map (c :: ·)

/-- The text of a plain scalar from a position on, after earlier text and what follows that. Tells
whether the scalar was ended by a line break and where it ends. -/
def plainText (flow : Bool) (leastColumn : Nat) :
    Nat → Cursor → List Char → Fold → Option (List Char × Bool × Cursor)
  | 0, _, _, _ => none
  | fuel + 1, c, text, fold =>
    if c.atDocumentMarker || c.rest.head? == some '#' then some (text, fold.broken, c)
    else do
      let run ← plainRun flow c.rest
      if run.isEmpty then some (text, fold.broken, c)
      else
        let text := text ++ fold.text ++ run
        let c := c.skip run.length
        match c.rest with
        | [] => some (text, false, c)
        | x :: _ =>
          if isGap x || isBreak x then
            let (fold, c) ← readFold leastColumn c.room c .none
            if !flow && c.column < leastColumn then some (text, fold.broken, c)
            else plainText flow leastColumn fuel c text fold
          else some (text, false, c)

/-! ## Quoted scalars -/

/-- The number that digits of base sixteen write, `none` when one of them is no digit. -/
def hexNumber (cs : List Char) : Option Nat :=
  cs.foldlM (fun n c => (Text.hexValue? c).map (16 * n + ·)) 0

/-- The character of a numbered escape with a number of digits. -/
def numberedEscape (width : Nat) (cs : List Char) : Option Char := do
  let digits := cs.take width
  if digits.length < width then none
  else
    let n ← hexNumber digits
    if n.isValidChar then some (Char.ofNat n) else none

/-- The character of an escape after the backslash, and how many characters it takes. -/
def quotedEscape : List Char → Option (Char × Nat)
  | '0' :: _ => some ('\x00', 1)
  | 'a' :: _ => some ('\x07', 1)
  | 'b' :: _ => some ('\x08', 1)
  | 't' :: _ => some ('\t', 1)
  | '\t' :: _ => some ('\t', 1)
  | 'n' :: _ => some ('\n', 1)
  | 'v' :: _ => some ('\x0b', 1)
  | 'f' :: _ => some ('\x0c', 1)
  | 'r' :: _ => some ('\r', 1)
  | 'e' :: _ => some ('\x1b', 1)
  | ' ' :: _ => some (' ', 1)
  | '"' :: _ => some ('"', 1)
  | '/' :: _ => some ('/', 1)
  | '\\' :: _ => some ('\\', 1)
  | 'N' :: _ => some ('\x85', 1)
  | '_' :: _ => some ('\xa0', 1)
  | 'L' :: _ => some ('\u2028', 1)
  | 'P' :: _ => some ('\u2029', 1)
  | 'x' :: cs => (numberedEscape 2 cs).map (·, 3)
  | 'u' :: cs => (numberedEscape 4 cs).map (·, 5)
  | 'U' :: cs => (numberedEscape 8 cs).map (·, 9)
  | _ => none

/-- The text of a quoted scalar from a position on, and the position after its closing quote. -/
def quotedText (single : Bool) : Nat → Cursor → Option (List Char × Cursor)
  | 0, _ => none
  | fuel + 1, c =>
    if c.atDocumentMarker then none
    else match c.rest with
      | [] => none
      | x :: more =>
        let goOn (text : List Char) (c : Cursor) : Option (List Char × Cursor) :=
          (quotedText single fuel c).map fun (later, c) => (text ++ later, c)
        let folded (c : Cursor) (fold : Fold) : Option (List Char × Cursor) := do
          let (fold, c) ← readFold 0 c.room c fold
          goOn fold.text c
        if single && x == '\'' then
          if more.head? == some '\'' then goOn ['\''] (c.skip 2) else some ([], c.skip 1)
        else if !single && x == '"' then some ([], c.skip 1)
        else if !single && x == '\\' then
          if (more.head?.map isBreak).getD false then
            folded (c.skip 1).skipBreak ⟨[], [], true⟩
          else do
            let (y, n) ← quotedEscape more
            goOn [y] (c.skip (1 + n))
        else if isGap x || isBreak x then folded c .none
        else goOn [x] (c.skip 1)

/-! ## Block scalars -/

/-- What becomes of the line breaks after a block scalar. -/
inductive Chomping
  | clip | strip | keep
deriving Repr, DecidableEq

/-- The chomping that a sign asks for. -/
def Chomping.ofSign? : Char → Option Chomping
  | '+' => some .keep
  | '-' => some .strip
  | _ => none

/-- The indentation that a digit asks for. Zero is refused. -/
def indentOf? (c : Char) : Option Nat :=
  if '1' ≤ c && c ≤ '9' then some (Text.digitValue c) else none

/-- A block scalar's header after its indicator: a sign and a digit in either order, both
optional. -/
def blockHeader (cs : List Char) : Option (Chomping × Option Nat × Nat) :=
  match cs with
  | [] => some (.clip, none, 0)
  | a :: more =>
    match Chomping.ofSign? a with
    | some chomping =>
      match more with
      | b :: _ =>
        if b.isDigit then (indentOf? b).map fun n => (chomping, some n, 2)
        else some (chomping, none, 1)
      | [] => some (chomping, none, 1)
    | none =>
      if a.isDigit then
        (indentOf? a).map fun n =>
          match more.head?.bind Chomping.ofSign? with
          | some chomping => (chomping, some n, 2)
          | none => (.clip, some n, 1)
      else some (.clip, none, 0)

/-- Passes over empty lines and indentation up to a column, which is not known at first. Gives the
breaks, the widest indentation met, and the position. -/
def blockBreaks (indent : Option Nat) :
    Nat → Cursor → List Char → Nat → Option (List Char × Nat × Cursor)
  | 0, _, _, _ => none
  | fuel + 1, c, breaks, widest =>
    let room := match indent with
      | some n => n - c.column
      | none => c.rest.length
    let c := c.skip ((c.rest.take room).takeWhile (· == ' ')).length
    let widest := max widest c.column
    let inIndent := match indent with
      | some n => decide (c.column < n)
      | none => true
    match c.rest with
    | [] => some (breaks, widest, c)
    | x :: _ =>
      if x == '\t' && inIndent then none
      else if isBreak x then
        blockBreaks indent fuel c.skipBreak (breaks ++ [c.breakChar]) widest
      else some (breaks, widest, c)

/-- A block scalar's text so far in parts, the last one first, the break after its last line, and
whether that line starts with a gap. -/
structure BlockText where
  parts : List (List Char)
  leading : List Char
  leadingGap : Bool

/-- The text of the parts. -/
def BlockText.text (b : BlockText) : List Char := b.parts.reverse.flatten

/-- The lines of a block scalar at its indentation, from a position on. -/
def blockLines (literal : Bool) (indent : Nat) :
    Nat → Cursor → BlockText → List Char → Option (BlockText × List Char × Cursor)
  | 0, _, _, _ => none
  | fuel + 1, c, b, breaks =>
    if c.column != indent || c.rest.isEmpty then some (b, breaks, c)
    else
      let gap := (c.rest.head?.map isGap).getD false
      let joined :=
        if !literal && b.leading == ['\n'] && !b.leadingGap && !gap then
          if breaks.isEmpty then [' '] else []
        else b.leading
      let line := c.rest.takeWhile fun x => !isBreak x
      let c := c.skip line.length
      let (leading, c) := if c.rest.isEmpty then ([], c) else ([c.breakChar], c.skipBreak)
      match blockBreaks (some indent) c.room c [] 0 with
      | none => none
      | some (later, _, c) =>
        blockLines literal indent fuel c ⟨line :: breaks :: joined :: b.parts, leading, gap⟩ later

/-- The text of a block scalar after its indicator, in a block of an indentation, and the position
after it. -/
def blockText (literal : Bool) (parent : Int) (c : Cursor) : Option (List Char × Cursor) := do
  let (chomping, increment, taken) ← blockHeader c.rest
  let c := (c.skip taken).skipWhile isGap
  let c := if c.rest.head? == some '#' then c.skipWhile (fun x => !isBreak x) else c
  if !atBreakOrEnd c.rest then none
  else
    let c := if c.rest.isEmpty then c else c.skipBreak
    let known := increment.map fun n => if 0 ≤ parent then parent.toNat + n else n
    let (breaks, widest, c) ← blockBreaks known c.room c [] 0
    let indent := known.getD (max widest (max 1 (parent + 1).toNat))
    let (b, breaks, c) ← blockLines literal indent c.room c ⟨[], [], false⟩ breaks
    let tail := match chomping with
      | .strip => []
      | .clip => b.leading
      | .keep => b.leading ++ breaks
    some (b.text ++ tail, c)

end RouterMetrics.Yaml

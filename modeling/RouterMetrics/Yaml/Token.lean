import RouterMetrics.Yaml.Scalar

/-!
The tokens of a YAML document.

Blocks are told by indentation, so the scanner keeps the columns of the open blocks and gives a
token where one starts or ends. A mapping's key is known only at its colon; the scanner remembers
for each level of flow collections where a key may have started, and puts the key's token there
when the colon comes. Such a key must fit on one line, in 1024 characters.
-/

namespace RouterMetrics.Yaml

/-- How a scalar is written. -/
inductive Style
  | plain | quoted | literal | folded
deriving Repr, DecidableEq

/-- A lexical unit of a document. -/
inductive Token
  | version (major minor : Nat)
  | tagHandle (handle leader : List Char)
  | documentStart
  | documentEnd
  | blockSequence
  | blockMapping
  | blockEnd
  | blockEntry
  | flowSequence
  | flowSequenceEnd
  | flowMapping
  | flowMappingEnd
  | flowEntry
  | key
  | value
  | alias (name : List Char)
  | anchor (name : List Char)
  | tag (handle suffix : List Char)
  | scalar (style : Style) (text : List Char)
deriving Repr, DecidableEq

/-- Where a key may have started: the number of the token that would be its key, its position, and
whether the block needs a key there. -/
structure KeyStart where
  required : Bool
  token : Nat
  line : Nat
  column : Nat
  index : Nat
deriving Repr

/-- The state between two tokens. `keys` has one entry for the block level and one more for each
open flow collection. -/
structure Scanner where
  cursor : Cursor
  indent : Int
  outer : List Int
  flow : Nat
  keyAllowed : Bool
  keys : List (Option KeyStart)
  tokens : Array Token
deriving Repr

namespace Scanner

/-- The state at the start of a text. -/
def ofChars (cs : List Char) : Scanner := ⟨.ofChars cs, -1, [], 0, true, [none], #[]⟩

/-- The scanner is inside a flow collection. -/
def inFlow (s : Scanner) : Bool := s.flow > 0

/-- The state with one more token. -/
def push (s : Scanner) (t : Token) : Scanner := { s with tokens := s.tokens.push t }

/-- The state after some characters that make a token. -/
def pushSkip (s : Scanner) (n : Nat) (t : Token) : Scanner :=
  { s.push t with cursor := s.cursor.skip n }

/-! ## Gaps and comments -/

/-- Passes over gaps, comments and line breaks to the next token. A byte order mark may start a
line, where it takes up a column. A tab does not count as a gap where a key may start. -/
def toNextToken : Nat → Scanner → Scanner
  | 0, s => s
  | fuel + 1, s =>
    let gap (c : Char) : Bool := c == ' ' || (c == '\t' && (s.inFlow || !s.keyAllowed))
    let start := if s.cursor.column == 0 && s.cursor.rest.head? == some '\ufeff'
      then s.cursor.skip 1 else s.cursor
    let c := start.skipWhile gap
    let c := if c.rest.head? == some '#' then c.skipWhile (fun x => !isBreak x) else c
    match c.rest with
    | [] => { s with cursor := c }
    | x :: _ =>
      if isBreak x then
        toNextToken fuel
          { s with cursor := c.skipBreak, keyAllowed := s.keyAllowed || !s.inFlow }
      else { s with cursor := c }

/-! ## Blocks -/

/-- Closes the blocks that are indented deeper than a column. -/
def unroll (column : Int) : List Int → Scanner → Scanner
  | [], s => s
  | outer :: more, s =>
    if s.indent > column then
      unroll column more { s.push .blockEnd with indent := outer, outer := more }
    else s

/-- `unroll` over all open blocks. Nothing is closed inside a flow collection. -/
def unrollTo (s : Scanner) (column : Int) : Scanner :=
  if s.inFlow then s else unroll column s.outer s

/-- Opens a block at a column that is indented deeper than the current one, with its token at a
place among the tokens. -/
def roll (s : Scanner) (column : Nat) (place : Nat) (t : Token) : Scanner :=
  if !s.inFlow && s.indent < column then
    { s with indent := column, outer := s.indent :: s.outer,
             tokens := s.tokens.insertIdxIfInBounds place t }
  else s

/-! ## Keys -/

/-- Forgets the key that may have started on the current level. One that the block needs must have
met its colon. -/
def dropKey (s : Scanner) : Option Scanner :=
  match s.keys with
  | some k :: more => if k.required then none else some { s with keys := none :: more }
  | _ => some s

/-- Remembers that a key may start here. -/
def saveKey (s : Scanner) : Option Scanner :=
  if s.keyAllowed then do
    let s ← s.dropKey
    let c := s.cursor
    let required := !s.inFlow && s.indent == (c.column : Int)
    some { s with keys := some ⟨required, s.tokens.size, c.line, c.column, c.index⟩ :: s.keys.tail }
  else some s

/-- The key that ends here, if one may have started and still can. The outer `none` is a key that
the block needs and that is too long. -/
def currentKey (s : Scanner) : Option (Option KeyStart) :=
  match s.keys with
  | some k :: _ =>
    if k.line < s.cursor.line || k.index + 1024 < s.cursor.index then
      if k.required then none else some none
    else some (some k)
  | _ => some none

/-! ## Tokens -/

/-- The start of a flow collection. -/
def flowStart (s : Scanner) (t : Token) : Option Scanner := do
  let s ← s.saveKey
  some { s.pushSkip 1 t with keys := none :: s.keys, flow := s.flow + 1, keyAllowed := true }

/-- The end of a flow collection. -/
def flowEnd (s : Scanner) (t : Token) : Option Scanner := do
  let s ← s.dropKey
  let s := if s.inFlow then { s with flow := s.flow - 1, keys := s.keys.tail } else s
  some { s.pushSkip 1 t with keyAllowed := false }

/-- A comma of a flow collection. -/
def flowEntry (s : Scanner) : Option Scanner := do
  let s ← s.dropKey
  some { s.pushSkip 1 .flowEntry with keyAllowed := true }

/-- A dash of a block sequence. -/
def blockEntry (s : Scanner) : Option Scanner :=
  if !s.inFlow && !s.keyAllowed then none
  else do
    let s := s.roll s.cursor.column s.tokens.size .blockSequence
    let s ← s.dropKey
    some { s.pushSkip 1 .blockEntry with keyAllowed := true }

/-- A question mark before a key. -/
def explicitKey (s : Scanner) : Option Scanner :=
  if !s.inFlow && !s.keyAllowed then none
  else do
    let s := s.roll s.cursor.column s.tokens.size .blockMapping
    let s ← s.dropKey
    some { s.pushSkip 1 .key with keyAllowed := !s.inFlow }

/-- A colon after a key. -/
def keyValue (s : Scanner) : Option Scanner := do
  match ← s.currentKey with
  | some k =>
    let s := { s with tokens := s.tokens.insertIdxIfInBounds k.token .key }
    let s := s.roll k.column k.token .blockMapping
    some { s.pushSkip 1 .value with keys := none :: s.keys.tail, keyAllowed := false }
  | none =>
    if !s.inFlow && !s.keyAllowed then none
    else
      let s := s.roll s.cursor.column s.tokens.size .blockMapping
      some { s.pushSkip 1 .value with keys := none :: s.keys.tail, keyAllowed := !s.inFlow }

/-- The start or the end of a document. -/
def documentMarker (s : Scanner) (t : Token) : Option Scanner := do
  let s ← (s.unrollTo (-1)).dropKey
  some { s.pushSkip 3 t with keyAllowed := false }

/-- An anchor or an alias. Its name ends at a gap or at one of some indicators. -/
def anchor (s : Scanner) (t : List Char → Token) : Option Scanner := do
  let s ← s.saveKey
  let name := s.cursor.rest.tail.takeWhile isWordChar
  let after := s.cursor.rest.tail.drop name.length
  let ends := atGapOrEnd after ||
    (after.head?.map fun c => "?:,]\x7d%@\x60".toList.contains c).getD false
  if name.isEmpty || !ends then none
  else some { s.pushSkip (1 + name.length) (t name) with keyAllowed := false }

/-- A character of a tag's suffix, or of the verbatim form of a tag. -/
def isTagChar (verbatim : Bool) (c : Char) : Bool :=
  isWordChar c || ";/?:@&=+$.%!~*'()".toList.contains c || (verbatim && ",[]".toList.contains c)

/-- How many bytes follow a first byte in the UTF-8 form of a character, if a character can start
with that byte. -/
def trailingBytes? (first : Nat) : Option Nat :=
  if first < 0x80 then some 0
  else if first / 0x20 == 0x6 then some 1
  else if first / 0x10 == 0xe then some 2
  else if first / 0x08 == 0x1e then some 3
  else none

/-- The bytes that percent signs write, each as the character of its number. The escapes of one
character stand together: after its first byte, `due` more of the form 10xxxxxx have to come. -/
def unescapeTag (due : Nat) : List Char → Option (List Char)
  | [] => if due == 0 then some [] else none
  | '%' :: a :: b :: cs => do
    let n ← hexNumber [a, b]
    let due ←
      if due == 0 then trailingBytes? n
      else if n / 0x40 == 0x2 then some (due - 1)
      else none
    (unescapeTag due cs).map (Char.ofNat n :: ·)
  | '%' :: _ => none
  | c :: cs => if due == 0 then (unescapeTag 0 cs).map (c :: ·) else none

/-- The handle and the suffix of a tag after its exclamation mark, and how many characters they
take. -/
def tagParts (cs : List Char) : Option ((List Char × List Char) × Nat) :=
  match cs with
  | '<' :: more => do
    let body := more.takeWhile (isTagChar true)
    if (more.drop body.length).head? != some '>' || body.isEmpty then none
    else some (([], ← unescapeTag 0 body), body.length + 2)
  | _ =>
    let word := cs.takeWhile isWordChar
    match cs.drop word.length with
    | '!' :: more => do
      let body := more.takeWhile (isTagChar false)
      if body.isEmpty then none
      else some (('!' :: word ++ ['!'], ← unescapeTag 0 body), word.length + 1 + body.length)
    | _ => do
      let body := cs.takeWhile (isTagChar false)
      if body.isEmpty then some (([], ['!']), 0)
      else some ((['!'], ← unescapeTag 0 body), body.length)

/-- A tag. -/
def tag (s : Scanner) : Option Scanner := do
  let s ← s.saveKey
  let ((handle, suffix), taken) ← tagParts s.cursor.rest.tail
  let after := s.cursor.rest.tail.drop taken
  if atGapOrEnd after || (s.inFlow && after.head? == some ',') then
    some { s.pushSkip (1 + taken) (.tag handle suffix) with keyAllowed := false }
  else none

/-- The state after a scalar. -/
def afterScalar (s : Scanner) (style : Style) (text : List Char) (c : Cursor) (keyAllowed : Bool) :
    Scanner :=
  { s.push (.scalar style text) with cursor := c, keyAllowed := keyAllowed }

/-- A block scalar. -/
def block (s : Scanner) (literal : Bool) : Option Scanner := do
  let s ← s.dropKey
  let (text, c) ← blockText literal s.indent (s.cursor.skip 1)
  some (s.afterScalar (if literal then .literal else .folded) text c true)

/-- A quoted scalar. -/
def quoted (s : Scanner) (single : Bool) : Option Scanner := do
  let s ← s.saveKey
  let (text, c) ← quotedText single s.cursor.room (s.cursor.skip 1)
  some (s.afterScalar .quoted text c false)

/-- A plain scalar. One that a line break ends may be followed by a key. -/
def plain (s : Scanner) : Option Scanner := do
  let s ← s.saveKey
  let (text, broken, c) ←
    plainText s.inFlow (s.indent + 1).toNat s.cursor.room s.cursor [] .none
  some (s.afterScalar .plain text c broken)

/-- A comment or nothing up to the end of the line. -/
def restOfLine (c : Cursor) : Option Cursor :=
  let c := c.skipWhile isGap
  let c := if c.rest.head? == some '#' then c.skipWhile (fun x => !isBreak x) else c
  if atBreakOrEnd c.rest then some (if c.rest.isEmpty then c else c.skipBreak) else none

/-- A directive: the version of the language, or the meaning of a tag's handle. -/
def directive (s : Scanner) : Option Scanner := do
  let s ← (s.unrollTo (-1)).dropKey
  let s := { s with keyAllowed := false }
  let name := s.cursor.rest.tail.takeWhile isWordChar
  let c := s.cursor.skip (1 + name.length)
  if !atGapOrEnd c.rest then none
  else
    let c := c.skipWhile isGap
    match String.ofList name with
    | "YAML" =>
      let (major, rest) := Text.spanDigits c.rest
      match rest with
      | '.' :: rest =>
        let minor := rest.takeWhile Char.isDigit
        if major.isEmpty || minor.isEmpty || major.length > 9 || minor.length > 9 then none
        else
          let c ← restOfLine (c.skip (major.length + 1 + minor.length))
          some { s.push (.version (Text.numberOf major) (Text.numberOf minor)) with cursor := c }
      | _ => none
    | "TAG" =>
      let handle := c.rest.takeWhile fun x => !isGap x && !isBreak x
      let word := handle.drop 1 |>.takeWhile isWordChar
      if handle != ['!'] && handle != '!' :: word ++ ['!'] then none
      else
        let c := (c.skip handle.length)
        if !((c.rest.head?.map isGap).getD false) then none
        else
          let c := c.skipWhile isGap
          let body := c.rest.takeWhile (isTagChar true)
          let leader ← unescapeTag 0 body
          let c := c.skip body.length
          if body.isEmpty || !atGapOrEnd c.rest then none
          else
            let c ← restOfLine c
            some { s.push (.tagHandle handle leader) with cursor := c }
    | _ => none

/-- Whether a plain scalar starts here. -/
def startsPlain (flow : Bool) (c : Char) (cs : List Char) : Bool :=
  let indicator := "-?:,[]\x7b\x7d#&*!|>'\"%@\x60".toList.contains c
  (!indicator && !isGap c && !isBreak c) ||
    (c == '-' && !((cs.head?.map isGap).getD false)) ||
    (!flow && (c == '?' || c == ':') && !atGapOrEnd cs)

/-- The state after the next token, which starts with a character. -/
def next (s : Scanner) (c : Char) (cs : List Char) : Option Scanner :=
  if s.cursor.column == 0 && c == '%' then s.directive
  else if s.cursor.atMarker ['-', '-', '-'] then s.documentMarker .documentStart
  else if s.cursor.atMarker ['.', '.', '.'] then s.documentMarker .documentEnd
  else if c == '[' then s.flowStart .flowSequence
  else if c == '\x7b' then s.flowStart .flowMapping
  else if c == ']' then s.flowEnd .flowSequenceEnd
  else if c == '\x7d' then s.flowEnd .flowMappingEnd
  else if c == ',' then s.flowEntry
  else if c == '-' && atGapOrEnd cs then s.blockEntry
  else if c == '?' && (s.inFlow || atGapOrEnd cs) then s.explicitKey
  else if c == ':' && (s.inFlow || atGapOrEnd cs) then s.keyValue
  else if c == '*' then s.anchor .alias
  else if c == '&' then s.anchor .anchor
  else if c == '!' then s.tag
  else if c == '|' && !s.inFlow then s.block true
  else if c == '>' && !s.inFlow then s.block false
  else if c == '\'' then s.quoted true
  else if c == '"' then s.quoted false
  else if startsPlain s.inFlow c cs then s.plain
  else none

/-- All tokens from a state on. Every token takes a character, so as many steps as characters
suffice. -/
def run : Nat → Scanner → Option (Array Token)
  | 0, _ => none
  | fuel + 1, s =>
    let s := toNextToken s.cursor.room s
    let s := s.unrollTo s.cursor.column
    match s.cursor.rest with
    | [] => ((s.unrollTo (-1)).dropKey).map (·.tokens)
    | c :: cs =>
      match s.next c cs with
      | some s => run fuel s
      | none => none

end Scanner

/-- The tokens of a text, `none` when it breaks the lexical grammar or holds a character that a
document may not hold. -/
def tokens? (text : List Char) : Option (List Token) :=
  if text.all isPrintable then
    (Scanner.run (text.length + 1) (.ofChars text)).map Array.toList
  else none

end RouterMetrics.Yaml

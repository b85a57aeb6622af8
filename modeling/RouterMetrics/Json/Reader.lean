import RouterMetrics.Json.Basic

/-!
Reading a JSON document.

The grammar is the usual one, with the limits a reader must know: a document nests lists and
objects at most 127 deep, an escaped surrogate must be one of a pair, a text holds no raw control
character, and a number may not leave the range of the doubles. Doubles are read digit by digit
into a word of 64 bits and then scaled once by a power of ten, so the last binary place can differ
from the nearest double.
-/

namespace RouterMetrics.Json

/-- White space between the tokens of a document. -/
def isSpace (c : Char) : Bool := c == ' ' || c == '\n' || c == '\t' || c == '\r'

/-- The text from its first character that is not white space on. -/
def skipSpace (cs : List Char) : List Char := cs.dropWhile isSpace

/-! ## Numbers -/

/-- The number of values of a 64-bit word. -/
def wordSize : Nat := 1 <<< 64

/-- Reads digits into a word as long as it does not overflow: the word, how many digits were read,
and the rest, which starts with a digit exactly when the next digit would overflow. -/
def wordDigits (word count : Nat) : List Char → Nat × Nat × List Char
  | [] => (word, count, [])
  | c :: cs =>
    if c.isDigit && word * 10 + Text.digitValue c < wordSize then
      wordDigits (word * 10 + Text.digitValue c) (count + 1) cs
    else (word, count, c :: cs)

/-- Scales a word by a power of ten, in steps of at most `10 ^ 308`. `none` is a number beyond the
largest double. -/
def scale : Nat → Float → Int → Option Float
  | 0, x, _ => some x
  | fuel + 1, x, e =>
    if e.natAbs ≤ 308 then
      let power := Decimal.nearest 1 e.natAbs
      if 0 ≤ e then
        let y := x * power
        if y.isInf then none else some y
      else some (x / power)
    else if x == 0.0 then some x
    else if 0 ≤ e then none
    else scale fuel (x / Decimal.nearest 1 308) (e + 308)

/-- A double from its sign, the word of its digits and a power of ten. After four steps down every
word has become zero. -/
def floatOf (negative : Bool) (word : Nat) (e : Int) : Option Json :=
  (scale 8 (Decimal.nearest word 0) e).map fun x => .float (Decimal.withSign negative x)

/-- The largest exponent that is still counted. -/
def exponentLimit : Nat := 1 <<< 31

/-- An exponent after its mark. An exponent beyond the limit makes zero of a negative one and of a
zero word, and is out of range otherwise. -/
def exponentPart (negative : Bool) (word : Nat) (start : Int) (cs : List Char) :
    Option (Json × List Char) :=
  let (down, rest) := Decimal.spanSign cs
  let (ds, rest) := Text.spanDigits rest
  if ds.isEmpty then none
  else
    let n := Text.numberOf ds
    if n < exponentLimit then
      (floatOf negative word (if down then start - n else start + n)).map (·, rest)
    else if word != 0 && !down then none
    else some (.float (Decimal.withSign negative 0.0), rest)

/-- What follows the digits of a double. -/
def afterDigits (negative : Bool) (word : Nat) (e : Int) (cs : List Char) :
    Option (Json × List Char) :=
  match cs with
  | c :: rest =>
    if c == 'e' || c == 'E' then exponentPart negative word e rest
    else (floatOf negative word e).map (·, cs)
  | [] => (floatOf negative word e).map (·, cs)

/-- Digits after the point, at least one. Those that the word cannot hold are passed over. -/
def fractionPart (negative : Bool) (word : Nat) (e : Int) (cs : List Char) :
    Option (Json × List Char) :=
  match cs with
  | [] => none
  | c :: _ =>
    if c.isDigit then
      let (word, count, rest) := wordDigits word 0 cs
      afterDigits negative word (e - count) (rest.dropWhile Char.isDigit)
    else none

/-- A number after its sign. -/
def number (negative : Bool) (cs : List Char) : Option (Json × List Char) :=
  match cs with
  | [] => none
  | c :: tail =>
    if !c.isDigit then none
    else
      let (word, _, rest) := if c == '0' then (0, 1, tail) else wordDigits 0 0 cs
      if c == '0' && (tail.head?.map Char.isDigit).getD false then none
      else
        -- Digits that the word cannot hold count as powers of ten.
        let (extra, rest) := Text.spanDigits rest
        match rest with
        | '.' :: r => fractionPart negative word extra.length r
        | r =>
          let isExponent := (r.head?.map fun c => c == 'e' || c == 'E').getD false
          if !extra.isEmpty || isExponent then afterDigits negative word extra.length r
          else if !negative then some (.int word, r)
          else if word == 0 || word > 1 <<< 63 then
            some (.float (-(Decimal.nearest word 0)), r)
          else some (.int (-(word : Int)), r)

/-! ## Texts -/

/-- Four hexadecimal digits. -/
def hex4 : List Char → Option (Nat × List Char)
  | a :: b :: c :: d :: rest => do
    let a ← Text.hexValue? a
    let b ← Text.hexValue? b
    let c ← Text.hexValue? c
    let d ← Text.hexValue? d
    some (((a * 16 + b) * 16 + c) * 16 + d, rest)
  | _ => none

/-- The character of an escape after `\u`. A surrogate must be the first of a pair. -/
def unicodeEscape (cs : List Char) : Option (Char × List Char) := do
  let (n, rest) ← hex4 cs
  if 0xd800 ≤ n && n < 0xdc00 then
    match rest with
    | '\\' :: 'u' :: rest =>
      let (low, rest) ← hex4 rest
      if 0xdc00 ≤ low && low < 0xe000 then
        some (Char.ofNat (0x10000 + (n - 0xd800) * 0x400 + (low - 0xdc00)), rest)
      else none
    | _ => none
  else if 0xdc00 ≤ n && n < 0xe000 then none
  else some (Char.ofNat n, rest)

/-- The character of an escape after the backslash. -/
def escape : List Char → Option (Char × List Char)
  | 'u' :: cs => unicodeEscape cs
  | '"' :: cs => some ('"', cs)
  | '\\' :: cs => some ('\\', cs)
  | '/' :: cs => some ('/', cs)
  | 'b' :: cs => some ('\x08', cs)
  | 'f' :: cs => some ('\x0c', cs)
  | 'n' :: cs => some ('\n', cs)
  | 'r' :: cs => some ('\r', cs)
  | 't' :: cs => some ('\t', cs)
  | _ => none

/-- The characters of a text up to its closing quote. Each step takes at least one character, so
as many steps as characters suffice. -/
def textBody : Nat → List Char → Option (List Char × List Char)
  | 0, _ => none
  | _, [] => none
  | fuel + 1, c :: cs =>
    if c = '"' then some ([], cs)
    else if c = '\\' then do
      let (c, rest) ← escape cs
      let (body, rest) ← textBody fuel rest
      some (c :: body, rest)
    else if c.toNat < 32 then none
    else do
      let (body, rest) ← textBody fuel cs
      some (c :: body, rest)

/-- A text of less than `room` characters, after its opening quote. -/
def quoted (room : Nat) (cs : List Char) : Option (String × List Char) :=
  (textBody room cs).map fun (body, rest) => (String.ofList body, rest)

/-! ## Documents

A text, a list or an object cannot have more parts than the document has characters, which is the
`room` of its reader.
-/

/-- What reads one value at the head of a text. -/
abbrev ValueReader := List Char → Option (Json × List Char)

/-- The items of a list after its first one, up to the closing bracket. -/
def moreItems (value : ValueReader) : Nat → List Char → Option (List Json × List Char)
  | 0, _ => none
  | fuel + 1, cs =>
    match skipSpace cs with
    | ']' :: rest => some ([], rest)
    | ',' :: rest => do
      let (v, rest) ← value rest
      let (vs, rest) ← moreItems value fuel rest
      some (v :: vs, rest)
    | _ => none

/-- A list after its opening bracket. -/
def listBody (room : Nat) (value : ValueReader) (cs : List Char) : Option (Json × List Char) :=
  match skipSpace cs with
  | ']' :: rest => some (.list [], rest)
  | cs => do
    let (v, rest) ← value cs
    let (vs, rest) ← moreItems value room rest
    some (.list (v :: vs), rest)

/-- A member: a quoted name, a colon and a value. -/
def member (room : Nat) (value : ValueReader) (cs : List Char) :
    Option ((String × Json) × List Char) :=
  match skipSpace cs with
  | '"' :: rest => do
    let (name, rest) ← quoted room rest
    match skipSpace rest with
    | ':' :: rest => do
      let (v, rest) ← value rest
      some ((name, v), rest)
    | _ => none
  | _ => none

/-- The members of an object after its first one, up to the closing brace. -/
def moreMembers (room : Nat) (value : ValueReader) :
    Nat → List Char → Option (List (String × Json) × List Char)
  | 0, _ => none
  | fuel + 1, cs =>
    match skipSpace cs with
    | '\x7d' :: rest => some ([], rest)
    | ',' :: rest => do
      let (m, rest) ← member room value rest
      let (ms, rest) ← moreMembers room value fuel rest
      some (m :: ms, rest)
    | _ => none

/-- An object after its opening brace. -/
def objectBody (room : Nat) (value : ValueReader) (cs : List Char) : Option (Json × List Char) :=
  match skipSpace cs with
  | '\x7d' :: rest => some (.object [], rest)
  | cs => do
    let (m, rest) ← member room value cs
    let (ms, rest) ← moreMembers room value room rest
    some (ofMembers (m :: ms), rest)

/-- A fixed word at the head of a text. -/
def keyword (word : String) (v : Json) (cs : List Char) : Option (Json × List Char) :=
  let w := word.toList
  if w.isPrefixOf cs then some (v, cs.drop w.length) else none

/-- One value, with white space before it, that nests lists and objects at most `depth` deep. -/
def value (room : Nat) : Nat → ValueReader
  | depth, cs =>
    match skipSpace cs with
    | [] => none
    | '"' :: rest => (quoted room rest).map fun (s, rest) => (.text s, rest)
    | '-' :: rest => number true rest
    | '[' :: rest =>
      match depth with
      | 0 => none
      | depth + 1 => listBody room (value room depth) rest
    | '\x7b' :: rest =>
      match depth with
      | 0 => none
      | depth + 1 => objectBody room (value room depth) rest
    | 'n' :: rest => keyword "ull" .null rest
    | 't' :: rest => keyword "rue" (.bool true) rest
    | 'f' :: rest => keyword "alse" (.bool false) rest
    | cs => number false cs

/-- How deep a document may nest. -/
def depthLimit : Nat := 127

/-- The value a document holds: one value with nothing but white space around it. -/
def readChars (cs : List Char) : Option Json :=
  match value (cs.length + 1) depthLimit cs with
  | some (v, rest) => if (skipSpace rest).isEmpty then some v else none
  | none => none

/-- `readChars` on strings. -/
def read (s : String) : Option Json := readChars s.toList

end RouterMetrics.Json

/-!
Reading positions in a YAML document, and the character classes of its lexical grammar.

A cursor is what is left of the text, with the line and the column it stands in and the number of
bytes before it and in all. A line break is a carriage return, a line feed, both in this order, or
one of the three breaks beyond ASCII; it reads as a line feed, except for the two separators, which
stand for themselves.
-/

namespace RouterMetrics.Yaml

/-- A character that ends a line. -/
def isBreak (c : Char) : Bool :=
  c == '\r' || c == '\n' || c == '\x85' || c == '\u2028' || c == '\u2029'

/-- A space or a tab. -/
def isGap (c : Char) : Bool := c == ' ' || c == '\t'

/-- The text ends or goes on with a gap or a line break. -/
def atGapOrEnd : List Char → Bool
  | [] => true
  | c :: _ => isGap c || isBreak c

/-- The text ends or goes on with a line break. -/
def atBreakOrEnd : List Char → Bool
  | [] => true
  | c :: _ => isBreak c

/-- A character of an anchor or of a tag's handle. -/
def isWordChar (c : Char) : Bool := c.isAlphanum || c == '-' || c == '_'

/-- A character that a document may hold. -/
def isPrintable (c : Char) : Bool :=
  let n := c.toNat
  n == 0x9 || n == 0xa || n == 0xd || (0x20 ≤ n && n ≤ 0x7e) || n == 0x85 ||
    (0xa0 ≤ n && n ≤ 0xd7ff) || (0xe000 ≤ n && n ≤ 0xfffd) || 0x10000 ≤ n

/-- A position in a document. -/
structure Cursor where
  rest : List Char
  line : Nat
  column : Nat
  index : Nat
  total : Nat
deriving Repr

namespace Cursor

/-- The bytes that characters take. -/
def bytesOf (cs : List Char) : Nat := cs.foldl (fun n c => n + c.utf8Size) 0

/-- The start of a text. -/
def ofChars (cs : List Char) : Cursor := ⟨cs, 0, 0, 0, bytesOf cs⟩

/-- More than the steps that can be taken from this position on, when each takes a character. -/
def room (c : Cursor) : Nat := c.total - c.index + 1

/-- The position after some characters of one line. -/
def skip (c : Cursor) (n : Nat) : Cursor :=
  { c with rest := c.rest.drop n, column := c.column + n,
           index := c.index + bytesOf (c.rest.take n) }

/-- The position after the longest run of characters of a class, which holds no line break. -/
def skipWhile (p : Char → Bool) (c : Cursor) : Cursor := c.skip (c.rest.takeWhile p).length

/-- The position after a line break at this position. -/
def skipBreak (c : Cursor) : Cursor :=
  match c.rest with
  | '\r' :: '\n' :: rest => ⟨rest, c.line + 1, 0, c.index + 2, c.total⟩
  | x :: rest => ⟨rest, c.line + 1, 0, c.index + x.utf8Size, c.total⟩
  | [] => c

/-- What a line break at this position reads as. -/
def breakChar (c : Cursor) : Char :=
  match c.rest with
  | '\u2028' :: _ => '\u2028'
  | '\u2029' :: _ => '\u2029'
  | _ => '\n'

/-- A marker of three characters stands at the start of this line. -/
def atMarker (marker : List Char) (c : Cursor) : Bool :=
  c.column == 0 && marker.isPrefixOf c.rest && atGapOrEnd (c.rest.drop 3)

/-- The line starts or ends a document. -/
def atDocumentMarker (c : Cursor) : Bool := c.atMarker ['-', '-', '-'] || c.atMarker ['.', '.', '.']

end Cursor

end RouterMetrics.Yaml

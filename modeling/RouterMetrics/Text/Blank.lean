/-!
White space as the Unicode property White_Space has it, and the cuts made at white space:
trimming a text at its ends and splitting it into words.
-/

namespace RouterMetrics.Text

/-- Membership of a code point in a table of inclusive ranges. -/
def inRanges (table : List (Nat × Nat)) (c : Char) : Bool :=
  table.any fun r => r.1 ≤ c.toNat && c.toNat ≤ r.2

/-- The ranges of White_Space. -/
def blankRanges : List (Nat × Nat) :=
  [(0x9, 0xd), (0x20, 0x20), (0x85, 0x85), (0xa0, 0xa0), (0x1680, 0x1680), (0x2000, 0x200a),
   (0x2028, 0x2029), (0x202f, 0x202f), (0x205f, 0x205f), (0x3000, 0x3000)]

/-- A white-space character. -/
def isBlank (c : Char) : Bool := inRanges blankRanges c

/-- The text without the white space it starts with. -/
def trimStart (cs : List Char) : List Char := cs.dropWhile isBlank

/-- The text without the white space it ends with. -/
def trimEnd (cs : List Char) : List Char := (cs.reverse.dropWhile isBlank).reverse

/-- The text without the white space at its ends. -/
def trim (cs : List Char) : List Char := trimEnd (trimStart cs)

/-- `trim` on strings. -/
def trimText (s : String) : String := String.ofList (trim s.toList)

/-- The maximal runs of characters that are not white space. -/
def words (cs : List Char) : List (List Char) :=
  (cs.splitOnP isBlank).filter fun w => !w.isEmpty

/-- The pieces of a text between line feeds. A final line feed leaves an empty last piece. -/
def lines (s : String) : List String :=
  (s.toList.splitOnP (· == '\n')).map String.ofList

end RouterMetrics.Text

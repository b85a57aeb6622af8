import RouterMetrics.Text.Digit

/-!
Tables of characters, written as text.

A table has words with white space between them. A word tells a range of code points in base sixteen
by its first and its last, `41-5a`, or one code point alone, `aa`; in some tables a sign of
greater-than and numbers with commas between them follow, `33a1>6d,32`.
-/

namespace RouterMetrics.Text

/-- A range of code points with the numbers that a table has for it. -/
structure Row where
  first : Nat
  last : Nat
  values : List Nat
deriving Repr, DecidableEq

/-- The number that digits of base sixteen write. -/
def hexNumber (cs : List Char) : Nat :=
  cs.foldl (fun n c => 16 * n + (hexValue? c).getD 0) 0

/-- The row that a word writes. -/
def readRow (word : List Char) : Row :=
  let range := word.takeWhile (· != '>')
  let first := range.takeWhile (· != '-')
  let last := range.drop (first.length + 1)
  let values := word.drop (range.length + 1)
  { first := hexNumber first
    last := hexNumber (if last.isEmpty then first else last)
    values := if values.isEmpty then [] else (values.splitOnP (· == ',')).map hexNumber }

/-- The rows of a table. -/
def readRows (table : String) : List Row := (words table.toList).map readRow

/-- The ranges of a table. -/
def readRanges (table : String) : List (Nat × Nat) :=
  (readRows table).map fun r => (r.first, r.last)

/-- The first row of a table for a code point. -/
def rowOf? (rows : List Row) (n : Nat) : Option Row := rows.find? fun r => r.first ≤ n && n ≤ r.last

end RouterMetrics.Text

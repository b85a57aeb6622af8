import RouterMetrics.Text.Composed.Classes
import RouterMetrics.Text.Composed.Pairs

/-!
The composed form of a text, in which letters and marks that make one character are that character.

A text is taken apart as far as it goes, the marks behind every letter are put in the order of their
classes, and then every mark that makes a character with the letter before it is put together with
it. Texts that look the same have the same composed form.
-/

namespace RouterMetrics.Text

/-! ## The Hangul script -/

/-- The two characters of which a syllable consists: one of its letters is its last one. -/
def syllablePair? (n : Nat) : Option (Nat × Nat) :=
  if 0xac00 ≤ n && n ≤ 0xd7a3 then
    let i := n - 0xac00
    if i % 28 = 0 then some (0x1100 + i / 588, 0x1161 + i % 588 / 28)
    else some (n - i % 28, 0x11a7 + i % 28)
  else none

/-- The syllable of two characters. -/
def syllableOf? (a b : Nat) : Option Nat :=
  if 0x1100 ≤ a && a ≤ 0x1112 && 0x1161 ≤ b && b ≤ 0x1175 then
    some (0xac00 + ((a - 0x1100) * 21 + (b - 0x1161)) * 28)
  else if 0xac00 ≤ a && a ≤ 0xd7a3 && (a - 0xac00) % 28 == 0 && 0x11a8 ≤ b && b ≤ 0x11c2 then
    some (a + (b - 0x11a7))
  else none

/-! ## Pairs -/

/-- The pair that a character is. -/
def pairOf? (n : Nat) : Option (Nat × Nat) :=
  syllablePair? n <|>
    match (rowOf? pairRows n).map (·.values) with
    | some [a, b] => some (a, b)
    | _ => none

/-- The character that a pair is. The second of a pair is no letter of the Latin script. -/
def composed? (a b : Nat) : Option Nat :=
  if b < 0x300 then none
  else syllableOf? a b <|> (pairRows.find? fun r => r.values == [a, b]).map (·.first)

/-! ## Taking apart -/

/-- The characters of which a character consists. The first of a pair can be a pair again, not the
second, and none is a pair more than three times. -/
def partsOf : Nat → Nat → List Nat
  | 0, n => [n]
  | depth + 1, n =>
    match pairOf? n with
    | some (a, b) => partsOf depth a ++ [b]
    | none => [n]

/-- A character before others that are in order: marks of lower classes go before it. -/
def insertMark (n : Nat) : List Nat → List Nat
  | [] => [n]
  | m :: rest =>
    if combiningClass m != 0 && combiningClass m < combiningClass n then m :: insertMark n rest
    else n :: m :: rest

/-- The characters with the marks behind each letter in the order of their classes. -/
def orderMarks (ns : List Nat) : List Nat := ns.foldr insertMark []

/-- A text taken apart. -/
def decomposed (ns : List Nat) : List Nat := orderMarks (ns.flatMap (partsOf 3))

/-! ## Putting together -/

/-- A text in progress: what is finished, the last letter, and the marks behind it that are kept.
The finished characters and the marks are the latest first. -/
structure Composing where
  done : List Nat
  letter : Option Nat
  marks : List Nat

namespace Composing

/-- The characters so far, the latest first. -/
def all (s : Composing) : List Nat := s.marks ++ s.letter.toList ++ s.done

/-- A mark of the same class, or of any class if it is a letter, is in the way of a character. -/
def isBlocked (s : Composing) (n : Nat) : Bool :=
  match s.marks with
  | [] => false
  | m :: _ => combiningClass n ≤ combiningClass m

/-- The text with one more character that is not put together with the letter. -/
def keep (s : Composing) (n : Nat) : Composing :=
  if combiningClass n == 0 then ⟨s.all, some n, []⟩ else { s with marks := n :: s.marks }

/-- The text with one more character. -/
def push (s : Composing) (n : Nat) : Composing :=
  match s.letter.bind fun letter => if s.isBlocked n then none else composed? letter n with
  | some whole => { s with letter := some whole }
  | none => s.keep n

end Composing

/-- The composed form of code points. -/
def composedPoints (ns : List Nat) : List Nat :=
  ((decomposed ns).foldl Composing.push ⟨[], none, []⟩).all.reverse

/-- The composed form of a text. -/
def composed (cs : List Char) : List Char :=
  (composedPoints (cs.map Char.toNat)).map Char.ofNat

end RouterMetrics.Text

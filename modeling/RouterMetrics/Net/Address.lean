import RouterMetrics.Text.Digit
import RouterMetrics.Json.Reader

/-!
The written forms of network addresses: four numbers with points between them, or eight groups of
base sixteen with colons between them, of which one run of zero groups may be left out and the last
two may be written as an address of four numbers.
-/

namespace RouterMetrics.Net

/-- A network address: four bytes, or eight groups of sixteen bits. -/
inductive Address
  | v4 (bytes : List Nat)
  | v6 (groups : List Nat)
deriving Repr, DecidableEq

/-- A number of at most three digits below 256. Only zero itself starts with a zero. -/
def readByte (cs : List Char) : Option (Nat × List Char) :=
  let digits := cs.takeWhile Char.isDigit
  let n := Text.numberOf digits
  if digits.isEmpty || digits.length > 3 || n > 255 then none
  else if digits.length > 1 && digits.head? == some '0' then none
  else some (n, cs.drop digits.length)

/-- A byte after a point. -/
def readPointByte : List Char → Option (Nat × List Char)
  | '.' :: cs => readByte cs
  | _ => none

/-- Four bytes with points between them. -/
def readBytes (cs : List Char) : Option (List Nat × List Char) := do
  let (a, cs) ← readByte cs
  let (b, cs) ← readPointByte cs
  let (c, cs) ← readPointByte cs
  let (d, cs) ← readPointByte cs
  some ([a, b, c, d], cs)

/-- A group of one to four digits of base sixteen. -/
def readGroup (cs : List Char) : Option (Nat × List Char) :=
  let digits := cs.takeWhile fun c => (Text.hexValue? c).isSome
  if digits.isEmpty || digits.length > 4 then none
  else
    let n := digits.foldl (fun n c => 16 * n + (Text.hexValue? c).getD 0) 0
    some (n, cs.drop digits.length)

/-- Groups with colons between them, as many as there are up to a limit. Tells whether the last two
were written as bytes. -/
def readGroups : Nat → Bool → List Char → List Nat × Bool × List Char
  | 0, _, cs => ([], false, cs)
  | limit + 1, first, cs =>
    let start := if first then some cs else match cs with
      | ':' :: cs => some cs
      | _ => none
    match if limit == 0 then none else start.bind readBytes with
    | some ([a, b, c, d], rest) => ([256 * a + b, 256 * c + d], true, rest)
    | _ =>
      match start.bind readGroup with
      | some (g, rest) =>
        let (more, bytes, rest) := readGroups limit false rest
        (g :: more, bytes, rest)
      | none => ([], false, cs)

/-- Eight groups. A double colon stands for at least one group of zero, and bytes stand only at the
end. -/
def readEight (cs : List Char) : Option (List Nat × List Char) :=
  let (before, bytes, cs) := readGroups 8 true cs
  if before.length == 8 then some (before, cs)
  else if bytes then none
  else match cs with
    | ':' :: ':' :: cs =>
      let (after, _, cs) := readGroups (7 - before.length) true cs
      some (before ++ List.replicate (8 - before.length - after.length) 0 ++ after, cs)
    | _ => none

/-- The address that a whole text writes. -/
def Address.ofText? (text : String) : Option Address :=
  let cs := text.toList
  match readBytes cs with
  | some (bytes, rest) => if rest.isEmpty then some (.v4 bytes) else none
  | none =>
    match readEight cs with
    | some (groups, []) => some (.v6 groups)
    | _ => none

end RouterMetrics.Net

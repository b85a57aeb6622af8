/-!
Text read from bytes that may be no text: what is no UTF-8 reads as replacement characters, one for
each longest start of a character that goes wrong. A byte order mark at the head tells the encoding
and is left out.
-/

namespace RouterMetrics.Text

/-- The character that stands for bytes that are none. -/
def replacement : Char := '\ufffd'

/-! ## UTF-8 -/

/-- A character in progress: how many bytes are missing, the number so far, and the range of the
next byte. -/
structure Pending where
  missing : Nat
  number : Nat
  low : Nat
  high : Nat

/-- No character in progress. -/
def Pending.none : Pending := ⟨0, 0, 0x80, 0xbf⟩

/-- The first byte of a character. -/
def leadByte (b : Nat) : List Char × Pending :=
  if b < 0x80 then ([Char.ofNat b], .none)
  else if 0xc2 ≤ b && b ≤ 0xdf then ([], ⟨1, b - 0xc0, 0x80, 0xbf⟩)
  else if 0xe0 ≤ b && b ≤ 0xef then
    ([], ⟨2, b - 0xe0, if b == 0xe0 then 0xa0 else 0x80, if b == 0xed then 0x9f else 0xbf⟩)
  else if 0xf0 ≤ b && b ≤ 0xf4 then
    ([], ⟨3, b - 0xf0, if b == 0xf0 then 0x90 else 0x80, if b == 0xf4 then 0x8f else 0xbf⟩)
  else ([replacement], .none)

/-- The next byte. One that does not continue the character starts another one. -/
def nextByte (p : Pending) (b : Nat) : List Char × Pending :=
  if p.missing == 0 then leadByte b
  else if p.low ≤ b && b ≤ p.high then
    let n := 64 * p.number + (b - 0x80)
    if p.missing == 1 then ([Char.ofNat n], .none) else ([], ⟨p.missing - 1, n, 0x80, 0xbf⟩)
  else
    let (cs, p) := leadByte b
    (replacement :: cs, p)

/-- The text of bytes after a start of a character. -/
def fromUtf8 (p : Pending) : List UInt8 → List Char
  | [] => if p.missing == 0 then [] else [replacement]
  | b :: bs =>
    let (cs, p) := nextByte p b.toNat
    cs ++ fromUtf8 p bs

/-! ## UTF-16 -/

/-- The units of bytes, with a lone byte at the end left over. -/
def units (bigEndian : Bool) : List UInt8 → List Nat × Bool
  | [] => ([], false)
  | [_] => ([], true)
  | a :: b :: rest =>
    let (more, odd) := units bigEndian rest
    ((if bigEndian then 256 * a.toNat + b.toNat else 256 * b.toNat + a.toNat) :: more, odd)

/-- A first half of a pair. -/
def isLeadUnit (u : Nat) : Bool := 0xd800 ≤ u && u ≤ 0xdbff

/-- A second half of a pair. -/
def isTrailUnit (u : Nat) : Bool := 0xdc00 ≤ u && u ≤ 0xdfff

/-- The text of units. A half of a pair that stands alone is replaced, and so is what is left over
at the end: a lone byte, or a first half, or both together. -/
def fromUnits (odd : Bool) : List Nat → List Char
  | [] => if odd then [replacement] else []
  | u :: rest =>
    match rest with
    | [] =>
      if isLeadUnit u then [replacement]
      else (if isTrailUnit u then replacement else Char.ofNat u) :: fromUnits odd []
    | v :: more =>
      if isLeadUnit u && isTrailUnit v then
        Char.ofNat (0x10000 + 0x400 * (u - 0xd800) + (v - 0xdc00)) :: fromUnits odd more
      else
        (if isLeadUnit u || isTrailUnit u then replacement else Char.ofNat u) ::
          fromUnits odd (v :: more)

/-- The text of bytes in UTF-16. -/
def fromUtf16 (bigEndian : Bool) (bytes : List UInt8) : List Char :=
  let (us, odd) := units bigEndian bytes
  fromUnits odd us

/-- The text of bytes in the encoding that a byte order mark tells, UTF-8 without one. -/
def ofBytes (bytes : List UInt8) : String :=
  String.ofList <| match bytes with
    | 0xef :: 0xbb :: 0xbf :: rest => fromUtf8 .none rest
    | 0xff :: 0xfe :: rest => fromUtf16 false rest
    | 0xfe :: 0xff :: rest => fromUtf16 true rest
    | bytes => fromUtf8 .none bytes

end RouterMetrics.Text

import RouterMetrics.Json.Reader

/-!
Text in places that hold only some characters of ASCII: every other byte is written as a percent
sign and its number in base sixteen. Characters beyond ASCII count as the bytes of their UTF-8
form.
-/

namespace RouterMetrics.Net

/-- An upper-case digit of base sixteen. -/
def upperHexDigit (n : Nat) : Char := (Nat.digitChar n).toUpper

/-- A byte as a percent sign and two digits. -/
def percentByte (b : UInt8) : List Char :=
  ['%', upperHexDigit (b.toNat / 16), upperHexDigit (b.toNat % 16)]

/-- A character, percent-encoded when it is of a class or not of ASCII. -/
def percentChar (encoded : Char → Bool) (c : Char) : List Char :=
  if encoded c || c.toNat ≥ 0x80 then (String.utf8EncodeChar c).flatMap percentByte else [c]

/-- A text with the characters of a class percent-encoded. -/
def percentEncode (encoded : Char → Bool) (cs : List Char) : List Char :=
  cs.flatMap (percentChar encoded)

/-- The bytes of a text whose percent signs before two digits of base sixteen are read. -/
def percentDecode : List Char → List UInt8
  | [] => []
  | '%' :: a :: b :: cs =>
    match Text.hexValue? a, Text.hexValue? b with
    | some x, some y => UInt8.ofNat (16 * x + y) :: percentDecode cs
    | _, _ => '%'.toUInt8 :: percentDecode (a :: b :: cs)
  | c :: cs => String.utf8EncodeChar c ++ percentDecode cs

/-- The characters of a list. -/
def isOneOf (cs : String) (c : Char) : Bool := cs.toList.contains c

/-- A control character of ASCII. -/
def isAsciiControl (c : Char) : Bool := c.toNat < 0x20 || c.toNat == 0x7f

/-- What is encoded in a fragment. -/
def inFragmentSet (c : Char) : Bool := isAsciiControl c || isOneOf " \"<>\x60" c

/-- What is encoded in a query. -/
def inQuerySet (c : Char) : Bool := isAsciiControl c || isOneOf " \"#<>'" c

/-- What is encoded in a path. -/
def inPathSet (c : Char) : Bool := inFragmentSet c || isOneOf "#?\x7b\x7d" c

/-- What is encoded in a user's name and password. -/
def inUserSet (c : Char) : Bool := inPathSet c || isOneOf "/:;=@[\\]^|" c

/-! ## Forms -/

/-- A byte in a form: letters, digits and a few marks stay, and a space becomes a plus sign. -/
def formByte (b : UInt8) : List Char :=
  let c := Char.ofNat b.toNat
  if b.toNat < 0x80 && (c.isAlphanum || isOneOf "*-._" c) then [c]
  else if c == ' ' then ['+']
  else percentByte b

/-- A text in a form. -/
def formText (s : String) : List Char := s.toList.flatMap fun c =>
  (String.utf8EncodeChar c).flatMap formByte

/-- Names and values as the text of a form. -/
def formPairs (pairs : List (String × String)) : String :=
  "&".intercalate (pairs.map fun p => String.ofList (formText p.1 ++ '=' :: formText p.2))

/-! ## Base sixty-four -/

/-- The digit of base sixty-four for a number below sixty-four. -/
def base64Digit (n : Nat) : Char :=
  if n < 26 then Char.ofNat ('A'.toNat + n)
  else if n < 52 then Char.ofNat ('a'.toNat + (n - 26))
  else if n < 62 then Char.ofNat ('0'.toNat + (n - 52))
  else if n == 62 then '+' else '/'

/-- Bytes as digits of base sixty-four, four for every three bytes, filled up with equal signs. -/
def base64 : List UInt8 → List Char
  | [] => []
  | [a] =>
    let n := a.toNat * 16
    [base64Digit (n / 64), base64Digit (n % 64), '=', '=']
  | [a, b] =>
    let n := (a.toNat * 256 + b.toNat) * 4
    [base64Digit (n / 4096), base64Digit (n / 64 % 64), base64Digit (n % 64), '=']
  | a :: b :: c :: rest =>
    let n := a.toNat * 65536 + b.toNat * 256 + c.toNat
    base64Digit (n / 262144) :: base64Digit (n / 4096 % 64) :: base64Digit (n / 64 % 64) ::
      base64Digit (n % 64) :: base64 rest

end RouterMetrics.Net

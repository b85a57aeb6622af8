import RouterMetrics.Net.Address
import RouterMetrics.Net.Domain

/-!
The host of a URL: an address or a domain name.

A name whose last part is a number is an address of four bytes, whose parts may be written in base
ten, eight or sixteen; the last part fills the bytes that are left. An address of eight groups
stands in brackets; it is written without the longest run of at least two zero groups.
-/

namespace RouterMetrics.Net

/-- Why a text is no URL. -/
inductive UrlError
  | emptyHost
  | domain
  | port
  | v4
  | v6
  | hostCharacter
deriving Repr, DecidableEq

/-- The text of an error. -/
def UrlError.message : UrlError → String
  | .emptyHost => "empty host"
  | .domain => "invalid international domain name"
  | .port => "invalid port number"
  | .v4 => "invalid IPv4 address"
  | .v6 => "invalid IPv6 address"
  | .hostCharacter => "invalid domain character"

/-! ## Four bytes -/

/-- The number that digits of a base write, `none` when one is no digit of it. -/
def numberIn? (base : Nat) (cs : List Char) : Option Nat :=
  cs.foldlM (fun n c =>
    (Text.hexValue? c).bind fun d => if d < base then some (base * n + d) else none) 0

/-- The number of a part of an address. A part that starts with a zero is in base eight, or in base
sixteen behind its mark; no digits are zero there. -/
def partNumber? : List Char → Option Nat
  | [] => none
  | '0' :: 'x' :: cs => numberIn? 16 cs
  | '0' :: 'X' :: cs => numberIn? 16 cs
  | '0' :: c :: cs => numberIn? 8 (c :: cs)
  | cs => numberIn? 10 cs

/-- The parts of a name, without an empty part at its end. -/
def nameParts (name : List Char) : List (List Char) :=
  let parts := name.splitOnP (· == '.')
  if parts.getLast? == some [] then parts.dropLast else parts

/-- The last part of a name is a number, or digits only. -/
def endsInNumber (name : List Char) : Bool :=
  match (nameParts name).getLast? with
  | some last => (!last.isEmpty && last.all Char.isDigit) || (partNumber? last).isSome
  | none => false

/-- The bytes of an address of up to four numbers. -/
def bytesOf? (name : List Char) : Option (List Nat) := do
  let numbers ← (nameParts name).mapM partNumber?
  let last ← numbers.getLast?
  let before := numbers.dropLast
  let left := 4 - before.length
  if before.length > 3 || before.any (· > 255) || last ≥ Nat.pow 256 left then none
  else some (before ++ (List.range left).map fun i => last / Nat.pow 256 (left - 1 - i) % 256)

/-! ## Eight groups -/

/-- A run of zero groups at the head of a list. -/
def zeroRun (groups : List Nat) : Nat := (groups.takeWhile (· == 0)).length

/-- The start and the length of the first of the longest runs of zero groups. -/
def longestZeroRun (groups : List Nat) : Nat × Nat :=
  (List.range groups.length).foldl
    (fun best i => let n := zeroRun (groups.drop i); if n > best.2 then (i, n) else best) (0, 0)

/-- Groups with colons between them. -/
def groupsText (groups : List Nat) : String :=
  ":".intercalate (groups.map fun g => String.ofList (Nat.toDigits 16 g))

/-- The written form of an address in a URL. -/
def Address.text : Address → String
  | .v4 bytes => ".".intercalate (bytes.map toString)
  | .v6 groups =>
    let (start, length) := longestZeroRun groups
    if length < 2 then "[" ++ groupsText groups ++ "]"
    else "[" ++ groupsText (groups.take start) ++ "::" ++
      groupsText (groups.drop (start + length)) ++ "]"

/-! ## Hosts -/

/-- A host. -/
inductive Host
  | address (a : Address)
  | name (s : String)
deriving Repr, DecidableEq

/-- The written form of a host. -/
def Host.text : Host → String
  | .address a => a.text
  | .name s => s

/-- The host in brackets, if a text starts with one. -/
def Host.bracketed? (cs : List Char) : Option (Except UrlError Host) :=
  match cs with
  | '[' :: inner =>
    if inner.getLast? != some ']' then some (.error .v6)
    else match readEight inner.dropLast with
      | some (groups, []) => some (.ok (.address (.v6 groups)))
      | _ => some (.error .v6)
  | _ => none

/-- The host that a text writes in a URL of the web. -/
def Host.ofChars (cs : List Char) : Except UrlError Host :=
  match bracketed? cs with
  | some host => host
  | none =>
    match domainOf? (percentDecode cs) with
    | none => .error .domain
    | some [] => .error .emptyHost
    | some domain =>
      if endsInNumber domain then
        match bytesOf? domain with
        | some bytes => .ok (.address (.v4 bytes))
        | none => .error .v4
      else .ok (.name (String.ofList domain))

/-- The host that a text writes in any other URL. -/
def Host.opaqueOfChars (cs : List Char) : Except UrlError Host :=
  match bracketed? cs with
  | some host => host
  | none =>
    if cs.any (isOneOf "\x00\t\n\r #/:<>?@[\\]^|") then .error .hostCharacter
    else .ok (.name (String.ofList (percentEncode isAsciiControl cs)))

end RouterMetrics.Net

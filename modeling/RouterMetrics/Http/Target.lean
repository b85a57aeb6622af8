import RouterMetrics.Net.Percent

/-!
The target of a request: a path with a query, a whole URL, a host with a port, or a star.

Only the path counts here. A target is refused that is none of these, and one that is too long.
-/

namespace RouterMetrics.Http

/-- Why a target is refused. -/
inductive TargetError
  | malformed
  | tooLong
deriving Repr, DecidableEq

/-- The status of the answer to a target that is refused. -/
def TargetError.status : TargetError → Nat
  | .malformed => 400
  | .tooLong => 414

namespace Target

/-- The most bytes that a target may have. -/
def limit : Nat := 65534

/-- The most characters that a scheme may have. -/
def schemeLimit : Nat := 64

/-- A character that does not end the first line of a request or a part of it. -/
def isSolid (c : Char) : Bool := ' ' < c && !Net.isAsciiControl c

/-! ## Hosts -/

/-- A character that ends a host and a port. -/
def endsHost (c : Char) : Bool := c == '/' || c == '?' || c == '#'

/-- A character of a host, a port or a user. -/
def isHostChar (c : Char) : Bool := c.isAlphanum || Net.isOneOf "!$&'()*+,-.;=_~" c

/-- A host in progress: the colons that may be before a port, whether brackets are opened and
closed, and whether there is a percent sign that no user has. -/
structure HostScan where
  colons : Nat
  opened : Bool
  closed : Bool
  percent : Bool

/-- The host with one more character. What is before an at sign is a user, and what is in brackets
an address; their colons and percent signs do not count. -/
def HostScan.next? (s : HostScan) (c : Char) : Option HostScan :=
  match c with
  | ':' => if s.colons ≥ 8 then none else some { s with colons := s.colons + 1 }
  | '[' => if s.percent || s.opened then none else some { s with opened := true }
  | ']' =>
    if !s.opened || s.closed then none
    else some { s with closed := true, colons := 0, percent := false }
  | '@' => some { s with colons := 0, percent := false }
  | '%' => some { s with percent := true }
  | c => if isHostChar c then some s else none

/-- A text that is a host, perhaps with a user and a port, or nothing. -/
def isHost (cs : List Char) : Bool :=
  match cs.foldlM HostScan.next? ⟨0, false, false, false⟩ with
  | some s => s.opened == s.closed && s.colons ≤ 1 && !s.percent && cs.getLast? != some '@'
  | none => false

/-! ## Schemes -/

/-- A character of a scheme. -/
def isSchemeChar (c : Char) : Bool := c.isAlphanum || Net.isOneOf "+-.~" c

/-- A scheme and what follows it and its slashes. -/
def readScheme (cs : List Char) : Option (List Char × List Char) :=
  let scheme := cs.takeWhile isSchemeChar
  match cs.drop scheme.length with
  | ':' :: '/' :: '/' :: rest => if cs.length ≤ 3 then none else some (scheme, rest)
  | _ => none

/-! ## Paths -/

/-- A character of a path. -/
def isPathChar (c : Char) : Bool := isSolid c && !Net.isOneOf "#<>?\x60" c

/-- A character of a query. -/
def isQueryChar (c : Char) : Bool := isSolid c && !Net.isOneOf "\"#<>" c

/-- The path at the head of a text, with a query and a fragment behind it. -/
def readPath (cs : List Char) : Except TargetError String :=
  let path := cs.takeWhile fun c => c != '?' && c != '#'
  let query := match cs.drop path.length with
    | '?' :: rest => rest.takeWhile (· != '#')
    | _ => []
  if path.all isPathChar && query.all isQueryChar then .ok (String.ofList path)
  else .error .malformed

/-! ## Targets -/

/-- The path of a target that does not start with one. A host alone has none, and that of a URL is
at least a slash. -/
def readWhole (cs : List Char) : Except TargetError String :=
  match readScheme cs with
  | some (scheme, rest) =>
    let host := rest.takeWhile fun c => !endsHost c
    if scheme.length > schemeLimit || host.isEmpty || !isHost host then .error .malformed
    else (readPath (rest.drop host.length)).map fun path => if path.isEmpty then "/" else path
  | none => if isHost cs && !cs.any endsHost then .ok "" else .error .malformed

/-- The path of a target. -/
def path (target : String) : Except TargetError String :=
  let cs := target.toList
  if cs.isEmpty || !cs.all isSolid then .error .malformed
  else if target.utf8ByteSize > limit then .error .tooLong
  else match cs with
    | '/' :: _ => readPath cs
    | ['*'] => .ok "*"
    | cs => readWhole cs

end Target

end RouterMetrics.Http

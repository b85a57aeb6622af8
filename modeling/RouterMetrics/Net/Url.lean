import RouterMetrics.Net.Host

/-!
URLs, read from a text alone or from a text that stands in relation to another URL.

The schemes of the web have an authority behind any number of slashes, which may be backslashes; a
path is a list of segments, in which dots and double dots are resolved. Tabs and line breaks inside
a text do not count, nor do controls and spaces at its ends.
-/

namespace RouterMetrics.Net

/-- A URL. A path that has no segments is kept as it is. -/
structure Url where
  scheme : String
  user : String
  host : Option Host
  port : Option Nat
  path : String
  query : Option String
  fragment : Option String
deriving Repr, DecidableEq

namespace Url

/-! ## Schemes -/

/-- The schemes of the web with their ports. -/
def webPorts : List (String × Nat) :=
  [("http", 80), ("https", 443), ("ws", 80), ("wss", 443), ("ftp", 21)]

/-- The port that a scheme needs not tell. -/
def defaultPort? (scheme : String) : Option Nat := webPorts.lookup scheme

/-- A scheme whose URLs have hosts and paths of segments. -/
def isSpecial (scheme : String) : Bool := (defaultPort? scheme).isSome || scheme == "file"

/-- The scheme at the head of a text, in lower case, and what follows its colon. -/
def readScheme (cs : List Char) : Option (String × List Char) :=
  match cs with
  | c :: _ =>
    if c.isAlpha then
      let run := cs.takeWhile fun c => c.isAlphanum || isOneOf "+-." c
      match cs.drop run.length with
      | ':' :: rest => some (String.ofList (run.map Char.toLower), rest)
      | _ => none
    else none
  | [] => none

/-- A slash, or a backslash in a special URL. -/
def isSlash (special : Bool) (c : Char) : Bool := c == '/' || (special && c == '\\')

/-- A character that ends an authority. -/
def endsAuthority (special : Bool) (c : Char) : Bool :=
  isSlash special c || c == '?' || c == '#'

/-! ## Authority -/

/-- The name and the password of a user before a host. The first colon divides them. -/
def userText (cs : List Char) : List Char :=
  let name := percentEncode inUserSet (cs.takeWhile (· != ':'))
  let password := percentEncode inUserSet ((cs.dropWhile (· != ':')).drop 1)
  name ++ (if password.isEmpty then [] else ':' :: password)

/-- A user, a host and a port. -/
structure Authority where
  user : String
  host : Host
  port : Option Nat

/-- The characters of a host at the head of a text: up to a colon that is not in brackets. -/
def hostRun (bracket : Bool) : List Char → List Char
  | [] => []
  | c :: cs =>
    if c == ':' && !bracket then []
    else c :: hostRun (c == '[' || (bracket && c != ']')) cs

/-- A port after a colon, which may be missing. -/
def readPort (scheme : String) (cs : List Char) : Except UrlError (Option Nat) :=
  let n := Text.numberOf cs
  if !cs.all Char.isDigit || n ≥ 1 <<< 16 then .error .port
  else .ok (if cs.isEmpty || defaultPort? scheme == some n then none else some n)

/-- The authority at the head of a text, and what follows it. The user ends at the last at sign, and
a backslash ends the number of the port. -/
def readAuthority (scheme : String) (cs : List Char) : Except UrlError (Authority × List Char) := do
  let special := isSpecial scheme
  let whole := cs.takeWhile fun c => !endsAuthority special c
  let rest := cs.drop whole.length
  let hostAndPort := (whole.reverse.takeWhile (· != '@')).reverse
  let user := whole.take (whole.length - hostAndPort.length - 1)
  let hostChars := hostRun false hostAndPort
  let afterHost := hostAndPort.drop hostChars.length
  if hostChars.isEmpty && (special || whole.contains '@' || !afterHost.isEmpty) then
    .error .emptyHost
  let host ← if special then Host.ofChars hostChars else Host.opaqueOfChars hostChars
  let number := (afterHost.drop 1).takeWhile (· != '\\')
  let port ← readPort scheme number
  return (⟨String.ofList (userText user), host, port⟩, afterHost.drop (1 + number.length) ++ rest)

/-! ## Paths -/

/-- A segment that stands for the level it is in. -/
def isDot (s : List Char) : Bool := ["." , "%2e"].contains (String.ofList (s.map Char.toLower))

/-- A segment that stands for the level above. -/
def isDoubleDot (s : List Char) : Bool :=
  ["..", ".%2e", "%2e.", "%2e%2e"].contains (String.ofList (s.map Char.toLower))

/-- A letter with a colon or a bar, which a double dot does not take away. -/
def isDrive : List Char → Bool
  | [c, d] => c.isAlpha && (d == ':' || d == '|')
  | _ => false

/-- The segments without the last one. -/
def dropLevel (segments : List (List Char)) : List (List Char) :=
  if (segments.getLast?.map isDrive).getD false then segments else segments.dropLast

/-- Adds the segments of a path to those of the levels above it. A dot or a double dot at the end
leaves an empty segment. -/
def addSegments (above : List (List Char)) : List (List Char) → List (List Char)
  | [] => above
  | [s] =>
    if isDoubleDot s then dropLevel above ++ [[]]
    else if isDot s then above ++ [[]]
    else above ++ [s]
  | s :: rest =>
    if isDoubleDot s then addSegments (dropLevel above) rest
    else if isDot s then addSegments above rest
    else addSegments (above ++ [s]) rest

/-- The text of segments. -/
def segmentsText (segments : List (List Char)) : String :=
  String.ofList (segments.flatMap fun s => '/' :: s)

/-- The segments of a path below those of a level, percent-encoded. -/
def pathBelow (special : Bool) (above : List (List Char)) (cs : List Char) : String :=
  let segments := cs.splitOnP (isSlash special)
  segmentsText (addSegments above (segments.map (percentEncode inPathSet)))

/-- The segments of a path that starts with a slash, without the last one. -/
def level (path : String) : List (List Char) :=
  ((path.toList.splitOnP (· == '/')).drop 1).dropLast

/-! ## Queries and fragments -/

/-- A path's text, and the query and the fragment after it. -/
def divide (cs : List Char) : List Char × Option (List Char) × Option (List Char) :=
  let before := cs.takeWhile (· != '#')
  let fragment := (cs.drop before.length).tail?
  let path := before.takeWhile (· != '?')
  (path, (before.drop path.length).tail?, fragment)

/-- A query. A quotation mark is encoded only in a special URL. -/
def queryText (special : Bool) (cs : List Char) : String :=
  String.ofList (percentEncode (fun c => inQuerySet c && (special || c != '\'')) cs)

/-- A fragment. -/
def fragmentText (cs : List Char) : String := String.ofList (percentEncode inFragmentSet cs)

/-- The URL with what follows its authority. -/
def withRest (u : Url) (cs : List Char) (path : List Char → String) : Url :=
  let special := isSpecial u.scheme
  let (p, query, fragment) := divide cs
  { u with path := path p, query := query.map (queryText special),
           fragment := fragment.map fragmentText }

/-! ## Whole URLs -/

/-- The URL of a scheme, with nothing else. -/
def ofScheme (scheme : String) : Url := ⟨scheme, "", none, none, "", none, none⟩

/-- A path behind an authority. Its first slash may be missing. -/
def absolutePath (special : Bool) (p : List Char) : String :=
  match p with
  | [] => if special then "/" else ""
  | c :: cs => pathBelow special [] (if isSlash special c then cs else c :: cs)

/-- A URL whose authority starts here. -/
def afterSlashes (scheme : String) (cs : List Char) : Except UrlError Url := do
  let (a, rest) ← readAuthority scheme cs
  let u := { ofScheme scheme with user := a.user, host := some a.host, port := a.port }
  return u.withRest rest (absolutePath (isSpecial scheme))

/-- A URL of a file. Its host may be empty, and a drive is part of the path. -/
def ofFile (cs : List Char) : Except UrlError Url := do
  let slashes := (cs.takeWhile (isSlash true)).length
  let u := ofScheme "file"
  if slashes < 2 then
    return u.withRest cs fun p => pathBelow true [] (if slashes == 1 then p.drop 1 else p)
  else
    let cs := cs.drop 2
    let run := cs.takeWhile fun c => !endsAuthority true c
    if run.isEmpty || isDrive run then
      return u.withRest (if isDrive run then '/' :: cs else cs) (absolutePath true)
    else
      let host ← Host.ofChars run
      return { u with host := some host }.withRest (cs.drop run.length) (absolutePath true)

/-- A URL from what follows its scheme. -/
def ofSchemeAndRest (scheme : String) (cs : List Char) : Except UrlError Url :=
  if scheme == "file" then ofFile cs
  else if isSpecial scheme then afterSlashes scheme (cs.dropWhile (isSlash true))
  else match cs with
    | '/' :: '/' :: rest => afterSlashes scheme rest
    | '/' :: _ => .ok ((ofScheme scheme).withRest cs (absolutePath false))
    | cs => .ok ((ofScheme scheme).withRest cs fun p =>
        String.ofList (percentEncode isAsciiControl p))

/-- A control character or a space, which do not count at the ends of a text. -/
def isEdge (c : Char) : Bool := c.toNat ≤ 0x20

/-- The characters of a text that count. -/
def significant (text : String) : List Char :=
  let cs := text.toList.dropWhile isEdge
  let cs := (cs.reverse.dropWhile isEdge).reverse
  cs.filter fun c => !isOneOf "\t\n\r" c

/-- A URL that stands in relation to another one of a web scheme. An authority stands behind two
slashes, or behind all of them when one of those two is a backslash. -/
def relative (base : Url) (cs : List Char) : Except UrlError Url :=
  let slashes := (cs.takeWhile (isSlash true)).length
  if slashes ≥ 2 then
    let plain := ['/', '/'].isPrefixOf cs
    afterSlashes base.scheme (cs.drop (if plain then 2 else slashes))
  else if slashes == 1 then .ok (base.withRest cs (absolutePath true))
  else match cs with
    | [] => .ok { base with fragment := none }
    | '#' :: fragment => .ok { base with fragment := some (fragmentText fragment) }
    | '?' :: _ => .ok (base.withRest cs fun _ => base.path)
    | cs => .ok (base.withRest cs (pathBelow true (level base.path)))

/-- The URL that a text writes. A text without a scheme is none; it is an error only for hosts. -/
def ofText? (text : String) : Option (Except UrlError Url) :=
  (readScheme (significant text)).map fun (scheme, rest) => ofSchemeAndRest scheme rest

/-- The URL that a text writes in relation to another one of a web scheme. -/
def join (base : Url) (text : String) : Except UrlError Url :=
  let cs := significant text
  match readScheme cs with
  | some (scheme, rest) =>
    if scheme == base.scheme && (rest.takeWhile (isSlash true)).length < 2 then
      base.relative rest
    else ofSchemeAndRest scheme rest
  | none => base.relative cs

/-- The URL with a port. -/
def withPort (u : Url) (port : Nat) : Url :=
  { u with port := if defaultPort? u.scheme == some port then none else some port }

/-- The path and the query, as a request line has them. -/
def target (u : Url) : String := u.path ++ ((u.query.map ("?" ++ ·)).getD "")

/-- The written form of a URL with a host. -/
def text (u : Url) : String :=
  u.scheme ++ "://" ++ (if u.user.isEmpty then "" else u.user ++ "@") ++
    ((u.host.map Host.text).getD "") ++ ((u.port.map fun p => ":" ++ toString p).getD "") ++
    u.target ++ ((u.fragment.map ("#" ++ ·)).getD "")

end Url

end RouterMetrics.Net

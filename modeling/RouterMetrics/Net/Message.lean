import RouterMetrics.Net.Reply
import RouterMetrics.Text.Digit

/-!
Requests and replies as messages of HTTP/1.1, one of each on a connection.

The lines of a message's head end with a carriage return and a line feed, and an empty line ends
the head. A body ends where its length says, with its last chunk, or with the connection.
-/

namespace RouterMetrics.Net

/-! ## Requests -/

/-- The host and the port that a request is made to, as its head tells them. -/
def Url.authority (u : Url) : String :=
  ((u.host.map Host.text).getD "") ++ ((u.port.map fun p => ":" ++ toString p).getD "")

/-- The message of a request. -/
def Request.message (r : Request) : String :=
  let body := r.body.getD ""
  let lines :=
    [r.method ++ " " ++ r.url.target ++ " HTTP/1.1", "host: " ++ r.url.authority, "accept: */*"] ++
    (r.authorization.map ("authorization: " ++ ·)).toList ++
    (r.body.map fun _ => "content-type: application/json").toList ++
    (r.body.map fun _ => "content-length: " ++ toString body.utf8ByteSize).toList ++
    ["connection: close", "", ""]
  "\r\n".intercalate lines ++ body

/-! ## Replies -/

/-- The characters up to the first line feed, without a carriage return before it, and what follows
the line. -/
def splitLine (cs : List Char) : Option (List Char × List Char) :=
  let line := cs.takeWhile (· != '\n')
  match cs.drop line.length with
  | [] => none
  | _ :: rest => some (if line.getLast? == some '\r' then line.dropLast else line, rest)

/-- The lines up to the first empty one, and what follows that. -/
def splitHead : Nat → List Char → Option (List (List Char) × List Char)
  | 0, _ => none
  | fuel + 1, cs =>
    match splitLine cs with
    | none => none
    | some ([], rest) => some ([], rest)
    | some (line, rest) => (splitHead fuel rest).map fun (lines, body) => (line :: lines, body)

/-- The status that the first line of a head tells: three digits, the first of them not zero. -/
def statusOf? (line : List Char) : Option Nat :=
  match line.splitOnP (· == ' ') with
  | version :: code :: _ =>
    let status := Text.numberOf code
    if (version == "HTTP/1.1".toList || version == "HTTP/1.0".toList) && code.length == 3 &&
        code.all Char.isDigit && 100 ≤ status then
      some status
    else none
  | _ => none

/-- The value of a field in the lines of a head. The case of the name does not count. -/
def fieldOf? (name : String) (lines : List (List Char)) : Option String :=
  lines.findSome? fun line =>
    let key := line.takeWhile (· != ':')
    if key.map Char.toLower == name.toList then
      some (String.ofList (Text.trim (line.drop (key.length + 1))))
    else none

/-- The length of a chunk, up to which its line is a number in base sixteen. -/
def chunkLength? (line : List Char) : Option Nat :=
  let digits := (line.takeWhile fun c => (Text.hexValue? c).isSome).filterMap Text.hexValue?
  if digits.isEmpty then none else some (digits.foldl (fun n d => 16 * n + d) 0)

/-- The body in chunks, which the empty one ends. -/
def unchunk : Nat → List Char → Option (List Char)
  | 0, _ => none
  | fuel + 1, cs => do
    let (line, rest) ← splitLine cs
    let length ← chunkLength? line
    if length = 0 then return []
    else if rest.length < length then none
    else
      let (_, next) ← splitLine (rest.drop length)
      return rest.take length ++ (← unchunk fuel next)

/-- The body behind a head, `none` when it is cut off. -/
def bodyBehind? (head : List (List Char)) (cs : List Char) : Option (List Char) :=
  if (fieldOf? "transfer-encoding" head).map String.toLower == some "chunked" then
    unchunk (cs.length + 1) cs
  else
    match (fieldOf? "content-length" head).bind String.toNat? with
    | some length => if cs.length < length then none else some (cs.take length)
    | none => some cs

/-- A status that only announces an answer: those below 200 but the one that changes the
protocol. -/
def isInterim (status : Nat) : Bool := status < 200 && status != 101

/-- The answer in the characters of a connection, behind heads that only announce one. Every head
takes a line, so as many steps as characters suffice. -/
def answerIn? : Nat → List Char → Option Reply
  | 0, _ => none
  | fuel + 1, cs => do
    let (head, rest) ← splitHead (cs.length + 1) cs
    let status ← statusOf? (← head.head?)
    if isInterim status then answerIn? fuel rest
    else
      let body ← if isBodiless status then some [] else bodyBehind? head.tail rest
      return .answer status (body.map fun (c : Char) => UInt8.ofNat c.toNat)

/-- The reply that the bytes of a connection hold. One that is cut off, or no message, is
dropped. -/
def Reply.ofMessage (bytes : List UInt8) : Reply :=
  (answerIn? (bytes.length + 1) (bytes.map fun b => Char.ofNat b.toNat)).getD .dropped

end RouterMetrics.Net

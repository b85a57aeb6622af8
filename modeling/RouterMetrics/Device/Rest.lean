import RouterMetrics.Config.Settings
import RouterMetrics.Device.Transport
import RouterMetrics.Json.Reader
import RouterMetrics.Net.Reply

/-!
Requests to the REST interface of a device.

Items are listed by reading a path with the parameters as its query; a command is run by posting
the parameters below the path. Whatever answers well holds an object or a list of objects; its
bytes are characters of Latin-1.
-/

namespace RouterMetrics.Rest

/-! ## Where requests go -/

/-- Where the requests of a device go, the user they are made for, and how long replies are waited
for. -/
structure Endpoint where
  base : Net.Url
  username : String
  password : String
  patience : Duration

/-- The host of a device as a URL has it. -/
def hostText (hostname : String) : String :=
  match Net.Address.ofText? hostname with
  | some (.v6 _) => "[" ++ hostname ++ "]"
  | _ => hostname

/-- The URL that all paths of a device are below. -/
def baseUrl (d : Config.DeviceSettings) : Except TransportError Net.Url :=
  let scheme := if d.useSsl then "https" else "http"
  let text := scheme ++ "://" ++ hostText d.hostname ++ "/rest/"
  match (Net.Url.ofText? text).getD (.error .emptyHost) with
  | .ok u => .ok (match d.port with
    | some port => u.withPort port
    | none => u)
  | .error e => .error (.request ("invalid host '" ++ d.hostname ++ "': " ++ e.message))

/-- Where the requests of a device go by its settings. Its own time for replies goes before the
common one. -/
def Endpoint.ofSettings (d : Config.DeviceSettings) (env : Config.Environment)
    (patience : Duration) : Except TransportError Endpoint :=
  (baseUrl d).map fun base =>
    ⟨base, d.username, d.resolvedPassword env, d.socketTimeout.getD patience⟩

/-! ## Requests -/

/-- The authorization of a user by name and password. -/
def basicAuthorization (username password : String) : String :=
  let bytes := (username ++ ":" ++ password).toUTF8.toList
  "Basic " ++ String.ofList (Net.base64 bytes)

/-- The text of a parameter in a query. -/
def queryValue : Json → String
  | .text s => s
  | v => v.compact

/-- The URL with more pairs in its query. A query that stays empty is left out. -/
def withQuery (u : Net.Url) (pairs : List (String × String)) : Net.Url :=
  let before := u.query.getD ""
  let added := Net.formPairs pairs
  let query := if before.isEmpty || added.isEmpty then before ++ added else before ++ "&" ++ added
  { u with query := if query.isEmpty then none else some query }

namespace Endpoint

/-- The URL of a path, whose leading slashes do not count. -/
def urlOf (e : Endpoint) (path : String) : Except TransportError Net.Url :=
  match e.base.join (String.ofList (path.toList.dropWhile (· == '/'))) with
  | .ok u => .ok u
  | .error err => .error (.request ("invalid path '" ++ path ++ "': " ++ err.message))

/-- The request that a call makes. Only URLs of the web can be asked. -/
def request (e : Endpoint) (c : Call) : Except TransportError Net.Request := do
  let path := match c.verb with
    | .list => c.path
    | .command name => c.path ++ "/" ++ name
  let url ← e.urlOf path
  if url.scheme != "http" && url.scheme != "https" then
    .error (.request ("URL scheme '" ++ url.scheme ++ "' is not allowed"))
  let authorization := some (basicAuthorization e.username e.password)
  match c.verb with
  | .list =>
    let pairs := c.params.toList.map fun (k, v) => (k, queryValue v)
    return ⟨"GET", withQuery url pairs, authorization, none, e.patience⟩
  | .command _ => return ⟨"POST", url, authorization, some c.params.toJson.compact, e.patience⟩

/-- The call that a handshake makes. -/
def handshakeCall : Call := ⟨"system/identity", .list, Dict.empty⟩

end Endpoint

/-! ## Answers -/

/-- Objects among items, or the first item that is none. -/
def objects : List Json → Except TransportError (List Record)
  | [] => .ok []
  | item :: rest =>
    match Record.ofJson? item with
    | some r => (objects rest).map (r :: ·)
    | none => .error (.decode ("expected object in array, got " ++ item.compact))

/-- The records in the bytes of an answer. An answer of white space has none. -/
def decode (bytes : List UInt8) : Except TransportError (List Record) :=
  let cs := bytes.map fun b => Char.ofNat b.toNat
  if (Text.trim cs).isEmpty then .ok []
  else match Json.read (String.ofList cs) with
    | none => .error (.decode "malformed JSON")
    | some (.list items) => objects items
    | some v =>
      match Record.ofJson? v with
      | some r => .ok [r]
      | none => .error (.decode ("expected object or array, got " ++ v.compact))

/-- The records of what comes back. -/
def records : Net.Reply → Except TransportError (List Record)
  | .answer status body =>
    if 200 ≤ status && status < 300 then decode body else .error (.status status)
  | .dropped => .error (.request "connection closed before message completed")
  | .hung => .error .timeout
  | .refused => .error (.connect "connection refused")

/-! ## Calls -/

namespace Endpoint

variable {σ : Type}

/-- Makes a call. Nothing is sent for a call that makes no request. -/
def call (send : Net.Send σ) (e : Endpoint) (c : Call) (s : σ) :
    Except TransportError (List Record) × σ :=
  match e.request c with
  | .error err => (.error err, s)
  | .ok r =>
    let (reply, s) := send r s
    (records reply, s)

/-- Makes a handshake, whose records do not count. -/
def handshake (send : Net.Send σ) (e : Endpoint) (s : σ) : Except TransportError Unit × σ :=
  let (result, s) := e.call send handshakeCall s
  (result.map fun _ => (), s)

end Endpoint

end RouterMetrics.Rest

import RouterMetrics.Cli.Help
import RouterMetrics.Http.Routes
import RouterMetrics.Net.Message
import RouterMetrics.Startup
import RouterMetrics.Transcript
import Std.Async.DNS
import Std.Async.Signal
import Std.Http.Server
import Std.Time.DateTime.Timestamp

/-!
The command: reads the configuration, polls the devices and serves the pages until it is told to
stop.

Whatever is decided is decided elsewhere; here are only the clock, the connections and the file.
Devices are asked over plain HTTP; a connection that needs a certificate is refused.
-/

open Std.Async Std.Net

namespace RouterMetrics.Process

/-! ## The clock -/

/-- The present moment. -/
def now : IO Moment := do return (← Std.Time.Timestamp.now).toNanosecondsSinceUnixEpoch.val

/-- A duration in the whole milliseconds that a timer can wait. -/
def timer (d : Duration) : Std.Time.Millisecond.Offset := ⟨min d.millis (1 <<< 40)⟩

/-! ## Requests to devices -/

/-- The socket address of a text that writes an address. -/
def socketAddress? (text : String) (port : UInt16) : Option SocketAddress :=
  ((IPv4Addr.ofString text).map fun a => .v4 ⟨a, port⟩) <|>
    (IPv6Addr.ofString text).map fun a => .v6 ⟨a, port⟩

/-- The socket address that a host has. -/
def resolve (host : String) (port : UInt16) : Async (Option SocketAddress) := do
  let bare := String.ofList (host.toList.filter fun c => c != '[' && c != ']')
  match socketAddress? bare port with
  | some a => return some a
  | none =>
    let found ← DNS.getAddrInfo host (toString port)
    return found.toList.head?.map fun
      | .v4 a => .v4 ⟨a, port⟩
      | .v6 a => .v6 ⟨a, port⟩

/-- All that comes over a connection until it is closed. -/
partial def receive (c : TCP.Socket.Client) (before : ByteArray) : Async ByteArray := do
  match ← c.recv? 65536 with
  | some bytes => receive c (before ++ bytes)
  | none => return before

/-- Sends a request and waits for the reply. -/
def ask (r : Net.Request) : Async Net.Reply := do
  let port := UInt16.ofNat ((r.url.port <|> Net.Url.defaultPort? r.url.scheme).getD 80)
  let host := (r.url.host.map Net.Host.text).getD ""
  let c ← TCP.Socket.Client.mk
  let connected ← try
      let address ← if r.url.scheme == "http" then resolve host port else pure none
      match address with
      | some a => c.connect a; pure true
      | none => pure false
    catch _ => pure false
  if connected then
    try
      c.send r.message.toUTF8
      return .ofMessage (← receive c .empty).toList
    catch _ => return .dropped
  else return .refused

instance : Inhabited Net.Reply := ⟨.refused⟩

/-- The reply to a request, unless it takes too long. -/
def exchange (r : Net.Request) : IO Net.Reply :=
  (Async.race (ask r) (do sleep (timer r.patience); return .hung)).block

/-- Runs what asks for replies, finding out one reply after the other. -/
partial def settle {α : Type} (run : Transcript → α × Transcript)
    (began : Moment) (known : List (Net.Reply × Moment)) : IO α := do
  let (result, t) := run (.start began known)
  match t.asked with
  | none => return result
  | some r =>
    let reply ← exchange r
    settle run began (known ++ [(reply, ← now)])

/-! ## Polling -/

/-- What polling needs: the network, the state that is shown, and whether to stop. -/
structure Polling where
  world : World Transcript
  shown : IO.Ref (Exporter Collector)
  stopped : IO.Ref Bool

/-- Runs the jobs when they are due, until polling is to stop. -/
partial def Polling.loop (p : Polling) (sch : Scheduler) (o : Operation Collector Transcript) :
    IO Unit := do
  if !sch.isSound || (← p.stopped.get) then return
  match sch.queue with
  | q :: rest =>
    let began ← now
    if q.fireAt ≤ began then
      let e := Operation.surroundings p.world (Collector.loading p.world)
      let (sch, o) ← settle (fun t =>
        let after := sch.turn e q rest { o with world := t }
        (after, after.2.world)) began []
      p.shown.set o.exporter
      p.loop sch { o with history := [] }
    else
      IO.sleep 20
      p.loop sch o
  | [] =>
    IO.sleep 20
    p.loop sch o

/-! ## Pages -/

/-- Answers a request from the state that is shown. -/
def page (shown : IO.Ref (Exporter Collector)) (r : Std.Http.Request Std.Http.Body.Stream) :
    ContextAsync (Std.Http.Response Std.Http.Body.Any) := do
  let site := Http.Site.ofExporter (← shown.get)
  let answer := site.respond? (← now) ⟨toString r.line.method, toString r.line.uri⟩
  let answer := answer.getD (.empty 500)
  let status := (Std.Http.Status.ofCode none (UInt16.ofNat answer.status)).getD .internalServerError
  let builder := Std.Http.Response.withStatus status
  let builder := match answer.contentType.bind fun t => builder.header? "content-type" t with
    | some typed => typed
    | none => builder
  return builder.body (.ofBody (← Std.Http.Body.Full.ofByteArray answer.body.toUTF8))

/-- Waits for the signal to stop. -/
def waitForStop : Async Unit := do
  let interrupt ← Signal.Waiter.mk .sigint false
  let terminate ← Signal.Waiter.mk .sigterm false
  let _ ← Async.race (do await (← interrupt.wait)) (do await (← terminate.wait))

/-! ## The command -/

/-- The variables of the options. -/
def environment : IO Config.Environment := do
  let pairs ← Cli.Setting.all.filterMapM fun s => do
    return (← IO.getEnv s.envName).map fun value => (s.envName, value)
  return Dict.ofList pairs

/-- What is told about an error at the start. -/
def startErrorText : StartError → String
  | .config .unreadable => "the configuration cannot be read"
  | .config .malformed => "the configuration is malformed"
  | .config (.invalid fault) => fault.report
  | .name e => e.message
  | .address e => e.message
  | .group e => e.message

/-- The settings of a command line, and what they start with. -/
def prepare (a : Cli.Arguments) (file : Option ByteArray) (env : Config.Environment) :
    Except StartError (Config.Settings × LoadStats × Plan × List Rest.Endpoint) := do
  let s ← (Startup.configure file a.exportAddress a.exportPort).mapError .config
  return (s, ← Startup.begin s env)

/-- Polls and serves until told to stop. Gives the exit code. -/
def serve (s : Config.Settings) (stats : LoadStats) (plan : Plan) (endpoints : List Rest.Endpoint) :
    IO UInt32 := do
  let world := (Transcript.network endpoints (Release.official s.system.socketTimeout)).world
  let (sch?, o) ← settle (fun t =>
    let after := Startup.launch world s.system plan stats t
    (after, after.2.world)) (← now) []
  let some sch := sch? | return 101
  let p : Polling := ⟨world, ← IO.mkRef o.exporter, ← IO.mkRef false⟩
  let polling ← IO.asTask (p.loop sch { o with history := [] }) .dedicated
  let some address := socketAddress? s.system.exportAddress (UInt16.ofNat s.system.exportPort)
    | throw (IO.userError "invalid export address")
  let server ← (Std.Http.Server.serve address (Std.Http.Server.Handler.ofFn (page p.shown))).block
  waitForStop.block
  p.stopped.set true
  let patience := timer s.system.shutdownTimeout
  (Async.race (do server.shutdown; server.waitShutdown) (sleep patience)).block
  (Async.race (do let _ ← Async.ofTask polling) (sleep patience)).block
  return 0

/-- Runs the command. Gives its exit code. -/
def run (words : List String) : IO UInt32 := do
  let env ← environment
  match Cli.read words env with
  | .help => IO.print (Cli.helpText env); return 0
  | .version => IO.print Cli.versionText; return 0
  | .misuse m => IO.eprint (Cli.misuseText m); return 2
  | .run a =>
    let file ← try some <$> IO.FS.readBinFile a.config catch _ => pure none
    match prepare a file env with
    | .error e => IO.eprintln ("Error: " ++ startErrorText e); return 1
    | .ok (s, stats, plan, endpoints) => serve s stats plan endpoints

end RouterMetrics.Process

/-- The exporter. -/
def main (words : List String) : IO UInt32 := RouterMetrics.Process.run words

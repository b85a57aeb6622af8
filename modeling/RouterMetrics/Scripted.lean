import RouterMetrics.Device.Basic

/-!
Scripted devices in virtual time.

A scene holds a clock that only waiting moves, one script per device, and a log of what was asked.
A script answers handshakes from a list whose last entry repeats, and calls from a table; a call
takes as long as the script says. `Scene.world` lets the program run against a scene.
-/

namespace RouterMetrics

/-- What a device answers. An empty list of handshakes always succeeds, and a call without an
answer has no records. -/
structure Script where
  handshakes : List (Except TransportError Unit)
  handshakesDone : Nat
  answers : Dict (Except TransportError (List Record))
  delay : Duration

namespace Script

/-- A device that always answers at once, with nothing. -/
def silent : Script := ⟨[], 0, Dict.empty, .zero⟩

instance : Inhabited Script := ⟨silent⟩

/-- The answer to the next handshake. -/
def nextHandshake (s : Script) : Except TransportError Unit :=
  (s.handshakes[s.handshakesDone]? <|> s.handshakes.getLast?).getD (.ok ())

/-- The script after a handshake. -/
def countHandshake (s : Script) : Script := { s with handshakesDone := s.handshakesDone + 1 }

/-- The key of a call in the table. -/
def key (c : Call) : String :=
  match c.verb with
  | .list => c.path
  | .command name => c.path ++ "/" ++ name

/-- The answer to a call. -/
def answer (s : Script) (c : Call) : Except TransportError (List Record) :=
  (s.answers.get? (key c)).getD (.ok [])

end Script

/-- What happened in a scene, and when. -/
inductive SceneEvent
  | handshake (device : Nat) (succeeded : Bool) (t : Moment)
  | call (device : Nat) (c : Call) (t : Moment)
  | load (collector outcome : String) (t : Moment)

/-- A change made to a script: another list of handshakes, more answers, another delay. -/
structure ScriptChange where
  handshakes : Option (List (Except TransportError Unit))
  answers : List (String × Except TransportError (List Record))
  delay : Option Duration

/-- The script after a change. A new list of handshakes starts from its first. -/
def Script.change (s : Script) (c : ScriptChange) : Script where
  handshakes := c.handshakes.getD s.handshakes
  handshakesDone := if c.handshakes.isSome then 0 else s.handshakesDone
  answers := c.answers.foldl (fun a e => a.insert e.1 e.2) s.answers
  delay := c.delay.getD s.delay

/-- A clock, the scripts of the devices in their order, the changes to them that are still to come,
and what has happened, the latest first. -/
structure Scene where
  now : Moment
  scripts : List Script
  agenda : List (Moment × Nat × ScriptChange)
  log : List SceneEvent

namespace Scene

/-- A scene in which nothing has happened and no change is to come. -/
def start (now : Moment) (scripts : List Script) : Scene := ⟨now, scripts, [], []⟩

/-- The script of a device. -/
def script (s : Scene) (device : Nat) : Script := s.scripts[device]?.getD .silent

/-- The scene with the script of a device changed. -/
def modifyScript (s : Scene) (device : Nat) (f : Script → Script) : Scene :=
  { s with scripts := s.scripts.modify device f }

/-- The scene with one more event. -/
def note (s : Scene) (e : SceneEvent) : Scene := { s with log := e :: s.log }

/-- The events in the order in which they happened. -/
def events (s : Scene) : List SceneEvent := s.log.reverse

/-- The scene with the changes made whose time has come. -/
def settle : List (Moment × Nat × ScriptChange) → Scene → Scene
  | [], s => { s with agenda := [] }
  | (t, device, change) :: rest, s =>
    if t ≤ s.now then settle rest (s.modifyScript device (·.change change))
    else { s with agenda := (t, device, change) :: rest }

/-- The scene at a later time. -/
def passTo (s : Scene) (t : Moment) : Scene :=
  let s := { s with now := max s.now t }
  settle s.agenda s

/-- The first whole millisecond from a moment on. Timers end only there. -/
def wholeMilli (t : Moment) : Moment := -(-t / (nanosPerMilli : Int)) * nanosPerMilli

/-- The scene at a later time, when a timer ends. -/
def sleepUntil (t : Moment) (s : Scene) : Scene := if t ≤ s.now then s else s.passTo (wholeMilli t)

/-- The scene after some time. -/
def wait (s : Scene) (d : Duration) : Scene := s.passTo (Moment.after s.now d)

/-- A handshake takes no time. -/
def handshake (device : Nat) (s : Scene) : Except TransportError Unit × Scene :=
  let result := (s.script device).nextHandshake
  (result, (s.modifyScript device Script.countHandshake).note
    (.handshake device result.isOk s.now))

/-- A call takes the script's delay and is answered as the script stands after it. -/
def call (device : Nat) (c : Call) (s : Scene) : Except TransportError (List Record) × Scene :=
  let asked := (s.note (.call device c s.now)).wait (s.script device).delay
  ((asked.script device).answer c, asked)

/-- The world that a scene is. It has no release feed. -/
def world : World Scene where
  clock := (·.now)
  sleepUntil := sleepUntil
  handshake := handshake
  call := call
  release := fun _ s => (none, s)

end Scene

end RouterMetrics

import RouterMetrics.Device.Backoff
import RouterMetrics.Device.Transport

/-!
The state of the connection to one device.

A connection starts down, comes up with a handshake that succeeds, and goes down with the first
request or check that fails. Every failure is counted and its time kept; a new attempt waits for
the pause that the count calls for. While a connection is down nothing but attempts is sent.
-/

namespace RouterMetrics

/-- The largest number of failures that is counted. -/
def failureLimit : Nat := (1 <<< 32) - 1

/-- The state of a connection: whether it is up, when it last failed, and how often it has failed
since it last came up. -/
structure Connection where
  connected : Bool
  lastFailure : Option Moment
  failures : Nat
deriving DecidableEq

/-- What came of an attempt to connect. -/
inductive Attempt
  | already
  | suppressed (remaining : Duration)
  | connected
  | failed
deriving DecidableEq

/-- Why a request gave no records. -/
inductive FetchError
  | notConnected
  | transport (error : TransportError)
deriving DecidableEq

/-- The text of a fetch error. -/
def FetchError.message : FetchError → String
  | .notConnected => "device is not connected"
  | .transport error => error.message

namespace Connection

/-- A connection that has not been tried. -/
def fresh : Connection := ⟨false, none, 0⟩

/-- The connection after a handshake that succeeded. -/
def up : Connection := ⟨true, none, 0⟩

/-- The connection after a failure at a moment. -/
def fail (c : Connection) (now : Moment) : Connection :=
  ⟨false, some now, min failureLimit (c.failures + 1)⟩

/-- How long an attempt still has to wait, if it has to. A clock that went back counts as one that
stood still. -/
def remaining? (b : Backoff) (c : Connection) (now : Moment) : Option Duration :=
  match c.lastFailure with
  | none => none
  | some since =>
    let delay := b.delay c.failures
    let passed := Moment.elapsed since now
    if passed < delay.ns then
      some ⟨delay.ns - passed, Nat.lt_of_le_of_lt (Nat.sub_le ..) delay.fits⟩
    else none

/-- The answer to an attempt that makes no handshake, `none` when a handshake is made. -/
def refuse? (b : Backoff) (c : Connection) (now : Moment) : Option Attempt :=
  if c.connected then some .already else (c.remaining? b now).map .suppressed

/-- What a handshake at a moment makes of a connection. -/
def afterHandshake (c : Connection) (now : Moment) :
    Except TransportError Unit → Attempt × Connection
  | .ok _ => (.connected, up)
  | .error _ => (.failed, c.fail now)

/-- An attempt to connect at a moment, with what the handshake would give. -/
def connectAt (b : Backoff) (c : Connection) (now : Moment)
    (handshake : Except TransportError Unit) : Attempt × Connection :=
  match c.refuse? b now with
  | some answer => (answer, c)
  | none => c.afterHandshake now handshake

/-- A check whether the connection is still up, with what the handshake would give and when. -/
def checkAt (c : Connection) (now : Moment) (handshake : Except TransportError Unit) :
    Bool × Connection :=
  if c.connected then
    match handshake with
    | .ok _ => (true, c)
    | .error _ => (false, c.fail now)
  else (false, c)

/-- A request, with what the device would answer and when. -/
def callAt {α : Type} (c : Connection) (now : Moment) (answer : Except TransportError α) :
    Except FetchError α × Connection :=
  if c.connected then
    match answer with
    | .ok a => (.ok a, c)
    | .error e => (.error (.transport e), c.fail now)
  else (.error .notConnected, c)

end Connection

end RouterMetrics

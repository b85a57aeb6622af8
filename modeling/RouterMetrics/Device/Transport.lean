import RouterMetrics.Duration.Basic
import RouterMetrics.Record

/-!
What a device can be asked, what it answers, and the world the questions are put to.

The outside world is a value that every question takes and returns changed, so that a run of the
program is a function of the world it starts in.
-/

namespace RouterMetrics

/-- Why a request failed. -/
inductive TransportError
  | connect (reason : String)
  | timeout
  | status (code : Nat)
  | decode (reason : String)
  | request (reason : String)
deriving Repr, DecidableEq

/-- The text of a transport error. -/
def TransportError.message : TransportError → String
  | .connect reason => "connect error: " ++ reason
  | .timeout => "request timed out"
  | .status code => "device returned status " ++ toString code
  | .decode reason => "decode error: " ++ reason
  | .request reason => "request error: " ++ reason

/-- What is done with a path: its items are listed, or a command is run on it. -/
inductive Verb
  | list
  | command (name : String)
deriving Repr, DecidableEq

/-- The name of a verb. -/
def Verb.name : Verb → String
  | .list => "print"
  | .command name => name

/-- A request: a path, what is done with it, and the parameters. -/
structure Call where
  path : String
  verb : Verb
  params : Record

/-- Parameters that are all texts. -/
def textParams (pairs : List (String × String)) : Record :=
  Dict.ofList (pairs.map fun p => (p.1, .text p.2))

/-- The outside world as the program sees it: a clock, a way to wait, devices that are numbered, and
the release feed, which gives the body for a channel or nothing. -/
structure World (σ : Type) where
  clock : σ → Moment
  sleepUntil : Moment → σ → σ
  handshake : Nat → σ → Except TransportError Unit × σ
  call : Nat → Call → σ → Except TransportError (List Record) × σ
  release : String → σ → Option String × σ

end RouterMetrics

import RouterMetrics.Duration.Basic
import RouterMetrics.Net.Url

/-!
Requests over HTTP, and what comes back for them.
-/

namespace RouterMetrics.Net

/-- A request over HTTP: who it is made for, if that is told, a body of JSON if it has one, and how
long its reply is waited for. -/
structure Request where
  method : String
  url : Url
  authorization : Option String
  body : Option String
  patience : Duration
deriving DecidableEq

/-- What comes back for a request: an answer, a connection that is closed without one, nothing in
time, or no connection at all. -/
inductive Reply
  | answer (status : Nat) (body : List UInt8)
  | dropped
  | hung
  | refused
deriving Repr, DecidableEq

/-- A status whose answers never have a body. -/
def isBodiless (status : Nat) : Bool := status < 200 || status == 204 || status == 304

/-- A way to send requests, which changes the state it works in. -/
abbrev Send (σ : Type) := Request → σ → Reply × σ

end RouterMetrics.Net

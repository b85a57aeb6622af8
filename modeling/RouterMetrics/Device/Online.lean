import RouterMetrics.Device.Rest
import RouterMetrics.Release

/-!
A world whose devices and release feed are asked over HTTP.
-/

namespace RouterMetrics

variable {σ : Type}

/-- How time is told and waited for, how requests are sent, and where they go. -/
structure Network (σ : Type) where
  clock : σ → Moment
  sleepUntil : Moment → σ → σ
  send : Net.Send σ
  endpoints : List Rest.Endpoint
  feed : Release.Feed

namespace Network

/-- The error for a device that has no endpoint. -/
def noEndpoint : TransportError := .request "no endpoint"

/-- The answer of a device, from its endpoint if it has one. -/
def atEndpoint {α : Type} (n : Network σ) (device : Nat)
    (ask : Rest.Endpoint → σ → Except TransportError α × σ) (s : σ) : Except TransportError α × σ :=
  match n.endpoints[device]? with
  | some e => ask e s
  | none => (.error noEndpoint, s)

/-- The world that a network is. -/
def world (n : Network σ) : World σ where
  clock := n.clock
  sleepUntil := n.sleepUntil
  handshake := fun device => n.atEndpoint device fun e => e.handshake n.send
  call := fun device c => n.atEndpoint device fun e => e.call n.send c
  release := fun channel => n.feed.ask n.send channel

end Network

end RouterMetrics

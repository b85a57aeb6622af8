import RouterMetrics.Device.Online

/-!
Transcripts: the replies that have come back so far, and the first request that has none yet.

A run that only knows a transcript goes on with the replies it knows until it asks for one that it
does not know. From there on every request is refused, and what the run gives does not count; it is
run again once that reply has come. So a program that takes its world as a value can be run in a
world that answers one request at a time.
-/

namespace RouterMetrics

/-- The time, the replies that are known with the times at which they came, and the first request
without one. -/
structure Transcript where
  now : Moment
  known : List (Net.Reply × Moment)
  asked : Option Net.Request

namespace Transcript

/-- A transcript that starts at a moment. -/
def start (now : Moment) (known : List (Net.Reply × Moment)) : Transcript := ⟨now, known, none⟩

/-- The reply to a request, and the transcript that follows. -/
def send (r : Net.Request) (t : Transcript) : Net.Reply × Transcript :=
  match t.asked, t.known with
  | none, (reply, came) :: rest => (reply, ⟨max t.now came, rest, none⟩)
  | none, [] => (.refused, { t with asked := some r })
  | some _, _ => (.refused, t)

/-- The transcript at a later moment. -/
def sleepUntil (moment : Moment) (t : Transcript) : Transcript := { t with now := max t.now moment }

/-- The network of which a transcript tells. -/
def network (endpoints : List Rest.Endpoint) (feed : Release.Feed) : Network Transcript :=
  ⟨(·.now), sleepUntil, send, endpoints, feed⟩

end Transcript

end RouterMetrics

import RouterMetrics.Duration.Basic

/-!
Stopping the server: polling is told to stop before the open requests are waited for, and they are
waited for only so long.
-/

namespace RouterMetrics.Http

/-- A server: whether it has been told to stop, and when its open requests will be answered. -/
structure Server where
  stopped : Bool
  pending : List Moment

namespace Server

/-- A server without requests. -/
def fresh : Server := ⟨false, []⟩

/-- The server with one more request that is answered at a moment. -/
def accept (s : Server) (answered : Moment) : Server := { s with pending := answered :: s.pending }

/-- The server after it has been told to stop. -/
def stop (s : Server) : Server := { s with stopped := true }

/-- When a server that is told to stop at a moment has answered all requests, or has waited long
enough. -/
def closedAt (s : Server) (patience : Duration) (told : Moment) : Moment :=
  min (Moment.after told patience) (s.pending.foldl max told)

end Server

end RouterMetrics.Http

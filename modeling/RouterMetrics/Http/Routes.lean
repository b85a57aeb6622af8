import RouterMetrics.Exporter
import RouterMetrics.Exposition
import RouterMetrics.Http.Target

/-!
What the exporter answers over HTTP: the metrics, whether it is alive, and which devices it reaches.

Each page has one exact path and is read by `GET` and `HEAD`. Any other path is not found, any other
method is not allowed, and a target that has no path is refused.
-/

namespace RouterMetrics.Http

/-- A request: its method, and a target with a path and perhaps a query. -/
structure Request where
  method : String
  target : String
deriving DecidableEq

/-- A response. One without a body has no content type either. -/
structure Response where
  status : Nat
  contentType : Option String
  body : String
deriving DecidableEq

/-- What there is to see: the start of all names, the devices, the collectors and, if there are any,
the statistics. -/
structure Site where
  start : String
  devices : List Device
  collectors : List Collector
  stats : Option LoadStats

/-- The site of an exporter. -/
def Site.ofExporter (x : Exporter Collector) : Site :=
  ⟨x.stats.start, x.devices, x.collectors, x.stats⟩

/-! ## Pages -/

/-- The pages. -/
inductive Page
  | metrics | alive | ready
deriving DecidableEq

/-- The path of a page. -/
def Page.path : Page → String
  | .metrics => "/metrics"
  | .alive => "/healthz"
  | .ready => "/readyz"

/-- The page of a path. -/
def Page.ofPath? (path : String) : Option Page :=
  [Page.metrics, .alive, .ready].find? fun p => p.path == path

/-- The content type of a page. -/
def Page.contentType : Page → String
  | .metrics => "text/plain; version=0.0.4; charset=utf-8"
  | .alive => "application/json"
  | .ready => "application/json"

/-- What is exported at a moment, `none` when a store cannot tell whether it is fresh. -/
def Site.families? (s : Site) (now : Moment) : Option (List Family) :=
  (s.collectors.mapM fun (c : Collector) => c.collect? now).map fun series =>
    Exposition.gather s.start series.flatten (s.stats.elim [] LoadStats.families)

/-- The state of a device. The pause after failures is told in whole seconds. -/
def deviceState (d : Device) : Json :=
  let pause := if d.connection.failures = 0 then []
    else [("backoff_secs", Json.int d.currentDelay.seconds)]
  .object ([("name", .text d.identity.name), ("address", .text d.identity.address),
    ("connected", .bool d.connection.connected),
    ("successive_failures", .int d.connection.failures)] ++ pause)

/-- The states of the devices, `degraded` when one of them is down. -/
def readiness (devices : List Device) : Json :=
  let status := if devices.all (·.connection.connected) then "ok" else "degraded"
  .object [("status", .text status), ("devices", .list (devices.map deviceState))]

/-- The text of a page at a moment, `none` when the metrics cannot be read. -/
def Site.text? (s : Site) (now : Moment) : Page → Option String
  | .metrics => (s.families? now).map Family.text
  | .alive => some (Json.object [("status", .text "ok")]).compact
  | .ready => some (readiness s.devices).compact

/-! ## Requests -/

/-- A response without anything in it. -/
def Response.empty (status : Nat) : Response := ⟨status, none, ""⟩

/-- The response to a request at a moment, `none` when the metrics cannot be read. -/
def Site.respond? (s : Site) (now : Moment) (r : Request) : Option Response :=
  match (Target.path r.target).map Page.ofPath? with
  | .error e => some (.empty e.status)
  | .ok none => some (.empty 404)
  | .ok (some page) =>
    if r.method = "GET" then (s.text? now page).map fun text => ⟨200, some page.contentType, text⟩
    else if r.method = "HEAD" then (s.text? now page).map fun _ => ⟨200, some page.contentType, ""⟩
    else some (.empty 405)

end RouterMetrics.Http

import RouterMetrics.Device.Basic
import RouterMetrics.Value.Version

/-!
Where the records of a metric group come from.

A source is described by what it asks, one question after the other: a `Fetch`. A device is asked
by calls, and the first call that fails ends the fetch; the release feed is asked by channel, and
a channel without an answer is an answer too. `Fetch.run` puts the questions to a world.
-/

namespace RouterMetrics

/-- A problem with one record, which is left out for it. -/
structure RecordError where
  reason : String
deriving Repr, DecidableEq

/-- Why a load ended without storing all it should. -/
inductive LoadError
  | skipped
  | transport (error : TransportError)
  | record (error : RecordError)
  | config (reason : String)
deriving DecidableEq

namespace LoadError

/-- The text of a load error. -/
def message : LoadError → String
  | .skipped => "skipped: device not connected"
  | .transport error => "transport error: " ++ error.message
  | .record error => "record error: " ++ error.reason
  | .config reason => "config error: " ++ reason

/-- A load meets a connection that is down by being skipped. -/
def ofFetch : FetchError → LoadError
  | .notConnected => .skipped
  | .transport error => .transport error

end LoadError

/-- The questions of a source, and the records in the end. -/
inductive Fetch
  | done (records : List Record)
  | call (c : Call) (next : List Record → Fetch)
  | release (channel : String) (next : Option String → Fetch)

namespace Fetch

variable {σ : Type}

/-- Asks the questions. A device is needed only for calls. -/
def run (w : World σ) :
    Fetch → Option Device → σ → Except LoadError (List Record) × Option Device × σ
  | .done records, d, s => (.ok records, d, s)
  | .call _ _, none, s => (.error (.config "source requires a device"), none, s)
  | .call c next, some d, s =>
    match d.call w c s with
    | (.ok records, d, s) => (next records).run w (some d) s
    | (.error e, d, s) => (.error (LoadError.ofFetch e), some d, s)
  | .release channel next, d, s =>
    let (body, s) := w.release channel s
    (next body).run w d s

end Fetch

/-! ## Items of a path -/

/-- Lists the items of a path that match a query. -/
def listItems (path : String) (query : List (String × String)) : Fetch :=
  .call ⟨path, .list, textParams query⟩ .done

/-! ## Items with a measurement -/

/-- A path whose items are listed and then measured by its `monitor` command. The items can be
limited to a property list; those that are idle can be left out of the measurement; and all listed
fields can be carried over to the result. -/
structure MonitorPath where
  path : String
  properties : Option String
  idleLinkDown : Bool
  itemFields : Bool
deriving Repr, DecidableEq

namespace MonitorPath

/-- The identifier of an item, empty when it has no text for one. -/
def itemId (item : Record) : String :=
  (((item.get? ".id").orElse fun _ => item.get? "id").bind Json.asText?).getD ""

/-- What a result has of its item: identifier, name and comment, and all other fields if asked. -/
def head (m : MonitorPath) (item : Record) : Record :=
  let start := if m.itemFields then item.erase ".id" else Dict.empty
  let withId := start.insert "id" (.text (itemId item))
  ["name", "comment"].foldl
    (fun r field => r.insert field ((item.get? field).getD (.text ""))) withId

/-- An item that is not running or is disabled. A flag that is no text has its default. -/
def isIdle (item : Record) : Bool :=
  ((item.text? "running").getD "true") != "true" ||
    ((item.text? "disabled").getD "false") == "true"

/-- The items that are not measured. -/
def idleItems (m : MonitorPath) (items : List Record) : List Record :=
  items.filter fun item => m.idleLinkDown && isIdle item

/-- The items that are measured. -/
def measuredItems (m : MonitorPath) (items : List Record) : List Record :=
  items.filter fun item => !(m.idleLinkDown && isIdle item)

/-- The record of an item that is not measured. -/
def idleRecord (m : MonitorPath) (item : Record) : Record :=
  (m.head item).insert "status" (.text "link-down")

/-- The record of an item with its measurement. The name and the identifier stay the item's. -/
def merge (m : MonitorPath) (item row : Record) : Record :=
  (row.filterKeys fun k => k != "name" && k != ".id").toList.foldl
    (fun r e => r.insert e.1 e.2) (m.head item)

/-- The call that lists the items. -/
def listCall (m : MonitorPath) : Call :=
  ⟨m.path, .list, textParams (m.properties.toList.map fun p => (".proplist", p))⟩

/-- The call that measures items once. -/
def monitorCall (m : MonitorPath) (items : List Record) : Call :=
  ⟨m.path, .command "monitor",
    textParams [("once", "true"), (".id", ",".intercalate (items.map itemId))]⟩

/-- Lists the items and measures those that are not idle. Results are paired with items by their
position. -/
def fetch (m : MonitorPath) : Fetch :=
  .call m.listCall fun items =>
    let idle := (m.idleItems items).map m.idleRecord
    match m.measuredItems items with
    | [] => .done idle
    | measured =>
      .call (m.monitorCall measured) fun rows => .done (idle ++ List.zipWith m.merge measured rows)

end MonitorPath

/-! ## Releases -/

/-- The version shown for a channel whose feed could not be read. -/
def unknownVersion : String := "N/A"

/-- The record of a channel, from the body its feed answered. -/
def releaseRecord (channel : String) (body : Option String) : Record :=
  let (version, published) := (body.bind Value.releaseLine).getD (unknownVersion, "")
  Dict.ofList [("channel", .text channel), ("version", .text version), ("ts", .text published)]

/-- Asks the feed for channels, after the records of earlier ones. -/
def releasesAfter (records : List Record) : List String → Fetch
  | [] => .done records
  | channel :: rest =>
    .release channel fun body => releasesAfter (records ++ [releaseRecord channel body]) rest

/-- One record for each channel. -/
def releases (channels : List String) : Fetch := releasesAfter [] channels

end RouterMetrics

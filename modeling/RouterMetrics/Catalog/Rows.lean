import RouterMetrics.Group
import RouterMetrics.Value.Version

/-!
What the catalog's groups do with the records they get: rows are left out, fields are split, added
from the lease table or removed, and sessions of one user are put together.
-/

namespace RouterMetrics.Catalog

/-- The record with a text in a field. -/
def setText (r : Record) (field text : String) : Record := r.insert field (.text text)

/-- A rule that cannot fail. -/
def rowRule (f : Option Device → Record → Record) : RowRule := fun d r => .ok (some (f d r))

/-- A rule that leaves out records that fail a test. -/
def onlyRows (p : Record → Bool) : RowRule := fun _ r => .ok (if p r then some r else none)

/-! ## Leases -/

/-- What a record says about the lease of its hardware address. -/
structure LeaseInfo where
  name : String
  comment : String
  address : String
  kind : String
deriving Repr, DecidableEq

/-- What a lease says, or what is said when there is none. -/
def LeaseInfo.of : Option Record → LeaseInfo
  | none => ⟨"", "", "No DHCP Record", ""⟩
  | some lease =>
    ⟨lease.textD "host_name", lease.textD "comment", lease.textD "address",
      if lease.text? "dynamic" == some "true" then "dynamic" else "static"⟩

/-- The lease of a record's hardware address. -/
def leaseOf (d : Option Device) (r : Record) : Option Record :=
  match r.text? "mac-address", d with
  | some mac, some d => d.findLease "mac_address" mac
  | _, _ => none

/-- The record with name, comment and address of its lease. -/
def withLease (d : Option Device) (r : Record) : Record :=
  let info := LeaseInfo.of (leaseOf d r)
  setText (setText (setText r "dhcp_name" info.name) "dhcp_comment" info.comment)
    "dhcp_address" info.address

/-- The record with its lease and whether that is dynamic or static. -/
def withLeaseKind (d : Option Device) (r : Record) : Record :=
  setText (withLease d r) "dhcp_lease_type" (LeaseInfo.of (leaseOf d r)).kind

/-! ## Rows left out -/

/-- Interfaces that run. -/
def isRunning (r : Record) : Bool := r.text? "running" == some "true"

/-- Devices with a user. -/
def hasUser (r : Record) : Bool := r.textD "user" != ""

/-! ## Fields split, added and removed -/

/-- A row that holds one reading under a name gets a field of that name. -/
def foldReading (r : Record) : Record :=
  match r.text? "name" with
  | some name => r.insert name ((r.get? "value").getD .null)
  | none => r

/-- A version with a channel gets fields for both. -/
def splitVersion (r : Record) : Record :=
  match (r.text? "version").bind Value.versionAndChannel with
  | some (version, channel) =>
    if channel != "" then setText (setText r "current_version" version) "channel" channel else r
  | none => r

/-- The fields of a round trip. -/
def roundTripFields : List String := ["rtt-avg", "rtt-jitter", "rtt-max", "rtt-min", "rtt-stdev"]

/-- The percentage of lost packets above which round trips mean nothing. -/
def lossLimit : Float := 40.0

/-- The percentage of lost packets of a probe, all of them when it is no number. -/
def lossOf (r : Record) : Float :=
  ((r.text? "loss-percent").bind fun v => Decimal.readNumber v.toList).getD 100.0

/-- A probe that has lost too much has no round trips. -/
def dropLossy (r : Record) : Record :=
  if r.text? "type" == some "icmp" && lossOf r > lossLimit then
    r.filterKeys fun k => !roundTripFields.contains k
  else r

/-- Cuts a text at the first occurrence of a character. -/
def cutAt (sep : Char) (s : String) : Option (String × String) :=
  match s.toList.dropWhile (· != sep) with
  | [] => none
  | _ :: rest => some (String.ofList (s.toList.takeWhile (· != sep)), String.ofList rest)

/-- A client's bytes, sent and received with a comma between them, get fields of their own, and the
client its lease. A client without such bytes is left out. -/
def splitClientBytes : RowRule := fun d r =>
  match r.text? "bytes" with
  | none => .error ⟨"missing field 'bytes'"⟩
  | some bytes =>
    match cutAt ',' bytes with
    | none => .error ⟨"malformed bytes '" ++ bytes ++ "'"⟩
    | some (sent, received) =>
      .ok (some (withLease d (setText (setText r "tx_bytes" sent) "rx_bytes" received)))

/-- The fields that a field of a queue becomes: a text with a slash becomes two. -/
def upAndDown (field : String) (v : Json) : List (String × Json) :=
  match v.asText?.bind (cutAt '/') with
  | some (up, down) => [(field ++ "_up", .text up), (field ++ "_down", .text down)]
  | none => [(field, v)]

/-- A queue with its two-way fields split. -/
def splitUpDown (r : Record) : Record :=
  Dict.ofList (r.toList.flatMap fun e => upAndDown e.1 e.2)

/-! ## Sessions -/

/-- What makes two sessions one: address, name and service with hyphens between them. -/
def sessionKey (r : Record) : String :=
  r.textD "address" ++ "-" ++ r.textD "name" ++ "-" ++ r.textD "via"

/-- The record of a session's first row. -/
def openSession (r : Record) : Record :=
  Dict.ofList
    [("address", .text ((r.text? "address").getD "unknown")),
     ("name", .text ((r.text? "name").getD "unknown")),
     ("via", .text (r.textD "via")), ("group", .text (r.textD "group")),
     ("when", .text (r.textD "when")), ("count", .int 1)]

/-- The number of rows counted so far. -/
def countOf (session : Record) : Int :=
  match session.get? "count" with
  | some (.int i) => if 0 ≤ i then i else 0
  | _ => 0

/-- The session with one more row: it keeps the later login, by the order of the texts, and counts
the row. -/
def joinSession (session r : Record) : Record :=
  let login := r.textD "when"
  let later := match session.text? "when" with
    | none => true
    | some known => decide (known < login)
  let session := if later then setText session "when" login else session
  session.insert "count" (.int (countOf session + 1))

/-- Adds a row to the sessions, to the first of its key if there is one. -/
def addToSessions (r : Record) : List (String × Record) → List (String × Record)
  | [] => [(sessionKey r, openSession r)]
  | (key, session) :: rest =>
    if key = sessionKey r then (key, joinSession session r) :: rest
    else (key, session) :: addToSessions r rest

/-- One record per session, in the order of their first rows. -/
def collapseSessions (rows : List Record) : List Record :=
  (rows.foldl (fun sessions r => addToSessions r sessions) []).map (·.2)

end RouterMetrics.Catalog

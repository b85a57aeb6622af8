import RouterMetrics.Device.Connection

/-!
A device: who it is, its connection, and the addresses it has leased out.
-/

namespace RouterMetrics

/-- The name a device is configured under and its address. -/
structure Identity where
  name : String
  address : String
deriving Repr, DecidableEq

/-- The labels that every record of a device gets. -/
def Identity.labels (i : Identity) : List (String × String) :=
  [("device_name", i.name), ("device_address", i.address)]

/-- A device on the wire of a number. -/
structure Device where
  wire : Nat
  identity : Identity
  backoff : Backoff
  connection : Connection
  leases : List Record

namespace Device

/-- A device that has not been reached yet. -/
def create (wire : Nat) (identity : Identity) (backoff : Backoff) : Device :=
  ⟨wire, identity, backoff, .fresh, []⟩

variable {σ : Type}

/-- The pause that the counted failures call for. -/
def currentDelay (d : Device) : Duration := d.backoff.delay d.connection.failures

/-- Attempts to connect. A failure is stamped with the time before the handshake. -/
def connect (w : World σ) (d : Device) (s : σ) : Attempt × Device × σ :=
  let now := w.clock s
  match d.connection.refuse? d.backoff now with
  | some answer => (answer, d, s)
  | none =>
    let (result, s) := w.handshake d.wire s
    let (answer, c) := d.connection.afterHandshake now result
    (answer, { d with connection := c }, s)

/-- Checks whether the connection is still up. Nothing is sent while it is down. -/
def check (w : World σ) (d : Device) (s : σ) : Bool × Device × σ :=
  if d.connection.connected then
    let (result, s) := w.handshake d.wire s
    let (answer, c) := d.connection.checkAt (w.clock s) result
    (answer, { d with connection := c }, s)
  else (false, d, s)

/-- Makes a request. Nothing is sent while the connection is down. -/
def call (w : World σ) (d : Device) (c : Call) (s : σ) :
    Except FetchError (List Record) × Device × σ :=
  if d.connection.connected then
    let (answer, s) := w.call d.wire c s
    let (result, connection) := d.connection.callAt (w.clock s) answer
    (result, { d with connection := connection }, s)
  else (.error .notConnected, d, s)

/-- Replaces the leases, with their field names normalized. -/
def setLeases (d : Device) (leases : List Record) : Device :=
  { d with leases := leases.map Record.normalizeKeys }

/-- The first lease with a text in a field. -/
def findLease (d : Device) (field value : String) : Option Record :=
  d.leases.find? fun lease => lease.text? field == some value

end Device

end RouterMetrics

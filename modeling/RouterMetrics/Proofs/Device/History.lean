import Mathlib.Data.List.Induction
import RouterMetrics.Device.Basic

/-!
# A connection is a function of its history

A device is used in any order - it is connected, checked, asked - and at every use the world may be
in any state, so that nothing is assumed of the clock or of the answers. What a use sends is
recorded by the world itself. The connection can then be told from the record alone
(`Device.connection_of_history`).
-/

namespace RouterMetrics

variable {σ : Type}

/-! ## What is sent -/

/-- A handshake or a request that was sent: the clock when it was sent and when the answer was
there, and whether it failed. -/
structure Exchange where
  asked : Moment
  answered : Moment
  failed : Bool
deriving DecidableEq

/-- A world that records what is sent to its devices, the latest last. -/
def World.recorded (w : World σ) : World (σ × List Exchange) where
  clock := fun s => w.clock s.1
  sleepUntil := fun t s => (w.sleepUntil t s.1, s.2)
  handshake := fun device s =>
    let (result, t) := w.handshake device s.1
    (result, t, s.2 ++ [⟨w.clock s.1, w.clock t, !result.isOk⟩])
  call := fun device c s =>
    let (result, t) := w.call device c s.1
    (result, t, s.2 ++ [⟨w.clock s.1, w.clock t, !result.isOk⟩])
  release := fun channel s =>
    let (result, t) := w.release channel s.1
    (result, t, s.2)

/-- A use of a device: an attempt to connect, a check, or a request. -/
inductive Use
  | connect
  | check
  | call (c : Call)

/-- The device and the world after a use. -/
def Device.use (w : World σ) (d : Device) (u : Use) (s : σ) : Device × σ :=
  match u with
  | .connect => (d.connect w s).2
  | .check => (d.check w s).2
  | .call c => (d.call w c s).2

/-- What a use sends. -/
def Device.sent (w : World σ) (d : Device) (u : Use) (s : σ) : List Exchange :=
  (d.use w.recorded u (s, [])).2.2

/-- What an exchange means for the connection: whether it was an attempt to connect, the reading of
the clock that a failure is stamped with, and whether it failed. -/
structure Incident where
  attempt : Bool
  reading : Moment
  failed : Bool
deriving DecidableEq

/-- A failed attempt is stamped with the time before the handshake, any other failure with the time
after it. -/
def Use.incident (u : Use) (x : Exchange) : Incident :=
  match u with
  | .connect => ⟨true, x.asked, x.failed⟩
  | _ => ⟨false, x.answered, x.failed⟩

/-- The device after uses, each in a world of its own. -/
def Device.after (w : World σ) : Device → List (Use × σ) → Device
  | d, [] => d
  | d, (u, s) :: rest => (d.use w u s).1.after w rest

/-- The incidents of uses, the latest last. -/
def Device.history (w : World σ) : Device → List (Use × σ) → List Incident
  | _, [] => []
  | d, (u, s) :: rest => (d.sent w u s).map u.incident ++ (d.use w u s).1.history w rest

/-- Recording changes nothing. -/
theorem Device.use_recorded (w : World σ) (d : Device) (u : Use) (s : σ) (log : List Exchange) :
    d.use w.recorded u (s, log) = ((d.use w u s).1, (d.use w u s).2, log ++ d.sent w u s) := by
  cases u with
  | connect =>
    cases hrefuse : d.connection.refuse? d.backoff (w.clock s) with
    | some answer => simp [sent, use, connect, World.recorded, hrefuse]
    | none => simp [sent, use, connect, World.recorded, hrefuse]
  | check =>
    cases hup : d.connection.connected with
    | false => simp [sent, use, check, hup]
    | true => simp [sent, use, check, World.recorded, hup]
  | call c =>
    cases hup : d.connection.connected with
    | false => simp [sent, use, call, hup]
    | true => simp [sent, use, call, World.recorded, hup]

/-! ## What the history says -/

namespace Incident

/-- The connection has come up. -/
def isRise (x : Incident) : Bool := x.attempt && !x.failed

/-- The connection has been lost. -/
def isLoss (x : Incident) : Bool := !x.attempt && x.failed

/-- The connection has come up and has not been lost since. -/
def Stands (h : List Incident) : Prop :=
  ∃ before x later, h = before ++ x :: later ∧ x.isRise = true ∧ ∀ y ∈ later, y.isLoss = false

/-- The failures since the connection last came up, or since the start, the latest first. -/
def failuresSince (h : List Incident) : List Incident :=
  (h.reverse.takeWhile fun x => !x.isRise).filter (·.failed)

theorem not_stands_nil : ¬ Stands [] := by
  rintro ⟨before, x, later, h, -⟩
  simp at h

theorem stands_concat {h : List Incident} {x : Incident} :
    Stands (h ++ [x]) ↔ x.isRise = true ∨ Stands h ∧ x.isLoss = false := by
  constructor
  · -- the last incident is the rise itself, or comes after it
    rintro ⟨before, y, later, heq, hrise, hlater⟩
    cases later using List.reverseRecOn with
    | nil =>
      obtain ⟨-, hx⟩ := List.append_inj' heq rfl
      cases hx
      exact .inl hrise
    | append_singleton later z =>
      rw [← List.cons_append, ← List.append_assoc] at heq
      obtain ⟨rfl, hx⟩ := List.append_inj' heq rfl
      cases hx
      refine .inr ⟨⟨before, y, later, rfl, hrise, fun u hu => ?_⟩, ?_⟩
      · exact hlater u (List.mem_append_left _ hu)
      · exact hlater x (List.mem_append_right _ List.mem_cons_self)
  · rintro (hrise | ⟨⟨before, y, later, rfl, hrise, hlater⟩, hx⟩)
    · exact ⟨h, x, [], rfl, hrise, by simp⟩
    · refine ⟨before, y, later ++ [x], by simp, hrise, fun u hu => ?_⟩
      rcases List.mem_append.mp hu with hu | hu
      · exact hlater u hu
      · exact List.mem_singleton.mp hu ▸ hx

theorem failuresSince_concat (h : List Incident) (x : Incident) :
    failuresSince (h ++ [x]) =
      if x.isRise then [] else if x.failed then x :: failuresSince h else failuresSince h := by
  unfold failuresSince
  rw [List.reverse_concat, List.takeWhile_cons]
  cases x.isRise with
  | true => rfl
  | false => rw [Bool.not_false, if_pos rfl, List.filter_cons]; rfl

end Incident

/-- **What a history says of a connection**: it is up when it has come up and has not been lost
since; the failures since it last came up are counted, up to the limit, and the last of them has
left its time. While the connection is up there are none. -/
structure Connection.FollowsFrom (c : Connection) (h : List Incident) : Prop where
  connected : c.connected = true ↔ Incident.Stands h
  failures : c.failures = min failureLimit (Incident.failuresSince h).length
  lastFailure : c.lastFailure = (Incident.failuresSince h).head?.map (·.reading)
  clean : c.connected = true → Incident.failuresSince h = []

namespace Connection.FollowsFrom

variable {c : Connection} {h : List Incident}

theorem count_eq_zero_iff (f : c.FollowsFrom h) : c.failures = 0 ↔ c.lastFailure = none := by
  rw [f.failures, f.lastFailure, Option.map_eq_none_iff, List.head?_eq_none_iff,
    ← List.length_eq_zero_iff]
  unfold failureLimit
  omega

theorem of_connected (f : c.FollowsFrom h) (hup : c.connected = true) :
    c.failures = 0 ∧ c.lastFailure = none := by
  rw [f.failures, f.lastFailure, f.clean hup]
  exact ⟨rfl, rfl⟩

theorem fresh : Connection.fresh.FollowsFrom [] where
  connected := iff_of_false Bool.false_ne_true Incident.not_stands_nil
  failures := rfl
  lastFailure := rfl
  clean := fun hup => absurd hup Bool.false_ne_true

end Connection.FollowsFrom

/-! ## What a use does -/

/-- What an incident makes of a connection. -/
inductive Connection.Change : Connection → Incident → Connection → Prop
  | rise (c : Connection) (t : Moment) : c.connected = false → Change c ⟨true, t, false⟩ .up
  | keep (c : Connection) (t : Moment) : c.connected = true → Change c ⟨false, t, false⟩ c
  | fail (c : Connection) (attempt : Bool) (t : Moment) : attempt = !c.connected →
      Change c ⟨attempt, t, true⟩ (c.fail t)

namespace Connection

/-- A handshake is only made while the connection is down. -/
theorem down_of_refuse?_none {b : Backoff} {c : Connection} {now : Moment}
    (h : c.refuse? b now = none) : c.connected = false := by
  unfold refuse? at h
  split at h
  case isTrue => cases h
  case isFalse hdown => exact Bool.eq_false_iff.mpr hdown

theorem Change.afterHandshake {c : Connection} (h : c.connected = false) (now : Moment)
    (result : Except TransportError Unit) :
    c.Change ⟨true, now, !result.isOk⟩ (c.afterHandshake now result).2 := by
  cases result with
  | ok => exact .rise c now h
  | error => exact .fail c _ now (by rw [h]; rfl)

theorem Change.checkAt {c : Connection} (h : c.connected = true) (now : Moment)
    (result : Except TransportError Unit) :
    c.Change ⟨false, now, !result.isOk⟩ (c.checkAt now result).2 := by
  unfold Connection.checkAt
  rw [if_pos h]
  cases result with
  | ok => exact .keep c now h
  | error => exact .fail c _ now (by rw [h]; rfl)

theorem Change.callAt {α : Type} {c : Connection} (h : c.connected = true) (now : Moment)
    (result : Except TransportError α) :
    c.Change ⟨false, now, !result.isOk⟩ (c.callAt now result).2 := by
  unfold Connection.callAt
  rw [if_pos h]
  cases result with
  | ok => exact .keep c now h
  | error => exact .fail c _ now (by rw [h]; rfl)

/-- **An incident changes a connection as the history does.** -/
theorem FollowsFrom.change {c c' : Connection} {h : List Incident} {x : Incident}
    (f : c.FollowsFrom h) (change : c.Change x c') : c'.FollowsFrom (h ++ [x]) := by
  cases change with
  | rise t hdown =>
    constructor <;> simp [up, Incident.stands_concat, Incident.failuresSince_concat,
      Incident.isRise]
  | keep t hup =>
    have hsame : Incident.failuresSince (h ++ [⟨false, t, false⟩]) = Incident.failuresSince h := by
      rw [Incident.failuresSince_concat]
      rfl
    constructor
    · rw [Incident.stands_concat]
      exact f.connected.trans ⟨fun hstands => .inr ⟨hstands, rfl⟩, fun hor => by
        rcases hor with hrise | ⟨hstands, -⟩
        · cases hrise
        · exact hstands⟩
    · rw [hsame]; exact f.failures
    · rw [hsame]; exact f.lastFailure
    · rw [hsame]; exact f.clean
  | fail attempt t hattempt =>
    have hmore : Incident.failuresSince (h ++ [⟨attempt, t, true⟩]) =
        ⟨attempt, t, true⟩ :: Incident.failuresSince h := by
      rw [Incident.failuresSince_concat]
      simp [Incident.isRise]
    constructor
    · -- a failed attempt was made while the connection was down, any other failure is a loss
      refine iff_of_false Bool.false_ne_true fun hstands => ?_
      rcases Incident.stands_concat.mp hstands with hrise | ⟨hstands, hloss⟩
      · simp [Incident.isRise] at hrise
      · have hup := f.connected.mpr hstands
        rw [hup] at hattempt
        subst hattempt
        cases hloss
    · rw [hmore, List.length_cons]
      show min failureLimit (c.failures + 1) = _
      rw [f.failures]
      omega
    · rw [hmore]; rfl
    · exact fun hup => absurd hup Bool.false_ne_true

end Connection

namespace Device

/-- **A use sends nothing and does nothing, or it sends one thing, which changes the connection
and nothing else of the device.** -/
theorem use_cases (w : World σ) (d : Device) (u : Use) (s : σ) :
    (d.sent w u s = [] ∧ d.use w u s = (d, s)) ∨
      ∃ x c, d.sent w u s = [x] ∧ d.connection.Change (u.incident x) c ∧
        (d.use w u s).1 = { d with connection := c } := by
  cases u with
  | connect =>
    cases hrefuse : d.connection.refuse? d.backoff (w.clock s) with
    | some answer => simp [sent, use, connect, World.recorded, hrefuse]
    | none =>
      let x : Exchange := ⟨w.clock s, w.clock (w.handshake d.wire s).2,
        !(w.handshake d.wire s).1.isOk⟩
      have hdown := Connection.down_of_refuse?_none hrefuse
      refine .inr ⟨x, _, ?_, .afterHandshake hdown (w.clock s) (w.handshake d.wire s).1, ?_⟩
      · simp [sent, use, connect, World.recorded, hrefuse, x]
      · simp [use, connect, hrefuse]
  | check =>
    cases hup : d.connection.connected with
    | false => simp [sent, use, check, hup]
    | true =>
      let x : Exchange := ⟨w.clock s, w.clock (w.handshake d.wire s).2,
        !(w.handshake d.wire s).1.isOk⟩
      refine .inr ⟨x, _, ?_, .checkAt hup x.answered (w.handshake d.wire s).1, ?_⟩
      · simp [sent, use, check, World.recorded, hup, x]
      · simp [use, check, hup, x]
  | call c =>
    cases hup : d.connection.connected with
    | false => simp [sent, use, call, hup]
    | true =>
      let x : Exchange := ⟨w.clock s, w.clock (w.call d.wire c s).2, !(w.call d.wire c s).1.isOk⟩
      refine .inr ⟨x, _, ?_, .callAt hup x.answered (w.call d.wire c s).1, ?_⟩
      · simp [sent, use, call, World.recorded, hup, x]
      · simp [use, call, hup, x]

/-- What follows from a history goes on to follow from the history of further uses. -/
theorem after_followsFrom (w : World σ) {d : Device} {h : List Incident}
    (f : d.connection.FollowsFrom h) (uses : List (Use × σ)) :
    (d.after w uses).connection.FollowsFrom (h ++ d.history w uses) := by
  induction uses generalizing d h with
  | nil =>
    rw [history, List.append_nil]
    exact f
  | cons use rest ih =>
    obtain ⟨u, s⟩ := use
    rw [after, history]
    rcases use_cases w d u s with ⟨hsent, huse⟩ | ⟨x, c, hsent, hchange, huse⟩
    · rw [hsent, huse]
      exact ih f
    · rw [hsent, huse, List.map_singleton, ← List.append_assoc]
      exact ih (f.change hchange)

/-! ## Uses that change nothing -/

/-- A use that sends nothing and changes neither the device nor the world. -/
def Idle (w : World σ) (d : Device) (u : Use) (s : σ) : Prop :=
  d.sent w u s = [] ∧ d.use w u s = (d, s)

/-- Nothing but attempts to connect is made while the connection is down. -/
theorem idle_of_down {w : World σ} {d : Device} (h : d.connection.connected = false) (s : σ) :
    d.Idle w .check s ∧ ∀ c, d.Idle w (.call c) s :=
  ⟨by simp [Idle, sent, use, check, h], fun c => by simp [Idle, sent, use, call, h]⟩

theorem idle_of_refused {w : World σ} {d : Device} {s : σ} {answer : Attempt}
    (h : d.connection.refuse? d.backoff (w.clock s) = some answer) : d.Idle w .connect s := by
  simp [Idle, sent, use, connect, World.recorded, h]

/-- An attempt that is suppressed makes no handshake. -/
theorem idle_of_suppressed {w : World σ} {d : Device} {s : σ} {remaining : Duration}
    (h : (d.connect w s).1 = .suppressed remaining) : d.Idle w .connect s := by
  cases hrefuse : d.connection.refuse? d.backoff (w.clock s) with
  | some answer => exact idle_of_refused hrefuse
  | none =>
    simp only [connect, hrefuse] at h
    cases hresult : (w.handshake d.wire s).1 with
    | ok => simp [hresult, Connection.afterHandshake] at h
    | error => simp [hresult, Connection.afterHandshake] at h

theorem check_ok {w : World σ} {d : Device} {s : σ} (h : (d.check w s).1 = true) :
    (d.check w s).2.1 = d := by
  cases hup : d.connection.connected with
  | false => simp [check, hup]
  | true =>
    simp only [check, hup, if_true] at h ⊢
    cases hresult : (w.handshake d.wire s).1 with
    | ok => simp [Connection.checkAt, hup]
    | error => simp [hresult, Connection.checkAt, hup] at h

theorem call_ok {w : World σ} {d : Device} {s : σ} {c : Call} {records : List Record}
    (h : (d.call w c s).1 = .ok records) : (d.call w c s).2.1 = d := by
  cases hup : d.connection.connected with
  | false => simp [call, hup]
  | true =>
    simp only [call, hup, if_true] at h ⊢
    cases hresult : (w.call d.wire c s).1 with
    | ok => simp [Connection.callAt, hup]
    | error => simp [hresult, Connection.callAt, hup] at h

/-! ## The connection and its history -/

/-- **The connection is a function of its history**, for a device of any policy, after uses in any
order, each in a world of any state. -/
theorem connection_of_history (w : World σ) (wire : Nat) (identity : Identity) (backoff : Backoff)
    (uses : List (Use × σ)) :
    let d := (create wire identity backoff).after w uses
    let h := (create wire identity backoff).history w uses
    d.connection.FollowsFrom h ∧
      (d.connection.connected = true → d.connection.failures = 0 ∧
        d.connection.lastFailure = none) ∧
      (d.connection.failures = 0 ↔ d.connection.lastFailure = none) ∧
      ∀ s : σ,
        (d.connection.connected = false → d.Idle w .check s ∧ ∀ c, d.Idle w (.call c) s) ∧
        (d.connection.connected = true → d.Idle w .connect s) ∧
        (∀ remaining, (d.connect w s).1 = .suppressed remaining → d.Idle w .connect s) ∧
        ((d.check w s).1 = true → (d.check w s).2.1 = d) ∧
        ∀ c records, (d.call w c s).1 = .ok records → (d.call w c s).2.1 = d := by
  intro d h
  have start : (create wire identity backoff).connection.FollowsFrom [] := .fresh
  have f : d.connection.FollowsFrom h := after_followsFrom w start uses
  refine ⟨f, f.of_connected, f.count_eq_zero_iff, fun s => ⟨?_, ?_, ?_, ?_, ?_⟩⟩
  · exact fun hdown => idle_of_down hdown s
  · intro hup
    exact idle_of_refused (if_pos hup)
  · exact fun _ hsuppressed => idle_of_suppressed hsuppressed
  · exact check_ok
  · exact fun _ _ hok => call_ok hok

end Device

end RouterMetrics

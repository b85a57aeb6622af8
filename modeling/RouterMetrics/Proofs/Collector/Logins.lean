import RouterMetrics.Proofs.Collector.OptionalFields
import RouterMetrics.Proofs.Decimal.WholeNumbers
import RouterMetrics.Proofs.Value.Timestamps

/-!
# Logins of sessions

A session has the greatest login text of its rows, and its sample is the time of that text. Texts
of one form with all their places are in the order of their times, so it is the latest login then
(`Catalog.logins_told`). Texts with names of months are not: `jan` is greater than `feb`.
-/

namespace RouterMetrics.Catalog

variable {rows : List Record} {s : Record}

/-- The login texts of rows have one form, with the same character between date and time. -/
def OneForm (rows : List Record) : Prop :=
  ∃ sep, (sep = ' ' ∨ sep = 'T') ∧ ∀ r ∈ rows, ∃ t : Value.Stamp, r.textD "when" = t.text sep

/-- The login of some rows: the greatest of their texts, and the time that it stands for. It is the
latest one when the texts have one form. -/
structure IsLogin (rows : List Record) (text : String) (t : Int) : Prop where
  told : ∃ r ∈ rows, r.textD "when" = text
  greatest : ∀ r ∈ rows, r.textD "when" ≤ text
  time : Value.unixSeconds text = some t
  latest : OneForm rows → ∀ r ∈ rows, ∀ t', Value.unixSeconds (r.textD "when") = some t' → t' ≤ t

/-- Rows whose login texts all stand for times. -/
def Dated (rows : List Record) : Prop :=
  ∀ r ∈ rows, (Value.unixSeconds (r.textD "when")).isSome = true

instance : Decidable (Dated rows) :=
  inferInstanceAs (Decidable (∀ r ∈ rows, (Value.unixSeconds (r.textD "when")).isSome = true))

/-- **A session has the login of its rows.** -/
theorem IsSession.isLogin (h : IsSession rows s) (dated : Dated rows) :
    ∃ text t, s.get? "when" = some (.text text) ∧ IsLogin rows text t := by
  obtain ⟨last, hlast, hwhen, hgreatest⟩ := h.login
  obtain ⟨t, ht⟩ := Option.isSome_iff_exists.mp (dated last hlast)
  refine ⟨last.textD "when", t, hwhen, ⟨last, hlast, rfl⟩, hgreatest, ht, ?_⟩
  rintro ⟨sep, hsep, hform⟩ r hr t' ht'
  obtain ⟨stamp, hstamp⟩ := hform last hlast
  obtain ⟨stamp', hstamp'⟩ := hform r hr
  have hle := hgreatest r hr
  rw [hstamp, Value.Stamp.unixSeconds_text _ hsep, Option.some.injEq] at ht
  rw [hstamp', Value.Stamp.unixSeconds_text _ hsep, Option.some.injEq] at ht'
  rw [hstamp, hstamp'] at hle
  rw [← ht, ← ht']
  exact Value.Stamp.seconds_le hle

/-- A login is read as its time. -/
theorem IsLogin.reading_eq {text : String} {t : Int} (h : IsLogin rows text t)
    (hwhen : s.normalizeKeys.get? "when" = some (.text text)) :
    reading Value.timestamp "when" s = some (Decimal.ofInt t) := by
  have htext : text ≠ "" := by
    rintro rfl
    have hnone : Value.unixSeconds "" = none := by decide
    rw [h.time] at hnone
    cases hnone
  have hfinite := Decimal.isFinite_ofInt (Value.natAbs_unixSeconds_lt h.time)
  rw [reading, Record.text?_eq_some_iff.mpr hwhen, Option.bind_some, if_neg htext,
    Value.timestamp, h.time, Option.map_some, Option.filter_some, if_pos hfinite]

theorem user_mem : user ∈ groups := List.mem_of_getElem? (show groups[24]? = some user from rfl)

/-- A login is read of every session. -/
theorem reading_session (dated : Dated rows) (h : s ∈ collapseSessions rows) :
    ¬ s.SwitchedOff ∧ s.normalizeKeys.text? "when" ≠ some "" ∧
      (reading Value.timestamp "when" s).isSome = true := by
  obtain ⟨row, hrow, hsession⟩ := mem_collapseSessions h
  obtain ⟨text, t, hwhen, hlogin⟩ :=
    hsession.isLogin fun r hr => dated r (List.mem_of_mem_filter hr)
  have hread := hlogin.reading_eq (hsession.normalizeKeys_get?_when.trans hwhen)
  refine ⟨hsession.not_switchedOff, fun hempty => ?_, by rw [hread]; rfl⟩
  rw [reading, hempty] at hread
  cases hread

/-- **What is told of the logins of users.** All rows have a login text that stands for a time. Each
session has the greatest text of its rows, which stands for the latest time when these texts have
one form; and the series of logins does not fail and has the time of that text for each session, in
their order. -/
theorem logins_told (i : Identity) (interval : Duration) (device : Option Device)
    (dated : Dated rows) (now : Moment) {st : Stage} (hst : st ∈ user.stages) {d : SeriesDef}
    (hd : d ∈ st.series) (hfield : d.valueField = some "when") :
    let s := Collector.filled st i.labels interval (st.process device rows) now
    List.Forall₂ (fun key session => ∃ text t, session.get? "when" = some (.text text) ∧
        IsLogin (rows.filter fun r => sessionKey r = key) text t)
      (rows.map sessionKey).eraseDups (collapseSessions rows) ∧
    ∃ x, s.emit d s.snapshot = .ok x ∧
      List.Forall₂ (fun key y => ∃ text t,
          IsLogin (rows.filter fun r => sessionKey r = key) text t ∧ y.value = Decimal.ofInt t)
        (rows.map sessionKey).eraseDups x.samples := by
  intro s
  have hprocess : st.process device rows = collapseSessions rows := by
    obtain rfl := List.mem_singleton.mp hst
    exact congrArg collapseSessions List.filterMap_some
  have ht : ⟨"when", datetime⟩ ∈ st.translations := by
    obtain rfl := List.mem_singleton.mp hst
    exact List.mem_cons_self
  have gauge : d.kind ≠ .info := kind_ne_info user_mem st hst d hd (by rw [hfield]; rfl)
  have spared : ∀ e ∈ i.labels, e.1 ≠ "when" := fun e he heq =>
    groups_spare user_mem i st hst _ ht e he heq.symm
  have hsessions := forall₂_isSession rows
  have hdated : ∀ key, Dated (rows.filter fun r => sessionKey r = key) := fun key r hr =>
    dated r (List.mem_of_mem_filter hr)
  refine ⟨hsessions.imp fun key session h => h.isLogin (hdated key), ?_⟩
  -- no session is switched off, and a login is read of each
  have hkept : List.Forall₂ (KeptAs s Value.timestamp "when") (collapseSessions rows)
      s.snapshot.records := by
    have hall : ((st.process device rows).filter fun raw => ¬ raw.SwitchedOff) =
        collapseSessions rows := by
      rw [hprocess]
      exact List.filter_eq_self.mpr fun raw hraw => decide_eq_true (reading_session dated hraw).1
    have htexts : ∀ raw ∈ st.process device rows, raw.TextIn "when" := by
      intro raw hraw
      rw [hprocess] at hraw
      obtain ⟨row, -, hsession⟩ := mem_collapseSessions hraw
      exact hsession.textIn
    rw [← hall]
    exact Optional.forall₂_keptAs (t := ⟨"when", datetime⟩) .datetime
      (translations_distinct user_mem st hst) ht spared htexts now
  cases hx : s.emit d s.snapshot with
  | error e =>
    obtain ⟨raw, hraw, hempty⟩ := (emit_fails_iff_of_keptAs hkept gauge hfield).mp ⟨e, hx⟩
    exact absurd hempty (reading_session dated hraw).2.1
  | ok x =>
    have hsamples := samples_of_keptAs hkept gauge hfield hx
    rw [List.filter_eq_self.mpr fun raw hraw => (reading_session dated hraw).2.2] at hsamples
    refine ⟨x, rfl, (forall₂_comp hsessions hsamples).imp ?_⟩
    rintro key y ⟨session, hsession, hread, -⟩
    obtain ⟨text, t, hwhen, hlogin⟩ := hsession.isLogin (hdated key)
    rw [hlogin.reading_eq (hsession.normalizeKeys_get?_when.trans hwhen)] at hread
    exact ⟨text, t, hlogin, (Option.some.inj hread).symm⟩

/-- A user who has logged in. -/
def loggedIn (name login : String) : Record :=
  Dict.ofList [("address", .text "10.0.0.2"), ("name", .text name), ("via", .text "ssh"),
    ("when", .text login)]

theorem textD_loggedIn (name login : String) : (loggedIn name login).textD "when" = login := by
  simp [loggedIn, Record.textD, Record.text?, Dict.ofList, Dict.get?_insert, Json.asText?]

/-- The last second of a month, and the first one of the next. -/
def newMonth : List Value.Stamp :=
  [⟨2024, 1, 31, 23, 59, 59, by decide, by decide, by decide, by decide, by decide⟩,
   ⟨2024, 2, 1, 0, 0, 0, by decide, by decide, by decide, by decide, by decide⟩]

/-- One user logs in at both times, and another one before. -/
def deskRows : List Record :=
  newMonth.map (fun t => loggedIn "ops" (t.text ' ')) ++ [loggedIn "guest" "jan/31/2024 12:00:00"]

/-- The stage of users. -/
def userStage : Stage := user.stages.head (List.cons_ne_nil _ _)

/-- The series of their logins. -/
def lastLogin : SeriesDef := gauge "active_users_last_login" "Active users last login" "when"

/-- The later one of two logins is told, and the login of the other user. -/
theorem logins_told_desk :
    let s := Collector.filled userStage Collector.gateway.identity.labels (.ofSeconds 10)
      (userStage.process none deskRows) 0
    Dated deskRows ∧ OneForm (deskRows.filter fun r => sessionKey r = "10.0.0.2-ops-ssh") ∧
      ∃ x, s.emit lastLogin s.snapshot = .ok x ∧
        List.Forall₂ (fun key y => ∃ text t,
            IsLogin (deskRows.filter fun r => sessionKey r = key) text t ∧
              y.value = Decimal.ofInt t)
          ["10.0.0.2-ops-ssh", "10.0.0.2-guest-ssh"] x.samples ∧
        x.samples.map (·.value) = [Decimal.ofInt 1706745600, Decimal.ofInt 1706702400] := by
  intro s
  have dated : Dated deskRows := by decide
  have hform : OneForm (deskRows.filter fun r => sessionKey r = "10.0.0.2-ops-ssh") := by
    have hrows : (deskRows.filter fun r => sessionKey r = "10.0.0.2-ops-ssh") =
        newMonth.map fun t => loggedIn "ops" (t.text ' ') := rfl
    refine ⟨' ', .inl rfl, fun r hr => ?_⟩
    rw [hrows] at hr
    obtain ⟨t, -, rfl⟩ := List.mem_map.mp hr
    exact ⟨t, textD_loggedIn _ _⟩
  obtain ⟨-, x, hx, hsamples⟩ := logins_told Collector.gateway.identity (.ofSeconds 10) none dated 0
    (show userStage ∈ user.stages from List.head_mem _)
    (show lastLogin ∈ userStage.series from List.mem_cons_self) rfl
  have hvalues : (s.emit lastLogin s.snapshot).toOption.map (·.samples.map (·.value)) =
      some [Decimal.ofInt 1706745600, Decimal.ofInt 1706702400] := by decide +kernel
  have hkeys : (deskRows.map sessionKey).eraseDups =
      ["10.0.0.2-ops-ssh", "10.0.0.2-guest-ssh"] := by decide
  rw [hkeys] at hsamples
  rw [show s.emit lastLogin s.snapshot = .ok x from hx] at hvalues
  exact ⟨dated, hform, x, hx, hsamples, Option.some.inj hvalues⟩

/-- Of two logins of one user, the earlier one is told when the name of its month is greater. -/
theorem earlier_login_told :
    let rows := [loggedIn "ops" "jan/15/2024 10:00:00", loggedIn "ops" "feb/01/2024 09:00:00"]
    let c := (user.collector Collector.gateway.identity.labels (.ofSeconds 10)).after
      Collector.dictated [Collector.answered 10 [.ok rows]]
    rows.map (fun r => Value.unixSeconds (r.textD "when")) =
        [some 1705312800, some 1706778000] ∧
      (collapseSessions rows).map (fun s => (Value.unixSeconds (s.textD "when"), countOf s)) =
        [(some 1705312800, 2)] ∧
      (c.collect? (Moment.after 0 (.ofSeconds 12))).map (·.map fun x =>
          (x.name, x.samples.map (·.value))) =
        some [("active_users_last_login", [Decimal.ofInt 1705312800]),
          ("active_users_count", [Decimal.ofInt 2])] := by
  intro rows c
  exact ⟨by decide, by decide, by decide +kernel⟩

end RouterMetrics.Catalog

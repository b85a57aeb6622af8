import Mathlib.Data.List.Nodup
import RouterMetrics.Proofs.Collector.Columns
import RouterMetrics.Proofs.Collector.Installations
import RouterMetrics.Proofs.Collector.Normalization

/-!
# Leases across collectors

The collectors of a device share its lease table. The dhcp group replaces the table by the rows that
it has got, and four groups look their own rows up in it. After any visits the table is what the
last dhcp fetch that succeeded has got, and each row that one of the four groups keeps has its
record, which tells the first lease that the table had for the hardware address of this row when it
was got (`Installation.leases_told`).
-/

namespace RouterMetrics

variable {σ : Type}

/-- What the first stage of a load has got, if its fetch has succeeded. -/
def Load.rows? (w : World σ) (stages : List Stage) (l : Load σ) : Option (List Record) :=
  (l.fetches w stages).head?.bind fun got => got.toOption.map (·.2)

/-! ## The lease table -/

namespace Catalog

/-- A name is that of one group of the catalog. -/
theorem eq_of_name {g g' : Group} (hg : g ∈ groups) (hg' : g' ∈ groups) (h : g.name = g'.name) :
    g = g' := by
  have hdistinct : (groups.map (·.name)).Nodup := by decide
  exact List.inj_on_of_nodup_map hdistinct hg hg' h

theorem dhcp_mem : dhcp ∈ groups := List.mem_of_getElem? (show groups[2]? = some dhcp from rfl)

/-- No group but dhcp publishes leases. -/
theorem quiet_of_name {g : Group} (hg : g ∈ groups) (hname : g.name ≠ "dhcp") :
    ∀ st ∈ g.stages, st.publishesLeases = false := by
  have hall : ∀ g ∈ groups, g.name ≠ "dhcp" → ∀ st ∈ g.stages, st.publishesLeases = false := by
    decide
  exact hall g hg hname

/-- The dhcp group has one stage, which keeps all its rows and publishes them. -/
theorem dhcp_stage : ∃ st, dhcp.stages = [st] ∧ st.publishesLeases = true ∧
    ∀ d rows, st.process d rows = rows :=
  ⟨_, rfl, rfl, fun _ _ => List.filterMap_some⟩

end Catalog

namespace Collector

/-- A single stage that publishes all its rows replaces the leases by what it has got. -/
theorem loadStages_leases (w : World σ) {live : LiveStage}
    (publishes : live.stage.publishesLeases = true)
    (all : ∀ d rows, live.stage.process d rows = rows) (now : Moment) (d : Device) (s : σ) :
    ∃ c, (loadStages w now [live] (some d) s).2.device =
      some { d with
        connection := c
        leases := (((⟨now, some d, s⟩ : Load σ).rows? w [live.stage]).map
          (·.map Record.normalizeKeys)).getD d.leases } := by
  obtain ⟨c, hrun⟩ := live.stage.source.run_connection w d s
  rcases loadStages_cons w now live [] (some d) s with ⟨e, d', s', heq, h⟩ | ⟨rows, d', s', heq, h⟩
  · rw [heq] at hrun
    refine ⟨c, ?_⟩
    rw [h, Load.rows?, Load.fetches, fetches_of_error heq]
    exact hrun
  · rw [heq] at hrun
    refine ⟨c, ?_⟩
    rw [h, Load.rows?, Load.fetches, fetches_of_ok heq]
    simp only [all, Stage.publish, publishes, if_true]
    rw [show d' = some { d with connection := c } from hrun]
    rfl

/-- A load that ends with an error has got nothing for its single stage. -/
theorem rows?_of_error {w : World σ} {live : LiveStage} {now : Moment} {d : Option Device} {s : σ}
    {e : LoadError} (h : (loadStages w now [live] d s).1 = .error e) :
    (⟨now, d, s⟩ : Load σ).rows? w [live.stage] = none := by
  rcases loadStages_cons w now live [] d s with ⟨e, d', s', heq, -⟩ | ⟨rows, d', s', -, hload⟩
  · rw [Load.rows?, Load.fetches, fetches_of_error heq]
    rfl
  · rw [hload] at h
    cases h

end Collector

namespace Installation

variable {w : World σ} {x : Installation}

/-- The rows that a load of the dhcp group has got, if a visit is one whose fetch succeeds. -/
def leaseRows (w : World σ) (x : Installation) : Visit σ → Option (List Record)
  | .use _ _ => none
  | .load place now found =>
    match x.collectors[place]? with
    | none => none
    | some c =>
      if c.name = "dhcp" then (x.loadAt now found).rows? w (c.stages.map (·.stage)) else none

/-- Every collector is one of a group of the catalog. -/
def Listed (x : Installation) : Prop :=
  ∀ c ∈ x.collectors, ∃ g ∈ Catalog.groups, c.name = g.name ∧ c.stages.map (·.stage) = g.stages

theorem start_listed (wire : Nat) (identity : Identity) (backoff : Backoff)
    {groups : List (Group × Duration)} (known : ∀ p ∈ groups, p.1 ∈ Catalog.groups) :
    (start wire identity backoff groups).Listed := by
  intro c hc
  obtain ⟨p, hp, rfl⟩ := List.mem_map.mp hc
  exact ⟨p.1, known p hp, rfl, p.1.collector_stages identity.labels p.2⟩

theorem Listed.visit (listed : x.Listed) (w : World σ) (v : Visit σ) : (x.visit w v).Listed := by
  intro c hc
  obtain ⟨place, hplace⟩ := List.getElem?_of_mem hc
  rw [visit_collector, Option.map_eq_some_iff] at hplace
  obtain ⟨c, hbefore, rfl⟩ := hplace
  obtain ⟨g, hg, hname, hstages⟩ := listed c (List.mem_of_getElem? hbefore)
  exact ⟨g, hg, (Collector.after_name w c _).trans hname,
    (Collector.after_stages w c _).trans hstages⟩

theorem Listed.after (listed : x.Listed) (w : World σ) (visits : List (Visit σ)) :
    (x.after w visits).Listed := by
  induction visits generalizing x with
  | nil => exact listed
  | cons v rest ih => exact ih (listed.visit w v)

/-- The collector of the dhcp group has one stage, which keeps all its rows and publishes them. -/
theorem Listed.dhcp (listed : x.Listed) {c : Collector} (hc : c ∈ x.collectors)
    (hname : c.name = "dhcp") : ∃ live : LiveStage, c.stages = [live] ∧
      live.stage.publishesLeases = true ∧ ∀ d rows, live.stage.process d rows = rows := by
  obtain ⟨st, hst, hpublishes, hall⟩ := Catalog.dhcp_stage
  obtain ⟨g, hg, hgroup, hstages⟩ := listed c hc
  cases Catalog.eq_of_name hg Catalog.dhcp_mem (hgroup.symm.trans hname)
  rw [hst] at hstages
  obtain ⟨live, hlive, rfl⟩ := List.map_eq_singleton_iff.mp hstages
  exact ⟨live, hlive, hpublishes, hall⟩

/-- A load of another group, or one that ends with an error, gets no rows of the dhcp group. -/
theorem leaseRows_eq_none (listed : x.Listed) {place : Nat} {c : Collector} {now : Moment}
    {found : σ} (hc : x.collectors[place]? = some c)
    (h : c.name ≠ "dhcp" ∨
      ∃ e, (Collector.loadStages w now c.stages (some x.device) found).1 = .error e) :
    leaseRows w x (.load place now found) = none := by
  simp only [leaseRows, hc]
  by_cases hname : c.name = "dhcp"
  · obtain ⟨live, hlive, -⟩ := listed.dhcp (List.mem_of_getElem? hc) hname
    obtain ⟨e, he⟩ := h.resolve_left (not_not_intro hname)
    rw [hlive] at he
    rw [if_pos hname, hlive]
    exact Collector.rows?_of_error he
  · rw [if_neg hname]

/-- **A visit replaces the leases when it has got the rows of the dhcp group, and leaves them as
they were otherwise.** -/
theorem visit_leases (listed : x.Listed) (w : World σ) (v : Visit σ) :
    (x.visit w v).device.leases =
      ((leaseRows w x v).map (·.map Record.normalizeKeys)).getD x.device.leases := by
  cases v with
  | use u found =>
    obtain ⟨c, huse⟩ := x.device.use_connection w u found
    show (x.device.use w u found).1.leases = x.device.leases
    rw [huse]
  | load place now found =>
    cases hc : x.collectors[place]? with
    | none => simp [Installation.visit, leaseRows, hc]
    | some c =>
      simp only [Installation.visit, leaseRows, hc]
      by_cases hdhcp : c.name = "dhcp"
      · obtain ⟨live, hlive, hpublishes, hall⟩ := listed.dhcp (List.mem_of_getElem? hc) hdhcp
        obtain ⟨connection, hdevice⟩ :=
          Collector.loadStages_leases w hpublishes hall now x.device found
        rw [if_pos hdhcp, hlive, hdevice]
        rfl
      · obtain ⟨g, hg, hname, hstages⟩ := listed c (List.mem_of_getElem? hc)
        have hquiet : ∀ live ∈ c.stages, live.stage.publishesLeases = false := fun live hlive =>
          Catalog.quiet_of_name hg (hname ▸ hdhcp) live.stage
            (hstages ▸ List.mem_map_of_mem hlive)
        obtain ⟨connection, hdevice⟩ :=
          Collector.loadStages_connection w now hquiet x.device found
        rw [if_neg hdhcp, hdevice]
        rfl

/-- **The leases are what the last dhcp fetch that succeeded has got.** -/
theorem after_leases (listed : x.Listed) (w : World σ) (visits : List (Visit σ)) :
    (x.after w visits).device.leases =
      ((yields w (leaseRows w) x visits).getLast?.map (·.map Record.normalizeKeys)).getD
        x.device.leases := by
  induction visits generalizing x with
  | nil => rfl
  | cons v rest ih =>
    have hafter : x.after w (v :: rest) = (x.visit w v).after w rest := rfl
    rw [hafter, ih (listed.visit w v), visit_leases listed, yields, List.getLast?_append]
    cases (yields w (leaseRows w) (x.visit w v) rest).getLast? with
    | some rows => rfl
    | none => cases leaseRows w x v with
      | some rows => rfl
      | none => rfl

end Installation

/-! ## Rows that are looked up -/

/-- A lease is the first of a table with the hardware address of a row. -/
def FirstLease (table : List Record) (row lease : Record) : Prop :=
  ∃ mac before after, row.text? "mac-address" = some mac ∧ table = before ++ lease :: after ∧
    lease.text? "mac_address" = some mac ∧ ∀ l ∈ before, l.text? "mac_address" ≠ some mac

/-- A record has some texts under some names. -/
def Record.Tells (r : Record) (fields : List (String × String)) : Prop :=
  ∀ e ∈ fields, r.get? e.1 = some (.text e.2)

/-- A record tells name, comment and address of the lease of its row. -/
structure TellsLease (table : List Record) (row r : Record) : Prop where
  leased : ∀ lease, FirstLease table row lease →
    r.Tells [("dhcp_name", lease.textD "host_name"), ("dhcp_comment", lease.textD "comment"),
      ("dhcp_address", lease.textD "address")]
  unleased : (∀ lease, ¬ FirstLease table row lease) →
    r.Tells [("dhcp_name", ""), ("dhcp_comment", ""), ("dhcp_address", "No DHCP Record")]

/-- A record tells whether the lease of its row is dynamic or static. -/
structure TellsKind (table : List Record) (row r : Record) : Prop where
  dynamic : ∀ lease, FirstLease table row lease → lease.text? "dynamic" = some "true" →
    r.Tells [("dhcp_lease_type", "dynamic")]
  static : ∀ lease, FirstLease table row lease → lease.text? "dynamic" ≠ some "true" →
    r.Tells [("dhcp_lease_type", "static")]
  unleased : (∀ lease, ¬ FirstLease table row lease) → r.Tells [("dhcp_lease_type", "")]

theorem Record.Tells.subset {r : Record} {fields fields' : List (String × String)}
    (h : r.Tells fields) (hsubset : fields' ⊆ fields) : r.Tells fields' :=
  fun e he => h e (hsubset he)

namespace Catalog

variable {d : Option Device} {row lease r : Record} {k text : String}

theorem leaseOf_eq_some_iff {d : Device} :
    leaseOf (some d) row = some lease ↔ FirstLease d.leases row lease := by
  unfold leaseOf FirstLease
  cases row.text? "mac-address" with
  | none => simp
  | some mac =>
    simp only [Device.findLease, List.find?_eq_some_iff_append]
    constructor
    · rintro ⟨hlease, before, after, htable, hbefore⟩
      exact ⟨mac, before, after, rfl, htable, by simpa using hlease, by simpa using hbefore⟩
    · rintro ⟨mac', before, after, hmac', htable, hlease, hbefore⟩
      cases hmac'
      exact ⟨by simpa using hlease, before, after, htable, by simpa using hbefore⟩

theorem leaseOf_eq_none {d : Device} (h : ∀ lease, ¬ FirstLease d.leases row lease) :
    leaseOf (some d) row = none :=
  Option.eq_none_iff_forall_ne_some.mpr fun lease hlease => h lease (leaseOf_eq_some_iff.mp hlease)

/-- The fields that tell a lease, or that there is none. -/
def LeaseInfo.fields (info : LeaseInfo) : List (String × String) :=
  [("dhcp_name", info.name), ("dhcp_comment", info.comment), ("dhcp_address", info.address)]

/-- The field that tells whether a lease is dynamic or static. -/
def LeaseInfo.kindField (info : LeaseInfo) : List (String × String) :=
  [("dhcp_lease_type", info.kind)]

theorem tellsLease_of {d : Device} (h : r.Tells (LeaseInfo.of (leaseOf (some d) row)).fields) :
    TellsLease d.leases row r where
  leased lease hlease := by
    rw [leaseOf_eq_some_iff.mpr hlease] at h
    exact h
  unleased hnone := by
    rw [leaseOf_eq_none hnone] at h
    exact h

theorem tellsKind_of {d : Device} (h : r.Tells (LeaseInfo.of (leaseOf (some d) row)).kindField) :
    TellsKind d.leases row r where
  dynamic lease hlease hdynamic := by
    rw [leaseOf_eq_some_iff.mpr hlease] at h
    simpa [LeaseInfo.of, LeaseInfo.kindField, hdynamic] using h
  static lease hlease hstatic := by
    rw [leaseOf_eq_some_iff.mpr hlease] at h
    simpa [LeaseInfo.of, LeaseInfo.kindField, hstatic] using h
  unleased hnone := by
    rw [leaseOf_eq_none hnone] at h
    exact h

/-! ## Rules that look up -/

/-- A row rule adds what the lease table says of a row. -/
def LooksUp (rule : RowRule) (fields : LeaseInfo → List (String × String)) : Prop :=
  ∀ d row kept, rule d row = .ok (some kept) → (row.Plain → kept.Plain) ∧
    kept.Tells (fields (.of (leaseOf d row)))

/-- A row rule leaves out the rows that are not complete, and makes records of the others that are
switched off when their rows are. -/
structure Completes (rule : RowRule) (complete : Record → Prop) : Prop where
  kept_iff : ∀ d row, (∃ kept, rule d row = .ok (some kept)) ↔ complete row
  switchedOff : ∀ d row kept, rule d row = .ok (some kept) → (kept.SwitchedOff ↔ row.SwitchedOff)

theorem toOption_join_eq_some_iff {ε α : Type} {result : Except ε (Option α)} {a : α} :
    result.toOption.join = some a ↔ result = .ok (some a) := by
  cases result with
  | error e => simp [Except.toOption]
  | ok found => simp [Except.toOption]

theorem LooksUp.subset {rule : RowRule} {fields fields' : LeaseInfo → List (String × String)}
    (h : LooksUp rule fields) (hsubset : ∀ info, fields' info ⊆ fields info) :
    LooksUp rule fields' := by
  intro d row kept hkept
  obtain ⟨hplain, htells⟩ := h d row kept hkept
  exact ⟨hplain, htells.subset (hsubset _)⟩

theorem leaseOf_setText (hk : k ≠ "mac-address") : leaseOf d (setText r k text) = leaseOf d r := by
  simp [leaseOf, Record.text?, setText, Dict.get?_insert, hk]

theorem withLease_tells (d : Option Device) (r : Record) :
    Record.Tells (withLease d r) (LeaseInfo.of (leaseOf d r)).fields := by
  simp [Record.Tells, LeaseInfo.fields, withLease, setText, Dict.get?_insert]

theorem withLease_plain (plain : r.Plain) : Record.Plain (withLease d r) :=
  ((plain.insert (by decide)).insert (by decide)).insert (by decide)

theorem looksUp_withLease : LooksUp (rowRule withLease) LeaseInfo.fields := by
  rintro d row kept ⟨⟩
  exact ⟨withLease_plain, withLease_tells d row⟩

theorem looksUp_withLeaseKind :
    LooksUp (rowRule withLeaseKind) fun info => info.fields ++ info.kindField := by
  rintro d row kept ⟨⟩
  have hother : ∀ e ∈ (LeaseInfo.of (leaseOf d row)).fields, "dhcp_lease_type" ≠ e.1 := by
    simp [LeaseInfo.fields]
  refine ⟨fun plain => (withLease_plain plain).insert (by decide), fun e he => ?_⟩
  rw [withLeaseKind, setText, Dict.get?_insert]
  rcases List.mem_append.mp he with he | he
  · rw [if_neg (hother e he)]
    exact withLease_tells d row e he
  · cases List.mem_singleton.mp he
    rw [if_pos rfl]

/-- A row with bytes that have a comma in them. -/
def HasBytes (row : Record) : Prop := ∃ bytes ∈ row.text? "bytes", ',' ∈ bytes.toList

instance (row : Record) : Decidable (HasBytes row) :=
  inferInstanceAs (Decidable (∃ bytes ∈ row.text? "bytes", ',' ∈ bytes.toList))

theorem setText_switchedOff (hk : k ≠ "disabled") :
    Record.SwitchedOff (setText r k text) ↔ r.SwitchedOff := by
  rw [Record.SwitchedOff, setText, Dict.get?_insert, if_neg hk, Record.SwitchedOff]

theorem withLease_switchedOff : Record.SwitchedOff (withLease d r) ↔ r.SwitchedOff := by
  rw [withLease, setText_switchedOff (by decide), setText_switchedOff (by decide),
    setText_switchedOff (by decide)]

theorem withLeaseKind_switchedOff : Record.SwitchedOff (withLeaseKind d r) ↔ r.SwitchedOff := by
  rw [withLeaseKind, setText_switchedOff (by decide), withLease_switchedOff]

/-- A rule that makes a record of every row leaves none out. -/
theorem completes_rowRule {f : Option Device → Record → Record} {complete : Record → Prop}
    (all : ∀ row, complete row)
    (switchedOff : ∀ d row, (f d row).SwitchedOff ↔ row.SwitchedOff) :
    Completes (rowRule f) complete where
  kept_iff d row := ⟨fun _ => all row, fun _ => ⟨_, rfl⟩⟩
  switchedOff := by
    rintro d row kept ⟨⟩
    exact switchedOff d row

/-! ## Clients -/

/-- The record of a client, if its bytes have a comma. -/
def clientOf (device : Option Device) (row : Record) : Option Record :=
  (halves ',' "bytes" row).map fun cut =>
    withLease device (setText (setText row "tx_bytes" cut.1) "rx_bytes" cut.2)

/-- **A row is left out when its bytes have no comma.** -/
theorem splitClientBytes_kept (device : Option Device) (row : Record) :
    (splitClientBytes device row).toOption.join = clientOf device row := by
  unfold splitClientBytes clientOf halves
  cases row.text? "bytes" with
  | none => rfl
  | some bytes =>
    dsimp only [Option.bind_some]
    cases cutAt ',' bytes with
    | none => rfl
    | some cut => rfl

theorem splitClientBytes_eq_some_iff {kept : Record} :
    splitClientBytes d row = .ok (some kept) ↔ clientOf d row = some kept := by
  rw [← toOption_join_eq_some_iff, splitClientBytes_kept]

theorem clientOf_isSome : (clientOf d row).isSome = (halves ',' "bytes" row).isSome :=
  Option.isSome_map

theorem clientOf_switchedOff (h : clientOf d row = some r) : r.SwitchedOff ↔ row.SwitchedOff := by
  obtain ⟨cut, -, rfl⟩ := Option.map_eq_some_iff.mp h
  rw [withLease_switchedOff, setText_switchedOff (by decide), setText_switchedOff (by decide)]

theorem completes_splitClientBytes : Completes splitClientBytes HasBytes where
  kept_iff d row := by
    simp only [splitClientBytes_eq_some_iff]
    rw [← Option.isSome_iff_exists, clientOf_isSome, halves_isSome_iff, HasBytes]
  switchedOff _ _ _ hkept := clientOf_switchedOff (splitClientBytes_eq_some_iff.mp hkept)

theorem looksUp_splitClientBytes : LooksUp splitClientBytes LeaseInfo.fields := by
  intro d row kept hkept
  obtain ⟨cut, -, rfl⟩ := Option.map_eq_some_iff.mp (splitClientBytes_eq_some_iff.mp hkept)
  have hlease : leaseOf d (setText (setText row "tx_bytes" cut.1) "rx_bytes" cut.2) =
      leaseOf d row := by
    rw [leaseOf_setText (by decide), leaseOf_setText (by decide)]
  refine ⟨fun plain => withLease_plain ((plain.insert (by decide)).insert (by decide)), ?_⟩
  rw [← hlease]
  exact withLease_tells d _

/-! ## Groups that look rows up -/

/-- The groups that look their rows up in the lease table. -/
def lookups : List Group := [arp, ipv6Neighbor, bridgeHosts, wifiClients]

/-- The names of the fields that tell a lease. -/
def leaseFields : List String := ["dhcp_name", "dhcp_comment", "dhcp_address", "dhcp_lease_type"]

theorem LeaseInfo.fields_names (info : LeaseInfo) : ∀ e ∈ info.fields, e.1 ∈ leaseFields := by
  simp [fields, leaseFields]

theorem LeaseInfo.kindField_names (info : LeaseInfo) : ∀ e ∈ info.kindField, e.1 ∈ leaseFields := by
  simp [kindField, leaseFields]

/-- A row of a group has all that its rule asks for. Only the rule of clients asks for something. -/
def Complete (g : Group) (row : Record) : Prop := g.name = "wifi_clients" → HasBytes row

/-- A row of a group that looks its rows up is kept: it is complete and not switched off. -/
def Kept (g : Group) (row : Record) : Prop := ¬ row.SwitchedOff ∧ Complete g row

instance (g : Group) (row : Record) : Decidable (Complete g row) :=
  inferInstanceAs (Decidable (g.name = "wifi_clients" → HasBytes row))

instance (g : Group) (row : Record) : Decidable (Kept g row) :=
  inferInstanceAs (Decidable (¬ row.SwitchedOff ∧ Complete g row))

/-- **The one stage of a group that looks its rows up.** No translation changes what it tells. -/
theorem lookup_stage {g : Group} (hg : g ∈ lookups) : ∃ st, g.stages = [st] ∧ st.batchRule = id ∧
    Completes st.rowRule (Complete g) ∧ LooksUp st.rowRule LeaseInfo.fields ∧
    (g.name = "arp" → LooksUp st.rowRule LeaseInfo.kindField) ∧
    ∀ t ∈ st.translations, t.field ∉ leaseFields := by
  have all : ∀ g : Group, g.name ≠ "wifi_clients" → ∀ row, Complete g row :=
    fun g hg row h => absurd h hg
  have clients : Complete wifiClients = HasBytes := by
    funext row
    exact propext ⟨fun h => h rfl, fun h _ => h⟩
  simp only [lookups, List.mem_cons, List.not_mem_nil, or_false] at hg
  rcases hg with rfl | rfl | rfl | rfl
  · exact ⟨_, rfl, rfl, completes_rowRule (all _ (by decide)) fun _ _ => withLeaseKind_switchedOff,
      looksUp_withLeaseKind.subset fun _ => List.subset_append_left _ _,
      fun _ => looksUp_withLeaseKind.subset fun _ => List.subset_append_right _ _, by decide⟩
  · exact ⟨_, rfl, rfl, completes_rowRule (all _ (by decide)) fun _ _ => withLease_switchedOff,
      looksUp_withLease, fun h => absurd h (by decide), by decide⟩
  · exact ⟨_, rfl, rfl, completes_rowRule (all _ (by decide)) fun _ _ => withLease_switchedOff,
      looksUp_withLease, fun h => absurd h (by decide), by decide⟩
  · exact ⟨_, rfl, rfl, clients ▸ completes_splitClientBytes, looksUp_splitClientBytes,
      fun h => absurd h (by decide), by decide⟩

end Catalog

/-- **A store keeps what a plain record tells of a lease.** -/
theorem Store.normalize_tells {s : Store} {identity : Identity} {kept r : Record}
    {fields : List (String × String)} (hidentity : s.identity = identity.labels)
    (htranslations : ∀ t ∈ s.translations, t.field ∉ Catalog.leaseFields)
    (hfields : ∀ e ∈ fields, e.1 ∈ Catalog.leaseFields) (plain : kept.Plain)
    (told : kept.Tells fields) (h : s.normalize kept = some r) : r.Tells fields := by
  have hsettled : ∀ k ∈ Catalog.leaseFields, IsSettled k := by decide
  have hlabels : ∀ k ∈ Catalog.leaseFields, "device_name" ≠ k ∧ "device_address" ≠ k := by decide
  intro e he
  have hk := hfields e he
  unfold normalize at h
  split at h
  · cases h
  · cases h
    have hspared : ∀ label ∈ s.identity, label.1 ≠ e.1 := by
      rw [hidentity]
      exact List.forall_mem_cons.mpr
        ⟨(hlabels _ hk).1, List.forall_mem_singleton.mpr (hlabels _ hk).2⟩
    rw [foldl_translate_get? fun t ht heq => htranslations t ht (heq ▸ hk),
      withIdentity_get?_of_ne hspared]
    exact plain.normalizeKeys_get? (hsettled _ hk) (told e he)

/-! ## Records of looked-up rows -/

namespace Collector

variable {w : World σ}

/-- **The records of a store are those of the rows** that the last load of its stage has got, are
not switched off and are complete, in their order. -/
theorem Holds.rows {stages : List Stage} {loads : List (Load σ)} {i : Nat} {st : Stage}
    {held : Store} (h : Holds w stages loads i st held) (hbatch : st.batchRule = id)
    {complete : Record → Prop} [DecidablePred complete]
    (completes : Catalog.Completes st.rowRule complete) :
    ((∀ l ∈ loads, ¬ l.Reaches w stages i) ∧ held.snapshot = ⟨[], none⟩) ∨
      ∃ before l later d rows, loads = before ++ l :: later ∧
        (l.fetches w stages)[i]? = some (.ok (d, rows)) ∧
        (∀ l' ∈ later, ¬ l'.Reaches w stages i) ∧ held.snapshot.stamp = some l.now ∧
        List.Forall₂ (fun row r => ∃ kept, st.rowRule d row = .ok (some kept) ∧
            held.normalize kept = some r)
          (rows.filter fun row => ¬ row.SwitchedOff ∧ complete row) held.snapshot.records := by
  rcases h with ⟨before, l, later, d, rows, hloads, -, hgot, hlater, hsnapshot⟩ | hnothing
  · refine .inr ⟨before, l, later, d, rows, hloads, hgot, hlater, by rw [hsnapshot], ?_⟩
    have hcomplete : ∀ row, (st.rowRule d row).toOption.join.isSome = decide (complete row) := by
      intro row
      rw [Bool.eq_iff_iff, Option.isSome_iff_exists, decide_eq_true_iff]
      simp only [Catalog.toOption_join_eq_some_iff, completes.kept_iff d row]
    have same : ∀ row kept, (st.rowRule d row).toOption.join = some kept →
        (kept.SwitchedOff ↔ row.SwitchedOff) := fun row kept h =>
      completes.switchedOff d row kept (Catalog.toOption_join_eq_some_iff.mp h)
    have hkept := held.set_keeps_made same rows l.now
    simp only [hcomplete, decide_eq_true_iff, Catalog.toOption_join_eq_some_iff] at hkept
    rw [hsnapshot, hbatch]
    exact hkept
  · exact .inl hnothing

/-- A fetch of a single stage that succeeds is the only one of its load, and leaves the leases as
they were. -/
theorem fetches_single {st : Stage} {d : Device} {s : σ} {d' : Option Device} {rows : List Record}
    (h : (fetches w [st] (some d) s)[0]? = some (.ok (d', rows))) :
    fetches w [st] (some d) s = [.ok (d', rows)] ∧
      ∃ after, d' = some after ∧ after.leases = d.leases := by
  obtain ⟨c, hrun⟩ := st.source.run_connection w d s
  rcases heq : st.source.run w (some d) s with ⟨result, left, s'⟩
  rw [heq] at hrun
  cases result with
  | error e =>
    rw [fetches_of_error heq] at h
    cases h
  | ok got =>
    rw [fetches_of_ok heq] at h ⊢
    cases h
    exact ⟨rfl, _, hrun, rfl⟩

end Collector

namespace Installation

variable {w : World σ} {x : Installation}

/-- The visits before the last load of a collector that has got the rows of its one stage, the time
of that load, and the rows. -/
def LastGot (w : World σ) (x : Installation) (visits : List (Visit σ)) (place : Nat)
    (stages : List Stage) (before : List (Visit σ)) (now : Moment) (rows : List Record) : Prop :=
  ∃ found later d, visits = before ++ .load place now found :: later ∧
    ((x.after w before).loadAt now found).fetches w stages = [.ok (d, rows)] ∧
    ∀ l ∈ yields w (loadFor place) ((x.after w before).visit w (.load place now found)) later,
      ¬ l.Reaches w stages 0

/-- A record is the one that a store keeps of a row which a group has looked up in a table of
leases: the rule of the stage makes it of the row for a device with that table, and it tells the
first lease of the row's hardware address, unless a field name of the row ends in a separator. -/
structure LookedUp (g : Group) (live : LiveStage) (table : List Record) (row r : Record) :
    Prop where
  made : ∃ d kept, d.leases = table ∧ live.stage.rowRule (some d) row = .ok (some kept) ∧
    live.store.normalize kept = some r
  lease : row.Plain → TellsLease table row r
  kind : g.name = "arp" → row.Plain → TellsKind table row r

/-- What is kept of what a rule makes of a row has been looked up in the leases of the device. -/
theorem lookedUp_of_rule {g : Group} {identity : Identity} {interval : Duration} {live : LiveStage}
    {d : Device} {row kept r : Record} (hlookup : g ∈ Catalog.lookups)
    (hstages : g.stages = [live.stage]) (hmade : Collector.Made identity.labels interval live)
    (hrule : live.stage.rowRule (some d) row = .ok (some kept))
    (hnormal : live.store.normalize kept = some r) : LookedUp g live d.leases row r := by
  obtain ⟨st, hst, -, -, hfields, hkind, hspared⟩ := Catalog.lookup_stage hlookup
  obtain rfl : live.stage = st := List.singleton_inj.mp (hstages.symm.trans hst)
  obtain ⟨hidentity, -, htranslations, -, -⟩ := hmade.settings
  have htells : row.Plain → ∀ fields, Catalog.LooksUp live.stage.rowRule fields →
      (∀ info, ∀ e ∈ fields info, e.1 ∈ Catalog.leaseFields) →
      r.Tells (fields (.of (Catalog.leaseOf (some d) row))) := by
    intro plain fields hlooks hnames
    obtain ⟨hplain, htold⟩ := hlooks _ row kept hrule
    exact Store.normalize_tells hidentity (by rwa [htranslations]) (hnames _) (hplain plain) htold
      hnormal
  exact {
    made := ⟨d, kept, rfl, hrule, hnormal⟩
    lease := fun plain =>
      Catalog.tellsLease_of (htells plain _ hfields Catalog.LeaseInfo.fields_names)
    kind := fun harp plain =>
      Catalog.tellsKind_of (htells plain _ (hkind harp) Catalog.LeaseInfo.kindField_names) }

/-- What the stage of a group that looks its rows up holds after visits: nothing as long as no load
has got any rows, and then one record for each row that is kept of those it has got last, in their
order, looked up in the table that there was when they were got. -/
inductive HoldsRows (w : World σ) (x : Installation) (visits : List (Visit σ)) (place : Nat)
    (g : Group) (live : LiveStage) : Prop
  | nothing (never : ∀ l ∈ yields w (loadFor place) x visits, ¬ l.Reaches w g.stages 0)
      (empty : live.store.snapshot = ⟨[], none⟩)
  | got (before : List (Visit σ)) (now : Moment) (rows : List Record)
      (last : LastGot w x visits place g.stages before now rows)
      (stamp : live.store.snapshot.stamp = some now)
      (records : List.Forall₂ (LookedUp g live (x.after w before).device.leases)
        (rows.filter fun row => Catalog.Kept g row) live.store.snapshot.records)

/-- **A group that looks its rows up keeps a record of each row**, which tells the first lease of
its hardware address in the table that the installation had when the row was got. -/
theorem holdsRows (w : World σ) (wire : Nat) (identity : Identity) (backoff : Backoff)
    {groups : List (Group × Duration)} (visits : List (Visit σ)) {place : Nat}
    {p : Group × Duration} (hp : groups[place]? = some p) (hlookup : p.1 ∈ Catalog.lookups) :
    ∃ c live, ((start wire identity backoff groups).after w visits).collectors[place]? = some c ∧
      c.stages = [live] ∧ p.1.stages = [live.stage] ∧ Collector.Made identity.labels p.2 live ∧
      HoldsRows w (start wire identity backoff groups) visits place p.1 live := by
  obtain ⟨st, hst, hbatch, hcompletes, -⟩ := Catalog.lookup_stage hlookup
  obtain ⟨hstages, hall⟩ := Collector.after_holds w p.1 identity.labels p.2
    (yields w (loadFor place) (start wire identity backoff groups) visits)
  rw [hst] at hstages
  obtain ⟨live, hlive, rfl⟩ := List.map_eq_singleton_iff.mp hstages
  obtain ⟨hmade, hholds⟩ := hall 0 live (by rw [hlive]; rfl)
  refine ⟨_, live, by rw [after_collector, start_collector, hp]; rfl, hlive, hst, hmade, ?_⟩
  rcases hholds.rows hbatch hcompletes with ⟨hnever, hempty⟩ |
    ⟨before, l, later, d, rows, hloads, hgot, hlater, hstamp, hrecords⟩
  · exact .nothing hnever hempty
  -- that load was one of the visits, and its fetch left the leases as it found them
  obtain ⟨earlier, v, rest, hvisits, hv, hrest⟩ := yields_split hloads
  obtain ⟨now, found, rfl, rfl⟩ := of_loadFor hv
  rw [hst] at hgot
  obtain ⟨hfetches, device, rfl, hleases⟩ := Collector.fetches_single hgot
  have hlast : LastGot w (start wire identity backoff groups) visits place p.1.stages earlier now
      rows := ⟨found, rest, _, hvisits, by rw [hst]; exact hfetches, hrest ▸ hlater⟩
  refine .got earlier now rows hlast hstamp (hrecords.imp fun row r hr => ?_)
  obtain ⟨kept, hrule, hnormal⟩ := hr
  have hdevice : device.leases =
      ((start wire identity backoff groups).after w earlier).device.leases := hleases
  rw [← hdevice]
  exact lookedUp_of_rule hlookup hst hmade hrule hnormal

/-- **Leases across collectors.** After any visits, each in a world of any state, the leases of a
device are the rows that the last dhcp fetch which succeeded has got, switched-off ones among them;
a load of another group and a load that ends with an error leave them as they are. A group that
looks its rows up holds one record for each row that it keeps of those it has got last, in their
order. The record tells the first lease of the row's hardware address in the table that there was
when the row was got, or that there was none, whatever the row itself had under the names of these
fields, unless a field name of the row ends in a separator. -/
theorem leases_told (w : World σ) (wire : Nat) (identity : Identity) (backoff : Backoff)
    {groups : List (Group × Duration)} (known : ∀ p ∈ groups, p.1 ∈ Catalog.groups)
    (visits : List (Visit σ)) :
    let x := start wire identity backoff groups
    let y := x.after w visits
    y.device.leases =
        ((yields w (leaseRows w) x visits).getLast?.getD []).map Record.normalizeKeys ∧
      (∀ place now found c, y.collectors[place]? = some c →
        (c.name ≠ "dhcp" ∨
          ∃ e, (Collector.loadStages w now c.stages (some y.device) found).1 = .error e) →
        (y.visit w (.load place now found)).device.leases = y.device.leases) ∧
      ∀ place p, groups[place]? = some p → p.1 ∈ Catalog.lookups →
        ∃ c live, y.collectors[place]? = some c ∧ c.stages = [live] ∧ p.1.stages = [live.stage] ∧
          Collector.Made identity.labels p.2 live ∧ HoldsRows w x visits place p.1 live := by
  intro x y
  have listed : x.Listed := start_listed wire identity backoff known
  refine ⟨?_, fun place now found c hc hspared => ?_, fun place p hp hlookup =>
    holdsRows w wire identity backoff visits hp hlookup⟩
  · rw [after_leases listed]
    cases (yields w (leaseRows w) x visits).getLast? with
    | none => rfl
    | some rows => rfl
  · have hlisted := listed.after w visits
    rw [visit_leases hlisted, leaseRows_eq_none hlisted hc hspared]
    rfl

/-! ## An office -/

/-- The leases of an office are polled slowly, and its hardware addresses fast. -/
def officeGroups : List (Group × Duration) :=
  [(Catalog.dhcp, .ofSeconds 60), (Catalog.arp, .ofSeconds 10)]

/-- Two leases of one hardware address. The comment of the first is no text, and the second is
switched off. -/
def officeLeases : List Record :=
  [Dict.ofList [("mac-address", .text "AA:BB"), ("host-name", .text "laptop"), ("comment", .int 5),
     ("address", .text "10.0.0.50"), ("dynamic", .text "true")],
   Dict.ofList [("mac-address", .text "AA:BB"), ("host-name", .text "printer"),
     ("disabled", .text "true")]]

/-- A row with that address, which has a field of its own that comes to the name of one it gets, and
a row with another. -/
def officeRows : List Record :=
  [Dict.ofList [("mac-address", .text "AA:BB"), ("dhcp-name", .text "phone")],
   Dict.ofList [("mac-address", .text "CC:DD")]]

/-- Leases and rows are got, and then the next leases are not. -/
def officeVisits : List (Visit (List (Except TransportError (List Record)))) :=
  [.use .connect [], .load 0 0 [.ok officeLeases],
   .load 1 (Moment.after 0 (.ofSeconds 10)) [.ok officeRows],
   .load 0 (Moment.after 0 (.ofSeconds 60)) [.error .timeout]]

/-- The office after that. -/
def office : Installation :=
  (start 0 ⟨"office", "10.0.0.1"⟩ (.of (.ofSeconds 3) 10 (.ofSeconds 60)) officeGroups).after
    Collector.dictated officeVisits

/-- What the records of a collector tell of leases. -/
def toldLeases (c : Collector) : List (List String) :=
  c.stages.flatMap fun live => live.store.snapshot.records.map fun r =>
    Catalog.leaseFields.map r.textD

/-- The table is still that of the first answer, and the rows tell its first lease or none. -/
theorem leases_told_office : (∀ p ∈ officeGroups, p.1 ∈ Catalog.groups) ∧
    office.device.connection.connected = false ∧
    office.device.leases = officeLeases.map Record.normalizeKeys ∧
    office.collectors.map toldLeases =
      [[["", "", "", ""]],
        [["laptop", "", "10.0.0.50", "dynamic"], ["", "", "No DHCP Record", ""]]] ∧
    ∃ c live, office.collectors[1]? = some c ∧ c.stages = [live] ∧ List.Forall₂
      (LookedUp Catalog.arp live (officeLeases.map Record.normalizeKeys)) officeRows
      live.store.snapshot.records := by
  have known : ∀ p ∈ officeGroups, p.1 ∈ Catalog.groups := by
    refine List.forall_mem_cons.mpr ⟨Catalog.dhcp_mem, List.forall_mem_singleton.mpr ?_⟩
    exact List.mem_of_getElem? (show Catalog.groups[12]? = some Catalog.arp from rfl)
  obtain ⟨htable, -, hrecords⟩ := leases_told Collector.dictated 0 ⟨"office", "10.0.0.1"⟩
    (.of (.ofSeconds 3) 10 (.ofSeconds 60)) known officeVisits
  obtain ⟨c, live, hc, hlive, -, -, hholds⟩ :=
    hrecords 1 _ rfl (List.mem_cons_self : Catalog.arp ∈ Catalog.lookups)
  refine ⟨known, by decide +kernel, htable, by decide +kernel, c, live, hc, hlive, ?_⟩
  have hstamped : ∀ c ∈ office.collectors, ∀ live ∈ c.stages,
      live.store.snapshot.stamp.isSome = true := by decide +kernel
  have hsome := hstamped c (List.mem_of_getElem? hc) live (by rw [hlive]; exact List.mem_cons_self)
  cases hholds with
  | nothing _ hempty =>
    rw [hempty] at hsome
    cases hsome
  | got before now rows hlast _ hrows =>
    obtain ⟨found, later, d, hvisits, hfetches, -⟩ := hlast
    -- the rows were got by the third visit
    rcases before with _ | ⟨_, _ | ⟨_, _ | ⟨_, _ | ⟨_, before⟩⟩⟩⟩
    · cases hvisits
    · cases hvisits
    · cases hvisits
      cases hfetches
      exact hrows
    · cases hvisits
    · simp [officeVisits] at hvisits

end Installation

end RouterMetrics

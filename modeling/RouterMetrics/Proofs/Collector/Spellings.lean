import RouterMetrics.Proofs.Collector.Respelling

/-!
# Spellings of device answers

A device may answer a flag or a whole number as such or as the text that writes it, in every field
of every row, and at each call otherwise. Worlds that differ in nothing else show the same series
with the same samples and labels, in whatever order a device is used and its collectors are loaded
(`Installation.spellings`). This leaves out the fields that a rule asks for a text
(`Catalog.asks`): a flag or a number there counts as no text at all, so that an interface that
answers its flag as such does not count as running (`Installation.flag_is_not_running`).
-/

namespace RouterMetrics

variable {σ : Type}

/-! ## Fetches -/

/-- Two fetches ask the same, and end with related rows when what they are answered differs only
in spellings. -/
inductive Fetch.Follows (Q : List Record → List Record → Prop) : Fetch → Fetch → Prop
  | done {rows rows' : List Record} : Q rows rows' → Follows Q (.done rows) (.done rows')
  | call {c : Call} {next next' : List Record → Fetch} :
      (∀ rows rows', List.Forall₂ (Record.Respelled (Catalog.asks c)) rows rows' →
        Follows Q (next rows) (next' rows')) → Follows Q (.call c next) (.call c next')

theorem listItems_follows (path : String) (query : List (String × String)) :
    Fetch.Follows (List.Forall₂ (Record.Respelled (Catalog.asks ⟨path, .list, textParams query⟩)))
      (listItems path query) (listItems path query) :=
  .call fun _ _ h => .done h

namespace MonitorPath

variable {kept : String → Json → Bool} {m : MonitorPath} {item item' row row' : Record}

theorem itemId_eq (h : Record.Spelt kept item item')
    (ids : ∀ v, kept ".id" v = true ∧ kept "id" v = true) : itemId item' = itemId item := by
  rw [itemId, itemId, h.get?_eq fun v => (ids v).1, h.get?_eq fun v => (ids v).2]

/-- An item that is not said to be idle is not so, however that is spelled. -/
theorem isIdle_eq (h : Record.Spelt Catalog.asksIdle item item') : isIdle item' = isIdle item := by
  have hrunning := h.flag_eq (k := "running") "true" fun v => by
    simp [Catalog.asksIdle, Catalog.asksItem]
  have hdisabled := h.flag_eq (k := "disabled") "false" fun v => by
    simp [Catalog.asksIdle, Catalog.asksItem]
  rw [isIdle, isIdle, bne, bne, hrunning, hdisabled]

theorem head_alike (h : item.Alike (fun _ => True) item') (id : itemId item' = itemId item) :
    (m.head item).Alike (fun _ => True) (m.head item') := by
  have hstart : Record.Alike (fun _ => True)
      (if m.itemFields then item.erase ".id" else Dict.empty)
      (if m.itemFields then item'.erase ".id" else Dict.empty) := by
    split
    · exact Record.Agree.filterKeys h _
    · exact Record.Agree.refl (fun _ => Json.Same.refl) _
  unfold head
  rw [id]
  exact Record.Agree.insert (Record.Agree.insert (Record.Agree.insert hstart
    fun _ => Json.Same.refl _) fun _ => h.getD trivial _) fun _ => h.getD trivial _

theorem merge_alike (h : item.Alike (fun _ => True) item') (id : itemId item' = itemId item)
    (hrow : row.Alike (fun _ => True) row') :
    (m.merge item row).Alike (fun _ => True) (m.merge item' row') :=
  Record.Agree.foldl_insert (Record.Agree.filterKeys hrow _) (head_alike h id)

/-- What is asked for in the items of a path that is measured. -/
def asked (m : MonitorPath) : String → Json → Bool :=
  if m.idleLinkDown then Catalog.asksIdle else Catalog.asksItem

theorem asked_ids (m : MonitorPath) (v : Json) :
    m.asked ".id" v = true ∧ m.asked "id" v = true := by
  rw [asked]
  split
  · exact ⟨rfl, rfl⟩
  · exact ⟨rfl, rfl⟩

/-- **What is measured follows the items**, of which identifiers and idleness keep their
spelling. -/
theorem fetch_follows (hasked : Catalog.asks m.listCall = m.asked) :
    Fetch.Follows (List.Forall₂ (Record.Alike fun _ => True)) m.fetch m.fetch := by
  refine .call fun items items' hitems => ?_
  rw [hasked] at hitems
  have hids : ∀ ⦃item item'⦄, Record.Respelled m.asked item item' → itemId item' = itemId item :=
    fun _ _ h => itemId_eq h.spelt m.asked_ids
  have hpart : ∀ ⦃item item'⦄, Record.Respelled m.asked item item' →
      (m.idleLinkDown && isIdle item') = (m.idleLinkDown && isIdle item) := by
    intro item item' h
    rw [asked] at h
    cases hdown : m.idleLinkDown with
    | false => rfl
    | true =>
      rw [hdown, if_pos rfl] at h
      rw [isIdle_eq h.spelt]
  have hidle : List.Forall₂ (Record.Alike fun _ => True) ((m.idleItems items).map m.idleRecord)
      ((m.idleItems items').map m.idleRecord) := by
    refine List.rel_map (fun item item' h => ?_) (List.rel_filter (fun item item' h => ?_) hitems)
    · exact Record.Agree.insert (head_alike (h.spelt.alike _) (hids h)) fun _ => Json.Same.refl _
    · exact Bool.eq_iff_iff.mp (hpart h).symm
  have hmeasured : List.Forall₂ (Record.Respelled m.asked) (m.measuredItems items)
      (m.measuredItems items') := by
    refine List.rel_filter (fun item item' h => ?_) hitems
    exact Bool.eq_iff_iff.mp (congrArg not (hpart h).symm)
  dsimp only
  generalize m.measuredItems items = measured, m.measuredItems items' = measured' at hmeasured
  -- the items are named by their identifiers, so the second call is the same
  have hcall : m.monitorCall measured' = m.monitorCall measured := by
    rw [monitorCall, monitorCall, map_of_forall₂ hmeasured fun _ _ h => (hids h).symm]
  cases hmeasured with
  | nil => exact .done hidle
  | @cons item item' rest rest' hfirst hrest =>
    show Fetch.Follows _ (.call (m.monitorCall (item :: rest)) _)
      (.call (m.monitorCall (item' :: rest')) _)
    rw [hcall]
    refine .call fun rows rows' hrows => .done (List.rel_append hidle ?_)
    exact zipWith_of_forall₂ (.cons hfirst hrest) hrows fun _ _ _ _ h hrow =>
      merge_alike (h.spelt.alike _) (hids h) (hrow.spelt.alike _)

end MonitorPath

/-! ## Stages -/

/-- A stage asks the same and stores the same, up to spellings, when what it is answered differs
only in spellings that nothing is asked for; and so it does with the leases that it publishes. -/
structure Stage.Handles (st : Stage) (Q : List Record → List Record → Prop) : Prop where
  source : Fetch.Follows Q st.source st.source
  stored : ∀ ⦃d d' rows rows'⦄, Device.Alike d d' → Q rows rows' →
    List.Forall₂ Record.SameRow (st.process (some d) rows) (st.process (some d') rows')
  leased : st.publishesLeases = true → ∀ ⦃d d' rows rows'⦄, Device.Alike d d' → Q rows rows' →
    List.Forall₂ SameLease ((st.process (some d) rows).map Record.normalizeKeys)
      ((st.process (some d') rows').map Record.normalizeKeys)

/-- Spellings that nothing is asked for make no difference to a stage. -/
def Stage.Steady (st : Stage) : Prop := ∃ Q, st.Handles Q

namespace Stage

variable {st : Stage} {path : String} {query : List (String × String)}

/-- A stage that lists a path and keeps its rows as its rule has them. -/
theorem steady_of_rule (source : st.source = listItems path query)
    (rule : RowRule.Steady (Catalog.asks ⟨path, .list, textParams query⟩) st.rowRule)
    (batch : st.batchRule = id) (quiet : st.publishesLeases = false) : st.Steady := by
  refine ⟨_, source ▸ listItems_follows path query, fun d d' rows rows' hd hrows => ?_, ?_⟩
  · rw [process, process, batch]
    exact List.rel_filterMap (fun _ _ hr => rule hd hr) hrows
  · rw [quiet]
    exact nofun

/-- A stage that measures what it lists. -/
theorem steady_of_monitor {m : MonitorPath} (source : st.source = m.fetch)
    (hasked : Catalog.asks m.listCall = m.asked) (rule : st.rowRule = fun _ r => .ok (some r))
    (batch : st.batchRule = id) (quiet : st.publishesLeases = false) : st.Steady := by
  refine ⟨_, source ▸ MonitorPath.fetch_follows hasked, fun d d' rows rows' _ hrows => ?_, ?_⟩
  · have hall : ∀ (d : Option Device) (rows : List Record), st.process d rows = rows := by
      intro d rows
      rw [process, batch, keptRows, rule]
      exact List.filterMap_some
    rw [hall, hall]
    exact hrows.imp fun r r' hr => Record.Agree.imp hr (fun _ _ => trivial) fun _ _ _ _ => id
  · rw [quiet]
    exact nofun

end Stage

/-! ## Groups -/

/-- Spellings that nothing is asked for make no difference to a group. -/
structure Group.Steady (g : Group) : Prop where
  stages : ∀ st ∈ g.stages, st.Steady

/-- What the series of a stage read: names that are no spellings. -/
def Stage.ReadsNames (st : Stage) : Prop :=
  ∀ d ∈ st.series, (∀ n ∈ d.labelFields.getD st.labels, Json.isName n) ∧
    ∀ field ∈ d.valueField, Json.isName field

instance (st : Stage) : Decidable st.ReadsNames :=
  inferInstanceAs (Decidable (∀ d ∈ st.series,
    (∀ n ∈ d.labelFields.getD st.labels, Json.isName n = true) ∧
      ∀ field ∈ d.valueField, Json.isName field = true))

namespace Catalog

variable {name path : String} {query : List (String × String)} {st : Stage}
  {asked : String → Json → Bool}

theorem single_steady (h : st.Steady) : (single name st).Steady :=
  ⟨List.forall_mem_singleton.mpr h⟩

/-- A group that lists a path and keeps its rows as its rule has them. -/
theorem ruled_steady (source : st.source = listItems path query)
    (rule : RowRule.Steady asked st.rowRule)
    (hasked : asks ⟨path, .list, textParams query⟩ = asked) (batch : st.batchRule = id)
    (quiet : st.publishesLeases = false) : (single name st).Steady :=
  single_steady (Stage.steady_of_rule source (hasked ▸ rule) batch quiet)

/-- A group that keeps the rows of a path as they are. -/
theorem listed_steady (source : st.source = listItems path query)
    (rule : st.rowRule = fun _ r => .ok (some r)) (batch : st.batchRule = id)
    (quiet : st.publishesLeases = false) : (single name st).Steady :=
  ruled_steady source (rule ▸ steady_all) rfl batch quiet

/-- A lease keeps what it is asked for. -/
theorem dhcp_steady : dhcp.Steady := by
  refine single_steady ⟨_, listItems_follows _ _, fun d d' rows rows' _ hrows => ?_,
    fun _ d d' rows rows' _ hrows => ?_⟩
  · show List.Forall₂ _ (rows.filterMap some) (rows'.filterMap some)
    rw [List.filterMap_some, List.filterMap_some]
    exact hrows.imp fun _ _ hr => hr.sameRow
  · show List.Forall₂ _ ((rows.filterMap some).map _) ((rows'.filterMap some).map _)
    rw [List.filterMap_some, List.filterMap_some]
    exact List.rel_map (fun _ _ hr => sameLease_normalizeKeys hr) hrows

/-- Sessions keep what they are asked for, so they are put together to the same records. -/
theorem user_steady : user.Steady := by
  refine single_steady ⟨_, listItems_follows _ _, fun d d' rows rows' _ hrows => ?_, nofun⟩
  show List.Forall₂ _ (collapseSessions (rows.filterMap some))
    (collapseSessions (rows'.filterMap some))
  rw [List.filterMap_some, List.filterMap_some, collapseSessions_congr hrows]
  exact List.forall₂_same.mpr fun r _ => Record.Agree.refl (fun _ => Json.Same.refl) r

theorem tables_steady {base suffix : String} :
    Group.Steady ⟨name, firewallTables.map fun t => firewallTable base t suffix⟩ := by
  refine ⟨fun st hst => ?_⟩
  obtain ⟨table, -, rfl⟩ := List.mem_map.mp hst
  exact Stage.steady_of_rule rfl steady_all rfl rfl

theorem wifi_steady : wifi.Steady :=
  ⟨List.forall_mem_cons.mpr ⟨Stage.steady_of_rule rfl steady_all rfl rfl,
    List.forall_mem_singleton.mpr (Stage.steady_of_monitor rfl rfl rfl rfl rfl)⟩⟩

/-- No series of the catalog reads a field that is named like a truth value or a number. -/
theorem groups_readNames : ∀ g ∈ groups, ∀ st ∈ g.stages, st.ReadsNames := by
  decide +kernel

/-- **Spellings that nothing is asked for make no difference to any group.** Four kinds of groups
have more to them than the rule for their rows: those that measure, the leases, the firewalls and
the sessions. -/
theorem groups_steady : ∀ g ∈ groups, g.Steady := by
  have hplain : ∀ {name path labels series translations}, (single name
      { Stage.plain (listItems path []) labels series with translations := translations }).Steady :=
    listed_steady rfl rfl rfl rfl
  simp only [groups, List.forall_mem_cons]
  exact ⟨ruled_steady rfl steady_isRunning rfl rfl rfl,
    single_steady (Stage.steady_of_monitor rfl rfl rfl rfl rfl), dhcp_steady,
    ruled_steady rfl steady_splitVersion rfl rfl rfl,
    ruled_steady rfl steady_foldReading rfl rfl rfl, hplain, hplain, hplain, hplain,
    tables_steady, tables_steady, ruled_steady rfl steady_withLease rfl rfl rfl,
    ruled_steady rfl steady_withLeaseKind rfl rfl rfl,
    ruled_steady rfl steady_withLease rfl rfl rfl, ruled_steady rfl steady_dropLossy rfl rfl rfl,
    hplain, hplain, wifi_steady, ruled_steady rfl steady_splitClientBytes rfl rfl rfl, hplain,
    ruled_steady rfl steady_splitUpDown rfl rfl rfl, hplain, hplain,
    single_steady (Stage.steady_of_monitor rfl rfl rfl rfl rfl), user_steady, hplain, hplain,
    ruled_steady rfl steady_hasUser rfl rfl rfl, List.forall_mem_nil _⟩

end Catalog

/-! ## Worlds -/

/-- Two answers to a call that are one failure, or whose rows differ only in spellings that nothing
is asked for; the world is the same after both. -/
inductive Answers (asked : String → Json → Bool) :
    Except TransportError (List Record) × σ → Except TransportError (List Record) × σ → Prop
  | failed (e : TransportError) (s : σ) : Answers asked (.error e, s) (.error e, s)
  | got {rows rows' : List Record} (h : List.Forall₂ (Record.Respelled asked) rows rows') (s : σ) :
      Answers asked (.ok rows, s) (.ok rows', s)

/-- Two worlds that differ only in how devices spell what they answer. Fields that are asked for
keep their value. -/
structure World.Respelled (asked : Call → String → Json → Bool) (w w' : World σ) : Prop where
  others : w' = { w with call := w'.call }
  answers : ∀ wire c s, Answers (asked c) (w.call wire c s) (w'.call wire c s)

namespace World.Respelled

variable {asked : Call → String → Json → Bool} {w w' : World σ}

theorem clock_eq (h : World.Respelled asked w w') : w'.clock = w.clock := by
  rw [h.others]

theorem handshake_eq (h : World.Respelled asked w w') : w'.handshake = w.handshake := by
  rw [h.others]

end World.Respelled

/-! ## Devices -/

namespace Device

variable {w w' : World σ} {d d' : Device}

theorem Alike.refl (d : Device) (none : d.leases = []) : d.Alike d :=
  ⟨rfl, by rw [none]; exact .nil⟩

theorem Alike.connection (h : d.Alike d') (c : Connection) :
    Alike { d with connection := c } { d' with connection := c } :=
  ⟨by rw [h.settings], h.leases⟩

theorem Alike.setLeases (h : d.Alike d') {rows rows' : List Record}
    (hrows : List.Forall₂ SameLease (rows.map Record.normalizeKeys)
      (rows'.map Record.normalizeKeys)) : (d.setLeases rows).Alike (d'.setLeases rows') :=
  ⟨by rw [h.settings]; rfl, hrows⟩

/-- Two ends of a request or a fetch: one error, or related rows, and devices that differ only in
the spelling of their leases. -/
inductive Ends {ε : Type} (Q : List Record → List Record → Prop) :
    Except ε (List Record) × Device × σ → Except ε (List Record) × Device × σ → Prop
  | failed {d d' : Device} (hd : d.Alike d') (e : ε) (s : σ) :
      Ends Q (.error e, d, s) (.error e, d', s)
  | got {d d' : Device} {rows rows' : List Record} (hd : d.Alike d') (hrows : Q rows rows')
      (s : σ) : Ends Q (.ok rows, d, s) (.ok rows', d', s)

theorem Alike.exists_leases (h : d.Alike d') : ∃ leases, d' = { d with leases := leases } :=
  ⟨_, h.settings⟩

/-- **A request is answered alike**, and the connection is the same after it. -/
theorem call_ends (hw : World.Respelled Catalog.asks w w') (hd : d.Alike d') (c : Call) (s : σ) :
    Ends (List.Forall₂ (Record.Respelled (Catalog.asks c))) (d.call w c s) (d'.call w' c s) := by
  obtain ⟨leases, rfl⟩ := hd.exists_leases
  have hanswer := hw.answers d.wire c s
  rw [call, call, hw.clock_eq]
  generalize w.call d.wire c s = answer, w'.call d.wire c s = answer' at hanswer ⊢
  cases hup : d.connection.connected with
  | false => exact .failed hd _ s
  | true =>
    cases hanswer with
    | failed e s =>
      simp only [Connection.callAt, hup, if_true]
      exact .failed (hd.connection _) _ s
    | got h s =>
      simp only [Connection.callAt, hup, if_true]
      exact .got (hd.connection _) h s

/-- A use of the device leaves its leases, and the connection is the same after it. -/
theorem use_alike (hw : World.Respelled Catalog.asks w w') (hd : d.Alike d') (u : Use) (s : σ) :
    (d.use w u s).1.Alike (d'.use w' u s).1 := by
  cases u with
  | call c =>
    have hends := call_ends hw hd c s
    show (d.call w c s).2.1.Alike (d'.call w' c s).2.1
    generalize d.call w c s = answer, d'.call w' c s = answer' at hends
    cases hends with
    | failed hd => exact hd
    | got hd => exact hd
  | connect =>
    obtain ⟨leases, rfl⟩ := hd.exists_leases
    simp only [use, connect, hw.clock_eq, hw.handshake_eq]
    cases d.connection.refuse? d.backoff (w.clock s) with
    | some answer => exact hd
    | none => exact hd.connection _
  | check =>
    obtain ⟨leases, rfl⟩ := hd.exists_leases
    simp only [use, check, hw.clock_eq, hw.handshake_eq]
    split
    · exact hd.connection _
    · exact hd

end Device

/-- **A fetch ends alike.** -/
theorem Fetch.Follows.run {w w' : World σ} {Q : List Record → List Record → Prop} {f f' : Fetch}
    (h : f.Follows Q f') (hw : World.Respelled Catalog.asks w w') {d d' : Device} (hd : d.Alike d')
    (s : σ) : ∃ x x', Device.Ends Q x x' ∧ f.run w (some d) s = (x.1, some x.2.1, x.2.2) ∧
      f'.run w' (some d') s = (x'.1, some x'.2.1, x'.2.2) := by
  induction h generalizing d d' s with
  | done hrows => exact ⟨_, _, .got hd hrows s, rfl, rfl⟩
  | @call c next next' _ ih =>
    have hcall := Device.call_ends hw hd c s
    rw [Fetch.run, Fetch.run]
    generalize d.call w c s = answer, d'.call w' c s = answer' at hcall
    cases hcall with
    | failed hd e s => exact ⟨_, _, .failed hd _ s, rfl, rfl⟩
    | got hd hrows s => exact ih _ _ hrows hd s

/-! ## Loads -/

/-- Two stages with stores that differ only in spellings. -/
structure LiveStage.Alike (live live' : LiveStage) : Prop where
  stage : live'.stage = live.stage
  steady : live.stage.Steady
  reads : ∀ d ∈ live.store.series, Store.ReadsOnly (Json.isName ·) (live.store.labelNames d) d
  store : Store.Alike (Json.isName ·) live.store live'.store

theorem LiveStage.Alike.set {live live' : LiveStage} (h : live.Alike live')
    {rows rows' : List Record} (hrows : List.Forall₂ Record.SameRow rows rows') (now : Moment) :
    LiveStage.Alike { live with store := live.store.set rows now }
      { live' with store := live'.store.set rows' now } where
  stage := h.stage
  steady := h.steady
  reads := h.reads
  store := h.store.set (by decide) hrows now

namespace Collector

variable {w w' : World σ}

/-- **A load leaves stages that differ only in spellings.** -/
theorem loadStages_alike (hw : World.Respelled Catalog.asks w w') (now : Moment)
    {stages stages' : List LiveStage} (h : List.Forall₂ LiveStage.Alike stages stages')
    {d d' : Device} (hd : d.Alike d') (s : σ) :
    List.Forall₂ LiveStage.Alike (loadStages w now stages (some d) s).2.kept
        (loadStages w' now stages' (some d') s).2.kept ∧
      ∃ e e', (loadStages w now stages (some d) s).2.device = some e ∧
        (loadStages w' now stages' (some d') s).2.device = some e' ∧ Device.Alike e e' := by
  -- on the stages, for all pairs of devices: a stage that publishes leases changes both devices
  induction h generalizing d d' s with
  | nil => exact ⟨.nil, d, d', rfl, rfl, hd⟩
  | @cons live live' rest rest' hfirst hrest ih =>
    obtain ⟨Q, hhandles⟩ := hfirst.steady
    obtain ⟨x, x', hends, hrun, hrun'⟩ := hhandles.source.run hw hd s
    rw [← hfirst.stage] at hrun'
    cases hends with
    | failed hd e s =>
      rw [loadStages, loadStages, hrun, hrun']
      exact ⟨.cons hfirst hrest, _, _, rfl, rfl, hd⟩
    | @got d d' rows rows' hd hrows s =>
      rw [loadStages_of_ok hrun, loadStages_of_ok hrun']
      have hstored : List.Forall₂ Record.SameRow (live.stage.process (some d) rows)
          (live'.stage.process (some d') rows') := by
        rw [hfirst.stage]
        exact hhandles.stored hd hrows
      obtain ⟨e, e', he, he', halike⟩ : ∃ e e',
          live.stage.publish (some d) (live.stage.process (some d) rows) = some e ∧
          live'.stage.publish (some d') (live'.stage.process (some d') rows') = some e' ∧
          Device.Alike e e' := by
        rw [hfirst.stage, Stage.publish, Stage.publish]
        cases hpublishes : live.stage.publishesLeases with
        | false => exact ⟨d, d', rfl, rfl, hd⟩
        | true => exact ⟨_, _, rfl, rfl, hd.setLeases (hhandles.leased hpublishes hd hrows)⟩
      obtain ⟨hkept, hdevice⟩ := ih halike s
      dsimp only
      rw [he, he']
      exact ⟨.cons (hfirst.set hstored now) hkept, hdevice⟩

/-- **Collectors whose stores differ only in spellings show the same.** -/
theorem collect?_alike {c c' : Collector} (h : List.Forall₂ LiveStage.Alike c.stages c'.stages)
    (t : Moment) : c'.collect? t = c.collect? t := by
  have hstages : c'.stages.map (fun live => live.store.collect? t) =
      c.stages.map fun live => live.store.collect? t :=
    (map_of_forall₂ h fun live live' hlive => hlive.store.collect?_eq hlive.reads t).symm
  have hmapM : ∀ stages : List LiveStage, stages.mapM (fun live => live.store.collect? t) =
      (stages.map fun live => live.store.collect? t).mapM id := fun stages => by
    rw [List.mapM_map]
    rfl
  rw [collect?, collect?, hmapM, hstages, ← hmapM]

end Collector

/-! ## Installations -/

namespace Installation

variable {w w' : World σ} {x x' : Installation}

/-- Two installations differ only in the spelling of what their devices have answered. -/
structure Alike (x x' : Installation) : Prop where
  device : x.device.Alike x'.device
  collectors : List.Forall₂ (fun c c' => List.Forall₂ LiveStage.Alike c.stages c'.stages)
    x.collectors x'.collectors

theorem start_alike (wire : Nat) (identity : Identity) (backoff : Backoff)
    {groups : List (Group × Duration)} (known : ∀ p ∈ groups, p.1 ∈ Catalog.groups) :
    Alike (start wire identity backoff groups) (start wire identity backoff groups) where
  device := Device.Alike.refl _ rfl
  collectors := by
    refine List.forall₂_same.mpr fun c hc => List.forall₂_same.mpr fun live hlive => ?_
    obtain ⟨p, hp, rfl⟩ := List.mem_map.mp hc
    obtain ⟨st, hst, rfl⟩ := List.mem_map.mp hlive
    refine ⟨rfl, (Catalog.groups_steady p.1 (known p hp)).stages st hst, fun d hd => ?_,
      Store.Alike.refl _⟩
    obtain ⟨hlabels, hvalue⟩ := Catalog.groups_readNames p.1 (known p hp) st hst d hd
    refine ⟨List.forall_mem_append.mpr ⟨hlabels, ?_⟩, hvalue⟩
    show ∀ n ∈ ["device_name", "device_address"], Json.isName n = true
    decide

/-- **What is done at two such installations leaves two such installations.** -/
theorem Alike.visit (h : x.Alike x') (hw : World.Respelled Catalog.asks w w') (v : Visit σ) :
    (x.visit w v).Alike (x'.visit w' v) := by
  cases v with
  | use u found => exact ⟨Device.use_alike hw h.device u found, h.collectors⟩
  | load place now found =>
    have hplace := getElem?_of_forall₂ h.collectors place
    simp only [Installation.visit]
    generalize x.collectors[place]? = found', x'.collectors[place]? = found'' at hplace ⊢
    cases hplace with
    | none => exact h
    | some hc =>
      obtain ⟨hkept, e, e', he, he', halike⟩ :=
        Collector.loadStages_alike hw now hc h.device found
      refine ⟨?_, set_of_forall₂ h.collectors hkept place⟩
      simp only [he, he', Option.getD_some]
      exact halike

theorem Alike.after (h : x.Alike x') (hw : World.Respelled Catalog.asks w w')
    (visits : List (Visit σ)) : (x.after w visits).Alike (x'.after w' visits) := by
  induction visits generalizing x x' with
  | nil => exact h
  | cons v rest ih => exact ih (h.visit hw v)

/-- What the collector at a place shows at a moment. -/
def shown (x : Installation) (place : Nat) (t : Moment) : Option (Option (List Series)) :=
  x.collectors[place]?.map fun c => c.collect? t

/-- **Whether a flag or a whole number is answered as such or as its text makes no difference to what
is shown.** At every call any fields of any rows may be spelled the other way, for any groups of the
catalog and after any uses and loads. Only what a rule asks for its text is left out: the
identifiers of items that are measured and the flags that would have them idle, the flag of an
interface that runs, the fields of a lease and the hardware address by which one is looked up, a
loss of packets up to the limit, the user of a device, and the fields of a session. -/
theorem spellings (hw : World.Respelled Catalog.asks w w') (wire : Nat) (identity : Identity)
    (backoff : Backoff) {groups : List (Group × Duration)}
    (known : ∀ p ∈ groups, p.1 ∈ Catalog.groups) (visits : List (Visit σ)) (place : Nat)
    (t : Moment) :
    ((start wire identity backoff groups).after w' visits).shown place t =
      ((start wire identity backoff groups).after w visits).shown place t := by
  have halike := (start_alike wire identity backoff known).after hw visits
  have hplace := getElem?_of_forall₂ halike.collectors place
  rw [shown, shown]
  generalize ((start wire identity backoff groups).after w visits).collectors[place]? = found,
    ((start wire identity backoff groups).after w' visits).collectors[place]? = found' at hplace ⊢
  cases hplace with
  | none => rfl
  | some hc => exact congrArg some (Collector.collect?_alike hc t)

/-- A world in which no time passes and every call is answered with one row. -/
def bench (row : Record) : World Unit where
  clock := fun _ => 0
  sleepUntil := fun _ s => s
  handshake := fun _ s => (.ok (), s)
  call := fun _ _ s => (.ok [row], s)
  release := fun _ s => (none, s)

/-- A port with its flag, its largest packet and what it has received. -/
def port (running mtu received : Json) : Record :=
  Dict.ofList [("name", .text "ether1"), ("running", running), ("mtu", mtu),
    ("rx-byte", received)]

/-- A switch whose port is read once. -/
def switch (row : Record) : Installation :=
  (start 0 ⟨"switch", "10.0.0.1"⟩ (.of (.ofSeconds 3) 10 (.ofSeconds 60))
    [(Catalog.interface, .ofSeconds 10)]).after (bench row) [.use .connect (), .load 0 0 ()]

/-- The labels of all samples that are shown. -/
def labelsOf (shown : Option (Option (List Series))) : List (List String) :=
  (shown.join.getD []).flatMap fun x => x.samples.map (·.labels)

theorem bench_respelled {asked : Call → String → Json → Bool} {row row' : Record}
    (h : ∀ c, Record.Respelled (asked c) row row') :
    World.Respelled asked (bench row) (bench row') :=
  ⟨rfl, fun _ c s => .got (.cons (h c) .nil) s⟩

/-- The largest packet and the bytes come as numbers or as texts, and are shown alike. -/
theorem spellings_switch :
    let row := port (.text "true") (.int 1500) (.int 42)
    let row' := port (.text "true") (.text "1500") (.text "42")
    World.Respelled Catalog.asks (bench row) (bench row') ∧
      (∀ p ∈ [(Catalog.interface, Duration.ofSeconds 10)], p.1 ∈ Catalog.groups) ∧
      (switch row').shown 0 1 = (switch row).shown 0 1 ∧
      labelsOf ((switch row).shown 0 1) =
        [["", "ether1", "", "", "1500", "", "true", "switch", "10.0.0.1"]] := by
  intro row row'
  have hrows : World.Respelled Catalog.asks (bench row) (bench row') := by
    refine bench_respelled fun c => ?_
    have hmtu : Catalog.asks c "mtu" (.int 1500) = false :=
      Catalog.asks_eq_false (by decide +kernel) c
    have hreceived : Catalog.asks c "rx-byte" (.int 42) = false :=
      Catalog.asks_eq_false (by decide +kernel) c
    exact .cons ⟨rfl, .text (.int 1500), by simp [hmtu]⟩ (.cons ⟨rfl, .same _, fun _ => rfl⟩
      (.cons ⟨rfl, .same _, fun _ => rfl⟩ (.cons ⟨rfl, .text (.int 42), by simp [hreceived]⟩ .nil)))
  have hknown : ∀ p ∈ [(Catalog.interface, Duration.ofSeconds 10)], p.1 ∈ Catalog.groups :=
    List.forall_mem_singleton.mpr List.mem_cons_self
  exact ⟨hrows, hknown, spellings hrows _ _ _ hknown _ 0 1, by decide +kernel⟩

/-- A flag is not shown as its text is: a port that answers the flag does not count as running. -/
theorem flag_is_not_running :
    ¬ ∀ w w' : World Unit, World.Respelled (fun _ _ _ => false) w w' →
      ∀ wire identity backoff groups, (∀ p ∈ groups, p.1 ∈ Catalog.groups) →
        ∀ visits place t, ((start wire identity backoff groups).after w' visits).shown place t =
          ((start wire identity backoff groups).after w visits).shown place t := by
  intro h
  let row := port (.bool true) (.int 1500) (.int 42)
  let row' := port (.text "true") (.int 1500) (.int 42)
  have hrows : World.Respelled (fun _ _ _ => false) (bench row) (bench row') := by
    refine bench_respelled fun c => ?_
    exact .cons ⟨rfl, .same _, nofun⟩ (.cons ⟨rfl, .same _, nofun⟩
      (.cons ⟨rfl, .text (.bool true), nofun⟩ (.cons ⟨rfl, .same _, nofun⟩ .nil)))
  have hshown : (switch row').shown 0 1 = (switch row).shown 0 1 :=
    h _ _ hrows 0 _ _ [(Catalog.interface, .ofSeconds 10)]
      (List.forall_mem_singleton.mpr List.mem_cons_self) _ 0 1
  have hlabels : (labelsOf ((switch row').shown 0 1)).length ≠
      (labelsOf ((switch row).shown 0 1)).length := by decide +kernel
  exact hlabels (by rw [hshown])

end Installation

end RouterMetrics

import RouterMetrics.Proofs.Collector.Names
import RouterMetrics.Proofs.Operation.Requests

/-!
# Items with their measurements

The items of a path are listed, and those that are not idle are measured by one more request, which
names their identifiers (`MonitorPath.monitorCall_names`). Every item has one head, which the fields
of its answer come before, all but its name and identifier; an idle item is told like one whose
answer is that its link is down (`MonitorPath.merge_tells`). What is fetched are the idle items and
then the measured ones, each list in its order and the latter as far as there are answers
(`MonitorPath.measured_items`).
-/

namespace RouterMetrics.MonitorPath

variable {σ : Type} {m : MonitorPath} {item : Record}

/-! ## Items -/

/-- The text that identifies an item: that of `.id`, or that of `id` when there is no `.id`, and
empty when this is no text. -/
inductive Identified (item : Record) : String → Prop
  | dotted {text : String} : item.get? ".id" = some (.text text) → Identified item text
  | plain {text : String} : item.get? ".id" = none → item.get? "id" = some (.text text) →
      Identified item text
  | nameless : (∀ text, item.get? ".id" ≠ some (.text text)) →
      (item.get? ".id" = none → ∀ text, item.get? "id" ≠ some (.text text)) → Identified item ""

theorem identified_itemId (item : Record) : Identified item (itemId item) := by
  unfold itemId
  cases hdotted : item.get? ".id" with
  | some v =>
    show Identified item (((some v).bind Json.asText?).getD "")
    cases htext : (some v).bind Json.asText? with
    | some text => exact .dotted (hdotted.trans (Json.bind_asText?_eq_some_iff.mp htext))
    | none =>
      refine .nameless (fun text h => ?_) fun hnone => by simp [hdotted] at hnone
      rw [hdotted, ← Json.bind_asText?_eq_some_iff, htext] at h
      cases h
  | none =>
    show Identified item (((item.get? "id").bind Json.asText?).getD "")
    cases htext : (item.get? "id").bind Json.asText? with
    | some text => exact .plain hdotted (Json.bind_asText?_eq_some_iff.mp htext)
    | none =>
      refine .nameless (by simp [hdotted]) fun _ text h => ?_
      rw [← Json.bind_asText?_eq_some_iff, htext] at h
      cases h

/-- An item is not measured when idle ones are left out and it is not running or is disabled, by the
texts of its flags. -/
def Idle (m : MonitorPath) (item : Record) : Prop :=
  m.idleLinkDown = true ∧
    ((∃ text, item.get? "running" = some (.text text) ∧ text ≠ "true") ∨
      item.get? "disabled" = some (.text "true"))

theorem idle_iff : (m.idleLinkDown && isIdle item) = true ↔ m.Idle item := by
  have hrunning : ((item.text? "running").getD "true" != "true") = true ↔
      ∃ text, item.get? "running" = some (.text text) ∧ text ≠ "true" := by
    simp only [← Json.bind_asText?_eq_some_iff, Record.text?]
    cases (item.get? "running").bind Json.asText? <;> simp
  have hdisabled : ((item.text? "disabled").getD "false" == "true") = true ↔
      item.get? "disabled" = some (.text "true") := by
    simp only [← Json.bind_asText?_eq_some_iff, Record.text?]
    cases (item.get? "disabled").bind Json.asText? <;> simp
  rw [Bool.and_eq_true, isIdle, Bool.or_eq_true, hrunning, hdisabled, Idle]

instance (m : MonitorPath) (item : Record) : Decidable (m.Idle item) := decidable_of_iff _ idle_iff

theorem idleItems_eq (m : MonitorPath) (items : List Record) :
    m.idleItems items = items.filter fun item => m.Idle item :=
  List.filter_congr fun item _ => by
    rw [Bool.eq_iff_iff, idle_iff, decide_eq_true_iff]

theorem measuredItems_eq (m : MonitorPath) (items : List Record) :
    m.measuredItems items = items.filter fun item => ¬ m.Idle item :=
  List.filter_congr fun item _ => by
    rw [Bool.eq_iff_iff, Bool.not_eq_true', Bool.eq_false_iff, Ne, idle_iff, decide_eq_true_iff]

/-! ## Records -/

/-- What an item tells of itself: its identifier, its name and its comment, empty when it has none,
and all its other fields if they are asked for. -/
structure IsHead (m : MonitorPath) (item head : Record) : Prop where
  dotted : head.get? ".id" = none
  id : ∃ text, Identified item text ∧ head.get? "id" = some (.text text)
  name : head.get? "name" = some ((item.get? "name").getD (.text ""))
  comment : head.get? "comment" = some ((item.get? "comment").getD (.text ""))
  other : ∀ k ∉ [".id", "id", "name", "comment"],
    head.get? k = if m.itemFields then item.get? k else none

theorem isHead_head (m : MonitorPath) (item : Record) : m.IsHead item (m.head item) := by
  have hget : ∀ k, (m.head item).get? k =
      if "comment" = k then some ((item.get? "comment").getD (.text ""))
      else if "name" = k then some ((item.get? "name").getD (.text ""))
      else if "id" = k then some (.text (itemId item))
      else if m.itemFields ∧ k ≠ ".id" then item.get? k else none := by
    intro k
    simp only [head, List.foldl_cons, List.foldl_nil, Dict.get?_insert]
    cases m.itemFields with
    | false => simp
    | true => simp [Dict.erase, Dict.get?_filterKeys]
  exact {
    dotted := by simp [hget]
    id := ⟨_, identified_itemId item, by simp [hget]⟩
    name := by simp [hget]
    comment := by simp [hget]
    other := fun k hk => by
      simp only [List.mem_cons, List.not_mem_nil, or_false, not_or] at hk
      obtain ⟨hdotted, hid, hname, hcomment⟩ := hk
      simp [hget, Ne.symm hid, Ne.symm hname, Ne.symm hcomment, hdotted] }

/-- What is fetched for an item and an answer: it has the item's name and no `.id`, and under every
other name the field of the answer, or that of its head when the answer has none. -/
structure Tells (m : MonitorPath) (item answer r : Record) : Prop where
  name : r.get? "name" = some ((item.get? "name").getD (.text ""))
  dotted : r.get? ".id" = none
  other : ∃ head, m.IsHead item head ∧
    ∀ k, k ≠ "name" → k ≠ ".id" → r.get? k = (answer.get? k).or (head.get? k)

theorem merge_tells (m : MonitorPath) (item row : Record) :
    m.Tells item row (m.merge item row) := by
  have hhead := m.isHead_head item
  have hget : ∀ k, (m.merge item row).get? k =
      (if (k != "name" && k != ".id") = true then row.get? k else none).or
        ((m.head item).get? k) := by
    intro k
    rw [merge, Dict.get?_foldl_insert, Dict.get?_filterKeys]
  exact {
    name := by simp [hget, hhead.name]
    dotted := by simp [hget, hhead.dotted]
    other := ⟨_, hhead, fun k hname hdotted => by simp [hget, hname, hdotted]⟩ }

/-- The answer that stands for a link that is not measured. -/
def linkDown : Record := Dict.ofList [("status", .text "link-down")]

/-- An idle item is told like one whose answer is that its link is down. -/
theorem idleRecord_eq_merge (m : MonitorPath) (item : Record) :
    m.idleRecord item = m.merge item linkDown := rfl

/-! ## Requests -/

/-- The request that measures items names their identifiers, with commas between them. -/
theorem monitorCall_names (m : MonitorPath) (items : List Record) :
    (m.monitorCall items).path = m.path ∧ (m.monitorCall items).verb = .command "monitor" ∧
      ∃ ids, List.Forall₂ Identified items ids ∧
        (m.monitorCall items).params.get? ".id" = some (.text (",".intercalate ids)) := by
  refine ⟨rfl, rfl, items.map itemId, ?_, ?_⟩
  · induction items with
    | nil => exact .nil
    | cons item rest ih => exact .cons (identified_itemId item) ih
  · simp [monitorCall, textParams, Dict.ofList, Dict.get?_insert]

/-! ## What is fetched -/

/-- The items of a list that are told, each with its answer. -/
def answers (m : MonitorPath) (items rows : List Record) : List (Record × Record) :=
  (items.filter fun item => m.Idle item).map (fun item => (item, linkDown)) ++
    (items.filter fun item => ¬ m.Idle item).zip rows

theorem fetched_eq (m : MonitorPath) (items rows : List Record) :
    (m.idleItems items).map m.idleRecord ++ List.zipWith m.merge (m.measuredItems items) rows =
      (m.answers items rows).map fun p => m.merge p.1 p.2 := by
  rw [idleItems_eq, measuredItems_eq, answers, List.map_append, List.map_map,
    ← List.map_uncurry_zip_eq_zipWith]
  rfl

section Run

variable {w : World σ} {d : Device} {s s₁ s₂ : σ} {items rows : List Record}

/-- When all items are idle nothing more is asked. -/
theorem run_of_idle (up : d.connection.connected = true)
    (listed : w.call d.wire m.listCall s = (.ok items, s₁)) (h : m.measuredItems items = [])
    (rows : List Record) (log : List Asked) :
    m.fetch.run w.logged (some d) (s, log) =
      (.ok ((m.answers items rows).map fun p => m.merge p.1 p.2), some d,
        (s₁, log ++ [.call d.wire m.listCall (.ok items) (w.clock s₁)])) := by
  have hfetched := m.fetched_eq items rows
  rw [h, List.zipWith_nil_left, List.append_nil] at hfetched
  rw [fetch, Fetch.run_answered_logged up listed, ← hfetched, h]
  rfl

/-- Else the measurements are asked for. -/
theorem run_of_measured (up : d.connection.connected = true)
    (listed : w.call d.wire m.listCall s = (.ok items, s₁)) (h : m.measuredItems items ≠ [])
    (answered : w.call d.wire (m.monitorCall (m.measuredItems items)) s₁ = (.ok rows, s₂))
    (log : List Asked) :
    m.fetch.run w.logged (some d) (s, log) =
      (.ok ((m.answers items rows).map fun p => m.merge p.1 p.2), some d,
        (s₂, log ++ [.call d.wire m.listCall (.ok items) (w.clock s₁),
          .call d.wire (m.monitorCall (m.measuredItems items)) (.ok rows) (w.clock s₂)])) := by
  have hfetched := m.fetched_eq items rows
  obtain ⟨item, rest, hmeasured⟩ := List.exists_cons_of_ne_nil h
  rw [fetch, Fetch.run_answered_logged up listed]
  rw [hmeasured] at answered hfetched ⊢
  dsimp only
  rw [Fetch.run_answered_logged up answered, ← hfetched, List.append_assoc]
  rfl

end Run

theorem answers_told (m : MonitorPath) (items rows : List Record) :
    List.Forall₂ (fun p r => m.Tells p.1 p.2 r) (m.answers items rows)
      ((m.answers items rows).map fun p => m.merge p.1 p.2) :=
  List.forall₂_map_right_iff.mpr (List.forall₂_same.mpr fun p _ => m.merge_tells p.1 p.2)

/-- With an answer for each item that is measured, every listed item is told once. -/
theorem answers_perm (m : MonitorPath) (items rows : List Record)
    (h : m.measuredItems items ≠ [] → rows.length = (m.measuredItems items).length) :
    ((m.answers items rows).map (·.1)).Perm items := by
  have hmeasured : ((m.measuredItems items).zip rows).map (·.1) = m.measuredItems items := by
    refine List.map_fst_zip ?_
    by_cases hnone : m.measuredItems items = []
    · rw [hnone]
      exact Nat.zero_le _
    · exact (h hnone).ge
  rw [answers, ← measuredItems_eq, List.map_append, List.map_map, hmeasured, measuredItems_eq]
  simpa [Function.comp_def] using List.filter_append_perm (fun item => decide (m.Idle item)) items

/-- **Items and their measurements.** When the list and the measurements are answered, what is
fetched are first the idle items, told to be down, and then the measured ones with the answers at
their places, each list in its order. The measurements are asked for only when an item is measured,
by the identifiers of all that are, and when each of those has an answer every listed item is told
once. -/
theorem measured_items (m : MonitorPath) (w : World σ) {d : Device}
    (up : d.connection.connected = true) {s s₁ s₂ : σ} {items rows : List Record}
    (listed : w.call d.wire m.listCall s = (.ok items, s₁))
    (answered : (items.filter fun item => ¬ m.Idle item) ≠ [] →
      w.call d.wire (m.monitorCall (items.filter fun item => ¬ m.Idle item)) s₁ = (.ok rows, s₂))
    (log : List Asked) :
    let idle := items.filter fun item => m.Idle item
    let measured := items.filter fun item => ¬ m.Idle item
    let answers := idle.map (fun item => (item, linkDown)) ++ measured.zip rows
    let list := Asked.call d.wire m.listCall (.ok items) (w.clock s₁)
    ∃ fetched after asked,
      m.fetch.run w.logged (some d) (s, log) = (.ok fetched, some d, (after, log ++ asked)) ∧
      List.Forall₂ (fun p r => m.Tells p.1 p.2 r) answers fetched ∧
      (measured = [] → asked = [list]) ∧
      (measured ≠ [] → ∃ c ids, asked = [list, .call d.wire c (.ok rows) (w.clock s₂)] ∧
        c.path = m.path ∧ c.verb = .command "monitor" ∧ List.Forall₂ Identified measured ids ∧
        c.params.get? ".id" = some (.text (",".intercalate ids))) ∧
      ((measured ≠ [] → rows.length = measured.length) → (answers.map (·.1)).Perm items) := by
  have htold := m.answers_told items rows
  have hperm := m.answers_perm items rows
  rw [← measuredItems_eq] at answered ⊢
  intro idle measured answers list
  have hanswers : answers = m.answers items rows := by
    rw [MonitorPath.answers, ← measuredItems_eq]
  rw [hanswers]
  by_cases hnone : measured = []
  · exact ⟨_, _, _, run_of_idle up listed hnone rows log, htold, fun _ => rfl,
      fun hsome => absurd hnone hsome, hperm⟩
  · obtain ⟨hpath, hverb, ids, hids, hparams⟩ := m.monitorCall_names measured
    exact ⟨_, _, _, run_of_measured up listed hnone (answered hnone) log, htold,
      fun h => absurd h hnone, fun _ => ⟨_, ids, rfl, hpath, hverb, hids, hparams⟩, hperm⟩

/-- The ports of a switch, without those that are down and with all their fields. -/
def switch : MonitorPath := ⟨"interface/ethernet", none, true, true⟩

/-- A port that is up, one that is not, and one whose identifier is a number. -/
def switchPorts : List Record :=
  [Dict.ofList [(".id", .text "*1"), ("name", .text "ether1"), ("mtu", .text "1500")],
    Dict.ofList [(".id", .text "*2"), ("name", .text "ether2"), ("running", .text "false"),
      ("comment", .text "spare")],
    Dict.ofList [(".id", .int 3), ("id", .text "*9"), ("name", .text "ether3")]]

/-- What is measured of two ports. -/
def switchRows : List Record :=
  [Dict.ofList [(".id", .text "*7"), ("name", .text "other"), ("status", .text "link-ok")],
    Dict.ofList [("id", .text "*8"), ("comment", .text "seen"), ("status", .text "no-link")]]

/-- The port that is down comes first. The second request names one identifier and an empty one. -/
theorem measured_items_switch :
    Collector.gateway.connection.connected = true ∧
      ∃ fetched after asked, switch.fetch.run Collector.dictated.logged (some Collector.gateway)
          ([.ok switchPorts, .ok switchRows], []) =
            (.ok fetched, some Collector.gateway, (after, asked)) ∧
        fetched.map (fun r => ["name", "status", "id", "comment", "mtu"].map (Record.textD r)) =
          [["ether2", "link-down", "*2", "spare", ""], ["ether1", "link-ok", "*1", "", "1500"],
            ["ether3", "no-link", "*8", "seen", ""]] ∧
        (∃ list c ids t, asked = [list, .call 0 c (.ok switchRows) t] ∧
          c.verb = .command "monitor" ∧ List.Forall₂ Identified
            (switchPorts.filter fun item => ¬ switch.Idle item) ids ∧
          c.params.get? ".id" = some (.text (",".intercalate ids))) ∧
        (((switchPorts.filter fun item => switch.Idle item).map (fun item => (item, linkDown)) ++
          (switchPorts.filter fun item => ¬ switch.Idle item).zip switchRows).map (·.1)).Perm
            switchPorts := by
  have up : Collector.gateway.connection.connected = true := rfl
  have listed : Collector.dictated.call 0 switch.listCall [.ok switchPorts, .ok switchRows] =
      (.ok switchPorts, [.ok switchRows]) := rfl
  have answered (c : Call) : Collector.dictated.call 0 c [.ok switchRows] =
      (.ok switchRows, []) := rfl
  have hsome : (switchPorts.filter fun item => ¬ switch.Idle item) ≠ [] := by
    refine List.ne_nil_of_length_pos ?_
    decide
  obtain ⟨fetched, after, asked, hrun, -, -, hasked, hperm⟩ :=
    measured_items switch Collector.dictated up listed (fun _ => answered _) []
  obtain ⟨c, ids, rfl, -, hverb, hids, hparams⟩ := hasked hsome
  have hshown : (switch.fetch.run Collector.dictated.logged (some Collector.gateway)
      ([.ok switchPorts, .ok switchRows], [])).1.toOption.map (·.map fun r =>
        ["name", "status", "id", "comment", "mtu"].map (Record.textD r)) =
      some [["ether2", "link-down", "*2", "spare", ""], ["ether1", "link-ok", "*1", "", "1500"],
        ["ether3", "no-link", "*8", "seen", ""]] := by decide +kernel
  rw [hrun] at hshown
  exact ⟨up, fetched, after, _, hrun, Option.some.inj hshown,
    ⟨_, c, ids, _, rfl, hverb, hids, hparams⟩, hperm fun _ => by decide⟩

end RouterMetrics.MonitorPath

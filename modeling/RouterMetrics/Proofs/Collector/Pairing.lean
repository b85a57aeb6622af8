import Mathlib.Data.List.Perm.Subperm
import RouterMetrics.Proofs.Collector.Measurements

/-!
# Results and the items they belong to

The rows of a measurement are paired with the measured items by their places, and the names that the
rows have are left aside. So a result is told of the item that its row names when the row stands at
the place of that item and of no other (`MonitorPath.ofNamed_merge_iff`), and all results are when
the rows are in the order of the items and none is missing before another
(`MonitorPath.own_items_iff`).
-/

namespace RouterMetrics.MonitorPath

variable {σ : Type} {m : MonitorPath} {items rows : List Record} {item row : Record}

/-- What a record is called. -/
def called (r : Record) : Option Json := r.get? "name"

/-- A result belongs to the item that its row names: there is one of that name, and the result is
told of it. -/
structure OfNamed (m : MonitorPath) (items : List Record) (row r : Record) : Prop where
  listed : ∃ item ∈ items, called item = called row
  tells : ∀ item ∈ items, called item = called row → m.Tells item row r

/-- A result has the name of the item that it is told of. -/
theorem Tells.called_eq {r : Record} (h : m.Tells item row r) (named : (called item).isSome) :
    called r = called item := by
  obtain ⟨name, hname⟩ := Option.isSome_iff_exists.mp named
  have hr := h.name
  rw [show item.get? "name" = some name from hname] at hr
  exact hr.trans hname.symm

/-- **A row at the place of an item is told of the item that it names when that is this one.** -/
theorem ofNamed_merge_iff (named : ∀ item ∈ items, (called item).isSome)
    (distinct : (items.map called).Nodup) (hitem : item ∈ items) :
    m.OfNamed items row (m.merge item row) ↔ called row = called item := by
  constructor
  · intro h
    obtain ⟨own, hown, hcalled⟩ := h.listed
    have htold := (h.tells own hown hcalled).called_eq (named own hown)
    rw [← hcalled, ← htold, (m.merge_tells item row).called_eq (named item hitem)]
  · refine fun hrow => ⟨⟨item, hitem, hrow.symm⟩, fun own hown hcalled => ?_⟩
    obtain rfl : own = item :=
      List.inj_on_of_nodup_map distinct hown hitem (hcalled.trans hrow)
    exact m.merge_tells own row

/-- **All results belong to the items that their rows name when the rows are named like the first of
the measured items.** -/
theorem forall₂_ofNamed_iff (named : ∀ item ∈ items, (called item).isSome)
    (distinct : (items.map called).Nodup) {measured : List Record} (hmeasured : measured ⊆ items)
    (hlength : rows.length ≤ measured.length) :
    List.Forall₂ (m.OfNamed items) rows (List.zipWith m.merge measured rows) ↔
      rows.map called <+: measured.map called := by
  induction rows generalizing measured with
  | nil => simp
  | cons row rest ih =>
    cases measured with
    | nil => exact absurd hlength (Nat.not_succ_le_zero _)
    | cons item more =>
      obtain ⟨hitem, hmore⟩ := List.cons_subset.mp hmeasured
      rw [List.zipWith_cons_cons, List.forall₂_cons, List.map_cons, List.map_cons,
        List.cons_prefix_cons, ofNamed_merge_iff named distinct hitem,
        ih hmore (Nat.le_of_succ_le_succ hlength)]

/-- What is fetched when the list and the measurements are answered. -/
theorem run_answered {w : World σ} {d : Device} (up : d.connection.connected = true) {s s₁ s₂ : σ}
    (listed : w.call d.wire m.listCall s = (.ok items, s₁))
    (answered : m.measuredItems items ≠ [] →
      w.call d.wire (m.monitorCall (m.measuredItems items)) s₁ = (.ok rows, s₂)) :
    ∃ after, m.fetch.run w (some d) s =
      (.ok ((m.idleItems items).map m.idleRecord ++
        List.zipWith m.merge (m.measuredItems items) rows), some d, after) := by
  rw [fetch, Fetch.run_answered up listed]
  cases hmeasured : m.measuredItems items with
  | nil => exact ⟨s₁, by rw [List.zipWith_nil_left, List.append_nil]; rfl⟩
  | cons item more =>
    rw [hmeasured] at answered
    exact ⟨s₂, Fetch.run_answered up (answered (List.cons_ne_nil _ _)) _⟩

/-- **When results stay with their items.** Items of different names are listed, and the
measurements are answered by rows of which each names another one of the measured items. Then there
is a result for each row, told of the measured item at its place; and each result belongs to the
item that its row names exactly when the rows are in the order of the measured items, and those
without a row are the last. -/
theorem own_items_iff (m : MonitorPath) (w : World σ) {d : Device}
    (up : d.connection.connected = true) {s s₁ s₂ : σ}
    (listed : w.call d.wire m.listCall s = (.ok items, s₁))
    (answered : (items.filter fun item => ¬ m.Idle item) ≠ [] →
      w.call d.wire (m.monitorCall (items.filter fun item => ¬ m.Idle item)) s₁ = (.ok rows, s₂))
    (named : ∀ item ∈ items, (called item).isSome) (distinct : (items.map called).Nodup)
    (known : ∀ row ∈ rows, ∃ item ∈ items.filter fun item => ¬ m.Idle item,
      called item = called row)
    (once : (rows.map called).Nodup) :
    let measured := items.filter fun item => ¬ m.Idle item
    ∃ idle results after,
      m.fetch.run w (some d) s = (.ok (idle ++ results), some d, after) ∧
      List.Forall₂ (fun item r => m.Tells item linkDown r) (items.filter fun item => m.Idle item)
        idle ∧
      results.length = rows.length ∧
      List.Forall₂ (fun p r => m.Tells p.1 p.2 r) (measured.zip rows) results ∧
      (List.Forall₂ (m.OfNamed items) rows results ↔
        rows.map called <+: measured.map called) := by
  intro measured
  have hmeasured : measured = m.measuredItems items := (measuredItems_eq m items).symm
  have hlength : rows.length ≤ measured.length := by
    have hsubset : rows.map called ⊆ measured.map called := by
      intro name hname
      obtain ⟨row, hrow, rfl⟩ := List.mem_map.mp hname
      obtain ⟨item, hitem, hcalled⟩ := known row hrow
      exact List.mem_map.mpr ⟨item, hitem, hcalled⟩
    simpa using (once.subperm hsubset).length_le
  rw [← measuredItems_eq m items] at answered
  obtain ⟨after, hrun⟩ := run_answered up listed answered
  rw [← hmeasured, idleItems_eq] at hrun
  refine ⟨_, _, after, hrun, ?_, ?_, ?_, ?_⟩
  · refine List.forall₂_map_right_iff.mpr (List.forall₂_same.mpr fun item _ => ?_)
    exact m.merge_tells item linkDown
  · rw [List.length_zipWith, Nat.min_eq_right hlength]
  · rw [← List.map_uncurry_zip_eq_zipWith]
    exact List.forall₂_map_right_iff.mpr
      (List.forall₂_same.mpr fun p _ => m.merge_tells p.1 p.2)
  · exact forall₂_ofNamed_iff named distinct (List.filter_subset_self _) hlength

/-- A name and a status. -/
def link (name status : String) : Record :=
  Dict.ofList [("name", .text name), ("status", .text status)]

/-- The ports of the switch have names of their own. -/
theorem switchPorts_named : (∀ item ∈ switchPorts, (called item).isSome) ∧
    (switchPorts.map called).Nodup := by
  refine ⟨by decide, ?_⟩
  show [some (Json.text "ether1"), some (Json.text "ether2"), some (Json.text "ether3")].Nodup
  simp

/-- The first of the two ports that are up is measured, and its result is its own. -/
theorem own_items_iff_switch :
    let rows := [link "ether1" "link-ok"]
    (switchPorts.map called).Nodup ∧ (rows.map called).Nodup ∧
      ∃ idle results after, switch.fetch.run Collector.dictated (some Collector.gateway)
          [.ok switchPorts, .ok rows] = (.ok (idle ++ results), some Collector.gateway, after) ∧
        results.length = 1 ∧ List.Forall₂ (switch.OfNamed switchPorts) rows results := by
  intro rows
  obtain ⟨named, distinct⟩ := switchPorts_named
  have up : Collector.gateway.connection.connected = true := rfl
  have listed : Collector.dictated.call 0 switch.listCall [.ok switchPorts, .ok rows] =
      (.ok switchPorts, [.ok rows]) := rfl
  have answered (c : Call) : Collector.dictated.call 0 c [.ok rows] = (.ok rows, []) := rfl
  have known : ∀ row ∈ rows, ∃ item ∈ switchPorts.filter fun item => ¬ switch.Idle item,
      called item = called row := by
    refine List.forall_mem_singleton.mpr ⟨_, List.mem_filter.mpr ⟨List.mem_cons_self, ?_⟩, rfl⟩
    decide
  have once : (rows.map called).Nodup := List.nodup_singleton _
  obtain ⟨idle, results, after, hrun, -, hlength, -, hiff⟩ := own_items_iff switch
    Collector.dictated up listed (fun _ => answered _) named distinct known once
  have hown := hiff.mpr ⟨[some (.text "ether3")], rfl⟩
  exact ⟨distinct, once, idle, results, after, hrun, hlength, hown⟩

/-- When the rows of both ports are answered in the other order, each port is told what has been
measured of the other. -/
theorem swapped_rows :
    let rows := [link "ether3" "no-link", link "ether1" "link-ok"]
    (switchPorts.map called).Nodup ∧ (rows.map called).Nodup ∧
      (∀ row ∈ rows, ∃ item ∈ switchPorts.filter fun item => ¬ switch.Idle item,
        called item = called row) ∧
      ∃ idle results after, switch.fetch.run Collector.dictated (some Collector.gateway)
          [.ok switchPorts, .ok rows] = (.ok (idle :: results), some Collector.gateway, after) ∧
        results.map (fun r => (r.textD "name", r.textD "status")) =
          [("ether1", "no-link"), ("ether3", "link-ok")] ∧
        ¬ List.Forall₂ (switch.OfNamed switchPorts) rows results := by
  intro rows
  obtain ⟨named, distinct⟩ := switchPorts_named
  refine ⟨distinct, ?_, ?_, _, _, _, rfl, by decide, ?_⟩
  · show [some (Json.text "ether3"), some (Json.text "ether1")].Nodup
    simp
  · refine List.forall_mem_cons.mpr ⟨?_, List.forall_mem_singleton.mpr ?_⟩
    · exact ⟨_, List.mem_filter.mpr ⟨List.mem_cons_of_mem _ (List.mem_cons_of_mem _
        List.mem_cons_self), by decide⟩, rfl⟩
    · exact ⟨_, List.mem_filter.mpr ⟨List.mem_cons_self, by decide⟩, rfl⟩
  · intro h
    have hfirst := (List.forall₂_cons.mp h).1
    have hname := (ofNamed_merge_iff named distinct List.mem_cons_self).mp hfirst
    have htext := congrArg (·.bind Json.asText?) hname
    exact absurd htext (by decide)

end RouterMetrics.MonitorPath

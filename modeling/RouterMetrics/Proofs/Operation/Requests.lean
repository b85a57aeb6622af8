import RouterMetrics.Catalog
import RouterMetrics.Proofs.Collector.Snapshots

/-!
# What a load sends to its device

A world can log what is asked of it, which changes nothing else. A load of a connected device sends
the requests of its stages one after the other, each chosen by the answers before it, until one of
them fails; that failure is what becomes of the load and of the connection (`Fetch.run_up`,
`Collector.load_up`). A load that begins by asking a device whose connection is down is skipped
(`Collector.load_down`), and all groups of the catalog begin so (`Catalog.groups_asking`).
-/

namespace RouterMetrics

variable {σ : Type}

/-! ## What is asked -/

/-- A question that a world was asked, with the answer and the time when it was there. -/
inductive Asked
  | handshake (wire : Nat) (answer : Except TransportError Unit) (t : Moment)
  | call (wire : Nat) (c : Call) (answer : Except TransportError (List Record)) (t : Moment)
  | release (channel : String) (answer : Option String) (t : Moment)

/-- When it turned out that a request of a device had failed, if it had. -/
def Asked.failure? : Asked → Option Moment
  | .handshake _ (.error _) t => some t
  | .call _ _ (.error _) t => some t
  | _ => none

/-- A world that logs what it is asked, the latest last. -/
def World.logged (w : World σ) : World (σ × List Asked) where
  clock := fun s => w.clock s.1
  sleepUntil := fun t s => (w.sleepUntil t s.1, s.2)
  handshake := fun wire s =>
    let (answer, t) := w.handshake wire s.1
    (answer, t, s.2 ++ [.handshake wire answer (w.clock t)])
  call := fun wire c s =>
    let (answer, t) := w.call wire c s.1
    (answer, t, s.2 ++ [.call wire c answer (w.clock t)])
  release := fun channel s =>
    let (answer, t) := w.release channel s.1
    (answer, t, s.2 ++ [.release channel answer (w.clock t)])

/-- A log of things done one after the other until one of them fails: each has its part of the log,
and when it failed if it did. -/
inductive InOrder {α β : Type} (P : α → List β → Option Moment → Prop) :
    List α → List β → Option Moment → Prop
  | nil : InOrder P [] [] none
  | cons {a : α} {rest : List α} {first later : List β} {fell : Option Moment} :
      P a first none → InOrder P rest later fell → InOrder P (a :: rest) (first ++ later) fell
  | stop {a : α} (rest : List α) {first : List β} {t : Moment} :
      P a first (some t) → InOrder P (a :: rest) first (some t)

/-- The requests that a fetch sends: each is the one that the answers before it lead to, and nothing
follows one that fails. -/
inductive Fetch.Path (wire : Nat) : Fetch → List Asked → Option Moment → Prop
  | done (rows : List Record) : Path wire (.done rows) [] none
  | answered (c : Call) {next : List Record → Fetch} {rows : List Record} (t : Moment)
      {later : List Asked} {fell : Option Moment} : Path wire (next rows) later fell →
      Path wire (.call c next) (.call wire c (.ok rows) t :: later) fell
  | failed (c : Call) (next : List Record → Fetch) (e : TransportError) (t : Moment) :
      Path wire (.call c next) [.call wire c (.error e) t] (some t)

/-- Only the last question failed, or none of them. -/
def OnlyLast (asked : List Asked) : Option Moment → Prop
  | none => ∀ x ∈ asked, x.failure? = none
  | some t => ∃ before last, asked = before ++ [last] ∧ (∀ x ∈ before, x.failure? = none) ∧
      last.failure? = some t

theorem OnlyLast.prepend {later : List Asked} {fell : Option Moment} (first : List Asked)
    (hfirst : ∀ x ∈ first, x.failure? = none) (h : OnlyLast later fell) :
    OnlyLast (first ++ later) fell := by
  cases fell with
  | none => exact fun x hx => (List.mem_append.mp hx).elim (hfirst x) (h x)
  | some t =>
    obtain ⟨before, last, rfl, hbefore, hlast⟩ := h
    refine ⟨first ++ before, last, by rw [List.append_assoc], fun x hx => ?_, hlast⟩
    exact (List.mem_append.mp hx).elim (hfirst x) (hbefore x)

theorem Fetch.Path.onlyLast {wire : Nat} {f : Fetch} {asked : List Asked} {fell : Option Moment}
    (h : f.Path wire asked fell) : OnlyLast asked fell := by
  induction h with
  | done => exact fun x hx => absurd hx List.not_mem_nil
  | answered c t _ ih => exact ih.prepend [_] (by simp [Asked.failure?])
  | failed c next e t => exact ⟨[], _, rfl, by simp, rfl⟩

theorem InOrder.onlyLast {α : Type} {P : α → List Asked → Option Moment → Prop}
    (hP : ∀ a asked fell, P a asked fell → OnlyLast asked fell) {as : List α} {asked : List Asked}
    {fell : Option Moment} (h : InOrder P as asked fell) : OnlyLast asked fell := by
  induction h with
  | nil => exact fun x hx => absurd hx List.not_mem_nil
  | cons hfirst _ ih => exact ih.prepend _ (hP _ _ none hfirst)
  | stop _ hfirst => exact hP _ _ _ hfirst

/-! ## Fetches -/

/-- What is done for a connected device comes to something well, or to the error of a request that
has failed and broken the connection. Of the device nothing else that matters to requests is
changed. -/
inductive Comes {α : Type} (d : Device) : Option Moment → Except LoadError α → Option Device → Prop
  | well (a : α) {d' : Device} : d'.wire = d.wire → d'.connection = d.connection →
      Comes d none (.ok a) (some d')
  | badly (e : TransportError) (t : Moment) {d' : Device} : d'.wire = d.wire →
      d'.connection = d.connection.fail t → Comes d (some t) (.error (.transport e)) (some d')

theorem Comes.of_same {α : Type} {d d' : Device} {fell : Option Moment}
    {result : Except LoadError α} {x : Option Device} (hwire : d'.wire = d.wire)
    (hconnection : d'.connection = d.connection) (h : Comes d' fell result x) :
    Comes d fell result x := by
  cases h with
  | well a hw hc => exact .well a (hw.trans hwire) (hc.trans hconnection)
  | badly e t hw hc => exact .badly e t (hw.trans hwire) (by rw [hc, hconnection])

namespace Fetch

/-- A fetch that asks nothing but devices. -/
def OfDevice : Fetch → Prop
  | .done _ => True
  | .call _ next => ∀ rows, (next rows).OfDevice
  | .release _ _ => False

/-- A fetch that asks nothing but devices, and asks at least once. -/
def Asks : Fetch → Prop
  | .call _ next => ∀ rows, (next rows).OfDevice
  | _ => False

theorem Asks.ofDevice {f : Fetch} (h : f.Asks) : f.OfDevice := by
  cases f with
  | call c next => exact h
  | done => exact h.elim
  | release => exact h.elim

/-- After a request that is answered a fetch goes on with its answer. -/
theorem run_answered {w : World σ} {d : Device} (hup : d.connection.connected = true) {c : Call}
    {s s' : σ} {rows : List Record} (h : w.call d.wire c s = (.ok rows, s'))
    (next : List Record → Fetch) :
    (Fetch.call c next).run w (some d) s = (next rows).run w (some d) s' := by
  simp [run, Device.call, hup, h, Connection.callAt]

/-- The request is logged with its answer. -/
theorem run_answered_logged {w : World σ} {d : Device} (hup : d.connection.connected = true)
    {c : Call} {s s' : σ} {rows : List Record} (h : w.call d.wire c s = (.ok rows, s'))
    (next : List Record → Fetch) (log : List Asked) :
    (Fetch.call c next).run w.logged (some d) (s, log) =
      (next rows).run w.logged (some d)
        (s', log ++ [.call d.wire c (.ok rows) (w.clock s')]) :=
  run_answered hup (by simp [World.logged, h]) next

/-- **A fetch for a connected device sends its requests until one fails.** -/
theorem run_up {w : World σ} {f : Fetch} (hf : f.OfDevice) {d : Device}
    (hup : d.connection.connected = true) (s : σ) :
    ∃ asked fell, f.Path d.wire asked fell ∧
      Comes d fell (f.run w (some d) s).1 (f.run w (some d) s).2.1 ∧
      ∀ log, f.run w.logged (some d) (s, log) =
        ((f.run w (some d) s).1, (f.run w (some d) s).2.1, (f.run w (some d) s).2.2,
          log ++ asked) := by
  -- by the tree of requests: every answer chooses the branch in which the next one stands
  induction f generalizing s with
  | done rows => exact ⟨[], none, .done rows, .well rows rfl rfl, by simp [run]⟩
  | release => exact hf.elim
  | call c next ih =>
    rcases hcall : w.call d.wire c s with ⟨answer, s'⟩
    cases answer with
    | error e =>
      refine ⟨[.call d.wire c (.error e) (w.clock s')], some (w.clock s'), .failed c next e _, ?_,
        fun log => ?_⟩
      · have hcomes : Comes d (some (w.clock s')) (.error (.transport e) : Except _ (List Record))
            (some { d with connection := d.connection.fail (w.clock s') }) :=
          .badly e (w.clock s') rfl rfl
        simpa [run, Device.call, hup, hcall, Connection.callAt, LoadError.ofFetch] using hcomes
      · simp [run, Device.call, hup, World.logged, hcall, Connection.callAt]
    | ok rows =>
      obtain ⟨asked, fell, hpath, hcomes, hlogged⟩ := ih rows (hf rows) s'
      have hrun := run_answered hup hcall next
      refine ⟨.call d.wire c (.ok rows) (w.clock s') :: asked, fell, .answered c _ hpath,
        hrun ▸ hcomes, fun log => ?_⟩
      rw [run_answered_logged hup hcall, hlogged, hrun, List.append_assoc]
      rfl

/-- A fetch that has to ask a device whose connection is down is skipped, and nothing is sent. -/
theorem run_down (w : World σ) {f : Fetch} (hf : f.Asks) {d : Device}
    (hdown : d.connection.connected = false) (s : σ) :
    f.run w (some d) s = (.error .skipped, some d, s) := by
  cases f with
  | call c next => simp [run, Device.call, hdown, LoadError.ofFetch]
  | done => exact hf.elim
  | release => exact hf.elim

end Fetch

/-! ## Loads -/

namespace Collector

/-- What a load leaves behind, with a log. -/
def Loaded.withLog {α : Type} (l : Loaded α σ) (log : List Asked) : Loaded α (σ × List Asked) :=
  ⟨l.kept, l.device, (l.world, log), l.progress⟩

theorem publish_same (st : Stage) (d : Device) (records : List Record) :
    ∃ d', st.publish (some d) records = some d' ∧ d'.wire = d.wire ∧
      d'.connection = d.connection := by
  unfold Stage.publish
  split
  · exact ⟨_, rfl, rfl, rfl⟩
  · exact ⟨d, rfl, rfl, rfl⟩

theorem loadStages_up {w : World σ} {stages : List LiveStage}
    (hstages : ∀ live ∈ stages, live.stage.source.OfDevice) (now : Moment) {d : Device}
    (hup : d.connection.connected = true) (s : σ) :
    let done := loadStages w now stages (some d) s
    ∃ asked fell, InOrder (Fetch.Path d.wire) (stages.map (·.stage.source)) asked fell ∧
      Comes d fell done.1 done.2.device ∧
      ∀ log, loadStages w.logged now stages (some d) (s, log) =
        (done.1, done.2.withLog (log ++ asked)) := by
  induction stages generalizing d s with
  | nil =>
    refine ⟨[], none, .nil, .well () rfl rfl, fun log => ?_⟩
    rw [List.append_nil]
    rfl
  | cons live rest ih =>
    obtain ⟨hlive, hrest⟩ := List.forall_mem_cons.mp hstages
    obtain ⟨asked, fell, hpath, hcomes, hlogged⟩ := Fetch.run_up (w := w) hlive hup s
    rcases hrun : live.stage.source.run w (some d) s with ⟨result, x, s'⟩
    rw [hrun] at hcomes hlogged
    cases hcomes with
    | badly e t hwire hconnection =>
      refine ⟨asked, some t, .stop _ hpath, ?_, fun log => ?_⟩
      · simpa [loadStages, hrun] using Comes.badly e t hwire hconnection
      · simp [loadStages, hrun, hlogged, Loaded.withLog]
    | @well rows d₁ hwire hconnection =>
      -- the stage may have changed the leases of the device, which no request depends on
      obtain ⟨d₂, hd₂, hwire₂, hconnection₂⟩ :=
        publish_same live.stage d₁ (live.stage.process (some d₁) rows)
      have hwire' := hwire₂.trans hwire
      have hconnection' := hconnection₂.trans hconnection
      obtain ⟨asked', fell', horder, hcomes', hlogged'⟩ :=
        ih hrest (d := d₂) (by rw [hconnection']; exact hup) s'
      refine ⟨asked ++ asked', fell', .cons hpath (hwire' ▸ horder), ?_, fun log => ?_⟩
      · simpa [loadStages, hrun, hd₂, Loaded.map] using hcomes'.of_same hwire' hconnection'
      · rw [loadStages_of_ok (hlogged log) rest, loadStages_of_ok hrun rest]
        simp only [hd₂, hlogged', List.append_assoc]
        rfl

/-- **A load for a connected device sends the requests of its stages until one fails.** -/
theorem load_up {w : World σ} {c : Collector}
    (hstages : ∀ live ∈ c.stages, live.stage.source.OfDevice) {d : Device}
    (hup : d.connection.connected = true) (s : σ) :
    let done := c.load w (some d) s
    ∃ asked fell, InOrder (Fetch.Path d.wire) (c.stages.map (·.stage.source)) asked fell ∧
      Comes d fell done.1 done.2.device ∧
      ∀ log, c.load w.logged (some d) (s, log) = (done.1, done.2.withLog (log ++ asked)) := by
  obtain ⟨asked, fell, horder, hcomes, hlogged⟩ :=
    loadStages_up (w := w) hstages (w.clock s) hup s
  refine ⟨asked, fell, horder, hcomes, fun log => ?_⟩
  have hsame := hlogged log
  unfold load
  rw [show w.logged.clock (s, log) = w.clock s from rfl, hsame]
  rfl

/-- **A load that has to ask a device whose connection is down is skipped.** -/
theorem load_down (w : World σ) {c : Collector} (hsome : c.stages ≠ [])
    (hstages : ∀ live ∈ c.stages, live.stage.source.Asks) {d : Device}
    (hdown : d.connection.connected = false) (s : σ) :
    c.load w (some d) s = (.error .skipped, ⟨c, some d, s, []⟩) := by
  cases hc : c.stages with
  | nil => exact absurd hc hsome
  | cons live rest =>
    rw [hc] at hstages
    have hrun := Fetch.run_down w (hstages live List.mem_cons_self) hdown s
    cases c
    subst hc
    simp [load, loadStages, hrun, Loaded.map]

end Collector

/-! ## The catalog -/

namespace Catalog

theorem listItems_asks (path : String) (query : List (String × String)) :
    (listItems path query).Asks :=
  fun _ => trivial

theorem monitor_asks (m : MonitorPath) : m.fetch.Asks := by
  intro items
  dsimp only
  split
  · trivial
  · exact fun _ => trivial

/-- A group has stages, and each of them begins by asking its device. -/
def Asking (g : Group) : Prop := g.stages ≠ [] ∧ ∀ st ∈ g.stages, st.source.Asks

theorem single_asking {name : String} {st : Stage} (h : st.source.Asks) :
    Asking (single name st) :=
  ⟨List.cons_ne_nil _ _, by simpa [single] using h⟩

theorem wifi_asking : Asking wifi :=
  ⟨List.cons_ne_nil _ _, List.forall_mem_cons.mpr
    ⟨listItems_asks _ _, List.forall_mem_singleton.mpr (monitor_asks _)⟩⟩

theorem tables_asking (name path suffix : String) :
    Asking ⟨name, firewallTables.map fun t => firewallTable path t suffix⟩ := by
  refine ⟨List.cons_ne_nil _ _, fun st hst => ?_⟩
  obtain ⟨table, -, rfl⟩ := List.mem_map.mp hst
  exact listItems_asks _ _

/-- **Every group of the catalog has stages, and each of them begins by asking its device.** -/
theorem groups_asking : ∀ g ∈ groups, Asking g := by
  unfold groups
  repeat' refine List.forall_mem_cons.mpr ⟨?_, ?_⟩
  -- nearly all of them have one stage; the firewall and wifi have more
  all_goals first
    | exact single_asking (listItems_asks _ _)
    | exact single_asking (monitor_asks _)
    | exact tables_asking _ _ _
    | exact wifi_asking
    | exact List.forall_mem_nil _

end Catalog

end RouterMetrics

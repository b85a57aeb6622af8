import RouterMetrics.Proofs.Device.History
import RouterMetrics.Proofs.Operation.Requests
import RouterMetrics.Proofs.Operation.Written
import RouterMetrics.Proofs.Schedule.Deeds

/-!
# A run meets one failure at most

The first request that fails in a run takes the connection down, and a connection that is down sends
nothing. So the collectors before it have been loaded, its own has failed, and the loads of all
later ones are skipped (`Operation.loads_up`). A connection that is up has no failures counted
(`Operation.Sound.leads`), so that exactly one is counted when the run has ended.
-/

namespace RouterMetrics

variable {σ γ : Type}

/-! ## How loads are recorded -/

/-- Surroundings that write down how loads are recorded, the latest last. -/
def Surroundings.noted (e : Surroundings σ) : Surroundings (σ × List (Nat × LoadOutcome)) where
  clock := fun s => e.clock s.1
  sleepUntil := fun t s => (e.sleepUntil t s.1, s.2)
  connected := fun d s => e.connected d s.1
  connect := fun d s => (e.connect d s.1, s.2)
  load := fun c d s => ((e.load c d s.1).1, (e.load c d s.1).2, s.2)
  record := fun c d n o s => (e.record c d n o s.1, s.2 ++ [(c, o)])

/-- How the loads of a run are recorded. -/
def Run.outcomes (e : Surroundings σ) (r : Run σ) : List (Nat × LoadOutcome) :=
  (Scheduler.runJob e.noted r.found.reconnectDelay r.taken.job (r.begun e, [])).2.2

namespace Scheduler

/-- What becomes of the loads of collectors one after another. -/
def loadOutcomes (e : Surroundings σ) (device : Option Nat) :
    List Nat → σ → List (Nat × LoadOutcome)
  | [], _ => []
  | c :: rest, s => (c, (e.load c device s).1) :: loadOutcomes e device rest (loadOne e device s c)

theorem foldl_loadOne_noted (e : Surroundings σ) (device : Option Nat) (collectors : List Nat)
    (s : σ) (notes : List (Nat × LoadOutcome)) :
    collectors.foldl (loadOne e.noted device) (s, notes) =
      (collectors.foldl (loadOne e device) s, notes ++ loadOutcomes e device collectors s) := by
  induction collectors generalizing s notes with
  | nil => simp [loadOutcomes]
  | cons c rest ih =>
    have hone : loadOne e.noted device (s, notes) c =
        (loadOne e device s c, notes ++ [(c, (e.load c device s).1)]) := rfl
    rw [List.foldl_cons, hone, ih, List.foldl_cons, loadOutcomes, List.append_assoc]
    rfl

end Scheduler

theorem Run.outcomes_of_up {e : Surroundings σ} {r : Run σ}
    (h : Scheduler.isDown e r.taken.job (r.begun e) = false) :
    r.outcomes e =
      Scheduler.loadOutcomes e r.taken.job.device r.taken.job.collectors (r.begun e) := by
  have hnoted : Scheduler.isDown e.noted r.taken.job (r.begun e, []) = false := h
  simp [outcomes, Scheduler.runJob, hnoted, Scheduler.loadAll, Scheduler.foldl_loadOne_noted]

/-! ## Connections that are up -/

/-- A connection that is up has no failures counted. -/
def Connection.Clean (c : Connection) : Prop := c.connected = true → c = .up

theorem Connection.Clean.change {c c' : Connection} {x : Incident} (h : c.Clean)
    (hchange : c.Change x c') : c'.Clean := by
  cases hchange with
  | rise => exact fun _ => rfl
  | keep => exact h
  | fail => exact fun hup => absurd hup Bool.false_ne_true

/-- The connection of a device, if there is one, is clean. -/
def Device.CleanIn (d : Option Device) : Prop := ∀ d' ∈ d, d'.connection.Clean

theorem Device.use_clean (w : World σ) {d : Device} (h : d.connection.Clean) (u : Use) (s : σ) :
    (d.use w u s).1.connection.Clean := by
  rcases d.use_cases w u s with ⟨-, hsame⟩ | ⟨x, c, -, hchange, huse⟩
  · rw [hsame]
    exact h
  · rw [huse]
    exact h.change hchange

theorem Fetch.run_clean (w : World σ) (f : Fetch) {d : Option Device} (h : Device.CleanIn d)
    (s : σ) : Device.CleanIn (f.run w d s).2.1 := by
  induction f generalizing d s with
  | done => exact h
  | release channel next ih => exact ih _ h _
  | call c next ih =>
    cases d with
    | none => exact h
    | some d =>
      have hcall : (d.call w c s).2.1.connection.Clean := d.use_clean w (h d rfl) (.call c) s
      rw [run]
      split
      case h_1 records d' s' heq =>
        rw [heq] at hcall
        exact ih records (by rintro _ ⟨⟩; exact hcall) s'
      case h_2 e d' s' heq =>
        rw [heq] at hcall
        rintro _ ⟨⟩
        exact hcall

namespace Collector

theorem publish_clean (st : Stage) {d : Option Device} (h : Device.CleanIn d)
    (records : List Record) : Device.CleanIn (st.publish d records) := by
  cases d with
  | none => simpa [Stage.publish] using h
  | some d =>
    obtain ⟨d', hd', -, hconnection⟩ := publish_same st d records
    rw [hd']
    rintro _ ⟨⟩
    rw [hconnection]
    exact h d rfl

theorem loadStages_clean (w : World σ) (now : Moment) (stages : List LiveStage)
    {d : Option Device} (h : Device.CleanIn d) (s : σ) :
    Device.CleanIn (loadStages w now stages d s).2.device := by
  induction stages generalizing d s with
  | nil => exact h
  | cons live rest ih =>
    have hrun := live.stage.source.run_clean w h s
    rcases loadStages_cons w now live rest d s with ⟨e, d', s', heq, hl⟩ | ⟨rows, d', s', heq, hl⟩
    · rw [heq] at hrun
      rw [hl]
      exact hrun
    · rw [heq] at hrun
      rw [hl]
      exact ih (publish_clean live.stage hrun _) s'

end Collector

namespace Operation

/-! ## Operations and their worlds -/

/-- The polling of collectors of metric groups. -/
abbrev polling (w : World σ) : Surroundings (Operation Collector σ) :=
  surroundings w (Collector.loading w)

/-- The stages of the collectors. -/
def plan (o : Operation Collector σ) : List (List Stage) :=
  o.exporter.collectors.map fun c => c.stages.map (·.stage)

theorem foldl_progress_devices (j : Nat) (ps : List (Moment × γ)) (o : Operation γ σ) :
    (ps.foldl (fun o p => o.change p.1 (setCollector o.exporter j p.2)) o).exporter.devices =
      o.exporter.devices := by
  induction ps generalizing o with
  | nil => rfl
  | cons p rest ih => exact ih _

/-- What a load leaves of the devices. -/
theorem load_devices (w : World σ) (l : Loading γ σ) (o : Operation γ σ) (j : Nat)
    (device : Option Nat) {c : γ} (hc : o.exporter.collectors[j]? = some c) :
    (o.load w l j device).2.exporter.devices =
      match device, (l.load c (device.bind o.device?) o.world).2.device with
      | some i, some d => o.exporter.devices.set i d
      | _, _ => o.exporter.devices := by
  rcases hload : l.load c (device.bind o.device?) o.world with ⟨outcome, kept, d, s, progress⟩
  have hsame := foldl_progress_devices j progress { o with world := s }
  simp only [load, hc, hload, change]
  cases device with
  | none => exact hsame
  | some i =>
    cases d with
    | none => exact hsame
    | some d => exact congrArg (·.set i d) hsame

/-- No load changes the stages of a collector. -/
theorem load_plan (w : World σ) (o : Operation Collector σ) (j : Nat) (device : Option Nat) :
    (o.load w (Collector.loading w) j device).2.plan = o.plan := by
  cases hc : o.exporter.collectors[j]? with
  | none => simp [load, hc]
  | some c =>
    obtain ⟨-, hcollectors, -⟩ := Passes.load_eq w (Collector.loading w) o j device hc
    have hkept : ((Collector.loading w).load c (device.bind o.device?) o.world).2.kept.stages.map
        (·.stage) = c.stages.map (·.stage) :=
      Collector.loadStages_stages w (w.clock o.world) c.stages (device.bind o.device?) o.world
    obtain ⟨hj, rfl⟩ := List.getElem?_eq_some_iff.mp hc
    have hlength : j < o.plan.length := by simpa [plan] using hj
    have hget : o.plan[j] = o.exporter.collectors[j].stages.map (·.stage) := List.getElem_map _
    rw [plan, hcollectors, List.map_set, hkept, ← hget]
    exact List.set_getElem_self hlength

theorem loadOne_plan (w : World σ) (o : Operation Collector σ) (device : Option Nat) (j : Nat) :
    (Scheduler.loadOne (polling w) device o j).plan = o.plan := by
  have hsame : (Scheduler.loadOne (polling w) device o j).exporter.collectors =
      (o.load w (Collector.loading w) j device).2.exporter.collectors :=
    (Passes.record (w := w) (Q := fun _ => True) _ _ j device _ _ trivial).2
  rw [plan, hsame]
  exact load_plan w o j device

/-- What holds of an operation at all times: connections that are up have no failures counted, and
the collectors have the stages that they had at the start. -/
structure Sound (plan : List (List Stage)) (o : Operation Collector σ) : Prop where
  clean : ∀ d ∈ o.exporter.devices, d.connection.Clean
  plan_eq : o.plan = plan

namespace Sound

variable {w : World σ} {plan : List (List Stage)} {o : Operation Collector σ}

theorem device? (h : o.Sound plan) (i : Nat) : Device.CleanIn (o.device? i) :=
  fun d hd => h.clean d (List.mem_of_getElem? hd)

theorem of_bind (h : o.Sound plan) (device : Option Nat) :
    Device.CleanIn (device.bind o.device?) := by
  cases device with
  | none => rintro _ ⟨⟩
  | some i => exact h.device? i

theorem connect (h : o.Sound plan) (i : Nat) : (o.connect w i).Sound plan := by
  cases hd : o.device? i with
  | none => simpa [Operation.connect, hd] using h
  | some d =>
    have hclean := d.use_clean w (h.device? i d hd) .connect o.world
    simp only [Operation.connect, hd]
    refine ⟨fun d' hd' => ?_, h.plan_eq⟩
    rcases List.mem_or_eq_of_mem_set hd' with hd' | rfl
    · exact h.clean d' hd'
    · exact hclean

theorem load (h : o.Sound plan) (j : Nat) (device : Option Nat) :
    (o.load w (Collector.loading w) j device).2.Sound plan := by
  refine ⟨?_, (load_plan w o j device).trans h.plan_eq⟩
  cases hc : o.exporter.collectors[j]? with
  | none => simpa [Operation.load, hc] using h.clean
  | some c =>
    have hclean :=
      Collector.loadStages_clean w (w.clock o.world) c.stages (h.of_bind device) o.world
    rw [load_devices w (Collector.loading w) o j device hc]
    split
    case h_1 i d hd =>
      intro d' hd'
      rcases List.mem_or_eq_of_mem_set hd' with hd' | rfl
      · exact h.clean d' hd'
      · exact hclean d' hd
    case h_2 => exact h.clean

theorem record (h : o.Sound plan) (j : Nat) (device : Option Nat) (elapsed : Nat)
    (outcome : LoadOutcome) :
    (o.record w (Collector.loading w) j device elapsed outcome).Sound plan := by
  unfold Operation.record
  split
  · exact h
  · exact ⟨h.clean, h.plan_eq⟩

theorem loadOne (h : o.Sound plan) (device : Option Nat) (j : Nat) :
    (Scheduler.loadOne (polling w) device o j).Sound plan :=
  (h.load j device).record j device _ _

theorem loadAll (h : o.Sound plan) (device : Option Nat) (collectors : List Nat) :
    (collectors.foldl (Scheduler.loadOne (polling w) device) o).Sound plan := by
  induction collectors generalizing o with
  | nil => exact h
  | cons j rest ih => exact ih (h.loadOne device j)

/-- A run of any job keeps what holds at all times. -/
theorem run {r : Run (Operation Collector σ)} (h : r.waiting.Sound plan) :
    (r.begun (polling w)).Sound plan ∧ (r.ended (polling w)).Sound plan := by
  have hbegun : (r.begun (polling w)).Sound plan := ⟨h.clean, h.plan_eq⟩
  refine ⟨hbegun, ?_⟩
  cases hdown : Scheduler.isDown (polling w) r.taken.job (r.begun (polling w)) with
  | true =>
    obtain ⟨i, -, -, hended, -⟩ := Run.of_down hdown
    rw [hended]
    exact hbegun.connect i
  | false =>
    rw [(Run.of_up hdown).2.1]
    exact hbegun.loadAll _ _

theorem leads {sch sch' : Scheduler} {o' : Operation Collector σ}
    {rs : List (Run (Operation Collector σ))} (h : Scheduler.Leads (polling w) sch o rs sch' o')
    (start : o.Sound plan) : ∀ r ∈ rs, r.waiting.Sound plan :=
  (h.invariant (P := fun _ o => o.Sound plan) start fun _ _ hr => (run hr).2).2

end Sound

/-! ## Loads, one after another -/

variable {w : World σ} {o : Operation Collector σ} {i j : Nat} {d : Device}

/-- An operation in a world with a log. -/
def withLog (o : Operation γ σ) (log : List Asked) : Operation γ (σ × List Asked) :=
  ⟨o.exporter, (o.world, log), o.history⟩

theorem foldl_progress_withLog (j : Nat) (ps : List (Moment × γ)) (o : Operation γ σ)
    (log : List Asked) :
    ps.foldl (fun o p => o.change p.1 (setCollector o.exporter j p.2)) (o.withLog log) =
      (ps.foldl (fun o p => o.change p.1 (setCollector o.exporter j p.2)) o).withLog log := by
  induction ps generalizing o with
  | nil => rfl
  | cons p rest ih => exact ih (o.change p.1 (setCollector o.exporter j p.2))

theorem record_withLog (o : Operation Collector σ) (log : List Asked) (j : Nat)
    (device : Option Nat) (elapsed : Nat) (outcome : LoadOutcome) :
    (o.withLog log).record w.logged (Collector.loading w.logged) j device elapsed outcome =
      (o.record w (Collector.loading w) j device elapsed outcome).withLog log := by
  cases hc : o.exporter.collectors[j]? with
  | none => simp [record, withLog, hc]
  | some c =>
    simp only [record, withLog, hc]
    rfl

/-- An operation logs what the load of a collector logs. -/
theorem loadOne_withLog {device : Option Nat} {c : Collector} {log log' : List Asked}
    (hc : o.exporter.collectors[j]? = some c)
    (hload : c.load w.logged (device.bind o.device?) (o.world, log) =
      ((c.load w (device.bind o.device?) o.world).1,
        (c.load w (device.bind o.device?) o.world).2.withLog log')) :
    Scheduler.loadOne (polling w.logged) device (o.withLog log) j =
      (Scheduler.loadOne (polling w) device o j).withLog log' := by
  rcases hdone : c.load w (device.bind o.device?) o.world with ⟨result, kept, d', s, progress⟩
  rw [hdone] at hload
  have hlogged : (o.withLog log).load w.logged (Collector.loading w.logged) j device =
      ((o.load w (Collector.loading w) j device).1,
        (o.load w (Collector.loading w) j device).2.withLog log') := by
    have hfold := foldl_progress_withLog j progress { o with world := s } log'
    have hc' : (o.withLog log).exporter.collectors[j]? = some c := hc
    have hload' : c.load w.logged (device.bind (o.withLog log).device?) (o.withLog log).world =
        (result, ⟨kept, d', (s, log'), progress⟩) := hload
    have hworld :
        ({ o.withLog log with world := (s, log') } : Operation Collector (σ × List Asked)) =
          ({ o with world := s } : Operation Collector σ).withLog log' := rfl
    simp only [load, Collector.loading, hc, hc', hdone, hload', hworld, hfold]
    cases device with
    | none => rfl
    | some i =>
      cases d' with
      | none => rfl
      | some d' => rfl
  simp only [Scheduler.loadOne, polling, surroundings, hlogged, record_withLog]
  rfl

/-- What the collector of a number has to ask its device for. -/
def sources (plan : List (List Stage)) (j : Nat) : List Fetch :=
  (plan[j]?.getD []).map (·.source)

/-- There is a collector of a number. It has stages, and each of them begins by asking its
device. -/
def AsksAt (plan : List (List Stage)) (j : Nat) : Prop :=
  ∃ stages, plan[j]? = some stages ∧ stages ≠ [] ∧ ∀ st ∈ stages, st.source.Asks

theorem AsksAt.collector (h : AsksAt o.plan j) :
    ∃ c, o.exporter.collectors[j]? = some c ∧ c.stages ≠ [] ∧
      (∀ live ∈ c.stages, live.stage.source.Asks) ∧
      sources o.plan j = c.stages.map (·.stage.source) := by
  obtain ⟨stages, hstages, hsome, hasks⟩ := h
  rw [sources, hstages]
  rw [plan, List.getElem?_map, Option.map_eq_some_iff] at hstages
  obtain ⟨c, hc, rfl⟩ := hstages
  refine ⟨c, hc, by simpa using hsome, fun live hlive => ?_, by simp⟩
  exact hasks live.stage (List.mem_map_of_mem hlive)

theorem record_devices (l : Loading γ σ) (o : Operation γ σ) (j : Nat) (device : Option Nat)
    (elapsed : Nat) (outcome : LoadOutcome) :
    (o.record w l j device elapsed outcome).exporter.devices = o.exporter.devices := by
  unfold record
  split
  · rfl
  · rfl

/-- What a load leaves of its device and of the collectors when it has been recorded. -/
theorem loadOne_leaves {c : Collector} {d' : Device} (hc : o.exporter.collectors[j]? = some c)
    (hd : o.device? i = some d) (hdone : (c.load w (some d) o.world).2.device = some d') :
    let o' := Scheduler.loadOne (polling w) (some i) o j
    o'.device? i = some d' ∧
      o'.exporter.collectors = o.exporter.collectors.set j (c.load w (some d) o.world).2.kept := by
  intro o'
  have hdevice : (some i).bind o.device? = some d := hd
  have hdevices := load_devices w (Collector.loading w) o j (some i) hc
  obtain ⟨-, hcollectors, -⟩ := Passes.load_eq w (Collector.loading w) o j (some i) hc
  have hload : ((Collector.loading w).load c (some d) o.world).2 = (c.load w (some d) o.world).2 :=
    rfl
  rw [hdevice, hload] at hdevices hcollectors
  simp only [hdone] at hdevices
  have hset : o'.exporter.devices = o.exporter.devices.set i d' :=
    (record_devices (w := w) _ _ j (some i) _ _).trans hdevices
  have hsame : o'.exporter.collectors =
      (o.load w (Collector.loading w) j (some i)).2.exporter.collectors :=
    (Passes.record (w := w) (Q := fun _ => True) _ _ j (some i) _ _ trivial).2
  obtain ⟨hi, -⟩ := List.getElem?_eq_some_iff.mp hd
  refine ⟨?_, hsame.trans hcollectors⟩
  rw [device?, hset, List.getElem?_set_self hi]

theorem loadOne_down (hasks : AsksAt o.plan j) (hd : o.device? i = some d)
    (hdown : d.connection.connected = false) :
    let o' := Scheduler.loadOne (polling w) (some i) o j
    o'.device? i = some d ∧ o'.exporter.collectors = o.exporter.collectors ∧
      ((polling w).load j (some i) o).1 = .skipped ∧
      ∀ log, Scheduler.loadOne (polling w.logged) (some i) (o.withLog log) j = o'.withLog log := by
  obtain ⟨c, hc, hsome, hstages, -⟩ := hasks.collector
  have hload := Collector.load_down w hsome hstages hdown o.world
  obtain ⟨hdevice, hcollectors⟩ := loadOne_leaves hc hd (by rw [hload])
  refine ⟨hdevice, ?_, ?_, fun log => ?_⟩
  · obtain ⟨hj, rfl⟩ := List.getElem?_eq_some_iff.mp hc
    rw [hcollectors, hload]
    exact List.set_getElem_self hj
  · have hbind : (some i).bind o.device? = some d := hd
    simp [polling, surroundings, load, hc, hbind, Collector.loading, hload, LoadOutcome.ofResult]
  · refine loadOne_withLog hc ?_
    rw [show (some i).bind o.device? = some d from hd, hload,
      Collector.load_down w.logged hsome hstages hdown]
    rfl

/-- **The loads that find the connection down are skipped.** They send nothing and leave all as it
was, but for the records of their outcomes. -/
theorem loads_down {collectors : List Nat} (hasks : ∀ j ∈ collectors, AsksAt o.plan j)
    (hd : o.device? i = some d) (hdown : d.connection.connected = false) :
    let o' := collectors.foldl (Scheduler.loadOne (polling w) (some i)) o
    o'.device? i = some d ∧ o'.exporter.collectors = o.exporter.collectors ∧
      Scheduler.loadOutcomes (polling w) (some i) collectors o = collectors.map (·, .skipped) ∧
      ∀ log, collectors.foldl (Scheduler.loadOne (polling w.logged) (some i)) (o.withLog log) =
        o'.withLog log := by
  induction collectors generalizing o with
  | nil => exact ⟨hd, rfl, rfl, fun _ => rfl⟩
  | cons j rest ih =>
    obtain ⟨hj, hrest⟩ := List.forall_mem_cons.mp hasks
    obtain ⟨hdevice, hcollectors, hskipped, hlogged⟩ := loadOne_down (w := w) hj hd hdown
    have hplan : (Scheduler.loadOne (polling w) (some i) o j).plan = o.plan := by
      rw [plan, hcollectors, plan]
    obtain ⟨hdevice', hcollectors', hskipped', hlogged'⟩ := ih (by rw [hplan]; exact hrest) hdevice
    refine ⟨hdevice', hcollectors'.trans hcollectors, ?_, fun log => ?_⟩
    · rw [Scheduler.loadOutcomes, hskipped, hskipped', List.map_cons]
    · rw [List.foldl_cons, hlogged, hlogged', List.foldl_cons]

/-- What a failure at a moment makes of a connection, and nothing without one. -/
def afterFall (c : Connection) : Option Moment → Connection
  | none => c
  | some t => c.fail t

/-- What becomes of a load by when a request of it has failed. -/
def fallOutcome : Option Moment → LoadOutcome
  | none => .loaded
  | some _ => .failed

/-- **A load that finds the connection up sends its requests until one fails.** -/
theorem loadOne_up (hasks : AsksAt o.plan j) (hd : o.device? i = some d)
    (hup : d.connection.connected = true) :
    let o' := Scheduler.loadOne (polling w) (some i) o j
    ∃ asked fell d', InOrder (Fetch.Path d.wire) (sources o.plan j) asked fell ∧
      o'.device? i = some d' ∧ d'.wire = d.wire ∧
      d'.connection = afterFall d.connection fell ∧
      ((polling w).load j (some i) o).1 = fallOutcome fell ∧
      ∀ log, Scheduler.loadOne (polling w.logged) (some i) (o.withLog log) j =
        o'.withLog (log ++ asked) := by
  obtain ⟨c, hc, -, hstages, hsources⟩ := hasks.collector
  obtain ⟨asked, fell, horder, hcomes, hlogged⟩ :=
    Collector.load_up (w := w) (fun live hlive => (hstages live hlive).ofDevice) hup o.world
  have hbind : (some i).bind o.device? = some d := hd
  have houtcome : ((polling w).load j (some i) o).1 =
      .ofResult (c.load w (some d) o.world).1 := by
    simp [polling, surroundings, load, hc, hbind, Collector.loading]
  have hlog : ∀ log, Scheduler.loadOne (polling w.logged) (some i) (o.withLog log) j =
      (Scheduler.loadOne (polling w) (some i) o j).withLog (log ++ asked) := fun log =>
    loadOne_withLog hc (by rw [hbind, hlogged])
  rw [hsources, houtcome]
  generalize hdone : (c.load w (some d) o.world).2.device = left at hcomes
  generalize (c.load w (some d) o.world).1 = result at hcomes
  cases hcomes with
  | well a hwire hconnection =>
    exact ⟨asked, none, _, horder, (loadOne_leaves hc hd hdone).1, hwire, hconnection, rfl, hlog⟩
  | badly e t hwire hconnection =>
    exact ⟨asked, some t, _, horder, (loadOne_leaves hc hd hdone).1, hwire, hconnection, rfl, hlog⟩

/-- Loads of collectors in which no request has failed: all that the collectors have to ask for has
been asked, one after the other, and all collectors have been loaded. -/
structure Completed (wire : Nat) (sources : Nat → List Fetch) (collectors : List Nat)
    (asked : List Asked) (outcomes : List (Nat × LoadOutcome)) : Prop where
  sent : InOrder (InOrder (Fetch.Path wire)) (collectors.map sources) asked none
  recorded : outcomes = collectors.map (·, .loaded)

/-- Loads of collectors in which a request has failed at a moment: all that the collectors before
the one it was for have to ask for has been asked, and then what that one asks for, in the order of
its stages, up to the request that failed. The collectors before it have been loaded, it has failed,
and those after it have been skipped. -/
structure BrokenOff (wire : Nat) (sources : Nat → List Fetch) (collectors before : List Nat)
    (failing : Nat) (later : List Nat) (t : Moment) (asked : List Asked)
    (outcomes : List (Nat × LoadOutcome)) : Prop where
  split : collectors = before ++ failing :: later
  sent : ∃ first last, asked = first ++ last ∧
    InOrder (InOrder (Fetch.Path wire)) (before.map sources) first none ∧
    InOrder (Fetch.Path wire) (sources failing) last (some t)
  recorded : outcomes =
    before.map (·, .loaded) ++ (failing, .failed) :: later.map (·, .skipped)

theorem Completed.onlyLast {wire : Nat} {sources : Nat → List Fetch} {collectors : List Nat}
    {asked : List Asked} {outcomes : List (Nat × LoadOutcome)}
    (h : Completed wire sources collectors asked outcomes) : OnlyLast asked none :=
  h.sent.onlyLast fun _ _ _ hload => hload.onlyLast fun _ _ _ hpath => hpath.onlyLast

theorem BrokenOff.onlyLast {wire : Nat} {sources : Nat → List Fetch}
    {collectors before later : List Nat} {failing : Nat} {t : Moment} {asked : List Asked}
    {outcomes : List (Nat × LoadOutcome)}
    (h : BrokenOff wire sources collectors before failing later t asked outcomes) :
    OnlyLast asked (some t) := by
  obtain ⟨first, last, rfl, hfirst, hlast⟩ := h.sent
  have hall : OnlyLast first none :=
    hfirst.onlyLast fun _ _ _ hload => hload.onlyLast fun _ _ _ hpath => hpath.onlyLast
  exact OnlyLast.prepend first hall (hlast.onlyLast fun _ _ _ hpath => hpath.onlyLast)

/-- **The loads of collectors whose device is connected are completed, or they are broken off by
the first request that fails**, and then no later load changes anything of the collectors. -/
theorem loads_up {collectors : List Nat} (hasks : ∀ j ∈ collectors, AsksAt o.plan j)
    (hd : o.device? i = some d) (hup : d.connection.connected = true) :
    let load := Scheduler.loadOne (polling w) (some i)
    let o' := collectors.foldl load o
    let outcomes := Scheduler.loadOutcomes (polling w) (some i) collectors o
    ∃ asked d', o'.device? i = some d' ∧
      (∀ log, collectors.foldl (Scheduler.loadOne (polling w.logged) (some i)) (o.withLog log) =
        o'.withLog (log ++ asked)) ∧
      (Completed d.wire (sources o.plan) collectors asked outcomes ∧
          d'.connection = d.connection ∨
        ∃ before failing later t,
          BrokenOff d.wire (sources o.plan) collectors before failing later t asked outcomes ∧
          d'.connection = d.connection.fail t ∧
          o'.exporter.collectors = ((before ++ [failing]).foldl load o).exporter.collectors) := by
  induction collectors generalizing o d with
  | nil =>
    refine ⟨[], d, hd, fun log => by rw [List.append_nil]; rfl, .inl ⟨⟨.nil, rfl⟩, rfl⟩⟩
  | cons j rest ih =>
    obtain ⟨hj, hrest⟩ := List.forall_mem_cons.mp hasks
    obtain ⟨asked, fell, d', horder, hdevice, hwire, hconnection, houtcome, hlogged⟩ :=
      loadOne_up (w := w) hj hd hup
    have hplan := loadOne_plan w o (some i) j
    rw [← hplan] at hrest
    cases fell with
    | some t =>
      -- the request that failed has taken the connection down
      obtain ⟨hdevice', hcollectors, hskipped, hlogged'⟩ := loads_down (w := w) hrest hdevice
        (by rw [hconnection]; rfl)
      refine ⟨asked, d', hdevice', fun log => ?_, .inr ⟨[], j, rest, t, ⟨rfl, ?_, ?_⟩, hconnection,
        hcollectors⟩⟩
      · rw [List.foldl_cons, hlogged, hlogged', List.foldl_cons]
      · exact ⟨[], asked, rfl, .nil, horder⟩
      · rw [Scheduler.loadOutcomes, houtcome, hskipped]
        rfl
    | none =>
      -- the connection is as it was, so the later loads find what this one found
      obtain ⟨asked', d'', hdevice', hlogged', hcases⟩ := ih hrest hdevice
        (by rw [hconnection]; exact hup)
      refine ⟨asked ++ asked', d'', hdevice', fun log => ?_, ?_⟩
      · rw [List.foldl_cons, hlogged, hlogged', List.append_assoc, List.foldl_cons]
      rw [hplan, hwire, hconnection] at hcases
      rcases hcases with ⟨hdone, hkept⟩ |
        ⟨before, failing, later, t, hbroken, hfail, hcollectors⟩
      · refine .inl ⟨⟨.cons horder hdone.sent, ?_⟩, hkept⟩
        rw [Scheduler.loadOutcomes, houtcome, hdone.recorded]
        rfl
      · obtain ⟨first, last, rfl, hfirst, hlast⟩ := hbroken.sent
        refine .inr ⟨j :: before, failing, later, t, ⟨?_, ?_, ?_⟩, hfail, hcollectors⟩
        · rw [hbroken.split]
          rfl
        · exact ⟨asked ++ first, last, (List.append_assoc ..).symm, .cons horder hfirst, hlast⟩
        · rw [Scheduler.loadOutcomes, houtcome, hbroken.recorded]
          rfl

end Operation

/-- What is asked of the world while a run lasts. -/
def Run.asked (w : World σ) (r : Run (Operation Collector σ)) : List Asked :=
  (Scheduler.runJob (Operation.polling w.logged) r.found.reconnectDelay r.taken.job
    ((r.begun (Operation.polling w)).withLog [])).2.world.2

theorem Run.asked_of_up {w : World σ} {r : Run (Operation Collector σ)} {asked : List Asked}
    (h : Scheduler.isDown (Operation.polling w) r.taken.job (r.begun (Operation.polling w)) = false)
    {o' : Operation Collector σ}
    (hlogged : r.taken.job.collectors.foldl
      (Scheduler.loadOne (Operation.polling w.logged) r.taken.job.device)
      ((r.begun (Operation.polling w)).withLog []) = o'.withLog asked) : r.asked w = asked := by
  have hdown : Scheduler.isDown (Operation.polling w.logged) r.taken.job
      ((r.begun (Operation.polling w)).withLog []) = false := h
  simp only [Run.asked, Scheduler.runJob, hdown, Scheduler.loadAll, hlogged]
  rfl

namespace Operation

theorem device_of_up {w : World σ} {o : Operation Collector σ} {job : Job} {i : Nat}
    (hdevice : job.device = some i) (hup : Scheduler.isDown (polling w) job o = false) :
    ∃ d, o.device? i = some d ∧ d.connection.connected = true := by
  cases hd : o.device? i with
  | none => simp [Scheduler.isDown, hdevice, surroundings, hd] at hup
  | some d =>
    refine ⟨d, rfl, ?_⟩
    simpa [Scheduler.isDown, hdevice, surroundings, hd] using hup

/-- **A run meets one failed request at most.** Let an exporter poll collectors in any world, from
any schedule and with devices whose connections have no failures counted if they are up. Take any
turn of the loop in which a job is run whose device is found connected and whose collectors are
those of groups of the catalog. Either no request fails, all collectors are loaded, and the
connection stays up; or all goes well up to one request, nothing is sent after it, the collectors
before its own have been loaded, its own has failed, and the later ones are skipped and left as they
were; then that one failure is counted, with the time when its answer was there. In both cases the
job is queued again an interval after the run. -/
theorem one_failure_per_run (w : World σ) (x : Exporter Collector) (s : σ)
    (clean : ∀ d ∈ x.devices, d.connection.Clean) (sch : Scheduler) (stop : Option Moment)
    (turns : Nat) {r : Run (Operation Collector σ)}
    (hr : r ∈ Scheduler.runs (polling w) stop turns sch (start w x s)) {i : Nat}
    (hdevice : r.taken.job.device = some i)
    (hup : Scheduler.isDown (polling w) r.taken.job (r.begun (polling w)) = false)
    (hcatalog : ∀ j ∈ r.taken.job.collectors, ∃ c, x.collectors[j]? = some c ∧
      ∃ g ∈ Catalog.groups, c.stages.map (·.stage) = g.stages) :
    let e := polling w
    let job := r.taken.job
    let sources := sources (start w x s).plan
    (∃ m, Scheduler.run e stop m sch (start w x s) = (r.found, r.waiting) ∧
        Scheduler.run e stop (m + 1) sch (start w x s) = (r.next e, r.ended e)) ∧
      (∃ d d', (r.begun e).device? i = some d ∧ (r.ended e).device? i = some d' ∧
        (Completed d.wire sources job.collectors (r.asked w) (r.outcomes e) ∧
            OnlyLast (r.asked w) none ∧ d'.connection = ⟨true, none, 0⟩ ∨
          ∃ before failing later t,
            BrokenOff d.wire sources job.collectors before failing later t (r.asked w)
              (r.outcomes e) ∧
            OnlyLast (r.asked w) (some t) ∧ d'.connection = ⟨false, some t, 1⟩ ∧
            (r.ended e).exporter.collectors = ((before ++ [failing]).foldl
              (Scheduler.loadOne e (some i)) (r.begun e)).exporter.collectors)) ∧
      r.queued e ∈ (r.next e).queue ∧ (r.queued e).job = job ∧
      (r.queued e).fireAt = Moment.after (r.finish e) job.interval := by
  intro e job sources
  obtain ⟨final, hleads, -⟩ := Scheduler.leads_runs e stop turns sch (start w x s)
  have hsound : (r.begun e).Sound (start w x s).plan :=
    (Sound.run (Sound.leads hleads ⟨clean, rfl⟩ r hr)).1
  obtain ⟨-, hended, hdelay⟩ := Run.of_up hup
  have houtcomes := Run.outcomes_of_up hup
  rw [hdevice] at hended houtcomes
  -- the device is there and connected, so no failures of it are counted
  obtain ⟨d, hd, hconnected⟩ := device_of_up hdevice hup
  have hclean : d.connection = .up := hsound.device? i d hd hconnected
  have hasks : ∀ j ∈ job.collectors, AsksAt (r.begun e).plan j := by
    intro j hj
    obtain ⟨c, hc, g, hg, hstages⟩ := hcatalog j hj
    obtain ⟨hsome, hall⟩ := Catalog.groups_asking g hg
    refine ⟨g.stages, ?_, hsome, hall⟩
    rw [hsound.plan_eq, plan, List.getElem?_map, start, hc, ← hstages]
    rfl
  obtain ⟨asked, d', hd', hlogged, hcases⟩ := loads_up (w := w) hasks hd hconnected
  have hasked : r.asked w = asked := Run.asked_of_up hup (by rw [hdevice]; exact hlogged [])
  rw [hsound.plan_eq, hclean] at hcases
  obtain ⟨m, hm⟩ := List.getElem?_of_mem hr
  refine ⟨⟨m, Scheduler.run_of_runs hm⟩, ⟨d, d', hd, ?_, ?_⟩, (r.mem_next e).mpr (.inl rfl), rfl,
    ?_⟩
  · rw [hended]
    exact hd'
  · rw [hasked, houtcomes, hended]
    rcases hcases with ⟨hdone, hkept⟩ |
      ⟨before, failing, later, t, hbroken, hfail, hcollectors⟩
    · exact .inl ⟨hdone, hdone.onlyLast, hkept⟩
    · exact .inr ⟨before, failing, later, t, hbroken, hbroken.onlyLast, hfail, hcollectors⟩
  · rw [Run.queued, hdelay]

/-- A device that is connected, with the collectors of three groups. -/
def station : Exporter Collector where
  devices := [Collector.gateway]
  collectors := [Catalog.identity, Catalog.wifi, Catalog.pool].map fun g =>
    g.collector Collector.gateway.identity.labels (.ofSeconds 30)
  stats := .empty "station"

/-- The answers to three requests, after which there are no more. -/
def threeAnswers : List (Except TransportError (List Record)) :=
  [.ok [Dict.ofList [("name", .text "gateway")]], .ok [],
    .ok [Dict.ofList [(".id", .text "*1"), ("name", .text "wifi1")]]]

/-- The identity is read, and of the second group the first stage and the list of what is to be
measured; the measurement itself fails, and the third group is skipped. -/
theorem one_failure_per_run_station :
    let e := polling Collector.dictated
    let job : Job := ⟨some 0, [0, 1, 2], .ofSeconds 30, .fast⟩
    let sch := (Scheduler.create (.ofSeconds 3) .zero (Moment.lastFrom 0)).addAll [(job, 0)]
    let o := start Collector.dictated station threeAnswers
    let rs := Scheduler.runs e none 1 sch o
    rs.map (fun r => r.outcomes e) = [[(0, .loaded), (1, .failed), (2, .skipped)]] ∧
      rs.map (fun r => (r.asked Collector.dictated).map (·.failure?)) =
        [[none, none, none, some 0]] ∧
      ∀ r ∈ rs, (r.queued e).fireAt = Moment.after 0 (.ofSeconds 30) ∧
        ∃ wire d' before failing later t, (r.ended e).device? 0 = some d' ∧
          d'.connection = ⟨false, some t, 1⟩ ∧
          BrokenOff wire (sources o.plan) job.collectors before failing later t
            (r.asked Collector.dictated) (r.outcomes e) := by
  intro e job sch o rs
  refine ⟨by decide, by decide, fun r hr => ?_⟩
  have hjob : r.taken.job = job := (by decide : ∀ r ∈ rs, r.taken.job = job) r hr
  have hup : Scheduler.isDown e r.taken.job (r.begun e) = false :=
    (by decide : ∀ r ∈ rs, Scheduler.isDown e r.taken.job (r.begun e) = false) r hr
  have hcatalog : ∀ j ∈ r.taken.job.collectors, ∃ c, station.collectors[j]? = some c ∧
      ∃ g ∈ Catalog.groups, c.stages.map (·.stage) = g.stages := by
    rw [hjob]
    simp only [job, List.forall_mem_cons]
    exact ⟨⟨_, rfl, Catalog.identity, by simp [Catalog.groups], rfl⟩,
      ⟨_, rfl, Catalog.wifi, by simp [Catalog.groups], rfl⟩,
      ⟨_, rfl, Catalog.pool, by simp [Catalog.groups], rfl⟩, by simp⟩
  have clean : ∀ d ∈ station.devices, d.connection.Clean :=
    List.forall_mem_singleton.mpr fun _ => rfl
  obtain ⟨-, ⟨d, d', -, hd', hcases⟩, -, -, hdue⟩ := one_failure_per_run Collector.dictated
    station threeAnswers clean sch none 1 hr (by rw [hjob]) hup hcatalog
  rw [hjob] at hcases hdue
  refine ⟨hdue, ?_⟩
  rcases hcases with ⟨hdone, -⟩ | ⟨before, failing, later, t, hbroken, -, hconnection, -⟩
  · exact absurd hdone.recorded ((by decide : ∀ r ∈ rs,
      r.outcomes e ≠ job.collectors.map (·, .loaded)) r hr)
  · exact ⟨d.wire, d', before, failing, later, t, hd', hconnection, hbroken⟩

end Operation

end RouterMetrics

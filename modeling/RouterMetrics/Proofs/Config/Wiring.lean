import RouterMetrics.Http.Routes
import RouterMetrics.Proofs.Config.Rounds
import RouterMetrics.Proofs.Lists
import RouterMetrics.Proofs.Schedule.Order
import RouterMetrics.Scripted
import RouterMetrics.Startup

/-!
# What settings start

Settings demand that groups be polled together: those of an enabled device on a cadence, and the
update check. The main statement, `Startup.wiring`, says that valid settings start a job for every
demand and no other, and that the jobs, the stores of their collectors and the page of metrics
agree with each other.
-/

namespace RouterMetrics

namespace Config

/-- The polling interval of a cadence of a device. A device has no groups on the cadence of what
belongs to none. -/
def DeviceSettings.interval (d : DeviceSettings) : Cadence → Duration
  | .slow => d.slowPollingInterval
  | .fast | .system => d.pollingInterval

/-- What is to be polled together. -/
inductive Demand
  | device (number : Nat) (device : String × DeviceSettings) (cadence : Cadence)
  | updates
deriving DecidableEq

/-- What an enabled device is to be polled for: its groups on each cadence that has any. -/
def deviceDemands (number : Nat) (device : String × DeviceSettings) : List Demand :=
  ([.fast, .slow].filter fun cadence => !(device.2.groups cadence).isEmpty).map
    (.device number device)

/-- What settings ask to be polled, in the order in which it is queued. -/
def Settings.demands (s : Settings) : List Demand :=
  s.enabledDevices.zipIdx.flatMap (fun x => deviceDemands x.2 x.1) ++
    if s.system.checkForUpdates then [.updates] else []

variable {s : Settings} {number : Nat} {device : String × DeviceSettings} {cadence : Cadence}

theorem mem_deviceDemands {x : Demand} : x ∈ deviceDemands number device ↔
    ∃ cadence, x = .device number device cadence ∧ device.2.groups cadence ≠ [] := by
  simp only [deviceDemands, List.mem_map, List.mem_filter, List.mem_cons, List.not_mem_nil,
    or_false, Bool.not_eq_true', List.isEmpty_eq_false_iff]
  constructor
  · rintro ⟨cadence, ⟨-, hgroups⟩, rfl⟩
    exact ⟨cadence, rfl, hgroups⟩
  · rintro ⟨cadence, rfl, hgroups⟩
    cases cadence with
    | fast => exact ⟨.fast, ⟨.inl rfl, hgroups⟩, rfl⟩
    | slow => exact ⟨.slow, ⟨.inr rfl, hgroups⟩, rfl⟩
    | system => exact absurd rfl hgroups

/-- **A device is polled on a cadence iff it is enabled and names groups for it.** -/
theorem device_mem_demands : .device number device cadence ∈ s.demands ↔
    s.enabledDevices[number]? = some device ∧ device.2.groups cadence ≠ [] := by
  have hupdates : .device number device cadence ∉
      (if s.system.checkForUpdates then [Demand.updates] else []) := by split <;> simp
  simp only [Settings.demands, List.mem_append, hupdates, or_false, List.mem_flatMap,
    mem_deviceDemands, Demand.device.injEq]
  constructor
  · rintro ⟨⟨device', number'⟩, hmem, cadence', ⟨rfl, rfl, rfl⟩, hgroups⟩
    exact ⟨List.mem_zipIdx_iff_getElem?.mp hmem, hgroups⟩
  · rintro ⟨hdevice, hgroups⟩
    exact ⟨(device, number), List.mem_zipIdx_iff_getElem?.mpr hdevice, cadence, ⟨rfl, rfl, rfl⟩,
      hgroups⟩

theorem updates_mem_demands : .updates ∈ s.demands ↔ s.system.checkForUpdates = true := by
  have hdevices : .updates ∉ s.enabledDevices.zipIdx.flatMap fun x => deviceDemands x.2 x.1 := by
    simp [mem_deviceDemands]
  simp [Settings.demands, hdevices]

theorem deviceDemands_nodup (number : Nat) (device : String × DeviceSettings) :
    (deviceDemands number device).Nodup := by
  have hcadences : ([.fast, .slow] : List Cadence).Nodup := by decide
  exact (hcadences.filter _).map fun c c' h => by cases h; rfl

/-- Nothing is demanded twice. -/
theorem demands_nodup (s : Settings) : s.demands.Nodup := by
  have hnumbers : s.enabledDevices.zipIdx.Pairwise fun x y => x.2 ≠ y.2 :=
    List.pairwise_map.mp (List.nodup_zipIdx_map_snd _)
  refine List.nodup_append.mpr ⟨List.nodup_flatMap.mpr ⟨fun x _ => deviceDemands_nodup x.2 x.1,
    hnumbers.imp fun {x y} hne => ?_⟩, by split <;> simp, fun a ha b hb => ?_⟩
  · intro a ha hb
    obtain ⟨_, rfl, -⟩ := mem_deviceDemands.mp ha
    obtain ⟨_, heq, -⟩ := mem_deviceDemands.mp hb
    exact hne (Demand.device.inj heq).1
  · obtain ⟨x, -, ha⟩ := List.mem_flatMap.mp ha
    obtain ⟨cadence, rfl, -⟩ := mem_deviceDemands.mp ha
    rintro rfl
    split at hb <;> simp at hb

end Config

open Config

/-! ## Rounds for demands -/

/-- A loop over a list gives an answer when each of its steps does. -/
theorem mapM_isOk {ε α β : Type} {f : α → Except ε β} {l : List α}
    (h : ∀ a ∈ l, ∃ b, f a = .ok b) : ∃ found, l.mapM f = .ok found := by
  induction l with
  | nil => exact ⟨[], rfl⟩
  | cons a rest ih =>
    obtain ⟨⟨b, hb⟩, hrest⟩ := List.forall_mem_cons.mp h
    obtain ⟨found, hfound⟩ := ih hrest
    exact ⟨b :: found, by rw [List.mapM_cons, hb, hfound]; rfl⟩

/-- When each step of a loop gives a list that goes with some list, so does the whole loop. -/
theorem mapM_flatten {ε α β γ : Type} {f : α → Except ε (List β)} {g : α → List γ}
    {R : γ → β → Prop} {l : List α} (h : ∀ a ∈ l, ∃ bs, f a = .ok bs ∧ List.Forall₂ R (g a) bs) :
    ∃ found, l.mapM f = .ok found ∧ List.Forall₂ R (l.flatMap g) found.flatten := by
  induction l with
  | nil => exact ⟨[], rfl, .nil⟩
  | cons a rest ih =>
    obtain ⟨⟨bs, hbs, hfirst⟩, hrest⟩ := List.forall_mem_cons.mp h
    obtain ⟨found, hfound, hlater⟩ := ih hrest
    exact ⟨bs :: found, by rw [List.mapM_cons, hbs, hfound]; rfl, List.rel_append hfirst hlater⟩

theorem Catalog.build_isOk {name : String} (h : isKnown name = true)
    (identity : List (String × String)) (interval : Duration) :
    ∃ c, build name identity interval = .ok c := by
  obtain ⟨g, hg, hname⟩ := List.mem_map.mp (List.contains_iff_mem.mp h)
  have hfound : (group? name).isSome = true := List.find?_isSome.mpr ⟨g, hg, by simp [hname]⟩
  obtain ⟨g', hg'⟩ := Option.isSome_iff_exists.mp hfound
  exact ⟨g'.collector identity interval, by rw [build, hg']⟩

/-- A round polls what is demanded: with one collector for each group of the device on the cadence,
in their order, or with that of the update check. -/
def Round.Meets (s : Settings) (r : Round) : Demand → Prop
  | .device number device cadence =>
    r.device = some number ∧ r.cadence = cadence ∧ r.interval = device.2.interval cadence ∧
      List.Forall₂ (fun name c => ∃ g ∈ Catalog.groups, g.name = name ∧
        c = g.collector (Plan.identity device.1 device.2).labels r.interval)
        (device.2.groups cadence) r.collectors
  | .updates => r.device = none ∧ r.cadence = .system ∧ r.interval = s.system.systemInterval ∧
      r.collectors = [(Catalog.latestVersion s.system.updateChannels).collector [] r.interval]

namespace Plan

variable {s : Settings}

/-- The round of a device on a cadence whose groups are known. -/
theorem deviceRound_meets (s : Settings) (number : Nat) (device : String × DeviceSettings)
    (cadence : Cadence)
    (known : ∀ name ∈ device.2.groups cadence, Catalog.isKnown name = true) :
    ∃ rs, deviceRound number (identity device.1 device.2) cadence (device.2.interval cadence)
        (device.2.groups cadence) = .ok rs ∧
      List.Forall₂ (fun x r => r.Meets s x)
        (([cadence].filter fun cadence => !(device.2.groups cadence).isEmpty).map
          (.device number device)) rs := by
  obtain ⟨collectors, hcollectors⟩ := mapM_isOk fun name hname =>
    Catalog.build_isOk (known name hname) (identity device.1 device.2).labels
      (device.2.interval cadence)
  have hbuilt := mapM_ok hcollectors
  refine ⟨_, by rw [deviceRound, hcollectors]; rfl, ?_⟩
  have hempty : collectors.isEmpty = (device.2.groups cadence).isEmpty := by
    rw [Bool.eq_iff_iff, List.isEmpty_iff_length_eq_zero, List.isEmpty_iff_length_eq_zero,
      hbuilt.length_eq]
  rw [hempty]
  cases h : (device.2.groups cadence).isEmpty with
  | true => simp [h]
  | false =>
    simp only [List.filter_cons, h]
    exact .cons ⟨rfl, rfl, rfl, hbuilt.imp fun _ _ => Catalog.build_ok⟩ .nil

/-- The rounds of a device whose groups are known. -/
theorem deviceRounds_meets (s : Settings) (number : Nat) (device : String × DeviceSettings)
    (known : ∀ cadence, ∀ name ∈ device.2.groups cadence, Catalog.isKnown name = true) :
    ∃ rs, deviceRounds number device.1 device.2 = .ok rs ∧
      List.Forall₂ (fun x r => r.Meets s x) (deviceDemands number device) rs := by
  obtain ⟨fast, hfast, hmeets⟩ := deviceRound_meets s number device .fast (known .fast)
  obtain ⟨slow, hslow, hmeets'⟩ := deviceRound_meets s number device .slow (known .slow)
  simp only [DeviceSettings.groups, DeviceSettings.interval] at hfast hslow
  refine ⟨fast ++ slow, by rw [deviceRounds, hfast, hslow]; rfl, ?_⟩
  have hsplit : deviceDemands number device =
      ([.fast].filter fun cadence => !(device.2.groups cadence).isEmpty).map
          (Demand.device number device) ++
        ([.slow].filter fun cadence => !(device.2.groups cadence).isEmpty).map
          (Demand.device number device) := by
    rw [deviceDemands, ← List.map_append, ← List.filter_append]
    rfl
  rw [hsplit]
  exact List.rel_append hmeets hmeets'

theorem updateRounds_meets (s : Settings) :
    List.Forall₂ (fun x r => r.Meets s x) (if s.system.checkForUpdates then [.updates] else [])
      (updateRounds s.system) := by
  unfold updateRounds
  split
  · exact .cons ⟨rfl, rfl, rfl, rfl⟩ .nil
  · exact .nil

/-- **Valid settings have a plan, and its rounds are those that are demanded**, in their order. -/
theorem ofSettings_meets {s : Settings} (valid : s.check = .ok ()) :
    ∃ p, ofSettings s = .ok p ∧ List.Forall₂ (fun x r => r.Meets s x) s.demands p.rounds ∧
      p.devices = s.enabledDevices.zipIdx.map fun x =>
        Device.create x.2 (identity x.1.1 x.1.2) s.system.backoff := by
  have hdevices : ∀ x ∈ s.enabledDevices.zipIdx, ∃ rs, deviceRounds x.2 x.1.1 x.1.2 = .ok rs ∧
      List.Forall₂ (fun x r => r.Meets s x) (deviceDemands x.2 x.1) rs := by
    intro x hx
    have hmem : x.1 ∈ s.devices.toList :=
      List.mem_of_mem_filter (List.mem_of_getElem? (List.mem_zipIdx_iff_getElem?.mp hx))
    exact deviceRounds_meets s x.2 x.1 (Settings.groups_known valid hmem)
  obtain ⟨found, hfound, hmeets⟩ := mapM_flatten hdevices
  exact ⟨⟨_, found.flatten ++ updateRounds s.system⟩, by rw [ofSettings, hfound]; rfl,
    List.rel_append hmeets (updateRounds_meets s), rfl⟩

/-! ## Jobs of rounds -/

/-- A job is of a round when it takes the round's device, cadence and interval, and the numbers that
the round's collectors have among all. -/
structure Numbers (all : List Collector) (r : Round) (j : Job) : Prop where
  device_eq : j.device = r.device
  cadence_eq : j.cadence = r.cadence
  interval_eq : j.interval = r.interval
  collectors : List.Forall₂ (fun c i => all[i]? = some c) r.collectors j.collectors

theorem getElem?_range' {α : Type} {all part after : List α} {first : Nat}
    (h : all.drop first = part ++ after) :
    List.Forall₂ (fun c i => all[i]? = some c) part (List.range' first part.length) := by
  induction part generalizing first with
  | nil => exact .nil
  | cons c rest ih =>
    have hfirst : all[first]? = some c := by
      rw [← Nat.add_zero first, ← List.getElem?_drop, h]
      rfl
    refine .cons hfirst (ih ?_)
    rw [← List.drop_drop, h]
    rfl

theorem jobsFrom_numbers {all : List Collector} {first : Nat} {rounds : List Round}
    (h : all.drop first = rounds.flatMap (·.collectors)) :
    List.Forall₂ (Numbers all) rounds (jobsFrom first rounds) := by
  induction rounds generalizing first with
  | nil => exact .nil
  | cons r rest ih =>
    rw [List.flatMap_cons] at h
    refine .cons ⟨rfl, rfl, rfl, getElem?_range' h⟩ (ih ?_)
    rw [← List.drop_drop, h, List.drop_left]

/-- **All collectors are numbered through**, so each of them is in one job, once. -/
theorem jobsFrom_collectors (first : Nat) (rounds : List Round) :
    (jobsFrom first rounds).flatMap (·.collectors) =
      List.range' first (rounds.flatMap (·.collectors)).length := by
  induction rounds generalizing first with
  | nil => rfl
  | cons r rest ih =>
    rw [jobsFrom, List.flatMap_cons, ih, List.flatMap_cons, List.length_append]
    exact List.range'_append_1 ..

end Plan

/-! ## Jobs for demands -/

/-- A collector is that of a group, and all its stores have an identity and an interval. -/
structure Collector.Serves (c : Collector) (g : Group) (identity : List (String × String))
    (interval : Duration) : Prop where
  name_eq : c.name = g.name
  stages_eq : c.stages.map (·.stage) = g.stages
  stores : ∀ live ∈ c.stages, live.store.identity = identity ∧ live.store.interval = interval

theorem Group.collector_serves (g : Group) (identity : List (String × String))
    (interval : Duration) : (g.collector identity interval).Serves g identity interval where
  name_eq := rfl
  stages_eq := g.collector_stages identity interval
  stores := by
    intro live hlive
    obtain ⟨st, -, rfl⟩ := List.mem_map.mp hlive
    exact ⟨rfl, rfl⟩

/-- **A job polls what is demanded**: at the interval of the device on the cadence, with one
collector of those in a plan for each group that is named, in their order, and the stores of each
have that interval and the identity of the device. The job of the update check has the one collector
for that, without an identity. -/
def Job.Meets (s : Settings) (p : Plan) (j : Job) : Demand → Prop
  | .device number device cadence =>
    j.device = some number ∧ j.cadence = cadence ∧ j.interval = device.2.interval cadence ∧
      ∃ d, p.devices[number]? = some d ∧ d.identity = ⟨device.1, device.2.hostname⟩ ∧
        List.Forall₂ (fun name i => ∃ g ∈ Catalog.groups, g.name = name ∧
          ∃ c, p.collectors[i]? = some c ∧ c.Serves g d.identity.labels j.interval)
          (device.2.groups cadence) j.collectors
  | .updates => j.device = none ∧ j.cadence = .system ∧ j.interval = s.system.systemInterval ∧
      ∃ i c, j.collectors = [i] ∧ p.collectors[i]? = some c ∧
        c.Serves (Catalog.latestVersion s.system.updateChannels) [] j.interval

theorem Round.Meets.job {s : Settings} {p : Plan} {r : Round} {j : Job} {x : Demand}
    (hdevices : p.devices = s.enabledDevices.zipIdx.map fun x =>
      Device.create x.2 (Plan.identity x.1.1 x.1.2) s.system.backoff)
    (hx : x ∈ s.demands) (h : r.Meets s x) (numbers : Plan.Numbers p.collectors r j) :
    j.Meets s p x := by
  cases x with
  | device number device cadence =>
    obtain ⟨hdevice, hcadence, hinterval, hcollectors⟩ := h
    have henabled := (device_mem_demands.mp hx).1
    refine ⟨numbers.device_eq.trans hdevice, numbers.cadence_eq.trans hcadence,
      numbers.interval_eq.trans hinterval,
      Device.create number (Plan.identity device.1 device.2) s.system.backoff, ?_, rfl, ?_⟩
    · rw [hdevices, List.getElem?_map, List.getElem?_zipIdx, henabled]
      simp
    · refine (forall₂_comp hcollectors numbers.collectors).imp fun name i hc => ?_
      obtain ⟨c, ⟨g, hg, hname, rfl⟩, hi⟩ := hc
      refine ⟨g, hg, hname, _, hi, ?_⟩
      rw [numbers.interval_eq]
      exact g.collector_serves _ _
  | updates =>
    obtain ⟨hdevice, hcadence, hinterval, hcollectors⟩ := h
    have hone := numbers.collectors
    rw [hcollectors] at hone
    obtain ⟨i, rest, hi, hrest, hj⟩ := List.forall₂_cons_left_iff.mp hone
    cases hrest
    refine ⟨numbers.device_eq.trans hdevice, numbers.cadence_eq.trans hcadence,
      numbers.interval_eq.trans hinterval, i, _, hj, hi, ?_⟩
    rw [numbers.interval_eq]
    exact Group.collector_serves _ _ _

/-! ## The start -/

theorem Device.connect_identity {σ : Type} (w : World σ) (d : Device) (s : σ) :
    (d.connect w s).2.1.identity = d.identity := by
  unfold connect
  simp only
  split
  · rfl
  · rfl

/-- To connect a device changes neither the collectors nor who the devices are. -/
theorem Operation.connect_keeps {γ σ : Type} (w : World σ) (number : Nat) (o : Operation γ σ) :
    (o.connect w number).exporter.collectors = o.exporter.collectors ∧
      (o.connect w number).exporter.devices.map (·.identity) =
        o.exporter.devices.map (·.identity) := by
  unfold connect
  split
  case h_1 => exact ⟨rfl, rfl⟩
  case h_2 d hd =>
    refine ⟨rfl, ?_⟩
    show (o.exporter.devices.set number (d.connect w o.world).2.1).map (·.identity) = _
    rw [List.map_set, d.connect_identity]
    have hsame : (o.exporter.devices.map (·.identity))[number]? = some d.identity := by
      rw [List.getElem?_map, show o.exporter.devices[number]? = some d from hd]
      rfl
    exact List.ext_getElem? fun i => by grind

namespace Startup

variable {σ : Type}

theorem connectAll_keeps (w : World σ) (o : Operation Collector σ) :
    (connectAll w o).exporter.collectors = o.exporter.collectors ∧
      (connectAll w o).exporter.devices.map (·.identity) =
        o.exporter.devices.map (·.identity) := by
  unfold connectAll
  generalize List.range o.exporter.devices.length = numbers
  induction numbers generalizing o with
  | nil => exact ⟨rfl, rfl⟩
  | cons number rest ih =>
    obtain ⟨hcollectors, hdevices⟩ := ih (o.connect w number)
    obtain ⟨hcollectors', hdevices'⟩ := o.connect_keeps w number
    exact ⟨hcollectors.trans hcollectors', hdevices.trans hdevices'⟩

/-- The loop starts with the jobs of a plan. -/
theorem queue?_jobs {s : SystemSettings} {p : Plan} {now : Moment} {sch : Scheduler}
    (h : queue? s p now = some sch) : (sch.queue.map (·.job)).Perm p.jobs := by
  obtain ⟨hqueue, -⟩ := Scheduler.addAll_queue s.reconnectDelay s.startupStagger now.lastFrom
    (p.jobs.map fun job => (job, now))
  have hjobs : ((p.jobs.map fun job => (job, now)).mapIdx
      (Scheduler.firstEntry s.startupStagger)).map (·.job) = p.jobs :=
    List.ext_getElem? fun i => by cases h : p.jobs[i]? <;> simp [Scheduler.firstEntry, h]
  have hall := hqueue.map (·.job)
  rwa [hjobs, ← Scheduler.ofJobs?_eq_addAll h] at hall

/-- The loop starts exactly when the clock can tell when the jobs of the plan are first due. -/
theorem queue?_cases (s : SystemSettings) (p : Plan) (now : Moment) :
    (Scheduler.FirstRunsFit s.startupStagger p.jobs.length →
        ∃ sch, queue? s p now = some sch ∧ (sch.queue.map (·.job)).Perm p.jobs) ∧
      (¬ Scheduler.FirstRunsFit s.startupStagger p.jobs.length → queue? s p now = none) := by
  have hfits : (queue? s p now).isSome = true ↔ _ := Scheduler.ofJobs?_isSome_iff
  constructor
  · intro h
    obtain ⟨sch, hsch⟩ := Option.isSome_iff_exists.mp (hfits.mpr h)
    exact ⟨sch, hsch, queue?_jobs hsch⟩
  · intro h
    rwa [← hfits, Bool.not_eq_true, Option.isSome_eq_false_iff, Option.isNone_iff_eq_none] at h

/-- **The start is wired consistently.** Let settings be valid, and let there be an endpoint for
every enabled device. Then there is a plan, and the exporter starts with it when its statistics can
have their names. The plan has one job for each demand of the settings, in their order, and no
other, where a device is to be polled on a cadence iff it is enabled and names groups for it, and
for updates iff the settings say so. A job has the interval of its demand, one collector for each
group that is named, in their order, and all stores of these have that interval and the identity of
the job's device. Every collector is in exactly one job, once. What is launched with the plan shows
exactly these collectors and has the devices of the plan. And a loop is launched with exactly these
jobs queued, unless their first runs, one stagger apart, go beyond what the clock can tell: then
there is none. -/
theorem wiring {s : Settings} {env : Environment} {endpoints : List Rest.Endpoint}
    (valid : s.check = .ok ()) (built : Startup.endpoints s env = .ok endpoints) :
    ∃ p, Plan.ofSettings s = .ok p ∧
      (∀ stats, LoadStats.create s.system.namePrefix = .ok stats →
        Startup.begin s env = .ok (stats, p, endpoints)) ∧
      List.Forall₂ (fun x j => j.Meets s p x) s.demands p.jobs ∧
      (s.demands.Nodup ∧
        (∀ number device cadence, .device number device cadence ∈ s.demands ↔
          s.enabledDevices[number]? = some device ∧ device.2.groups cadence ≠ []) ∧
        (∀ device, device ∈ s.enabledDevices ↔
          device ∈ s.devices.toList ∧ device.2.enabled = true) ∧
        (.updates ∈ s.demands ↔ s.system.checkForUpdates = true)) ∧
      p.jobs.flatMap (·.collectors) = List.range p.collectors.length ∧
      ∀ {σ : Type} (w : World σ) (stats : LoadStats) (world : σ),
        let (sch?, o) := launch w s.system p stats world
        (Http.Site.ofExporter o.exporter).collectors = p.collectors ∧
          o.exporter.devices.map (·.identity) = p.devices.map (·.identity) ∧
          (Scheduler.FirstRunsFit s.system.startupStagger p.jobs.length →
            ∃ sch, sch? = some sch ∧ (sch.queue.map (·.job)).Perm p.jobs) ∧
          (¬ Scheduler.FirstRunsFit s.system.startupStagger p.jobs.length → sch? = none) := by
  obtain ⟨p, hplan, hrounds, hdevices⟩ := Plan.ofSettings_meets valid
  refine ⟨p, hplan, fun stats hstats => ?_, ?_, ⟨demands_nodup s,
    fun _ _ _ => device_mem_demands, fun _ => List.mem_filter, updates_mem_demands⟩, ?_,
    fun w stats world => ?_⟩
  · simp only [begin, prepare, hstats, hplan, built]
    rfl
  · have hnumbers : List.Forall₂ (Plan.Numbers p.collectors) p.rounds p.jobs :=
      Plan.jobsFrom_numbers rfl
    have hboth := (List.forall₂_and_left _ _).mpr ⟨fun x hx => hx, forall₂_comp hrounds hnumbers⟩
    exact hboth.imp fun x j ⟨hx, r, hmeets, hnumbers⟩ => hmeets.job hdevices hx hnumbers
  · rw [Plan.jobs, Plan.jobsFrom_collectors, List.range_eq_range']
    rfl
  · obtain ⟨hcollectors, hidentities⟩ :=
      connectAll_keeps w (Operation.start w (exporter p stats) world)
    exact ⟨hcollectors, hidentities, queue?_cases s.system p _⟩

/-- Two devices that are polled on different cadences with a disabled one between them, and the
update check. -/
def campus : Settings where
  system := { checkForUpdates := true }
  devices := Dict.ofList [
    ("annex", {
      hostname := "fd00::1", username := "prometheus"
      collectors := ["dhcp", "arp"], slowCollectors := ["health"] }),
    ("barn", {
      enabled := false, hostname := "fd00::2", username := "prometheus"
      collectors := ["interface"] }),
    ("camp", {
      hostname := "fd00::3", username := "prometheus"
      slowPollingInterval := .ofSeconds 90, slowCollectors := ["interface"] })]

/-- They start four jobs, and the disabled device has no number. The loop is launched with these
jobs. -/
theorem wiring_campus : ∃ endpoints p, campus.check = .ok () ∧
    Startup.endpoints campus Dict.empty = .ok endpoints ∧ Plan.ofSettings campus = .ok p ∧
      p.jobs.map (fun j => (j.device, j.cadence, j.interval.seconds, j.collectors)) =
        [(some 0, .fast, 10, [0, 1]), (some 0, .slow, 60, [2]), (some 1, .slow, 90, [3]),
          (none, .system, 3600, [4])] ∧
      List.Forall₂ (fun x j => j.Meets campus p x) campus.demands p.jobs ∧
      p.jobs.flatMap (·.collectors) = List.range p.collectors.length ∧
      ∃ sch o, launch Scene.world campus.system p (.empty "campus")
          (.start 0 [.silent, .silent]) = (some sch, o) ∧
        (Http.Site.ofExporter o.exporter).collectors = p.collectors ∧
        (sch.queue.map (·.job)).Perm p.jobs := by
  have valid : campus.check = .ok () := by decide +kernel
  have hbuilt : (Startup.endpoints campus Dict.empty).isOk = true := by decide +kernel
  have hjobs : ∀ p ∈ (Plan.ofSettings campus).toOption,
      p.jobs.map (fun j => (j.device, j.cadence, j.interval.seconds, j.collectors)) =
        [(some 0, .fast, 10, [0, 1]), (some 0, .slow, 60, [2]), (some 1, .slow, 90, [3]),
          (none, .system, 3600, [4])] := by decide +kernel
  cases hendpoints : Startup.endpoints campus Dict.empty with
  | error e =>
    rw [hendpoints] at hbuilt
    cases hbuilt
  | ok endpoints =>
    obtain ⟨p, hplan, -, hmeets, -, hcollectors, hlaunch⟩ := wiring valid hendpoints
    have hfour := hjobs p (by rw [hplan]; rfl)
    obtain ⟨hshown, -, hqueued, -⟩ := hlaunch Scene.world (.empty "campus")
      (.start 0 [.silent, .silent])
    have hfits : Scheduler.FirstRunsFit campus.system.startupStagger p.jobs.length := by
      rw [show p.jobs.length = 4 by simpa using congrArg List.length hfour]
      decide
    obtain ⟨sch, hsch, hqueue⟩ := hqueued hfits
    exact ⟨endpoints, p, valid, rfl, hplan, hfour, hmeets, hcollectors, sch, _, Prod.ext hsch rfl,
      hshown, hqueue⟩

end Startup

end RouterMetrics

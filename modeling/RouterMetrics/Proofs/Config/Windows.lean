import RouterMetrics.Calendar.Moment
import RouterMetrics.Config
import RouterMetrics.Proofs.Collector.Releases
import RouterMetrics.Proofs.Config.Wiring
import RouterMetrics.Proofs.Exposition.Readings

/-!
# Windows of configured intervals

The window of a store is one and a half intervals. It is worked out from three intervals, and these
need not be a duration any more. A store can be read while it has nothing to show or three of its
intervals are a duration (`Store.Readable`), and then it compares the age of its records with the
window (`Store.fresh?_eq`). Accepted settings bound their intervals from below only, so their
metrics can always be read exactly when three times every interval that they demand is a duration
(`Config.windows`).
-/

namespace RouterMetrics

variable {σ : Type}

/-! ## Durations -/

namespace Duration

/-- Three times a duration is a duration, too. -/
def Triples (d : Duration) : Prop := d.ns * 3 < (1 <<< 64) * nanosPerSecond

instance (d : Duration) : Decidable d.Triples := inferInstanceAs (Decidable (_ < _))

theorem scale?_isSome_iff {d : Duration} : (d.scale? 3).isSome = true ↔ d.Triples := by
  unfold scale? ofNs? Triples nanosPerSecond
  split
  case isTrue h => simpa using h
  case isFalse h => simpa using h

/-- The longest age that can be told: its milliseconds are counted in 63 bits. -/
def longestAge : Nat := ((1 <<< 63) - 1) * nanosPerMilli

/-- A duration as an age, the longest one when it cannot be told. -/
def age (d : Duration) : Nat := min d.ns longestAge

/-- Between moments of the calendar no age is the longest. -/
theorem lt_age_iff {t stamp : Moment} (ht : t.dated?.isSome = true)
    (hstamp : stamp.dated?.isSome = true) (d : Duration) :
    t - stamp < (d.age : Int) ↔ t - stamp < (d.ns : Int) := by
  have hcalendar : Moment.calendarEnd - Moment.ofYear CivilDate.yearRange.1 ≤ (longestAge : Int) := by
    decide +kernel
  have hyoung : t - stamp < (longestAge : Int) := by
    simp only [Moment.dated?, Option.isSome_ite] at ht hstamp
    unfold Moment at *
    omega
  rw [age, Nat.cast_min]
  exact lt_min_iff.trans (and_iff_left hyoung)

end Duration

/-! ## Stores -/

namespace Store

variable {s : Store} {t : Moment}

/-- A store has got records. -/
def Filled (s : Store) : Prop := s.snapshot.stamp.isSome = true ∧ s.snapshot.records ≠ []

/-- A store can be read: three of its intervals are a duration, or it has nothing to show. -/
def Readable (s : Store) : Prop := s.Filled → s.interval.Triples

instance (s : Store) : Decidable s.Filled := inferInstanceAs (Decidable (_ ∧ _))

instance (s : Store) : Decidable s.Readable := inferInstanceAs (Decidable (_ → _))

instance (s : Store) (t : Moment) : Decidable (s.ShowsAt t) :=
  inferInstanceAs (Decidable (_ ∧ ∃ stamp ∈ s.snapshot.stamp, _))

theorem ShowsAt.filled (h : s.ShowsAt t) : s.Filled := by
  obtain ⟨hsome, stamp, hstamp, -⟩ := h
  exact ⟨by rw [hstamp]; rfl, hsome⟩

/-- **The window is one and a half intervals, rounded down**, when three of them are a duration. -/
theorem window?_eq_if (s : Store) : s.window?.map (·.ns) =
    if s.interval.Triples then some (s.interval.ns * 3 / 2) else none := by
  split
  case isTrue fits =>
    obtain ⟨window, hwindow, hns⟩ := window?_eq (Duration.scale?_isSome_iff.mpr fits)
    rw [hwindow, Option.map_some, hns]
  case isFalse fits =>
    rw [← Duration.scale?_isSome_iff, Bool.not_eq_true, Option.isSome_eq_false_iff,
      Option.isNone_iff_eq_none] at fits
    rw [window?, fits]
    rfl

/-- **A store that can be read is fresh while its records are younger than the window**, and of one
that cannot be read nothing is told. -/
theorem fresh?_eq (s : Store) (t : Moment) :
    s.fresh? t = if s.Readable then some (decide (s.ShowsAt t)) else none := by
  by_cases fits : s.interval.Triples
  · obtain ⟨fresh, hfresh, hiff⟩ := fresh?_iff (Duration.scale?_isSome_iff.mpr fits) t
    have readable : s.Readable := fun _ => fits
    rw [if_pos readable, hfresh, Option.some_inj, Bool.eq_iff_iff, hiff, decide_eq_true_iff]
  · have hwindow : s.window? = none := by
      rw [← Option.map_eq_none_iff (f := (·.ns)), window?_eq_if, if_neg fits]
    cases hstamp : s.snapshot.stamp with
    | none => simp [fresh?, Readable, Filled, ShowsAt, hstamp]
    | some stamp =>
      by_cases hsome : s.snapshot.records = []
      · simp [fresh?, Readable, Filled, ShowsAt, hstamp, hsome]
      · simp [fresh?, Readable, Filled, hstamp, hsome, hwindow, fits]

/-- **What is read of a store is what it shows while it is fresh.** -/
theorem collect?_eq (s : Store) (t : Moment) :
    s.collect? t =
      if s.Readable then some (if s.ShowsAt t then s.shown else []) else none := by
  rw [collect?, fresh?_eq]
  split
  · simp
  · rfl

theorem collect?_isSome_iff : (s.collect? t).isSome = true ↔ s.Readable := by
  rw [collect?_eq, Option.isSome_ite]

/-- Whether a store is fresh when its window is taken as an age. -/
def agedFresh? (s : Store) (now : Moment) : Option Bool :=
  match s.snapshot.stamp with
  | none => some false
  | some stamp =>
    if s.snapshot.records.isEmpty then some false
    else s.window?.map fun w => decide (now - stamp < (w.age : Int))

/-- **No window is too long for an age**: a moment of the calendar is younger than the longest. -/
theorem agedFresh?_eq (ht : t.dated?.isSome = true)
    (hstamp : ∀ stamp ∈ s.snapshot.stamp, (Moment.dated? stamp).isSome = true) :
    s.agedFresh? t = s.fresh? t := by
  unfold agedFresh? fresh?
  cases h : s.snapshot.stamp with
  | none => rfl
  | some stamp => simp only [Duration.lt_age_iff ht (hstamp stamp h)]

end Store

/-! ## Pages -/

/-- A loop over a list has a result when each of its steps has one. -/
theorem mapM_isSome_iff {α β : Type} {f : α → Option β} {l : List α} :
    (l.mapM f).isSome = true ↔ ∀ a ∈ l, (f a).isSome = true := by
  induction l with
  | nil => simp
  | cons a rest ih =>
    rw [List.mapM_cons, List.forall_mem_cons, ← ih]
    cases f a with
    | none => simp
    | some b => cases rest.mapM f <;> simp

/-- The stores of a collector. -/
def Collector.stores (c : Collector) : List Store := c.stages.map (·.store)

/-- The stores of all collectors. -/
def Plan.stores (p : Plan) : List Store := p.collectors.flatMap Collector.stores

theorem Collector.collect?_isSome_iff {c : Collector} {t : Moment} :
    (c.collect? t).isSome = true ↔ ∀ st ∈ c.stores, st.Readable := by
  rw [collect?, Option.isSome_map, mapM_isSome_iff, stores, List.forall_mem_map]
  exact forall₂_congr fun live _ => Store.collect?_isSome_iff

/-- **The page of metrics can be read when all stores can be.** -/
theorem Plan.families?_isSome_iff {p : Plan} {site : Http.Site} {t : Moment}
    (hsite : site.collectors = p.collectors) :
    (site.families? t).isSome = true ↔ ∀ st ∈ p.stores, st.Readable := by
  rw [Http.Site.families?, Option.isSome_map, mapM_isSome_iff, hsite, stores, List.forall_mem_flatMap]
  exact forall₂_congr fun c _ => Collector.collect?_isSome_iff

/-! ## Intervals -/

namespace Config

/-- The interval at which something is demanded. -/
def Demand.interval (s : Settings) : Demand → Duration
  | .device _ d cadence => d.2.interval cadence
  | .updates => s.system.systemInterval

variable {s : Settings}

/-- A device is polled no faster than once a second on any cadence. -/
theorem Settings.second_le_interval (valid : s.check = .ok ())
    {device : String × DeviceSettings} (h : device ∈ s.devices.toList) (cadence : Cadence) :
    nanosPerSecond ≤ (device.2.interval cadence).ns := by
  have hdevice := check_device valid h
  simp only [DeviceSettings.check, Except.bind_ok, require_ok] at hdevice
  obtain ⟨_, -, _, -, _, -, _, hfast, _, hslow, -⟩ := hdevice
  cases cadence with
  | slow => exact of_decide_eq_true hslow
  | fast => exact of_decide_eq_true hfast
  | system => exact of_decide_eq_true hfast

/-- What is checked of the update check: it is made no faster than once a second, and for a channel
at least. -/
theorem Settings.updates_valid (valid : s.check = .ok ()) :
    nanosPerSecond ≤ s.system.systemInterval.ns ∧
      (s.system.checkForUpdates = true → s.system.updateChannels ≠ []) := by
  simp only [Settings.check, SystemSettings.check, Except.bind_ok, require_ok] at valid
  obtain ⟨_, ⟨_, -, _, -, _, -, _, -, _, -, _, -, _, -, _, hinterval, hchannels⟩, -⟩ := valid
  refine ⟨of_decide_eq_true hinterval, fun hupdates => ?_⟩
  simpa [hupdates] using hchannels

/-- **Nothing is demanded more often than once a second.** -/
theorem Demand.second_le_interval (valid : s.check = .ok ()) {x : Demand} (hx : x ∈ s.demands) :
    nanosPerSecond ≤ (x.interval s).ns := by
  cases x with
  | device number device cadence =>
    have hmem := List.mem_of_getElem? (device_mem_demands.mp hx).1
    exact Settings.second_le_interval valid (List.mem_of_mem_filter hmem) cadence
  | updates => exact (Settings.updates_valid valid).1

end Config

open Config

/-- The collectors of a round are those of groups, at the interval that is demanded. -/
theorem Round.Meets.collector {s : Settings} {r : Round} {x : Demand} (h : r.Meets s x)
    {c : Collector} (hc : c ∈ r.collectors) :
    ∃ g identity, c = Group.collector g identity (x.interval s) := by
  cases x with
  | device number device cadence =>
    obtain ⟨-, -, hinterval, hcollectors⟩ := h
    obtain ⟨n, hn, rfl⟩ := List.getElem_of_mem hc
    obtain ⟨g, -, -, hg⟩ :=
      (List.forall₂_iff_get.mp hcollectors).2 n (hcollectors.length_eq ▸ hn) hn
    exact ⟨g, _, by rw [Demand.interval, ← hinterval]; exact hg⟩
  | updates =>
    obtain ⟨-, -, hinterval, hcollectors⟩ := h
    rw [hcollectors, List.mem_singleton] at hc
    exact ⟨_, _, by rw [Demand.interval, ← hinterval]; exact hc⟩

namespace Plan

variable {w : World σ} {p : Plan} {history : Nat → Nat → List (Load σ)}

theorem mem_collectors_after {c : Collector} : c ∈ (p.after w history).collectors ↔
    ∃ (n : Nat) (r : Round) (m : Nat) (c' : Collector), p.rounds[n]? = some r ∧ r.collectors[m]? = some c' ∧
      c = c'.after w (history n m) := by
  constructor
  · intro h
    obtain ⟨_, hr, hc⟩ := List.mem_flatMap.mp h
    obtain ⟨n, hn, rfl⟩ := List.mem_mapIdx.mp hr
    obtain ⟨m, hm, rfl⟩ := List.mem_mapIdx.mp hc
    exact ⟨n, _, m, _, List.getElem?_eq_getElem hn, List.getElem?_eq_getElem hm, rfl⟩
  · rintro ⟨n, r, m, c', hr, hc', rfl⟩
    obtain ⟨hn, rfl⟩ := List.getElem?_eq_some_iff.mp hr
    obtain ⟨hm, rfl⟩ := List.getElem?_eq_some_iff.mp hc'
    exact List.mem_flatMap.mpr
      ⟨_, List.mem_mapIdx.mpr ⟨n, hn, rfl⟩, List.mem_mapIdx.mpr ⟨m, hm, rfl⟩⟩

/-- **A store has the interval of a demand**, and its records are stamped with the time of a
load. -/
theorem mem_stores_after {s : Settings}
    (hrounds : List.Forall₂ (fun x r => r.Meets s x) s.demands p.rounds) {st : Store}
    (h : st ∈ (p.after w history).stores) :
    (∃ x ∈ s.demands, st.interval = x.interval s) ∧
      ∀ stamp ∈ st.snapshot.stamp, ∃ n m, ∃ l ∈ history n m, l.now = stamp := by
  obtain ⟨c, hc, hst⟩ := List.mem_flatMap.mp h
  obtain ⟨live, hlive, rfl⟩ := List.mem_map.mp hst
  obtain ⟨n, r, m, c', hr, hc', rfl⟩ := mem_collectors_after.mp hc
  obtain ⟨hn, rfl⟩ := List.getElem?_eq_some_iff.mp hr
  have hn' : n < s.demands.length := hrounds.length_eq ▸ hn
  have hmeets := (List.forall₂_iff_get.mp hrounds).2 n hn' hn
  obtain ⟨g, identity, rfl⟩ := hmeets.collector (List.mem_of_getElem? hc')
  obtain ⟨i, hi⟩ := List.mem_iff_getElem?.mp hlive
  obtain ⟨-, hall⟩ := Collector.after_holds w g identity (Demand.interval s s.demands[n])
    (history n m)
  obtain ⟨hmade, hholds⟩ := hall i live hi
  refine ⟨⟨_, List.getElem_mem hn', hmade.settings.2.2.2.2⟩, fun stamp hstamp => ⟨n, m, ?_⟩⟩
  rcases hholds with ⟨before, l, later, d, rows, hsplit, -, -, -, hsnapshot⟩ | ⟨-, hempty⟩
  · rw [hsnapshot] at hstamp
    cases hstamp
    exact ⟨l, by rw [hsplit]; simp, rfl⟩
  · rw [hempty] at hstamp
    cases hstamp

end Plan

/-! ## Histories that fill stores -/

/-- A load gets records for the first stage of a group. -/
def Group.Fills (w : World σ) (g : Group) (l : Load σ) : Prop :=
  ∃ st rest d rows, g.stages = st :: rest ∧ (l.fetches w g.stages)[0]? = some (.ok (d, rows)) ∧
    ∃ r ∈ st.process d rows, r.isDisabled = false

/-- A group whose first stage has got records has a store that is filled. -/
theorem Group.Fills.filled {w : World σ} {g : Group} {l : Load σ} (h : g.Fills w l)
    (identity : List (String × String)) (interval : Duration) :
    ∃ st ∈ ((g.collector identity interval).after w [l]).stores, st.Filled := by
  obtain ⟨st, rest, d, rows, hstages, hgot, r, hr, henabled⟩ := h
  let live : LiveStage :=
    ⟨st, Store.create identity st.labels st.translations st.series interval⟩
  have hfirst : ((g.collector identity interval).after w [l]).stages[0]? =
      some (Collector.store l.now live (some (.ok (d, rows)))) := by
    have hlive : (g.collector identity interval).stages[0]? = some live := by
      rw [Group.collector, hstages]
      rfl
    rw [← hgot, Load.fetches, ← g.collector_stages identity interval]
    exact (Collector.loadStages_kept ..).trans (by rw [hlive]; rfl)
  refine ⟨_, List.mem_map_of_mem (List.mem_of_getElem? hfirst), rfl, ?_⟩
  have hkept : live.store.normalize r ≠ none := by
    rw [Store.normalize, henabled]
    simp
  obtain ⟨r', hr'⟩ := Option.ne_none_iff_exists'.mp hkept
  exact List.ne_nil_of_mem (List.mem_filterMap.mpr ⟨r, hr, hr'⟩)

/-- A world in which no time passes, every call is answered with one row, and no channel has an
answer. -/
def echo (row : Record) : World Unit where
  clock := fun _ => 0
  sleepUntil := fun _ s => s
  handshake := fun _ s => (.ok (), s)
  call := fun _ _ s => (.ok [row], s)
  release := fun _ s => (none, s)

/-- A row that no group leaves out. -/
def port : Record :=
  Dict.ofList [("bytes", .text "10,20"), ("name", .text "ether1"), ("running", .text "true"),
    ("user", .text "guest")]

/-- A load of a device that is connected, in a world without a state. -/
def visit : Load Unit := ⟨0, some Collector.gateway, ()⟩

theorem Catalog.groups_fill {g : Group} (hg : g ∈ Catalog.groups) : g.Fills (echo port) visit := by
  have hall : ∀ g ∈ Catalog.groups, (g.stages.head?.any fun st =>
      (visit.fetches (echo port) g.stages)[0]?.any fun got => got.toOption.any fun x =>
        (st.process x.1 x.2).any fun r => !r.isDisabled) = true := by decide +kernel
  obtain ⟨st, hst, hone⟩ := (Option.any_eq_true ..).mp (hall g hg)
  obtain ⟨got, hgot, hone⟩ := (Option.any_eq_true ..).mp hone
  obtain ⟨⟨d, rows⟩, hx, hone⟩ := (Option.any_eq_true ..).mp hone
  obtain ⟨r, hr, henabled⟩ := List.any_eq_true.mp hone
  obtain ⟨rest, hstages⟩ := List.head?_eq_some_iff.mp hst
  refine ⟨st, rest, d, rows, hstages, ?_, r, hr, by simpa using henabled⟩
  rw [hgot]
  cases got with
  | error e => cases hx
  | ok x =>
    cases hx
    rfl

theorem Catalog.latestVersion_fills {channels : List String} (h : channels ≠ []) :
    (latestVersion channels).Fills (echo port) visit := by
  obtain ⟨channel, rest, rfl⟩ := List.exists_cons_of_ne_nil h
  have hrun := Fetch.run_releases (echo port) (channel :: rest) visit.device visit.found
  refine ⟨Release.stage (channel :: rest), [], _, _, rfl,
    by rw [Load.fetches]; exact congrArg (·[0]?) (Collector.fetches_of_ok hrun []), ?_⟩
  exact ⟨_, by rw [Release.stage_process]; exact List.mem_cons_self,
    Release.isDisabled_releaseRecord ..⟩

/-- **Whatever is demanded can have a store that is filled.** -/
theorem Plan.exists_filled {s : Settings} {p : Plan} (valid : s.check = .ok ())
    (hrounds : List.Forall₂ (fun x r => r.Meets s x) s.demands p.rounds) {x : Demand}
    (hx : x ∈ s.demands) :
    ∃ st ∈ (p.after (echo port) fun _ _ => [visit]).stores,
      st.interval = x.interval s ∧ st.Filled := by
  obtain ⟨n, hn, rfl⟩ := List.getElem_of_mem hx
  have hn' : n < p.rounds.length := hrounds.length_eq ▸ hn
  have hmeets : p.rounds[n].Meets s s.demands[n] :=
    (List.forall₂_iff_get.mp hrounds).2 n hn hn'
  have hfirst : ∃ g identity c, p.rounds[n].collectors[0]? = some c ∧
      c = Group.collector g identity (s.demands[n].interval s) ∧ g.Fills (echo port) visit := by
    generalize s.demands[n] = x at hx hmeets
    cases x with
    | device number device cadence =>
      obtain ⟨-, -, hinterval, hcollectors⟩ := hmeets
      obtain ⟨name, names, hnames⟩ :=
        List.exists_cons_of_ne_nil (device_mem_demands.mp hx).2
      rw [hnames] at hcollectors
      obtain ⟨c, rest, ⟨g, hg, -, hc⟩, -, hsplit⟩ := List.forall₂_cons_left_iff.mp hcollectors
      exact ⟨g, _, c, by rw [hsplit]; rfl, by rw [Demand.interval, ← hinterval]; exact hc,
        Catalog.groups_fill hg⟩
    | updates =>
      obtain ⟨-, -, hinterval, hcollectors⟩ := hmeets
      have hchannels := (Settings.updates_valid valid).2 (updates_mem_demands.mp hx)
      exact ⟨_, _, _, by rw [hcollectors]; rfl, by rw [Demand.interval, ← hinterval],
        Catalog.latestVersion_fills hchannels⟩
  obtain ⟨g, identity, c, hc, rfl, hfills⟩ := hfirst
  obtain ⟨st, hst, hfilled⟩ := hfills.filled identity (s.demands[n].interval s)
  have hmem : (Group.collector g identity (s.demands[n].interval s)).after (echo port) [visit] ∈
      (p.after (echo port) fun _ _ => [visit]).collectors :=
    mem_collectors_after.mpr ⟨n, _, 0, _, List.getElem?_eq_getElem hn', hc, rfl⟩
  refine ⟨st, List.mem_flatMap.mpr ⟨_, hmem, hst⟩, ?_, hfilled⟩
  obtain ⟨live, hlive, rfl⟩ := List.mem_map.mp hst
  obtain ⟨i, hi⟩ := List.mem_iff_getElem?.mp hlive
  obtain ⟨-, hall⟩ := Collector.after_holds (echo port) g identity (s.demands[n].interval s) [visit]
  exact (hall i live hi).1.settings.2.2.2.2

/-! ## Accepted settings -/

namespace Config

variable {text : String} {s : Settings}

theorem read_valid (accepted : read text = .ok s) : s.check = .ok () := by
  unfold read at accepted
  split at accepted
  case h_1 => cases accepted
  case h_2 =>
    split at accepted
    case h_1 hcheck =>
      cases accepted
      exact hcheck
    case h_2 => cases accepted

theorem exists_read {P : Settings → Prop} [DecidablePred P]
    (h : (read text).toOption.any (fun s => decide (P s)) = true) :
    ∃ s, read text = .ok s ∧ P s := by
  cases accepted : read text with
  | error e =>
    rw [accepted] at h
    cases h
  | ok s =>
    rw [accepted] at h
    exact ⟨s, rfl, of_decide_eq_true h⟩

/-- **What accepted settings leave readable.** They have a plan, and demand nothing more often than
once a second. Whatever has become of the loads of its collectors, every store has the interval of
a demand. Its window is one and a half intervals, rounded down, if three intervals are a duration,
and cannot be told otherwise. At any moment, a store that can be read is fresh when it has records
that are younger than one and a half intervals, and then shows them; to take the window as an age
makes no difference. A store that cannot be read tells nothing, and the page of metrics can be read
when all stores can be. So whatever happens, everything can be read at all times, exactly when three
times each interval that is demanded is a duration. -/
theorem windows (accepted : read text = .ok s) :
    ∃ p, Plan.ofSettings s = .ok p ∧
      (∀ x ∈ s.demands, nanosPerSecond ≤ (x.interval s).ns) ∧
      (∀ {σ : Type} (w : World σ) (history : Nat → Nat → List (Load σ)),
        let reached := p.after w history
        (∀ st ∈ reached.stores, (∃ x ∈ s.demands, st.interval = x.interval s) ∧
          st.window?.map (·.ns) =
            (if st.interval.Triples then some (st.interval.ns * 3 / 2) else none) ∧
          ∀ t : Moment,
            st.fresh? t = (if st.Readable then some (decide (st.ShowsAt t)) else none) ∧
            st.collect? t =
              (if st.Readable then some (if st.ShowsAt t then st.shown else []) else none) ∧
            (t.dated?.isSome = true → (∀ n m, ∀ l ∈ history n m, l.now.dated?.isSome = true) →
              st.agedFresh? t = st.fresh? t)) ∧
        ∀ (site : Http.Site) (t : Moment), site.collectors = reached.collectors →
          ((site.families? t).isSome = true ↔ ∀ st ∈ reached.stores, st.Readable)) ∧
      ((∀ {σ : Type} (w : World σ) (history : Nat → Nat → List (Load σ)),
          ∀ st ∈ (p.after w history).stores, st.Readable) ↔
        ∀ x ∈ s.demands, (x.interval s).Triples) := by
  have valid := read_valid accepted
  obtain ⟨p, hplan, hrounds, -⟩ := Plan.ofSettings_meets valid
  refine ⟨p, hplan, fun x hx => Demand.second_le_interval valid hx, fun w history => ⟨?_, ?_⟩, ?_⟩
  · intro st hst
    obtain ⟨hinterval, hstamps⟩ := Plan.mem_stores_after hrounds hst
    refine ⟨hinterval, st.window?_eq_if, fun t => ⟨st.fresh?_eq t, st.collect?_eq t, ?_⟩⟩
    intro ht hloads
    refine Store.agedFresh?_eq ht fun stamp hstamp => ?_
    obtain ⟨n, m, l, hl, rfl⟩ := hstamps stamp hstamp
    exact hloads n m l hl
  · exact fun site t hsite => Plan.families?_isSome_iff hsite
  · constructor
    · intro hreadable x hx
      obtain ⟨st, hst, hinterval, hfilled⟩ := Plan.exists_filled valid hrounds hx
      rw [← hinterval]
      exact hreadable _ _ st hst hfilled
    · intro hfits σ w history st hst _
      obtain ⟨⟨x, hx, hinterval⟩, -⟩ := Plan.mem_stores_after hrounds hst
      rw [hinterval]
      exact hfits x hx

/-- The settings of a device that is polled at some interval. -/
def lodge (interval : String) : String :=
  "devices:\n  lodge:\n    hostname: 10.0.0.1\n    username: prometheus\n" ++
    "    collectors: [identity]\n    slow_collectors: [dhcp]\n    polling_interval: " ++ interval ++
    "\n"

/-- The longest interval of whole seconds that triples leaves everything readable. -/
theorem windows_lodge : ∃ s p, read (lodge "6148914691236517205s") = .ok s ∧
    Plan.ofSettings s = .ok p ∧
    (s.demands.map fun x => (x.interval s).seconds) = [6148914691236517205, 60] ∧
    ∀ {σ : Type} (w : World σ) (history : Nat → Nat → List (Load σ)) (t : Moment),
      (Http.Site.families? ⟨"mtik_exporter", [], (p.after w history).collectors, none⟩ t).isSome =
        true := by
  obtain ⟨s, accepted, hseconds, hfits⟩ : ∃ s, read (lodge "6148914691236517205s") = .ok s ∧
      (s.demands.map fun x => (x.interval s).seconds) = [6148914691236517205, 60] ∧
      ∀ x ∈ s.demands, (x.interval s).Triples := exists_read (by decide +kernel)
  obtain ⟨p, hplan, -, hreached, hall⟩ := windows accepted
  refine ⟨s, p, accepted, hplan, hseconds, fun w history t => ?_⟩
  exact ((hreached w history).2 _ t rfl).mpr (hall.mpr hfits w history)

/-- **A second more, and nothing can be read**: the settings are accepted, but after the first load
neither the window of a store nor the page of metrics can be told. -/
theorem lodge_unreadable : ∃ s p, read (lodge "6148914691236517206s") = .ok s ∧
    Plan.ofSettings s = .ok p ∧
    let reached := p.after (echo port) fun _ _ => [visit]
    (∃ st ∈ reached.stores, (∃ x ∈ s.demands, st.interval = x.interval s) ∧
      st.window? = none ∧ ∀ t, st.fresh? t = none ∧ st.collect? t = none) ∧
    ∀ t, Http.Site.families? ⟨"mtik_exporter", [], reached.collectors, none⟩ t = none := by
  obtain ⟨s, accepted, x, hx, hlong⟩ : ∃ s, read (lodge "6148914691236517206s") = .ok s ∧
      ∃ x ∈ s.demands, ¬ (x.interval s).Triples := exists_read (by decide +kernel)
  have valid := read_valid accepted
  obtain ⟨p, hplan, hrounds, -⟩ := Plan.ofSettings_meets valid
  obtain ⟨st, hst, hsame, hfilled⟩ := Plan.exists_filled valid hrounds hx
  rw [← hsame] at hlong
  have hunreadable : ¬ st.Readable := fun h => hlong (h hfilled)
  refine ⟨s, p, accepted, hplan, ⟨st, hst, ⟨x, hx, hsame⟩, ?_, fun t => ⟨?_, ?_⟩⟩, fun t => ?_⟩
  · rw [← Option.map_eq_none_iff (f := (·.ns)), st.window?_eq_if, if_neg hlong]
  · rw [st.fresh?_eq, if_neg hunreadable]
  · rw [st.collect?_eq, if_neg hunreadable]
  · rw [← Option.isNone_iff_eq_none, ← Option.isSome_eq_false_iff, ← Bool.not_eq_true,
      Plan.families?_isSome_iff rfl]
    exact fun hall => hunreadable (hall st hst)

end Config

end RouterMetrics

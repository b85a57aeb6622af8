import Mathlib.Data.List.Sigma
import RouterMetrics.Config.Validation
import RouterMetrics.Plan

/-!
# The rounds of valid settings

Valid settings name no group twice on one cadence of a device. So a plan made of them has at most
one collector for a group of a device on a cadence (`Plan.rounds_distinct`), and every collector of
it is that of a group of the catalog with the identity of its device, or that of the update check
(`Plan.ofSettings_rounds`).
-/

namespace RouterMetrics

theorem Except.bind_ok {ε α β : Type} {x : Except ε α} {f : α → Except ε β} {b : β} :
    x >>= f = .ok b ↔ ∃ a, x = .ok a ∧ f a = .ok b := by
  cases x with
  | error e => simp [bind, Except.bind]
  | ok a => simp [bind, Except.bind]

/-! ## Valid settings -/

namespace Config

theorem require_ok {ε : Type} {holds : Bool} {fault : ε} {u : Unit} :
    require holds fault = .ok u ↔ holds = true := by
  cases holds with
  | true => simp [require]
  | false => simp [require]

theorem checkNames_ok {known : String → Bool} {cadence : String} {seen names : List String}
    (h : checkNames known cadence seen names = .ok ()) :
    names.Nodup ∧ ∀ name ∈ names, name ∉ seen := by
  induction names generalizing seen with
  | nil => simp
  | cons name rest ih =>
    simp only [checkNames, Except.bind_ok, require_ok] at h
    obtain ⟨-, -, -, hnew, hrest⟩ := h
    obtain ⟨hnodup, hother⟩ := ih hrest
    refine ⟨List.nodup_cons.mpr ⟨fun hmem => hother name hmem List.mem_cons_self, hnodup⟩, ?_⟩
    refine List.forall_mem_cons.mpr ⟨by simpa using hnew, fun other hmem hseen => ?_⟩
    exact hother other hmem (List.mem_cons_of_mem _ hseen)

theorem forM_ok {ε α : Type} {f : α → Except ε Unit} {l : List α} (h : l.forM f = .ok ()) :
    ∀ a ∈ l, f a = .ok () := by
  induction l with
  | nil => simp
  | cons a rest ih =>
    rw [show (a :: rest).forM f = (f a >>= fun _ => rest.forM f) from rfl, Except.bind_ok] at h
    obtain ⟨_, ha, hrest⟩ := h
    exact List.forall_mem_cons.mpr ⟨ha, ih hrest⟩

/-- The groups of a cadence of a device. -/
def DeviceSettings.groups (d : DeviceSettings) : Cadence → List String
  | .fast => d.collectors
  | .slow => d.slowCollectors
  | .system => []

theorem checkNames_known {known : String → Bool} {cadence : String} {seen names : List String}
    (h : checkNames known cadence seen names = .ok ()) : ∀ name ∈ names, known name = true := by
  induction names generalizing seen with
  | nil => simp
  | cons name rest ih =>
    simp only [checkNames, Except.bind_ok, require_ok] at h
    obtain ⟨-, hknown, -, -, hrest⟩ := h
    exact List.forall_mem_cons.mpr ⟨hknown, ih hrest⟩

/-- The names of groups are checked on every cadence. -/
theorem DeviceSettings.checkNames_groups {d : DeviceSettings} {known : String → Bool}
    (h : d.check known = .ok ()) (cadence : Cadence) :
    ∃ what, checkNames known what [] (d.groups cadence) = .ok () := by
  simp only [DeviceSettings.check, Except.bind_ok] at h
  obtain ⟨_, -, _, -, _, -, _, -, _, -, _, -, _, hfast, hslow⟩ := h
  cases cadence with
  | fast => exact ⟨_, hfast⟩
  | slow => exact ⟨_, hslow⟩
  | system => exact ⟨"", rfl⟩

/-- Every device of valid settings is valid, whether it is enabled or not. -/
theorem Settings.check_device {s : Settings} (valid : s.check = .ok ())
    {device : String × DeviceSettings} (h : device ∈ s.devices.toList) :
    device.2.check Catalog.isKnown = .ok () := by
  simp only [Settings.check, Except.bind_ok] at valid
  obtain ⟨-, -, hdevices⟩ := valid
  have hdevice := forM_ok hdevices device h
  simp only [checkDevice, Except.bind_ok] at hdevice
  obtain ⟨-, -, hcheck⟩ := hdevice
  cases hresult : device.2.check Catalog.isKnown with
  | error e => simp [hresult, Except.mapError] at hcheck
  | ok u => rfl

/-- **Valid settings name a group once at most on each cadence of a device.** -/
theorem Settings.groups_nodup {s : Settings} (valid : s.check = .ok ())
    {device : String × DeviceSettings} (h : device ∈ s.devices.toList) (cadence : Cadence) :
    (device.2.groups cadence).Nodup := by
  obtain ⟨_, hnames⟩ := DeviceSettings.checkNames_groups (check_device valid h) cadence
  exact (checkNames_ok hnames).1

/-- **Valid settings name groups of the catalog only.** -/
theorem Settings.groups_known {s : Settings} (valid : s.check = .ok ())
    {device : String × DeviceSettings} (h : device ∈ s.devices.toList) (cadence : Cadence) :
    ∀ name ∈ device.2.groups cadence, Catalog.isKnown name = true := by
  obtain ⟨_, hnames⟩ := DeviceSettings.checkNames_groups (check_device valid h) cadence
  exact checkNames_known hnames

end Config

/-! ## Plans -/

theorem mapM_ok {ε α β : Type} {f : α → Except ε β} {l : List α} {found : List β}
    (h : l.mapM f = .ok found) : List.Forall₂ (fun a b => f a = .ok b) l found := by
  induction l generalizing found with
  | nil =>
    cases h
    exact .nil
  | cons a rest ih =>
    simp only [List.mapM_cons, Except.bind_ok] at h
    obtain ⟨b, hb, later, hlater, h⟩ := h
    cases h
    exact .cons hb (ih hlater)

theorem Catalog.build_ok {name : String} {identity : List (String × String)} {interval : Duration}
    {c : Collector} (h : build name identity interval = .ok c) :
    ∃ g ∈ groups, g.name = name ∧ c = g.collector identity interval := by
  unfold build at h
  split at h
  case h_1 g hg =>
    cases h
    exact ⟨g, List.mem_of_find?_eq_some hg, by simpa using List.find?_some hg, rfl⟩
  case h_2 => cases h

open Config

/-- A round of a configured device: it has one collector for each group of its cadence, with the
identity of the device. -/
structure Round.OfDevice (number : Nat) (device : String × DeviceSettings) (r : Round) : Prop where
  device_eq : r.device = some number
  collectors : List.Forall₂ (fun name c => ∃ g ∈ Catalog.groups, g.name = name ∧
    c = g.collector (Plan.identity device.1 device.2).labels r.interval)
    (device.2.groups r.cadence) r.collectors

/-- The round of the update check. -/
structure Round.OfUpdates (s : SystemSettings) (r : Round) : Prop where
  device_eq : r.device = none
  collectors :
    r.collectors = [(Catalog.latestVersion s.updateChannels).collector [] r.interval]

theorem Round.OfDevice.names {number : Nat} {device : String × DeviceSettings} {r : Round}
    (h : r.OfDevice number device) : r.collectors.map (·.name) = device.2.groups r.cadence := by
  have hnames := h.collectors
  generalize device.2.groups r.cadence = names, r.collectors = collectors at hnames
  induction hnames with
  | nil => rfl
  | cons hc _ ih =>
    obtain ⟨g, -, rfl, rfl⟩ := hc
    rw [List.map_cons, ih]
    rfl

namespace Plan

/-- Two rounds are of different devices or cadences. -/
def Apart (r r' : Round) : Prop := ¬ (r.device = r'.device ∧ r.cadence = r'.cadence)

theorem deviceRound_ok {number : Nat} {identity : Identity} {cadence : Cadence}
    {interval : Duration} {groups : List String} {rs : List Round}
    (h : deviceRound number identity cadence interval groups = .ok rs) :
    rs.Pairwise Apart ∧ ∀ r ∈ rs, r.device = some number ∧ r.cadence = cadence ∧
      List.Forall₂ (fun name c => ∃ g ∈ Catalog.groups, g.name = name ∧
        c = g.collector identity.labels r.interval) groups r.collectors := by
  simp only [deviceRound, Except.bind_ok] at h
  obtain ⟨collectors, hcollectors, h⟩ := h
  cases h
  split
  · simp
  · refine ⟨List.pairwise_singleton .., List.forall_mem_singleton.mpr ⟨rfl, rfl, ?_⟩⟩
    exact (mapM_ok hcollectors).imp fun _ _ => Catalog.build_ok

theorem deviceRounds_ok {number : Nat} {name : String} {d : DeviceSettings} {rs : List Round}
    (h : deviceRounds number name d = .ok rs) :
    rs.Pairwise Apart ∧ ∀ r ∈ rs, r.OfDevice number (name, d) := by
  simp only [deviceRounds, Except.bind_ok] at h
  obtain ⟨fast, hfast, slow, hslow, h⟩ := h
  cases h
  obtain ⟨hapart, hfast⟩ := deviceRound_ok hfast
  obtain ⟨hapart', hslow⟩ := deviceRound_ok hslow
  refine ⟨List.pairwise_append.mpr ⟨hapart, hapart', fun r hr r' hr' heq => ?_⟩, fun r hr => ?_⟩
  · have hcadence := heq.2
    rw [(hfast r hr).2.1, (hslow r' hr').2.1] at hcadence
    cases hcadence
  · rcases List.mem_append.mp hr with hr | hr
    · obtain ⟨hdevice, hcadence, hcollectors⟩ := hfast r hr
      exact ⟨hdevice, by rw [hcadence]; exact hcollectors⟩
    · obtain ⟨hdevice, hcadence, hcollectors⟩ := hslow r hr
      exact ⟨hdevice, by rw [hcadence]; exact hcollectors⟩

/-- The rounds of devices with different numbers. -/
theorem devicesRounds_ok {devices : List ((String × DeviceSettings) × Nat)}
    (distinct : (devices.map (·.2)).Nodup) {found : List (List Round)}
    (h : List.Forall₂ (fun x rs => deviceRounds x.2 x.1.1 x.1.2 = .ok rs) devices found) :
    found.flatten.Pairwise Apart ∧
      ∀ r ∈ found.flatten, ∃ x ∈ devices, r.OfDevice x.2 x.1 := by
  induction h with
  | nil => simp
  | cons hrounds _ ih =>
    obtain ⟨hnew, hdistinct⟩ := List.nodup_cons.mp distinct
    obtain ⟨hlater, hothers⟩ := ih hdistinct
    obtain ⟨hapart, hdevice⟩ := deviceRounds_ok hrounds
    rw [List.flatten_cons]
    refine ⟨List.pairwise_append.mpr ⟨hapart, hlater, fun r hr r' hr' heq => ?_⟩, fun r hr => ?_⟩
    · -- the device of a later round has another number
      obtain ⟨x', hx', hround⟩ := hothers r' hr'
      have hnumber := heq.1
      rw [(hdevice r hr).device_eq, hround.device_eq, Option.some.injEq] at hnumber
      exact hnew (List.mem_map.mpr ⟨x', hx', hnumber.symm⟩)
    · rcases List.mem_append.mp hr with hr | hr
      · exact ⟨_, List.mem_cons_self, hdevice r hr⟩
      · obtain ⟨x', hx', hround⟩ := hothers r hr
        exact ⟨x', List.mem_cons_of_mem _ hx', hround⟩

/-- The rounds of a plan made of settings. -/
theorem ofSettings_rounds {s : Settings} {p : Plan} (h : ofSettings s = .ok p) :
    p.rounds.Pairwise Apart ∧ ∀ r ∈ p.rounds,
      (∃ number device, s.enabledDevices[number]? = some device ∧ r.OfDevice number device) ∨
        r.OfUpdates s.system := by
  simp only [ofSettings, Except.bind_ok] at h
  obtain ⟨found, hfound, h⟩ := h
  cases h
  obtain ⟨hapart, hdevices⟩ := devicesRounds_ok (List.nodup_zipIdx_map_snd _) (mapM_ok hfound)
  have hupdates : ∀ r ∈ updateRounds s.system, r.OfUpdates s.system := by
    intro r hr
    unfold updateRounds at hr
    split at hr
    · cases List.mem_singleton.mp hr
      exact ⟨rfl, rfl⟩
    · cases hr
  have hone : (updateRounds s.system).Pairwise Apart := by
    unfold updateRounds
    split
    · exact List.pairwise_singleton ..
    · exact .nil
  refine ⟨List.pairwise_append.mpr ⟨hapart, hone, fun r hr r' hr' heq => ?_⟩, fun r hr => ?_⟩
  · obtain ⟨x, -, hround⟩ := hdevices r hr
    have hnumber := heq.1
    rw [hround.device_eq, (hupdates r' hr').device_eq] at hnumber
    cases hnumber
  · rcases List.mem_append.mp hr with hr | hr
    · obtain ⟨x, hx, hround⟩ := hdevices r hr
      exact .inl ⟨x.2, x.1, List.mem_zipIdx_iff_getElem?.mp hx, hround⟩
    · exact .inr (hupdates r hr)

/-- **A plan of valid settings has one round at most for a cadence of a device**, and in it one
collector at most for a group. -/
theorem rounds_distinct {s : Settings} (valid : s.check = .ok ()) {p : Plan}
    (h : ofSettings s = .ok p) :
    p.rounds.Pairwise Apart ∧ ∀ r ∈ p.rounds, (r.collectors.map (·.name)).Nodup := by
  obtain ⟨hapart, hrounds⟩ := ofSettings_rounds h
  refine ⟨hapart, fun r hr => ?_⟩
  rcases hrounds r hr with ⟨number, device, hdevice, hround⟩ | hupdates
  · rw [hround.names]
    have henabled : device ∈ s.devices.toList :=
      List.mem_of_mem_filter (List.mem_of_getElem? hdevice)
    exact Settings.groups_nodup valid henabled r.cadence
  · rw [hupdates.collectors]
    exact List.nodup_singleton _

end Plan

end RouterMetrics

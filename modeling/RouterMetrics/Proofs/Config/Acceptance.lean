import RouterMetrics.Proofs.Config.Wiring
import RouterMetrics.Proofs.Device.Hosts

/-!
# What valid settings can start

Valid settings whose names do not start with a digit have statistics, and collectors for all groups
they name. What can still be wrong with them is the host of a device, which is only looked at when
its base URL is built: then the start ends with that fault (`Startup.accepted_starts`).
-/

namespace RouterMetrics

/-! ## What a check has established -/

namespace Config

/-- The start of all names consists of letters, digits and underscores, and is not empty. -/
theorem Settings.namePrefix_valid {s : Settings} (valid : s.check = .ok ()) :
    isNamePrefix s.system.namePrefix = true := by
  simp only [Settings.check, SystemSettings.check, Except.bind_ok, require_ok] at valid
  obtain ⟨_, ⟨_, -, _, -, _, hprefix, -⟩, -⟩ := valid
  exact hprefix

/-- A device that is valid has a hostname. -/
theorem DeviceSettings.hostname_ne_nil {d : DeviceSettings} {known : String → Bool}
    (valid : d.check known = .ok ()) : d.hostname.toList ≠ [] := by
  simp only [DeviceSettings.check, Except.bind_ok, require_ok] at valid
  obtain ⟨_, hwritten, -⟩ := valid
  intro hnil
  rw [isWritten, Text.trimText, hnil] at hwritten
  exact absurd hwritten (by decide)

/-- Every device has a hostname. -/
theorem Settings.hostname_ne_nil {s : Settings} (valid : s.check = .ok ())
    {device : String × DeviceSettings} (h : device ∈ s.devices.toList) :
    device.2.hostname.toList ≠ [] :=
  DeviceSettings.hostname_ne_nil (check_device valid h)

end Config

/-- A start that is no digit makes the names of statistics those of metrics. -/
theorem LoadStats.create_of_prefix {start : String} (h : Config.isNamePrefix start = true)
    (hdigit : ∀ c ∈ start.toList.head?, c.isDigit = false) :
    LoadStats.create start = .ok (.empty start) := by
  obtain ⟨hempty, hchars⟩ := Bool.and_eq_true_iff.mp h
  have hkept : ∀ c ∈ start.toList, (isMetricNameStart c || c.isDigit) = true := by
    intro c hc
    have hone := List.all_eq_true.mp hchars c hc
    simp only [isMetricNameStart, Char.isAlphanum] at hone ⊢
    grind
  have hname : isMetricName (start ++ "_data_loads_total") = true := by
    cases hlist : start.toList with
    | nil => simp [String.toList_eq_nil_iff.mp hlist] at hempty
    | cons c rest =>
      rw [hlist] at hdigit hkept
      obtain ⟨hc, hrest⟩ := List.forall_mem_cons.mp hkept
      rw [hdigit c rfl, Bool.or_false] at hc
      have hsuffix : ("_data_loads_total".toList.all fun c =>
          isMetricNameStart c || c.isDigit) = true := by decide
      rw [isMetricName, String.toList_append, hlist, List.cons_append]
      simp only [hc, Bool.true_and, List.all_append, Bool.and_eq_true]
      exact ⟨List.all_eq_true.mpr hrest, hsuffix⟩
  rw [create, if_pos hname]

/-- A loop over a list ends with the first error of its steps. -/
theorem mapM_error {ε α β : Type} {f : α → Except ε β} {before after : List α} {a : α} {e : ε}
    (hbefore : ∀ x ∈ before, ∃ b, f x = .ok b) (ha : f a = .error e) :
    (before ++ a :: after).mapM f = .error e := by
  induction before with
  | nil => rw [List.nil_append, List.mapM_cons, ha]; rfl
  | cons x rest ih =>
    obtain ⟨⟨b, hb⟩, hrest⟩ := List.forall_mem_cons.mp hbefore
    rw [List.cons_append, List.mapM_cons, hb, ih hrest]
    rfl

open Config Net

/-- The error of a device whose host and port have a fault. -/
def Rest.hostError (d : DeviceSettings) (e : UrlError) : TransportError :=
  .request ("invalid host '" ++ d.hostname ++ "': " ++ e.message)

/-- The fault of the host and the port of a device, if they have one. -/
def Rest.faultOf (d : DeviceSettings) : Option UrlError := hostFault? (hostAndPort d.hostname)

namespace Startup

variable {s : Settings}

/-- There are endpoints when no host has a fault, and else the error of the first that has one. -/
theorem endpoints_isOk (env : Environment)
    (h : ∀ device ∈ s.enabledDevices, Rest.faultOf device.2 = none) :
    ∃ found, endpoints s env = .ok found := by
  refine mapM_isOk fun device hdevice => ?_
  obtain ⟨u, hu⟩ := (Rest.baseUrl_host device.2).2 (h device hdevice)
  exact ⟨_, by rw [Rest.Endpoint.ofSettings, hu]; rfl⟩

theorem endpoints_error (env : Environment) {before after : List (String × DeviceSettings)}
    {device : String × DeviceSettings} {e : UrlError}
    (hsplit : s.enabledDevices = before ++ device :: after)
    (hbefore : ∀ device ∈ before, Rest.faultOf device.2 = none)
    (hfault : Rest.faultOf device.2 = some e) :
    endpoints s env = .error (Rest.hostError device.2 e) := by
  rw [endpoints, hsplit]
  refine mapM_error (fun device hdevice => ?_) ?_
  · obtain ⟨u, hu⟩ := (Rest.baseUrl_host device.2).2 (hbefore device hdevice)
    exact ⟨_, by rw [Rest.Endpoint.ofSettings, hu]; rfl⟩
  · rw [Rest.Endpoint.ofSettings, (Rest.baseUrl_host device.2).1 e hfault]
    rfl

/-- **What valid settings can start.** There are statistics when the start of their names is no
digit, and a collector for every group that a device names. The base URL of a device can be built
exactly when the host and the port that its hostname writes in a URL have no fault: always for an
address of eight groups, and for any other hostname that nothing divides exactly when it is a host.
The exporter starts when no enabled device has a fault there, and otherwise tells the fault of the
first that has one. -/
theorem accepted_starts (valid : s.check = .ok ()) :
    ((∀ c ∈ s.system.namePrefix.toList.head?, c.isDigit = false) →
      LoadStats.create s.system.namePrefix = .ok (.empty s.system.namePrefix)) ∧
    (∀ device ∈ s.enabledDevices, ∀ cadence, ∀ name ∈ device.2.groups cadence,
      ∀ identity interval, ∃ c, Catalog.build name identity interval = .ok c) ∧
    (∀ device ∈ s.enabledDevices,
      (Rest.faultOf device.2 = none → ∃ u, Rest.baseUrl device.2 = .ok u) ∧
      (∀ e, Rest.faultOf device.2 = some e →
        Rest.baseUrl device.2 = .error (Rest.hostError device.2 e)) ∧
      (∀ groups, Address.ofText? device.2.hostname = some (.v6 groups) →
        Rest.faultOf device.2 = none) ∧
      ((∀ groups, Address.ofText? device.2.hostname ≠ some (.v6 groups)) →
        (∀ c ∈ device.2.hostname.toList, Rest.isDivider c = false) →
        Rest.faultOf device.2 = match Host.ofChars device.2.hostname.toList with
          | .error e => some e
          | .ok _ => none)) ∧
    ((∀ c ∈ s.system.namePrefix.toList.head?, c.isDigit = false) → ∀ env,
      ((∀ device ∈ s.enabledDevices, Rest.faultOf device.2 = none) → ∃ plan endpoints,
        Startup.begin s env = .ok (.empty s.system.namePrefix, plan, endpoints)) ∧
      ∀ before device after e, s.enabledDevices = before ++ device :: after →
        (∀ device ∈ before, Rest.faultOf device.2 = none) → Rest.faultOf device.2 = some e →
        Startup.begin s env = .error (.address (Rest.hostError device.2 e))) := by
  have hmem : ∀ device ∈ s.enabledDevices, device ∈ s.devices.toList := fun _ h =>
    List.mem_of_mem_filter h
  have hstats := LoadStats.create_of_prefix (Settings.namePrefix_valid valid)
  obtain ⟨p, hplan, -, -⟩ := Plan.ofSettings_meets valid
  refine ⟨hstats, fun device hdevice cadence name hname identity interval =>
    Catalog.build_isOk (Settings.groups_known valid (hmem device hdevice) cadence name hname) _ _,
    fun device hdevice => ⟨(Rest.baseUrl_host device.2).2, (Rest.baseUrl_host device.2).1,
      fun groups => Rest.hostFault?_of_v6, fun hname hplain => Rest.hostFault?_of_plain
        (Settings.hostname_ne_nil valid (hmem device hdevice)) hplain hname⟩,
    fun hdigit env => ⟨fun hhosts => ?_, fun before device after e hsplit hbefore hfault => ?_⟩⟩
  · obtain ⟨endpoints, hendpoints⟩ := endpoints_isOk env hhosts
    exact ⟨p, endpoints, by simp only [begin, prepare, hstats hdigit, hplan, hendpoints]; rfl⟩
  · simp only [begin, prepare, hstats hdigit, hplan, endpoints_error env hsplit hbefore hfault]
    rfl

/-- A device behind a link, whose address has the name of the link behind it. -/
def outpost : DeviceSettings where
  hostname := "[fe80::1%ether1]"
  username := "prometheus"
  collectors := ["dhcp"]

/-- Two devices, of which the second is behind a link. -/
def valley : Settings where
  system := {}
  devices := Dict.ofList [
    ("farm", { hostname := "fd00::1", username := "prometheus", collectors := ["arp", "dhcp"] }),
    ("outpost", outpost)]

/-- The second of two devices is the first whose host has a fault. -/
theorem accepted_starts_valley : valley.check = .ok () ∧
    ("outpost", outpost) ∈ valley.enabledDevices ∧
      LoadStats.create "mtik_exporter" = .ok (.empty "mtik_exporter") ∧
      Startup.begin valley Dict.empty = .error (.address (.request
        "invalid host '[fe80::1%ether1]': invalid IPv6 address")) := by
  have valid : valley.check = .ok () := by decide +kernel
  have hfirst : valley.system.namePrefix.toList.head? = some 'm' := by decide
  have hdigit : ∀ c ∈ valley.system.namePrefix.toList.head?, c.isDigit = false := by
    rw [hfirst]
    rintro c ⟨⟩
    rfl
  have hsplit : valley.enabledDevices = valley.enabledDevices.take 1 ++ [("outpost", outpost)] := by
    decide +kernel
  obtain ⟨hstats, -, -, hstart⟩ := accepted_starts valid
  have hmem : ("outpost", outpost) ∈ valley.enabledDevices := by
    rw [hsplit]
    exact List.mem_append_right _ List.mem_cons_self
  refine ⟨valid, hmem, hstats hdigit, ?_⟩
  exact (hstart hdigit Dict.empty).2 _ _ _ .v6 hsplit (by decide +kernel) (by decide +kernel)

/-- **Valid settings may not start**: the base URL of the device behind the link cannot be built. -/
theorem outpost_without_url : valley.check = .ok () ∧
    ("outpost", outpost) ∈ valley.enabledDevices ∧
      Rest.baseUrl outpost =
        .error (.request "invalid host '[fe80::1%ether1]': invalid IPv6 address") ∧
      ¬ ∀ device ∈ valley.enabledDevices, ∃ u, Rest.baseUrl device.2 = .ok u := by
  have hmem : ("outpost", outpost) ∈ valley.enabledDevices := by decide +kernel
  have hurl : Rest.baseUrl outpost =
      .error (.request "invalid host '[fe80::1%ether1]': invalid IPv6 address") := by
    decide +kernel
  refine ⟨by decide +kernel, hmem, hurl, fun hall => ?_⟩
  obtain ⟨u, hu⟩ := hall _ hmem
  rw [hurl] at hu
  cases hu

end Startup

end RouterMetrics

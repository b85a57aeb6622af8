import RouterMetrics.Config.Settings
import RouterMetrics.Duration.Human
import RouterMetrics.Json.Basic

/-!
Settings as JSON: every field under its key, durations as people write them, and null for what is
left out.
-/

namespace RouterMetrics.Config

/-- A duration as people write it. -/
def durationJson (d : Duration) : Json := .text d.human

/-- A list of texts. -/
def textsJson (l : List String) : Json := .list (l.map .text)

/-- The settings of a device as JSON. -/
def DeviceSettings.toJson (d : DeviceSettings) : Json :=
  .ofMembers
    [("enabled", .bool d.enabled), ("hostname", .text d.hostname),
     ("port", (d.port.map fun n => Json.int n).getD .null), ("username", .text d.username),
     ("password", .text d.password), ("use_ssl", .bool d.useSsl),
     ("ssl_certificate_verify", .bool d.verifyCertificate),
     ("socket_timeout", (d.socketTimeout.map durationJson).getD .null),
     ("polling_interval", durationJson d.pollingInterval),
     ("slow_polling_interval", durationJson d.slowPollingInterval),
     ("collectors", textsJson d.collectors), ("slow_collectors", textsJson d.slowCollectors)]

/-- The settings of the exporter itself as JSON. -/
def SystemSettings.toJson (s : SystemSettings) : Json :=
  .ofMembers
    [("export_address", .text s.exportAddress), ("export_port", .int s.exportPort),
     ("metric_prefix", .text s.namePrefix), ("socket_timeout", durationJson s.socketTimeout),
     ("initial_delay_on_failure", durationJson s.initialDelay),
     ("max_delay_on_failure", durationJson s.maxDelay), ("delay_inc_div", .int s.delayDivisor),
     ("reconnect_delay", durationJson s.reconnectDelay),
     ("startup_stagger", durationJson s.startupStagger),
     ("shutdown_timeout", durationJson s.shutdownTimeout),
     ("check_for_updates", .bool s.checkForUpdates),
     ("check_for_updates_channels", textsJson s.updateChannels),
     ("system_interval", durationJson s.systemInterval)]

/-- Settings as JSON. -/
def Settings.toJson (s : Settings) : Json :=
  .ofMembers
    [("system", s.system.toJson),
     ("devices", .ofMembers (s.devices.toList.map fun (name, d) => (name, d.toJson)))]

end RouterMetrics.Config

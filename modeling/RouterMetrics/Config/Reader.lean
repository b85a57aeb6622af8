import RouterMetrics.Config.Settings
import RouterMetrics.Duration.Human
import RouterMetrics.Yaml.Content

/-!
Settings read from the nodes of a YAML document. A key that is not known is passed over; one that
is known must not be repeated; a device that is repeated is replaced.
-/

namespace RouterMetrics.Config

open Yaml (Node Reading)

/-- A duration, written as a text. -/
def duration (n : Node) : Reading Duration := do .ofOption (Duration.ofHuman? (← n.text))

/-- The members of a section by their keys. -/
abbrev Section := List (String × Node)

namespace Section

/-- The value of a key, or what holds without it. -/
def get {α : Type} (s : Section) (key : String) (value : Node → Reading α) (standard : α) :
    Reading α :=
  match s.lookup key with
  | some n => value n
  | none => pure standard

/-- The value of a key that must be there. -/
def need {α : Type} (s : Section) (key : String) (value : Node → Reading α) : Reading α :=
  match s.lookup key with
  | some n => value n
  | none => failure

end Section

/-- The keys of a device's section. -/
def DeviceSettings.keys : List String :=
  ["enabled", "hostname", "port", "username", "password", "use_ssl", "ssl_certificate_verify",
   "socket_timeout", "polling_interval", "slow_polling_interval", "collectors", "slow_collectors"]

/-- The numbers of ports end below this one. -/
def portLimit : Nat := 1 <<< 16

/-- The settings of a device. -/
def DeviceSettings.ofNode (n : Node) : Reading DeviceSettings := do
  let s : Section ← n.known keys
  let hostname ← s.need "hostname" Node.text
  let username ← s.need "username" Node.text
  let standard : DeviceSettings := { hostname, username }
  return {
    hostname
    username
    enabled := ← s.get "enabled" Node.flag standard.enabled
    port := ← s.get "port" (Node.optional (Node.unsigned portLimit)) standard.port
    password := ← s.get "password" Node.text standard.password
    useSsl := ← s.get "use_ssl" Node.flag standard.useSsl
    verifyCertificate := ← s.get "ssl_certificate_verify" Node.flag standard.verifyCertificate
    socketTimeout := ← s.get "socket_timeout" (Node.optional duration) standard.socketTimeout
    pollingInterval := ← s.get "polling_interval" duration standard.pollingInterval
    slowPollingInterval :=
      ← s.get "slow_polling_interval" duration standard.slowPollingInterval
    collectors := ← s.get "collectors" Node.texts standard.collectors
    slowCollectors := ← s.get "slow_collectors" Node.texts standard.slowCollectors }

/-- The keys of the exporter's own section. -/
def SystemSettings.keys : List String :=
  ["export_address", "export_port", "metric_prefix", "socket_timeout", "initial_delay_on_failure",
   "max_delay_on_failure", "delay_inc_div", "reconnect_delay", "startup_stagger",
   "shutdown_timeout", "check_for_updates", "check_for_updates_channels", "system_interval"]

/-- The settings of the exporter itself. -/
def SystemSettings.ofNode (n : Node) : Reading SystemSettings := do
  let s : Section ← n.known keys
  let standard : SystemSettings := {}
  return {
    exportAddress := ← s.get "export_address" Node.text standard.exportAddress
    exportPort := ← s.get "export_port" (Node.unsigned portLimit) standard.exportPort
    namePrefix := ← s.get "metric_prefix" Node.text standard.namePrefix
    socketTimeout := ← s.get "socket_timeout" duration standard.socketTimeout
    initialDelay := ← s.get "initial_delay_on_failure" duration standard.initialDelay
    maxDelay := ← s.get "max_delay_on_failure" duration standard.maxDelay
    delayDivisor := ← s.get "delay_inc_div" (Node.unsigned (1 <<< 32)) standard.delayDivisor
    reconnectDelay := ← s.get "reconnect_delay" duration standard.reconnectDelay
    startupStagger := ← s.get "startup_stagger" duration standard.startupStagger
    shutdownTimeout := ← s.get "shutdown_timeout" duration standard.shutdownTimeout
    checkForUpdates := ← s.get "check_for_updates" Node.flag standard.checkForUpdates
    updateChannels := ← s.get "check_for_updates_channels" Node.texts standard.updateChannels
    systemInterval := ← s.get "system_interval" duration standard.systemInterval }

/-- The settings of devices by their names. -/
def DeviceSettings.ofMembers (n : Node) : Reading (Dict DeviceSettings) := do
  let members ← n.members
  return Dict.ofList (← members.mapM fun (name, n) => return (name, ← ofNode n))

/-- The settings that a document holds. -/
def Settings.ofNode (n : Node) : Reading Settings := do
  let s : Section ← n.known ["system", "devices"]
  return {
    system := ← s.get "system" SystemSettings.ofNode standard.system
    devices := ← s.get "devices" DeviceSettings.ofMembers standard.devices }

/-- What is read from a text, which stands for nothing when it holds no document. -/
def ofYaml? {α : Type} (value : Node → Reading α) (text : String) : Option α :=
  (Yaml.document? text).bind fun document =>
    let document := document.getD .nothing
    (value document).run? document

/-- The settings that a text writes. -/
def Settings.ofYaml? : String → Option Settings := Config.ofYaml? Settings.ofNode

/-- The settings of one device that a text writes. -/
def DeviceSettings.ofYaml? : String → Option DeviceSettings := Config.ofYaml? DeviceSettings.ofNode

end RouterMetrics.Config

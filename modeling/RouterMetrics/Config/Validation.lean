import RouterMetrics.Catalog
import RouterMetrics.Config.Settings
import RouterMetrics.Duration.Human
import RouterMetrics.Net.Address

/-!
What settings must satisfy before they are used, and which fault is told first.
-/

namespace RouterMetrics.Config

/-! ## Faults -/

/-- Why the settings of a device cannot be used. -/
inductive DeviceFault
  | hostname
  | username
  | port
  | interval (what : String) (value : Duration)
  | socketTimeout
  | unknownCollector (name cadence : String)
  | repeatedCollector (name cadence : String)
deriving DecidableEq

/-- Why settings cannot be used. -/
inductive Fault
  | exportAddress (text : String)
  | exportPort
  | namePrefix (text : String)
  | delayDivisor
  | initialDelay
  | socketTimeout
  | interval (what : String) (value : Duration)
  | noChannel
  | deviceName
  | device (name : String) (fault : DeviceFault)
deriving DecidableEq

/-- The text for an interval that is too short. -/
def shortInterval (owner what : String) (value : Duration) : String :=
  owner ++ ": " ++ what ++ " must be at least 1s, got " ++ value.human

/-- The text of a device's fault, after the device it belongs to. -/
def DeviceFault.message (owner : String) : DeviceFault → String
  | .hostname => owner ++ ": hostname cannot be empty"
  | .username => owner ++ ": username cannot be empty"
  | .port => owner ++ ": port must be non-zero"
  | .interval what value => shortInterval owner what value
  | .socketTimeout => owner ++ ": socket_timeout must be positive"
  | .unknownCollector name cadence =>
    owner ++ ": unknown collector '" ++ name ++ "' in " ++ cadence
  | .repeatedCollector name cadence =>
    owner ++ ": collector '" ++ name ++ "' listed twice in " ++ cadence

/-- The text of a fault. -/
def Fault.message : Fault → String
  | .exportAddress text => "invalid export address: '" ++ text ++ "'"
  | .exportPort => "export port must be non-zero"
  | .namePrefix text => "invalid metric prefix: '" ++ text ++ "'"
  | .delayDivisor => "delay_inc_div must be positive"
  | .initialDelay => "initial_delay_on_failure cannot exceed max_delay_on_failure"
  | .socketTimeout => "socket_timeout must be positive"
  | .interval what value => shortInterval "system" what value
  | .noChannel => "check_for_updates requires at least one channel"
  | .deviceName => "device name cannot be empty"
  | .device name fault => fault.message ("device '" ++ name ++ "'")

/-! ## Checks -/

/-- Nothing when a condition holds, else a fault. -/
def require {ε : Type} (holds : Bool) (fault : ε) : Except ε Unit :=
  if holds then .ok () else .error fault

/-- A text with something in it besides white space. -/
def isWritten (text : String) : Bool := !(Text.trimText text).isEmpty

/-- An interval of at least a second. -/
def isLongInterval (d : Duration) : Bool := nanosPerSecond ≤ d.ns

/-- A text that may start the names of all series. -/
def isNamePrefix (text : String) : Bool :=
  !text.isEmpty && text.toList.all fun c => c.isAlphanum || c == '_'

/-- The first name in a list that is not known or has occurred before. -/
def checkNames (known : String → Bool) (cadence : String) (seen : List String) :
    List String → Except DeviceFault Unit
  | [] => .ok ()
  | name :: rest => do
    require (known name) (.unknownCollector name cadence)
    require (!seen.contains name) (.repeatedCollector name cadence)
    checkNames known cadence (name :: seen) rest

/-- The first fault in the settings of a device, whose groups must be known. -/
def DeviceSettings.check (d : DeviceSettings) (known : String → Bool) :
    Except DeviceFault Unit := do
  require (isWritten d.hostname) .hostname
  require (isWritten d.username) .username
  require (d.port != some 0) .port
  require (isLongInterval d.pollingInterval) (.interval "polling_interval" d.pollingInterval)
  require (isLongInterval d.slowPollingInterval)
    (.interval "slow_polling_interval" d.slowPollingInterval)
  require (d.socketTimeout != some .zero) .socketTimeout
  checkNames known "collectors" [] d.collectors
  checkNames known "slow_collectors" [] d.slowCollectors

/-- The first fault in the settings of the exporter itself. -/
def SystemSettings.check (s : SystemSettings) : Except Fault Unit := do
  require (Net.Address.ofText? s.exportAddress).isSome (.exportAddress s.exportAddress)
  require (s.exportPort != 0) .exportPort
  require (isNamePrefix s.namePrefix) (.namePrefix s.namePrefix)
  require (s.delayDivisor != 0) .delayDivisor
  require (s.initialDelay.ns ≤ s.maxDelay.ns) .initialDelay
  require (s.socketTimeout != .zero) .socketTimeout
  require (isLongInterval s.reconnectDelay) (.interval "reconnect_delay" s.reconnectDelay)
  require (isLongInterval s.systemInterval) (.interval "system_interval" s.systemInterval)
  require (!(s.checkForUpdates && s.updateChannels.isEmpty)) .noChannel

/-- The first fault in the settings of a device with its name. -/
def checkDevice (known : String → Bool) (device : String × DeviceSettings) : Except Fault Unit := do
  require (isWritten device.1) .deviceName
  (device.2.check known).mapError (.device device.1)

/-- The first fault in settings: those of the exporter come before those of the devices in the
order of their names. -/
def Settings.check (s : Settings) : Except Fault Unit := do
  s.system.check
  s.devices.toList.forM (checkDevice Catalog.isKnown)

end RouterMetrics.Config

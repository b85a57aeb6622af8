import RouterMetrics.Config.Environment
import RouterMetrics.Device.Backoff
import RouterMetrics.Duration.Basic

/-!
The settings of the exporter and of the devices it polls, with the values that hold when nothing is
written.
-/

namespace RouterMetrics.Config

/-- The settings of one device. Its names of metric groups are polled on two cadences. -/
structure DeviceSettings where
  enabled : Bool := true
  hostname : String
  port : Option Nat := none
  username : String
  password : String := ""
  useSsl : Bool := false
  verifyCertificate : Bool := true
  socketTimeout : Option Duration := none
  pollingInterval : Duration := .ofSeconds 10
  slowPollingInterval : Duration := .ofSeconds 60
  collectors : List String := []
  slowCollectors : List String := []
deriving DecidableEq

/-- The password with its references to environment variables replaced. -/
def DeviceSettings.resolvedPassword (d : DeviceSettings) (env : Environment) : String :=
  expand env d.password

/-- The settings of the exporter itself. -/
structure SystemSettings where
  exportAddress : String := "::"
  exportPort : Nat := 49090
  namePrefix : String := "mtik_exporter"
  socketTimeout : Duration := .ofSeconds 2
  initialDelay : Duration := .ofSeconds 120
  maxDelay : Duration := .ofSeconds 900
  delayDivisor : Nat := 5
  reconnectDelay : Duration := .ofSeconds 3
  startupStagger : Duration := .ofSeconds 1
  shutdownTimeout : Duration := .ofSeconds 5
  checkForUpdates : Bool := false
  updateChannels : List String := ["stable"]
  systemInterval : Duration := .ofSeconds 3600
deriving DecidableEq

/-- The pause after failures that the settings ask for. -/
def SystemSettings.backoff (s : SystemSettings) : Backoff :=
  .of s.initialDelay s.delayDivisor s.maxDelay

/-- The settings of the exporter, and of the devices by their names. -/
structure Settings where
  system : SystemSettings
  devices : Dict DeviceSettings

namespace Settings

/-- The settings when nothing is written. -/
def standard : Settings := ⟨{}, Dict.empty⟩

/-- The devices that are polled, in the order of their names. -/
def enabledDevices (s : Settings) : List (String × DeviceSettings) :=
  s.devices.toList.filter fun d => d.2.enabled

end Settings

end RouterMetrics.Config

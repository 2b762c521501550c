import BridgeWarden.Link.Backoff
import BridgeWarden.Reach.Ping

/-!
The settings of the supervisor, in six sections. Every field has a default that suits the
reference appliance, so settings that say nothing are complete. Numbers are words of fixed width;
the lengths of time that they stand for are exact.
-/

namespace BridgeWarden

/-- What backs the liveness timer. -/
inductive TimerKind where
  /-- The system's watchdog device. -/
  | device
  /-- A deadline within the process. -/
  | software
  deriving DecidableEq, Inhabited

/-- The serial line and the link over it. -/
structure LinkSettings where
  serialDevice : String := "/dev/ttyACM0"
  baudRate : UInt32 := 115200
  readTimeoutMs : UInt64 := 100
  writeTimeoutMs : UInt64 := 1000
  readChunkSize : UInt64 := 256
  backoffMinSecs : UInt64 := 2
  backoffMaxSecs : UInt64 := 30
  negotiationTimeoutSecs : UInt64 := 60
  pppd : String := "/usr/sbin/pppd"
  mtu : UInt16 := 512
  pppdOptions : List String := []
  deriving DecidableEq, Inhabited

structure AccessPointSettings where
  interface : String := "wlan0"
  hostapdCli : String := "/usr/sbin/hostapd_cli"
  /-- The program that restarts the access point and its arguments. -/
  restartCommand : List String := ["systemctl", "restart", "hostapd"]
  leaseFile : String := "/var/lib/misc/dnsmasq.leases"
  maxClients : UInt64 := 4
  queryTimeoutMs : UInt64 := 1000
  deriving DecidableEq, Inhabited

structure MonitorSettings where
  probeTimeoutMs : UInt64 := 1000
  ping : String := "/bin/ping"
  deriving DecidableEq, Inhabited

structure LivenessSettings where
  periodSecs : UInt64 := 5
  timeoutSecs : UInt64 := 30
  watchdog : TimerKind := .device
  device : String := "/dev/watchdog"
  deriving DecidableEq, Inhabited

structure TelemetrySettings where
  staleAfterSecs : UInt64 := 30
  deriving DecidableEq, Inhabited

structure ApiSettings where
  listen : String := "0.0.0.0:8080"
  deriving DecidableEq, Inhabited

structure Settings where
  link : LinkSettings := {}
  accessPoint : AccessPointSettings := {}
  monitor : MonitorSettings := {}
  liveness : LivenessSettings := {}
  telemetry : TelemetrySettings := {}
  api : ApiSettings := {}
  deriving DecidableEq, Inhabited

/-! ### Lengths of time -/

namespace LinkSettings

def readTimeout (s : LinkSettings) : Span := .ofMillis s.readTimeoutMs.toNat

def writeTimeout (s : LinkSettings) : Span := .ofMillis s.writeTimeoutMs.toNat

def negotiationTimeout (s : LinkSettings) : Span := .ofSecs s.negotiationTimeoutSecs.toNat

def backoff (s : LinkSettings) : Except Breach Link.Backoff :=
  Link.Backoff.make? (.ofSecs s.backoffMinSecs.toNat) (.ofSecs s.backoffMaxSecs.toNat)

/-- The arguments of the link engine: no authentication, both packet sizes bounded by `mtu`, the
log on the standard error, and the further options at the end. -/
def engineArguments (s : LinkSettings) : List String :=
  ["notty", "nodetach", "logfd", "2", "noauth", "usepeerdns", "defaultroute",
    "mru", toString s.mtu.toNat, "mtu", toString s.mtu.toNat] ++ s.pppdOptions

end LinkSettings

def AccessPointSettings.queryTimeout (s : AccessPointSettings) : Span :=
  .ofMillis s.queryTimeoutMs.toNat

def MonitorSettings.probeTimeout (s : MonitorSettings) : Span := .ofMillis s.probeTimeoutMs.toNat

namespace LivenessSettings

def period (s : LivenessSettings) : Span := .ofSecs s.periodSecs.toNat

def timeout (s : LivenessSettings) : Span := .ofSecs s.timeoutSecs.toNat

/-- The longest a cycle may take: half the period. -/
def cycleBudget (s : LivenessSettings) : Span := s.period.half

end LivenessSettings

def TelemetrySettings.staleAfter (s : TelemetrySettings) : Span := .ofSecs s.staleAfterSecs.toNat

end BridgeWarden

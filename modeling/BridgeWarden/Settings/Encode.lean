import BridgeWarden.Json.Value
import BridgeWarden.Settings.Basic

/-!
The JSON form of settings: every section with every field, under the names they are read by.
-/

namespace BridgeWarden

def TimerKind.toJson : TimerKind → Json
  | .device => .str "device"
  | .software => .str "software"

def LinkSettings.toJson (s : LinkSettings) : Json :=
  .obj [("serial_device", .str s.serialDevice), ("baud_rate", .nat s.baudRate.toNat),
    ("read_timeout_ms", .nat s.readTimeoutMs.toNat),
    ("write_timeout_ms", .nat s.writeTimeoutMs.toNat),
    ("read_chunk_size", .nat s.readChunkSize.toNat),
    ("backoff_min_secs", .nat s.backoffMinSecs.toNat),
    ("backoff_max_secs", .nat s.backoffMaxSecs.toNat),
    ("negotiation_timeout_secs", .nat s.negotiationTimeoutSecs.toNat),
    ("pppd", .str s.pppd), ("mtu", .nat s.mtu.toNat),
    ("pppd_options", .arr (s.pppdOptions.map .str))]

def AccessPointSettings.toJson (s : AccessPointSettings) : Json :=
  .obj [("interface", .str s.interface), ("hostapd_cli", .str s.hostapdCli),
    ("restart_command", .arr (s.restartCommand.map .str)), ("lease_file", .str s.leaseFile),
    ("max_clients", .nat s.maxClients.toNat), ("query_timeout_ms", .nat s.queryTimeoutMs.toNat)]

def MonitorSettings.toJson (s : MonitorSettings) : Json :=
  .obj [("probe_timeout_ms", .nat s.probeTimeoutMs.toNat), ("ping", .str s.ping)]

def LivenessSettings.toJson (s : LivenessSettings) : Json :=
  .obj [("period_secs", .nat s.periodSecs.toNat), ("timeout_secs", .nat s.timeoutSecs.toNat),
    ("watchdog", s.watchdog.toJson), ("device", .str s.device)]

def TelemetrySettings.toJson (s : TelemetrySettings) : Json :=
  .obj [("stale_after_secs", .nat s.staleAfterSecs.toNat)]

def ApiSettings.toJson (s : ApiSettings) : Json := .obj [("listen", .str s.listen)]

def Settings.toJson (s : Settings) : Json :=
  .obj [("link", s.link.toJson), ("access_point", s.accessPoint.toJson),
    ("monitor", s.monitor.toJson), ("liveness", s.liveness.toJson),
    ("telemetry", s.telemetry.toJson), ("api", s.api.toJson)]

end BridgeWarden

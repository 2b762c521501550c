import BridgeWarden.Json.Value
import BridgeWarden.Status.Health

/-!
The status interface's values as JSON: records with their fields in a fixed order, and choices
tagged by name among their fields.
-/

namespace BridgeWarden

def Mac.toJson (m : Mac) : Json := .str m.text

def Ipv4.toJson (a : Ipv4) : Json := .str a.text

namespace Link

def State.word : State → String
  | .idle => "idle"
  | .connecting => "connecting"
  | .established => "established"
  | .faulted => "faulted"

def State.toJson (s : State) : Json := .str s.word

def Snapshot.toJson (s : Snapshot) : Json :=
  .obj [("state", s.state.toJson), ("address", .ofOption Ipv4.toJson s.address),
    ("gateway", .ofOption Ipv4.toJson s.gateway), ("netmask", .ofOption Ipv4.toJson s.netmask),
    ("backoff_secs", .nat s.backoffSecs),
    ("consecutive_failures", .nat s.consecutiveFailures)]

end Link

def Remote.Suppression.toJson (s : Remote.Suppression) : Json := .str s.word

def Reach.Outcome.toJson : Reach.Outcome → Json
  | .noClients => .obj [("result", .str "no_clients")]
  | .reachable probed unresolved =>
      .obj [("result", .str "reachable"), ("probed", .nat probed), ("unresolved", .nat unresolved)]
  | .unreachable client address =>
      .obj [("result", .str "unreachable"), ("client", client.toJson),
        ("address", address.toJson)]
  | .indeterminate reason =>
      .obj [("result", .str "indeterminate"), ("reason", .str reason)]

def Recovery.Report.toJson : Recovery.Report → Json
  | .suppressed => .obj [("cycle", .str "suppressed")]
  | .inFlight => .obj [("cycle", .str "recovery_in_flight")]
  | .checked outcome started =>
      .obj [("cycle", .str "checked"), ("outcome", outcome.toJson),
        ("recovery_started", .bool started)]

namespace Status

def DisplayStatus.toJson (d : DisplayStatus) : Json :=
  .obj [("recoveries", .nat d.recoveries),
    ("last_recovery_unix", .ofOption .nat d.lastRecoveryUnix), ("idle_secs", .nat d.idleSecs)]

def Health.toJson (h : Health) : Json :=
  .obj [("link", h.link.toJson), ("link_up", .bool h.linkUp), ("remote", h.remote.toJson),
    ("last_cycle", .ofOption Recovery.Report.toJson h.lastCycle), ("display", h.display.toJson)]

def RemoteReport.toJson (r : RemoteReport) : Json := .obj [("state", r.state.toJson)]

def ClientRecord.toJson (c : ClientRecord) : Json :=
  .obj [("hardware_address", c.hardwareAddress.toJson)]

end Status

end BridgeWarden

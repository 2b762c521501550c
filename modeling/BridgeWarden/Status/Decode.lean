import BridgeWarden.Json.Record
import BridgeWarden.Status.Encode

/-!
The status interface's values read back from JSON. `level` says how many containers lie around a
value; only choices with a tag mind.
-/

namespace BridgeWarden

open Json

def Mac.ofJson? (j : Json) : Option Mac := j.str?.bind fun s => Mac.parse? s.toList

def Ipv4.ofJson? (j : Json) : Option Ipv4 := j.str?.bind fun s => Ipv4.parse? s.toList

namespace Link

def State.all : List State := [.idle, .connecting, .established, .faulted]

def State.ofJson? (j : Json) : Option State :=
  (plainChoice? (State.all.map State.word) j).bind (State.all[·]?)

def Snapshot.ofJson? (j : Json) : Option Snapshot := do
  match ← record? ["state", "address", "gateway", "netmask", "backoff_secs",
      "consecutive_failures"] j with
  | [state, address, gateway, netmask, backoff, failures] =>
      return { state := ← required State.ofJson? state
               address := ← optional Ipv4.ofJson? address
               gateway := ← optional Ipv4.ofJson? gateway
               netmask := ← optional Ipv4.ofJson? netmask
               backoffSecs := ← required (natBelow? UInt64.size) backoff
               consecutiveFailures := ← required (natBelow? UInt32.size) failures }
  | _ => none

end Link

def Remote.Suppression.ofJson? (j : Json) : Option Remote.Suppression :=
  (plainChoice? (Remote.Suppression.all.map Remote.Suppression.word) j).bind
    (Remote.Suppression.all[·]?)

namespace Reach.Outcome

/-- The names of the outcomes. -/
def names : List String := ["no_clients", "reachable", "unreachable", "indeterminate"]

/-- Reads an outcome that is kept by a choice around it if `kept`. -/
def ofKept? (kept : Bool) (j : Json) : Option Reach.Outcome := do
  match ← choice? "result" names kept j with
  | (0, parts) => if parts.isUnit then some .noClients else none
  | (1, parts) =>
      match ← parts.record? ["probed", "unresolved"] with
      | [probed, unresolved] =>
          return .reachable (← required (natBelow? UInt64.size) probed)
            (← required (natBelow? UInt64.size) unresolved)
      | _ => none
  | (2, parts) =>
      match ← parts.record? ["client", "address"] with
      | [client, address] =>
          return .unreachable (← required Mac.ofJson? client) (← required Ipv4.ofJson? address)
      | _ => none
  | (3, parts) =>
      match ← parts.record? ["reason"] with
      | [reason] => return .indeterminate (← required str? reason)
      | _ => none
  | _ => none

def ofJson? (level : Nat) (j : Json) : Option Reach.Outcome :=
  if keepable level j then ofKept? false j else none

end Reach.Outcome

namespace Recovery.Report

/-- The names of the reports. -/
def names : List String := ["suppressed", "recovery_in_flight", "checked"]

def ofJson? (level : Nat) (j : Json) : Option Recovery.Report := do
  if !keepable level j then none
  else match ← choice? "cycle" names false j with
    | (0, parts) => if parts.isUnit then some .suppressed else none
    | (1, parts) => if parts.isUnit then some .inFlight else none
    | (2, parts) =>
        match ← parts.record? ["outcome", "recovery_started"] with
        | [outcome, started] =>
            return .checked (← required (Reach.Outcome.ofKept? true) outcome)
              (← required bool? started)
        | _ => none
    | _ => none

end Recovery.Report

namespace Status

def DisplayStatus.ofJson? (j : Json) : Option DisplayStatus := do
  match ← record? ["recoveries", "last_recovery_unix", "idle_secs"] j with
  | [recoveries, last, idle] =>
      return ⟨← required (natBelow? UInt64.size) recoveries,
        ← optional (natBelow? UInt64.size) last, ← required (natBelow? UInt64.size) idle⟩
  | _ => none

def Health.ofJson? (j : Json) : Option Health := do
  match ← record? ["link", "link_up", "remote", "last_cycle", "display"] j with
  | [link, up, remote, cycle, display] =>
      return ⟨← required Link.Snapshot.ofJson? link, ← required bool? up,
        ← required Remote.Suppression.ofJson? remote,
        ← optional (Recovery.Report.ofJson? 1) cycle,
        ← required DisplayStatus.ofJson? display⟩
  | _ => none

def RemoteReport.ofJson? (j : Json) : Option RemoteReport := do
  match ← record? ["state"] j with
  | [state] => return ⟨← required Remote.Suppression.ofJson? state⟩
  | _ => none

def ClientRecord.ofJson? (j : Json) : Option ClientRecord := do
  match ← record? ["hardware_address"] j with
  | [address] => return ⟨← required Mac.ofJson? address⟩
  | _ => none

end Status

end BridgeWarden

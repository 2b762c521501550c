import BridgeWarden.Liveness.Supervisor
import BridgeWarden.Settings.Basic

/-!
The supervisor that settings ask for.
-/

namespace BridgeWarden

/-- How often the supervisor ticks, and what a cycle may take. -/
def LivenessSettings.rhythm (s : LivenessSettings) : Liveness.Rhythm := ⟨s.period, s.cycleBudget⟩

/-- How clients are checked. -/
def Settings.reach (s : Settings) : Reach.Monitor :=
  ⟨s.monitor.probeTimeout, s.accessPoint.maxClients.toNat⟩

/-- The supervisor of settings at an instant, its timer just armed: a guard in software, or a device
that has granted the timeout. -/
def Settings.supervisor? (s : Settings) (epoch start : Nat) :
    Except Liveness.Refusal Liveness.Supervisor :=
  match s.liveness.watchdog with
  | .software =>
      Liveness.Supervisor.armed? s.liveness.rhythm s.liveness.timeout s.reach
        s.telemetry.staleAfter epoch start
  | .device => .ok (.new s.liveness.rhythm s.reach s.telemetry.staleAfter none epoch start)

end BridgeWarden

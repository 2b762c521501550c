import BridgeWarden.Remote.Suppression
import BridgeWarden.Time.Clock

/-!
The last report of the remote site. It counts until it is older than a fixed span; each report
replaces the one before it, whatever it says.
-/

namespace BridgeWarden.Remote

structure Telemetry where
  staleAfter : Span
  last : Option (Suppression × Nat)
  deriving DecidableEq, Inhabited

namespace Telemetry

def new (staleAfter : Span) : Telemetry := ⟨staleAfter, none⟩

/-- Records a state at an instant. -/
def report (t : Telemetry) (state : Suppression) (now : Nat) : Telemetry :=
  { t with last := some (state, now) }

/-- Records a payload at an instant. -/
def receive (t : Telemetry) (payload : List Char) (now : Nat) : Telemetry :=
  t.report (Suppression.ofPayload payload) now

/-- The state believed at an instant: the last report's while it is fresh. -/
def state (t : Telemetry) (now : Nat) : Suppression :=
  match t.last with
  | some (s, since) => if Clock.within since now t.staleAfter then s else .unknown
  | none => .unknown

end Telemetry

end BridgeWarden.Remote

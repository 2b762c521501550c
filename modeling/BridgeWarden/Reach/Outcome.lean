import BridgeWarden.Address.Ipv4
import BridgeWarden.Address.Mac

/-!
What one round of checking the access point's clients found.
-/

namespace BridgeWarden.Reach

inductive Outcome where
  /-- Nobody is associated. -/
  | noClients
  /-- Every client with a lease answered. -/
  | reachable (probed unresolved : Nat)
  /-- A client did not answer. -/
  | unreachable (client : Mac) (address : Ipv4)
  /-- The round could not be carried out. -/
  | indeterminate (reason : String)
  deriving DecidableEq, Inhabited

/-- Only a client that does not answer calls for recovery. -/
def Outcome.needsRecovery : Outcome → Bool
  | .unreachable .. => true
  | _ => false

end BridgeWarden.Reach

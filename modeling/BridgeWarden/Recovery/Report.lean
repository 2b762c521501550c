import BridgeWarden.Reach.Outcome

/-!
What one cycle of the supervisor did.
-/

namespace BridgeWarden.Recovery

inductive Report where
  /-- The remote site reports this system online; nothing was checked. -/
  | suppressed
  /-- A restart begun by an earlier cycle is still running; nothing was checked. -/
  | inFlight
  /-- The clients were checked. -/
  | checked (outcome : Reach.Outcome) (recoveryStarted : Bool)
  deriving DecidableEq, Inhabited

/-- The report of a cycle that was cut off. -/
def Report.overrun : Report :=
  .checked (.indeterminate "cycle exceeded its time budget") false

end BridgeWarden.Recovery

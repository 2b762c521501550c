import BridgeWarden.Settings.Basic

/-!
Which settings the supervisor can run with. The liveness timer has to outlast the period, the
delays between attempts to form a range, and a client that does not answer has to be found out
within half a period: one query of the access point and one whole probe. The first complaint counts.
-/

namespace BridgeWarden.Settings

/-- Why settings are refused. -/
inductive Complaint where
  | periodZero
  | timeoutWithinPeriod (timeoutSecs periodSecs : Nat)
  | backoffRange (minSecs maxSecs : Nat)
  | cycleTooLong (queryMs probeMs : Nat)
  | negotiationZero
  | chunkZero
  | noRestartCommand
  deriving DecidableEq, Inhabited

def Complaint.message : Complaint → String
  | .periodZero => "liveness period must be non-zero"
  | .timeoutWithinPeriod timeout period =>
      "liveness timeout (" ++ toString timeout ++ "s) must exceed the period (" ++
        toString period ++ "s)"
  | .backoffRange least ceiling =>
      "backoff range " ++ toString least ++ "s.." ++ toString ceiling ++ "s is invalid"
  | .cycleTooLong query probe =>
      "query timeout (" ++ toString query ++ "ms) plus probe bound (" ++ toString probe ++
        "ms) must be below half the liveness period"
  | .negotiationZero => "negotiation timeout must be non-zero"
  | .chunkZero => "read chunk size must be non-zero"
  | .noRestartCommand => "access point restart command is empty"

def Complaint.fault (c : Complaint) : Fault := .config c.message

/-- What it takes to find out a client that does not answer: one query and one whole probe. -/
def worstCycle (s : Settings) : Except Breach Span := do
  let probe ← Reach.Ping.bound s.monitor.probeTimeout
  let sum := s.accessPoint.queryTimeout + probe
  if Span.longest < sum then throw .spanOverflow
  return sum

/-- The first complaint about settings, if there is one. -/
def complaint? (s : Settings) : Except Breach (Option Complaint) := do
  let period := s.liveness.periodSecs
  let timeout := s.liveness.timeoutSecs
  let least := s.link.backoffMinSecs
  let ceiling := s.link.backoffMaxSecs
  if period = 0 then return some .periodZero
  if timeout ≤ period then return some (.timeoutWithinPeriod timeout.toNat period.toNat)
  if least = 0 ∨ ceiling < least then return some (.backoffRange least.toNat ceiling.toNat)
  if s.liveness.cycleBudget ≤ (← s.worstCycle) then
    return some (.cycleTooLong s.accessPoint.queryTimeoutMs.toNat
      (← Reach.Ping.bound s.monitor.probeTimeout).millis)
  if s.link.negotiationTimeoutSecs = 0 then return some .negotiationZero
  if s.link.readChunkSize = 0 then return some .chunkZero
  if s.accessPoint.restartCommand = [] then return some .noRestartCommand
  return none

end BridgeWarden.Settings

import BridgeWarden.Reach.Survey
import BridgeWarden.Recovery.Report
import BridgeWarden.Remote.Suppression
import BridgeWarden.Status.Display

/-!
Cycles of checking and the restarts of the access point that they call for. A restart is a task of
its own, known by a number; the coordinator holds on to the last one it began, and while that one
is not over a cycle does nothing. A cycle may be dropped at any of its questions, which changes
nothing else.
-/

namespace BridgeWarden.Recovery

/-- How far a restart has come. -/
inductive Progress where
  /-- Begun, its call not yet made. -/
  | fresh
  /-- Inside its call. -/
  | calling
  deriving DecidableEq, Inhabited

structure Coordinator where
  monitor : Reach.Monitor
  display : Status.Display
  /-- The survey of the present cycle. -/
  survey : Option Reach.Survey
  /-- The restart that the coordinator holds on to. -/
  held : Option Nat
  /-- The restarts that are not over, by number. -/
  restarts : List (Nat × Progress)
  /-- How many restarts there have been: the number of the next one. -/
  begun : Nat
  deriving DecidableEq, Inhabited

namespace Coordinator

def new (monitor : Reach.Monitor) (display : Status.Display) : Coordinator :=
  { monitor, display, survey := none, held := none, restarts := [], begun := 0 }

/-- Whether a restart is not over. -/
def isRunning (c : Coordinator) (number : Nat) : Bool := c.restarts.any (·.1 == number)

/-- Whether a restart has come just so far. -/
def isAt (c : Coordinator) (number : Nat) (progress : Progress) : Bool :=
  c.restarts.contains (number, progress)

/-- Whether the restart that the coordinator holds on to is not over. -/
def isBusy (c : Coordinator) : Bool := c.held.any c.isRunning

/-- Begins a cycle: its report, or none when the survey has questions to ask. -/
def begin (remote : Remote.Suppression) (c : Coordinator) : Coordinator × Option Report :=
  if c.isBusy then (c, some .inFlight)
  else
    let c := { c with held := none }
    if remote.suppresses then (c, some .suppressed)
    else ({ c with survey := some .listing }, none)

/-- Begins a restart and shows the recovery. -/
def beginRestart (now wall : Nat) (c : Coordinator) : Coordinator :=
  { c with
    display := c.display.resetIdle now wall
    held := some c.begun
    restarts := c.restarts ++ [(c.begun, .fresh)]
    begun := c.begun + 1 }

/-- Ends the present cycle with an outcome. -/
def conclude (outcome : Reach.Outcome) (now wall : Nat) (c : Coordinator) : Coordinator × Report :=
  let c := { c with survey := none }
  (if outcome.needsRecovery then c.beginRestart now wall else c,
    .checked outcome outcome.needsRecovery)

/-- What the present cycle asks. -/
def query? (c : Coordinator) : Option Reach.Query := c.survey.bind (·.query? c.monitor)

/-- The coordinator after an answer to the present question, and the cycle's report if that ends
it. -/
def answer? (answer : Reach.Answer) (now wall : Nat) (c : Coordinator) :
    Option (Coordinator × Option Report) :=
  (c.survey.bind (·.answer? c.monitor answer)).map fun survey =>
    match survey.outcome? with
    | some outcome =>
        let (c, report) := c.conclude outcome now wall
        (c, some report)
    | none => ({ c with survey := some survey }, none)

/-- Drops the present cycle. -/
def drop (c : Coordinator) : Coordinator := { c with survey := none }

/-- A restart makes its call. -/
def restartCalls (number : Nat) (c : Coordinator) : Coordinator :=
  { c with restarts := c.restarts.map fun r => if r.1 = number then (number, .calling) else r }

/-- A restart is over, however it ended. -/
def restartEnds (number : Nat) (c : Coordinator) : Coordinator :=
  { c with restarts := c.restarts.filter (·.1 ≠ number) }

/-- Gives up the restart that the coordinator holds on to, to be waited for. -/
def release (c : Coordinator) : Coordinator × Option Nat := ({ c with held := none }, c.held)

end Coordinator

end BridgeWarden.Recovery

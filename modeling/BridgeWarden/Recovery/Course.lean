import BridgeWarden.Recovery.Coordinator
import BridgeWarden.Remote.Telemetry

/-!
A coordinator at work, as a system of labelled transitions on a clock of milliseconds. One cycle
runs at a time; it is answered question by question, or dropped at any of them. Between cycles the
coordinator may be finished, which waits for the restart that it holds on to. Restarts go on beside
all of that.

What is answered and when, how long a restart takes and when a cycle is dropped is an action. What
a course does is kept in its history: the cycles, what they ask and are told, and the restarts.
-/

namespace BridgeWarden.Recovery

/-- What a course shows of itself. -/
inductive Happening where
  /-- A cycle began. -/
  | entered
  /-- The present cycle read the state of the remote site. -/
  | believed (remote : Remote.Suppression)
  /-- The present cycle asked a question. -/
  | asked (query : Reach.Query)
  /-- The present cycle was told an answer. -/
  | answered (answer : Reach.Answer)
  /-- The present cycle was dropped. -/
  | dropped
  /-- The present cycle began a restart. -/
  | restartBegun (number : Nat)
  /-- The present cycle ended with a report. -/
  | reported (report : Report)
  /-- The call of a restart began. -/
  | restartCalled (number : Nat)
  /-- A restart was over. -/
  | restartEnded (number : Nat)
  deriving DecidableEq, Inhabited

structure Course where
  now : Nat
  /-- The wall clock's seconds at the first instant. -/
  epoch : Nat
  coordinator : Coordinator
  telemetry : Remote.Telemetry
  /-- The coordinator is being finished, and the restart that is waited for, if any. -/
  finishing : Option (Option Nat)
  /-- What happened and when, latest first. -/
  history : List (Nat × Happening)
  deriving DecidableEq, Inhabited

namespace Course

inductive Action where
  /-- A cycle begins. -/
  | begin
  /-- The present question is answered. -/
  | answer (answer : Reach.Answer)
  /-- The present cycle is dropped. -/
  | drop
  /-- The coordinator is to be finished. -/
  | finish
  /-- It is finished. -/
  | finished
  | restartCalls (number : Nat)
  | restartEnds (number : Nat)
  /-- The remote site reports a payload. -/
  | receive (payload : List Char)
  | pass (millis : Nat)

def new (monitor : Reach.Monitor) (staleAfter : Span) (epoch : Nat) : Course :=
  { now := 0, epoch, coordinator := .new monitor (.new 0), telemetry := .new staleAfter
    finishing := none, history := [] }

/-- The wall clock's seconds. -/
def wall (c : Course) : Nat := c.epoch + c.now / 1000

/-- Whether neither a cycle nor an end is under way. -/
def isIdle (c : Course) : Bool := c.coordinator.survey.isNone && c.finishing.isNone

def note (c : Course) (h : Happening) : Course := { c with history := (c.now, h) :: c.history }

/-- The course with a coordinator as it became: with the restart that it began, if any, and with
its cycle's report or next question. -/
def adopt (c : Course) (became : Coordinator × Option Report) : Course :=
  let begun := c.coordinator.begun
  let c := { c with coordinator := became.1 }
  let c := if begun < became.1.begun then c.note (.restartBegun begun) else c
  match became.2, became.1.query? with
  | some report, _ => c.note (.reported report)
  | none, some query => c.note (.asked query)
  | none, none => c

/-- Begins a cycle. The remote site counts only when no restart is going on. -/
def enter (c : Course) : Course :=
  let remote := c.telemetry.state c.now
  let c := c.note .entered
  let c := if c.coordinator.isBusy then c else c.note (.believed remote)
  c.adopt (c.coordinator.begin remote)

/-- What happened, latest first. -/
def events (c : Course) : List Happening := c.history.map Prod.snd

/-- The report of the last cycle that ended with one. -/
def report? (c : Course) : Option Report :=
  c.history.findSome? fun h => match h.2 with
    | .reported report => some report
    | _ => none

/-- Whether what is waited for at the end is over. -/
def isFinished (c : Course) : Bool :=
  c.finishing.any fun restart => !restart.any c.coordinator.isRunning

/-- Whether nothing can move for some time. A restart that has not made its call is about to. -/
def canWait (c : Course) : Bool :=
  c.coordinator.restarts.all (·.2 == .calling) && !c.isFinished

/-- The course after an action; none if the action is not possible. -/
def next? (c : Course) : Action → Option Course
  | .begin => if c.isIdle then some c.enter else none
  | .answer answer =>
      (c.coordinator.answer? answer c.now c.wall).map (c.note (.answered answer)).adopt
  | .drop =>
      if c.coordinator.survey.isSome then
        some ({ c with coordinator := c.coordinator.drop }.note .dropped)
      else none
  | .finish =>
      if c.isIdle then
        let (coordinator, restart) := c.coordinator.release
        some { c with coordinator, finishing := some restart }
      else none
  | .finished => if c.isFinished then some { c with finishing := none } else none
  | .restartCalls number =>
      if c.coordinator.isAt number .fresh then
        some ({ c with coordinator := c.coordinator.restartCalls number }.note
          (.restartCalled number))
      else none
  | .restartEnds number =>
      if c.coordinator.isAt number .calling then
        some ({ c with coordinator := c.coordinator.restartEnds number }.note
          (.restartEnded number))
      else none
  | .receive payload => some { c with telemetry := c.telemetry.receive payload c.now }
  | .pass millis => if c.canWait then some { c with now := c.now + millis } else none

def run? (c : Course) : List Action → Option Course
  | [] => some c
  | a :: rest => (c.next? a).bind fun c => run? c rest

end Course

end BridgeWarden.Recovery

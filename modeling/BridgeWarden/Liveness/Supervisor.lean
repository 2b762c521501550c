import BridgeWarden.Liveness.Guard
import BridgeWarden.Recovery.Coordinator
import BridgeWarden.Remote.Telemetry

/-!
The task that shows to the liveness timer, once a period, that the system lives, and runs a cycle of
checking each time; as a system of labelled transitions on a clock of milliseconds.

A tick confirms first and runs its cycle second, and the cycle is cut off when its budget is spent.
After a cancellation the supervisor waits for the restart that it holds on to, if any, and disarms
the timer. `Supervisor.next?` is the whole of the behaviour. What the system does not decide itself
is an action: what the access point and the prober answer and when, when a restart's call begins
and ends, what the remote site reports, when the system is cancelled, and how long nothing
happens. The timer is a guard in software, watched by its sentry, or a device, of which only the
answers count.
-/

namespace BridgeWarden.Liveness

/-- What the supervisor is about. -/
inductive Phase where
  /-- Not begun. -/
  | fresh
  /-- Waiting for the tick of the instant. -/
  | waiting (due : Nat)
  /-- In a cycle that is cut off at the first instant; the next tick is due at the second. -/
  | cycling (cutOff due : Nat)
  /-- Cancelled, and waiting for a restart before it disarms the timer. -/
  | finishing (restart : Option Nat)
  /-- Ended in order, perhaps with the timer's refusal to be disarmed. -/
  | ended (fault : Option Fault)
  /-- Ended because a condition was broken. -/
  | crashed
  /-- Ended from outside, wherever it stood. -/
  | aborted
  deriving DecidableEq, Inhabited

/-- What a run shows of itself. -/
inductive Happening where
  /-- The timer was confirmed. -/
  | confirmed
  /-- A cycle asked a question. -/
  | asked (query : Reach.Query)
  /-- Readers see a new report. -/
  | published (report : Recovery.Report)
  /-- The call of a restart began. -/
  | restartCalled (number : Nat)
  /-- A restart was over. -/
  | restartEnded (number : Nat)
  /-- The timer was disarmed, or refused to be. -/
  | disarmed (fault : Option Fault)
  deriving DecidableEq, Inhabited

/-- The supervisor's own settings. -/
structure Rhythm where
  period : Span
  budget : Span
  deriving DecidableEq, Inhabited

/-- How late a tick may be before the ticks after it are put off. -/
def tickSlack : Nat := 5

/-- When the tick after one that was due at an instant is due. -/
def Rhythm.nextTick (r : Rhythm) (due now : Nat) : Nat :=
  if due + tickSlack < now then Clock.wake now r.period else Clock.wake due r.period

structure Supervisor where
  now : Nat
  /-- The wall clock's seconds at the clock's first instant. -/
  epoch : Nat
  rhythm : Rhythm
  phase : Phase
  coordinator : Recovery.Coordinator
  telemetry : Remote.Telemetry
  /-- The timer, where it is a guard in software. -/
  guard : Option Guard
  cancelled : Bool
  /-- What happened and when, latest first. -/
  history : List (Nat × Happening)
  deriving DecidableEq, Inhabited

/-- What the system itself or the world around it does next. -/
inductive Action where
  /-- The supervisor begins. -/
  | begin
  /-- The tick that is due. -/
  | tick
  /-- The present question is answered. -/
  | answer (answer : Reach.Answer)
  /-- The present cycle has spent its budget. -/
  | cutOff
  /-- The supervisor notices the cancellation. -/
  | stop
  /-- The timer is disarmed, or refuses to be. -/
  | disarm (fault : Option Fault)
  /-- The supervisor is ended from outside. -/
  | abort
  | restartCalls (number : Nat)
  | restartEnds (number : Nat)
  | sentryReads
  | sentryWakes
  /-- The remote site reports a payload. -/
  | receive (payload : List Char)
  | cancel
  /-- Nothing happens for some milliseconds. -/
  | pass (millis : Nat)

namespace Supervisor

def new (rhythm : Rhythm) (monitor : Reach.Monitor) (staleAfter : Span) (guard : Option Guard)
    (epoch start : Nat) : Supervisor :=
  { now := start, epoch, rhythm, phase := .fresh, coordinator := .new monitor (.new start)
    telemetry := .new staleAfter, guard, cancelled := false, history := [] }

/-- A supervisor whose timer is a guard in software that is armed at an instant; or the guard's
refusal. -/
def armed? (rhythm : Rhythm) (timeout : Span) (monitor : Reach.Monitor) (staleAfter : Span)
    (epoch start : Nat) : Except Refusal Supervisor :=
  (Guard.new.configure timeout start).map fun guard =>
    .new rhythm monitor staleAfter (some guard) epoch start

/-- The wall clock's seconds. -/
def wall (s : Supervisor) : Nat := s.epoch + s.now / 1000

def note (s : Supervisor) (h : Happening) : Supervisor :=
  { s with history := (s.now, h) :: s.history }

/-- Confirms the guard. A refusal is passed over; none when the clock cannot tell the deadline. -/
def confirmGuard? (s : Supervisor) : Option Supervisor :=
  match s.guard with
  | none => some s
  | some g => match g.confirm s.now with
    | .ok g => some { s with guard := some g }
    | .error (.fault _) => some s
    | .error (.breach _) => none

/-- Shows a report to readers and waits for the next tick. -/
def publish (report : Recovery.Report) (due : Nat) (s : Supervisor) : Supervisor :=
  { s.note (.published report) with phase := .waiting due }

/-- Notes the question that the present cycle asks. -/
def ask (s : Supervisor) : Supervisor :=
  match s.coordinator.query? with
  | some query => s.note (.asked query)
  | none => s

/-- Begins a cycle, the next tick being due at an instant. -/
def beginCycle (due : Nat) (s : Supervisor) : Supervisor :=
  let (coordinator, report) := s.coordinator.begin (s.telemetry.state s.now)
  let s := { s with coordinator }
  match report with
  | some report => s.publish report due
  | none => { s with phase := .cycling (Clock.wake s.now s.rhythm.budget) due }.ask

/-- The tick that was due at an instant. -/
def tick (due : Nat) (s : Supervisor) : Supervisor :=
  match (s.note .confirmed).confirmGuard? with
  | some confirmed => confirmed.beginCycle (s.rhythm.nextTick due s.now)
  | none => { s.note .confirmed with phase := .crashed }

/-- Whether the supervisor may disarm the timer now. -/
def isFinished (s : Supervisor) : Bool :=
  match s.phase with
  | .finishing restart => !restart.any s.coordinator.isRunning
  | _ => false

def isOver (s : Supervisor) : Bool :=
  match s.phase with
  | .ended _ | .crashed | .aborted => true
  | _ => false

/-- Whether the supervisor's own task waits for others for so long. -/
def taskCanWait (millis : Nat) (s : Supervisor) : Bool :=
  match s.phase with
  | .fresh => false
  | .waiting due => !s.cancelled && s.now < due && s.now + millis ≤ due
  | .cycling cutOff _ => s.now < cutOff && s.now + millis ≤ cutOff
  | .finishing _ => !s.isFinished
  | .ended _ | .crashed | .aborted => true

/-- Whether nothing can move for so long. A restart that has not made its call is about to. -/
def canWait (millis : Nat) (s : Supervisor) : Bool :=
  s.taskCanWait millis && s.coordinator.restarts.all (·.2 == .calling) &&
    s.guard.all (·.canWait s.now millis false)

/-- The system after an action; none if the action is not possible. -/
def next? (s : Supervisor) : Action → Option Supervisor
  | .begin =>
      match s.phase with
      | .fresh =>
          some { s with phase := if s.rhythm.period.isZero then .crashed else .waiting s.now }
      | _ => none
  | .tick =>
      match s.phase with
      | .waiting due => if due ≤ s.now then some (s.tick due) else none
      | _ => none
  | .answer answer =>
      match s.phase with
      | .cycling _ due =>
          (s.coordinator.answer? answer s.now s.wall).map fun (coordinator, report) =>
            let s := { s with coordinator }
            match report with
            | some report => s.publish report due
            | none => s.ask
      | _ => none
  | .cutOff =>
      match s.phase with
      | .cycling cutOff due =>
          if cutOff ≤ s.now then
            some ({ s with coordinator := s.coordinator.drop }.publish .overrun due)
          else none
      | _ => none
  | .stop =>
      match s.phase with
      | .waiting _ =>
          if s.cancelled then
            let (coordinator, restart) := s.coordinator.release
            some { s with coordinator, phase := .finishing restart }
          else none
      | _ => none
  | .disarm fault =>
      if s.isFinished then
        some { s.note (.disarmed fault) with
          phase := .ended fault, guard := s.guard.map (·.disarm) }
      else none
  | .abort => if s.isOver then none else some { s with phase := .aborted }
  | .restartCalls number =>
      if s.coordinator.isAt number .fresh then
        some ({ s with coordinator := s.coordinator.restartCalls number }.note
          (.restartCalled number))
      else none
  | .restartEnds number =>
      if s.coordinator.isAt number .calling then
        some ({ s with coordinator := s.coordinator.restartEnds number }.note
          (.restartEnded number))
      else none
  | .sentryReads => (s.guard.bind (·.sentryReads?)).map fun g => { s with guard := some g }
  | .sentryWakes => (s.guard.bind (·.sentryWakes? s.now)).map fun g => { s with guard := some g }
  | .receive payload => some { s with telemetry := s.telemetry.receive payload s.now }
  | .cancel => some { s with cancelled := true }
  | .pass millis => if s.canWait millis then some { s with now := s.now + millis } else none

def run? (s : Supervisor) : List Action → Option Supervisor
  | [] => some s
  | a :: rest => (s.next? a).bind fun s => run? s rest

/-- The last report that readers saw. -/
def report? (s : Supervisor) : Option Recovery.Report :=
  s.history.findSome? fun h => match h.2 with
    | .published report => some report
    | _ => none

end Supervisor

end BridgeWarden.Liveness

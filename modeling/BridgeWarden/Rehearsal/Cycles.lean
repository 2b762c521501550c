import BridgeWarden.Recovery.Course
import BridgeWarden.Rehearsal.Agenda
import BridgeWarden.Rehearsal.Values
import BridgeWarden.Rehearsal.World

/-!
A coordinator in a world: cycles run one after the other, each to its end or for a time, while
restarts go on beside them.
-/

namespace BridgeWarden.Rehearsal

inductive CycleStep where
  | cycle
  /-- A cycle that is dropped when it takes longer. -/
  | cycleWithin (d : Span)
  /-- Waits for the restart that the coordinator holds on to. -/
  | finish
  | change (f : World → World)
  | payload (text : String)
  | advance (d : Span)

inductive CycleResult where
  | report (r : Recovery.Report)
  | timedOut
  | read (state : Remote.Suppression)
  | nothing

structure CycleFrame where
  now : Nat
  result : CycleResult
  calls : List (Nat × WorldCall)
  display : Status.DisplayStatus

/-- Restarts take turns, by number. -/
structure CycleStage where
  agenda : Agenda Nat
  course : Recovery.Course
  world : World
  /-- Calls, latest first. -/
  log : List (Nat × WorldCall)

namespace CycleStage

open Recovery (Course)

def note (call : WorldCall) (s : CycleStage) : CycleStage :=
  { s with log := (s.agenda.now, call) :: s.log }

/-- The course at the present instant; none if it had something to do before. -/
def course? (s : CycleStage) : Option Course :=
  if s.course.now = s.agenda.now then some s.course
  else s.course.next? (.pass (s.agenda.now - s.course.now))

/-- The calls that a happening stands for. -/
def noteHappening (h : Recovery.Happening) (s : CycleStage) : CycleStage :=
  match h with
  | .asked query => s.note (.asked query)
  | .restartCalled _ => s.note .restart
  | .restartEnded _ => if s.world.restartPanics then s else s.note .restarted
  | _ => s

/-- An action of the course, with its calls and a turn for a restart that it begins. -/
def act (a : Course.Action) (s : CycleStage) : CycleStage :=
  match s.course?.bind fun before => (before.next? a).map (before, ·) with
  | some (before, course) =>
      let fresh := course.history.take (course.history.length - before.history.length)
      let s := fresh.reverse.foldl (fun s h => s.noteHappening h.2) { s with course }
      let number := before.coordinator.begun
      if number < course.coordinator.begun then { s with agenda := s.agenda.wake number } else s
  | none => s

/-- A restart has waited for its delay. -/
def endRestart (number : Nat) (s : CycleStage) : CycleStage :=
  let s := s.act (.restartEnds number)
  if s.world.restartPanics then s else { s with world := s.world.restarted }

/-- A restart makes its call and waits, or ends. -/
def restartTurn (number : Nat) (s : CycleStage) : CycleStage :=
  if s.course.coordinator.isAt number .fresh then
    let s := s.act (.restartCalls number)
    let due := Clock.wake s.agenda.now s.world.restartDelay
    if due ≤ s.agenda.now then s.endRestart number
    else { s with agenda := s.agenda.arm number 0 due }
  else s.endRestart number

instance : Stage CycleStage Nat where
  agenda := CycleStage.agenda
  withAgenda s agenda := { s with agenda }
  turn := restartTurn

/-- Plays on to an instant. -/
def playTo (instant : Nat) (s : CycleStage) : CycleStage :=
  if s.agenda.now < instant then play Nat (instant - s.agenda.now) s else s

/-- The report of the cycle that has just ended. -/
def lastReport (s : CycleStage) : CycleResult :=
  match s.course.report? with
  | some report => .report report
  | none => .nothing

/-- Answers the cycle's questions until it ends or is dropped. -/
def answerUntil (cutOff : Option Nat) : Nat → CycleStage → CycleStage × CycleResult
  | 0, s => (s, .timedOut)
  | fuel + 1, s =>
      match s.course.coordinator.query? with
      | none => (s, s.lastReport)
      | some query =>
          let due := Clock.wake s.agenda.now (s.world.delay query)
          match cutOff.filter (· < due) with
          | some cutOff => ((s.playTo cutOff).act .drop, .timedOut)
          | none =>
              let s := s.playTo due
              answerUntil cutOff fuel (s.act (.answer (s.world.answer query)))

def cycle (cutOff : Option Nat) (s : CycleStage) : CycleStage × CycleResult :=
  (s.act .begin).answerUntil cutOff s.world.questions

/-- Waits for the restart that the coordinator holds on to. -/
def finish (s : CycleStage) : CycleStage :=
  let s := s.act .finish
  let awaited := s.course.finishing.bind id
  let s := match awaited.bind fun number => s.agenda.alarms.find? (·.owner == number) with
    | some alarm => s.playTo alarm.due
    | none => s
  s.act .finished

def step (step : CycleStep) (s : CycleStage) : CycleStage × CycleResult :=
  match step with
  | .cycle => s.cycle none
  | .cycleWithin d => s.cycle (some (Clock.wake s.agenda.now d))
  | .finish => (s.finish, .nothing)
  | .change f => ({ s with world := f s.world }, .nothing)
  | .payload text =>
      (s.act (.receive text.toList), .read (Remote.Suppression.ofPayload text.toList))
  | .advance d => (play Nat d.ceilMillis s, .nothing)

def steps (s : CycleStage) : List CycleStep → List CycleFrame
  | [] => []
  | step :: rest =>
      let (acted, result) := s.step step
      let after := play Nat 0 acted
      { now := after.agenda.now, result
        calls := (after.log.take (after.log.length - s.log.length)).reverse
        display := after.course.coordinator.display.status after.agenda.now } ::
        steps after rest

end CycleStage

def runCycles (m : Reach.Monitor) (staleAfter : Span) (world : World) (script : List CycleStep) :
    List CycleFrame :=
  CycleStage.steps ⟨.new, .new m staleAfter wallStart, world, []⟩ script

end BridgeWarden.Rehearsal

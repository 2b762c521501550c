import BridgeWarden.Liveness.Supervisor
import BridgeWarden.Rehearsal.Engine
import BridgeWarden.Rehearsal.Values
import BridgeWarden.Rehearsal.World
import BridgeWarden.Status.Router

/-!
All tasks together: the link's, the supervisor with its timer, the restarts that it begins, and the
status interface, in a world and with an engine that follow their scripts.
-/

namespace BridgeWarden.Rehearsal

open Liveness

inductive EnsembleTask where
  | link (task : LinkTask)
  | sentry
  | supervisor
  | restart (number : Nat)
  deriving DecidableEq, Inhabited

/-- A timer that is only called, and the faults that it answers with. -/
structure TimerScript where
  configure : Option Fault
  confirm : Option Fault
  disarm : Option Fault

/-- Calls of a scripted timer and of the world. -/
inductive Call where
  | configure (timeout : Span)
  | confirm
  | disarm
  | world (call : WorldCall)

structure Ensemble where
  agenda : Agenda EnsembleTask
  bench : EngineBench
  supervisor : Supervisor
  world : World
  /-- The timer, if it is not a guard in software. -/
  timer : Option TimerScript
  /-- When the present question is answered, if there is one. -/
  answerDue : Option (Reach.Query × Nat)
  /-- Calls, latest first. -/
  log : List (Nat × Call)

namespace Ensemble

def note (call : Call) (e : Ensemble) : Ensemble :=
  { e with log := (e.agenda.now, call) :: e.log }

def order (o : Order EnsembleTask) (e : Ensemble) : Ensemble :=
  { e with agenda := e.agenda.obey o }

/-- The calls that a happening stands for. -/
def noteHappening (h : Happening) (e : Ensemble) : Ensemble :=
  match h with
  | .confirmed => if e.timer.isSome then e.note .confirm else e
  | .disarmed _ => if e.timer.isSome then e.note .disarm else e
  | .asked query => e.note (.world (.asked query))
  | .restartCalled _ => e.note (.world .restart)
  | .restartEnded _ => if e.world.restartPanics then e else e.note (.world .restarted)
  | .published _ => e

/-- The supervisor's system at the present instant; none if it had something to do before. -/
def supervisor? (e : Ensemble) : Option Supervisor :=
  if e.supervisor.now = e.agenda.now then some e.supervisor
  else e.supervisor.next? (.pass (e.agenda.now - e.supervisor.now))

/-- What an action of the supervisor's system brings about. -/
def act? (action : Action) (e : Ensemble) : Option Ensemble :=
  e.supervisor?.bind fun before => (before.next? action).map fun after =>
    let fresh := after.history.take (after.history.length - before.history.length)
    let e := fresh.reverse.foldl (fun e h => e.noteHappening h.2) { e with supervisor := after }
    let signalled := after.guard.any (·.signalled) && !before.guard.any (·.signalled)
    let e := if signalled then e.order (.wake .sentry) else e
    if before.coordinator.begun < after.coordinator.begun then
      e.order (.wake (.restart before.coordinator.begun))
    else e

/-- The action with which the supervisor's task goes on, if it can. -/
def supervisorAction? (e : Ensemble) : Option Action :=
  let now := e.agenda.now
  match e.supervisor.phase with
  | .fresh => some .begin
  | .waiting due =>
      if e.supervisor.cancelled then some .stop else if due ≤ now then some .tick else none
  | .cycling cutOff _ =>
      match e.answerDue with
      | some (query, due) =>
          if due ≤ now then some (.answer (e.world.answer query))
          else if cutOff ≤ now then some .cutOff
          else none
      | none => none
  | .finishing _ =>
      if e.supervisor.isFinished then some (.disarm (e.timer.bind (·.disarm))) else none
  | .ended _ | .crashed | .aborted => none

/-- Notes when the present question is answered. -/
def schedule (e : Ensemble) : Ensemble :=
  let query := match e.supervisor.phase with
    | .cycling _ _ => e.supervisor.coordinator.query?
    | _ => none
  { e with answerDue := query.map fun q => (q, Clock.wake e.agenda.now (e.world.delay q)) }

/-- The alarms that the supervisor sets when it begins to wait. -/
def supervisorAlarms (e : Ensemble) : Ensemble :=
  let clear := [0, 1, 2].foldl (fun e label => e.order (.disarm .supervisor label)) e
  match e.supervisor.phase with
  | .waiting due => clear.order (.arm .supervisor 0 due)
  | .cycling cutOff _ =>
      let clear := match e.answerDue with
        | some (_, due) => clear.order (.arm .supervisor 1 due)
        | none => clear
      clear.order (.arm .supervisor 2 cutOff)
  | _ => clear

/-- All the moves that the supervisor can make now; the fuel bounds them. -/
def supervisorMoves : Nat → Ensemble → Ensemble
  | 0, e => e.supervisorAlarms
  | fuel + 1, e =>
      match e.supervisorAction?.bind e.act? with
      | some after => supervisorMoves fuel after.schedule
      | none => e.supervisorAlarms

def supervisorTurn (e : Ensemble) : Ensemble :=
  if e.supervisorAction?.isSome then
    e.supervisorMoves (e.world.questions + EngineBench.movesPerTurn)
  else e

/-- All the moves that the sentry can make now. -/
def sentryMoves : Nat → Ensemble → Ensemble
  | 0, e => e
  | fuel + 1, e =>
      match e.act? .sentryReads <|> e.act? .sentryWakes with
      | some after => sentryMoves fuel after
      | none => e

def sentryTurn (e : Ensemble) : Ensemble :=
  let e := e.sentryMoves 8
  match e.supervisor.guard.bind (·.due?) with
  | some due => e.order (.arm .sentry 0 due)
  | none => e.order (.disarm .sentry 0)

/-- A restart has waited for its delay. -/
def endRestart (number : Nat) (e : Ensemble) : Ensemble :=
  let ended := (e.act? (.restartEnds number)).getD e
  let ended := if e.world.restartPanics then ended else { ended with world := e.world.restarted }
  match ended.supervisor.phase with
  | .finishing _ => ended.order (.wake .supervisor)
  | _ => ended

/-- A restart makes its call and waits, or ends. -/
def restartTurn (number : Nat) (e : Ensemble) : Ensemble :=
  match e.act? (.restartCalls number) with
  | some called =>
      let due := Clock.wake e.agenda.now e.world.restartDelay
      if due ≤ e.agenda.now then called.endRestart number
      else called.order (.arm (.restart number) 0 due)
  | none => e.endRestart number

def obeyLink (orders : LinkOrders) (e : Ensemble) : Ensemble :=
  orders.foldl (fun e o => e.order (o.map .link)) e

def linkTurn (task : LinkTask) (e : Ensemble) : Ensemble :=
  let (bench, orders) := (e.bench.at_ e.agenda.now).turn task
  { e with bench }.obeyLink orders

instance : Stage Ensemble EnsembleTask where
  agenda := Ensemble.agenda
  withAgenda e agenda := { e with agenda }
  turn task e := match task with
    | .link task => e.linkTurn task
    | .sentry => e.sentryTurn
    | .supervisor => e.supervisorTurn
    | .restart number => e.restartTurn number

/-! ### Script -/

inductive Step where
  | advance (d : Span)
  | report (e : Link.Event)
  | request
  | cancel
  | change (f : World → World)
  | payload (text : String)
  /-- The supervisor's task is ended where it stands. -/
  | hang
  | http (r : Status.Request)

inductive Result where
  | nothing
  | offered (offer : Link.Offer)
  | read (state : Remote.Suppression)
  | response (r : Status.Response)

/-- How the supervisor's task is. -/
inductive TaskState where
  | running
  | ended (fault : Option Fault)
  | crashed
  | hung

structure Frame where
  now : Nat
  result : Result
  linkHappened : List (Nat × Link.Happening)
  calls : List (Nat × Call)
  report : Option Recovery.Report
  link : Link.State
  remote : Remote.Suppression
  display : Status.DisplayStatus
  trippedAt : Option Nat
  supervisor : TaskState

/-- The health that the status interface shows. -/
def health (e : Ensemble) : Status.Health :=
  let link := e.bench.system.snapshot
  { link, linkUp := link.state == .established
    remote := e.supervisor.telemetry.state e.agenda.now
    lastCycle := e.supervisor.report?
    display := e.supervisor.coordinator.display.status e.agenda.now }

def receive (payload : List Char) (e : Ensemble) : Ensemble :=
  (e.act? (.receive payload)).getD e

def act (step : Step) (e : Ensemble) : Ensemble × Result :=
  let bench := e.bench.at_ e.agenda.now
  match step with
  | .advance d => (play EnsembleTask d.ceilMillis e, .nothing)
  | .report event =>
      let (bench, offer, orders) := bench.offerEvent event
      ({ e with bench }.obeyLink orders, .offered offer)
  | .request =>
      let (bench, offer, orders) := bench.offerRequest
      ({ e with bench }.obeyLink orders, .offered offer)
  | .cancel =>
      let (bench, orders) := bench.cancel
      let e := { e with bench }.obeyLink orders
      (((e.act? .cancel).getD e).order (.wake .supervisor), .nothing)
  | .change f => ({ e with world := f e.world }, .nothing)
  | .payload text => (e.receive text.toList, .read (.ofPayload text.toList))
  | .hang =>
      let e := (e.act? .abort).getD e
      ({ e with agenda := e.agenda.dismiss .supervisor }, .nothing)
  | .http request =>
      let (response, payload) := Status.serve e.health request
      ((payload.map (e.receive ·)).getD e, .response response)

def taskState (e : Ensemble) : TaskState :=
  match e.supervisor.phase with
  | .ended fault => .ended fault
  | .crashed => .crashed
  | .aborted => .hung
  | _ => .running

/-- What can be seen after a step, `before` being the ensemble before it. -/
def frame (e : Ensemble) (result : Result) (before : Ensemble) : Frame :=
  { now := e.agenda.now, result
    linkHappened := e.bench.historySince before.bench.system.history.length
    calls := (e.log.take (e.log.length - before.log.length)).reverse
    report := e.supervisor.report?
    link := e.bench.system.snapshot.state
    remote := e.supervisor.telemetry.state e.agenda.now
    display := e.supervisor.coordinator.display.status e.agenda.now
    trippedAt := e.supervisor.guard.bind (·.trippedAt?)
    supervisor := e.taskState }

def steps (e : Ensemble) : List Step → List Frame
  | [] => []
  | step :: rest =>
      let (acted, result) := e.act step
      let after := play EnsembleTask 0 acted
      after.frame result e :: steps after rest

/-- An ensemble before its start, with the timer configured; or the timer's refusal. -/
def make (bench : EngineBench) (rhythm : Rhythm) (timeout staleAfter : Span)
    (monitor : Reach.Monitor) (world : World) (timer : Option TimerScript) :
    Except Refusal Ensemble :=
  let build (supervisor : Supervisor) (log : List (Nat × Call)) : Ensemble :=
    { agenda := [EnsembleTask.link .machine, .link .driver, .sentry, .supervisor].foldl
        Agenda.wake Agenda.new
      bench, supervisor, world, timer, answerDue := none, log }
  match timer with
  | none =>
      (Supervisor.armed? rhythm timeout monitor staleAfter wallStart 0).map fun supervisor =>
        build supervisor []
  | some script => match script.configure with
    | some fault => .error (.fault fault)
    | none =>
        .ok (build (.new rhythm monitor staleAfter none wallStart 0) [(0, .configure timeout)])

/-- The frames of a script, the first one for the start. -/
def run (e : Ensemble) (script : List Step) : List Frame :=
  let started := play EnsembleTask 0 e
  started.frame .nothing { e with log := [] } :: started.steps script

end Ensemble

end BridgeWarden.Rehearsal

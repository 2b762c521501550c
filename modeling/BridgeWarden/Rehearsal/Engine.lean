import BridgeWarden.Link.System
import BridgeWarden.Rehearsal.Agenda

/-!
The link's tasks with an engine that follows a script. The tasks themselves are those of
`Link.System`; here the engine's calls are given their lengths and answers, and it is said when a
task has a turn: the machine when an event or a request comes while it watches for one or one of
its deadlines passes, the driver when there is a delay or a free place for it, and a reply of the
engine when its time has come. In its turn a task makes all the moves that it can make.
-/

namespace BridgeWarden.Rehearsal

inductive LinkTask where
  | machine
  | driver
  | reply (number : Nat)
  deriving DecidableEq, Inhabited

/-- What the engine does on one call of `connect`: the events it reports, each after a span, then
how long the call takes, then whether it fails. -/
structure ConnectScript where
  replies : List (Span × Link.Event)
  delay : Span
  fails : Bool

def ConnectScript.silent : ConnectScript := ⟨[], .zero, false⟩

/-- The engine's script: its calls of `connect` in order, the last of which repeats, and how long
each `disconnect` takes. -/
structure EngineScript where
  connects : List ConnectScript
  disconnect : Span

def EngineScript.connect (e : EngineScript) (call : Nat) : ConnectScript :=
  (e.connects[call]? <|> e.connects.getLast?).getD .silent

/-- An event that the engine reports some time after a call. -/
structure Reply where
  after : Span
  due : Option Nat
  event : Link.Event

structure EngineBench where
  system : Link.System
  script : EngineScript
  /-- How many calls of `connect` there were. -/
  connects : Nat
  /-- When the call under way ends, and whether well. -/
  ending : Option (Nat × Bool)
  /-- Delayed events, by number. -/
  replies : List Reply

abbrev LinkOrders := List (Order LinkTask)

namespace EngineBench

def new (backoff : Link.Backoff) (negotiation : Span) (script : EngineScript) : EngineBench :=
  { system := .new Link.eventCapacity backoff negotiation, script, connects := 0, ending := none
    replies := [] }

/-- The bench at an instant. -/
def at_ (b : EngineBench) (now : Nat) : EngineBench := { b with system := { b.system with now } }

/-- Wakes the machine if it watches its queues. -/
def wakeWatching (b : EngineBench) : LinkOrders :=
  match b.system.phase with
  | .watching _ => [.wake .machine]
  | _ => []

/-- Offers an event to the machine. -/
def offerEvent (e : Link.Event) (b : EngineBench) : EngineBench × Link.Offer × LinkOrders :=
  let (system, offer) := b.system.offerEvent e
  ({ b with system }, offer, b.wakeWatching)

/-- Asks the machine for a connection. -/
def offerRequest (b : EngineBench) : EngineBench × Link.Offer × LinkOrders :=
  let (system, offer) := b.system.offerRequest
  ({ b with system }, offer, b.wakeWatching)

def cancel (b : EngineBench) : EngineBench × LinkOrders :=
  ({ b with system := { b.system with cancelled := true } }, [.wake .machine, .wake .driver])

/-- The engine reports an event at once or puts it off. -/
def scheduleReply (reply : Span × Link.Event) (b : EngineBench) : EngineBench × LinkOrders :=
  if reply.1.isZero then ({ b with system := (b.system.offerEvent reply.2).1 }, [])
  else
    ({ b with replies := b.replies ++ [⟨reply.1, none, reply.2⟩] },
      [.wake (.reply b.replies.length)])

/-- What the engine does as one of its calls begins; nothing in other phases. -/
def beginCall (b : EngineBench) : EngineBench × LinkOrders :=
  match b.system.phase with
  | .attempting _ =>
      let call := b.script.connect b.connects
      let b := { b with
        connects := b.connects + 1
        ending := some (Clock.wake b.system.now call.delay, !call.fails) }
      call.replies.foldl (fun (b, orders) reply =>
        let (b, more) := b.scheduleReply reply
        (b, orders ++ more)) (b, [])
  | .abandoning _ _ =>
      ({ b with ending := some (Clock.wake b.system.now b.script.disconnect, true) }, [])
  | _ => ({ b with ending := none }, [])

/-- How the call under way ends, if it is time. -/
def callEnds? (b : EngineBench) : Option Link.Action :=
  match b.ending, b.system.phase with
  | some (due, ok), .attempting _ =>
      if due ≤ b.system.now then some (.connectEnds ok) else none
  | some (due, _), .abandoning _ _ => if due ≤ b.system.now then some .disconnectEnds else none
  | _, _ => none

/-- Wakes the driver where the machine's move from `before` concerns it. -/
def wakeDriver (before : Link.System) (b : EngineBench) : LinkOrders :=
  let scheduled := before.delay.isNone && b.system.delay.isSome
  let freed := before.driver == .sending && b.system.requests < before.requests
  if scheduled || freed || b.system.phase.isOver then [.wake .driver] else []

/-- One move of the machine, an end of the engine's call first. -/
def machineMove? (b : EngineBench) : Option (EngineBench × LinkOrders) :=
  let action := b.callEnds?.getD .machine
  (b.system.next? action).map fun system =>
    let after := { b with system }
    let (after, spawned) := after.beginCall
    (after, spawned ++ after.wakeDriver b.system)

/-- The alarms that the machine sets when it begins to wait. -/
def machineAlarms (b : EngineBench) : LinkOrders :=
  let ending := match b.ending with
    | some (due, _) => [Order.arm LinkTask.machine 0 due]
    | none => []
  let cutOff := match b.system.phase with
    | .attempting cutOff | .abandoning cutOff _ => [Order.arm LinkTask.machine 1 cutOff]
    | .watching (some deadline) => [.arm .machine 2 deadline]
    | _ => []
  [.disarm .machine 0, .disarm .machine 1, .disarm .machine 2] ++ ending ++ cutOff

/-- How many moves one turn may have. -/
def movesPerTurn : Nat := 1000

/-- All the moves that the machine can make now; the fuel bounds them. -/
def machineMoves : Nat → EngineBench → EngineBench × LinkOrders
  | 0, b => (b, b.machineAlarms)
  | fuel + 1, b =>
      match b.machineMove? with
      | some (after, orders) =>
          let (b, more) := machineMoves fuel after
          (b, orders ++ more)
      | none => (b, b.machineAlarms)

def machineTurn (b : EngineBench) : EngineBench × LinkOrders :=
  match b.machineMove? with
  | some _ => machineMoves movesPerTurn b
  | none => (b, [])

/-- All the moves that the driver can make now. -/
def driverMoves : Nat → EngineBench → EngineBench × LinkOrders
  | 0, b => (b, [])
  | fuel + 1, b =>
      match b.system.driverQuits? <|> b.system.driver? with
      | some system =>
          let after := { b with system }
          let woken := if b.system.requests < system.requests then b.wakeWatching else []
          let alarm := match system.driver with
            | .sleeping due => [Order.arm LinkTask.driver 0 due]
            | _ => [.disarm .driver 0]
          let (b, more) := driverMoves fuel after
          (b, woken ++ alarm ++ more)
      | none => (b, [])

/-- A delayed event sets its alarm, and is reported when it has rung. -/
def replyTurn (number : Nat) (b : EngineBench) : EngineBench × LinkOrders :=
  match b.replies[number]? with
  | none => (b, [])
  | some reply => match reply.due with
    | none =>
        let due := Clock.wake b.system.now reply.after
        ({ b with replies := b.replies.set number { reply with due := some due } },
          [.arm (.reply number) 0 due])
    | some due =>
        if due ≤ b.system.now then
          let (b, _, orders) := b.offerEvent reply.event
          (b, orders)
        else (b, [])

def turn (task : LinkTask) (b : EngineBench) : EngineBench × LinkOrders :=
  match task with
  | .machine => b.machineTurn
  | .driver => b.driverMoves movesPerTurn
  | .reply number => b.replyTurn number

/-- What happened after the first `count` happenings, in order. -/
def historySince (count : Nat) (b : EngineBench) : List (Nat × Link.Happening) :=
  (b.system.history.take (b.system.history.length - count)).reverse

end EngineBench

/-! ### The script of a link -/

inductive LinkStep where
  | advance (d : Span)
  | report (e : Link.Event)
  | request
  | cancel

/-- What can be seen of the link after a step. -/
structure LinkFrame where
  now : Nat
  result : Option Link.Offer
  /-- The engine's calls and the copies published since the step before, oldest first. -/
  happened : List (Nat × Link.Happening)
  snapshot : Link.Snapshot
  machineRuns : Bool
  driverRuns : Bool

structure LinkStage where
  agenda : Agenda LinkTask
  bench : EngineBench

namespace LinkStage

def obey (orders : LinkOrders) (s : LinkStage) : LinkStage :=
  { s with agenda := orders.foldl .obey s.agenda }

instance : Stage LinkStage LinkTask where
  agenda := LinkStage.agenda
  withAgenda s agenda := { s with agenda }
  turn task s :=
    let (bench, orders) := (s.bench.at_ s.agenda.now).turn task
    { s with bench }.obey orders

def start (bench : EngineBench) : LinkStage :=
  play LinkTask 0 (LinkStage.mk (Agenda.new.wake .machine |>.wake .driver) bench)

/-- What the step does before the tasks have their turns. -/
def act (step : LinkStep) (s : LinkStage) : LinkStage × Option Link.Offer :=
  let bench := s.bench.at_ s.agenda.now
  match step with
  | .advance d => (play LinkTask d.ceilMillis s, none)
  | .report e =>
      let (bench, offer, orders) := bench.offerEvent e
      ({ s with bench }.obey orders, some offer)
  | .request =>
      let (bench, offer, orders) := bench.offerRequest
      ({ s with bench }.obey orders, some offer)
  | .cancel =>
      let (bench, orders) := bench.cancel
      ({ s with bench }.obey orders, none)

def frame (result : Option Link.Offer) (seen : Nat) (s : LinkStage) : LinkFrame :=
  { now := s.agenda.now, result, happened := s.bench.historySince seen
    snapshot := s.bench.system.snapshot
    machineRuns := !s.bench.system.phase.isOver
    driverRuns := s.bench.system.driver != .stopped }

def steps (s : LinkStage) : List LinkStep → List LinkFrame
  | [] => []
  | step :: rest =>
      let seen := s.bench.system.history.length
      let (acted, result) := s.act step
      let after := play LinkTask 0 acted
      after.frame result seen :: steps after rest

end LinkStage

/-- The frames of a script, the first one for the start. -/
def runLink (bench : EngineBench) (script : List LinkStep) : List LinkFrame :=
  let s := LinkStage.start bench
  s.frame none 0 :: s.steps script

end BridgeWarden.Rehearsal

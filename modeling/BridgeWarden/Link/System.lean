import BridgeWarden.Link.Session
import BridgeWarden.Time.Clock

/-!
The tasks that keep the link up, as a system of labelled transitions on a clock of milliseconds.

The *machine* owns the session: it takes the engine's events, then requests to connect, then its
own deadline, one at a time, and calls the engine. The *driver* waits out the delay after a fault
and then asks the machine to connect. Three queues lie between them and their users: the engine's
events, the requests to connect, and the one delay on its way to the driver.

`System.next?` is the whole of the behaviour. What the system does not decide itself is an action:
what the engine reports and when its calls end, when a request of somebody else's to connect enters
its queue, when the system is cancelled, and how long nothing happens. Time passes only while no
task can move, and never beyond a deadline (`canWait`). Nothing is said here about which of two
tasks that can move moves first, or who of those that wait for room in a queue comes in first; a
run is any sequence of actions that `next?` accepts.

What a task does from one wait to the next is taken as one step. For the machine this is an
assumption about its look for something to do: it looks at the cancellation, the events, the
requests and its deadline, in this order, and takes the first that is there (`machine?`), as if
nothing could come in between. None of the four looks waits, so nothing does where all tasks share
one thread. On several threads an event can enter its queue after the machine has found it empty and
before it takes a request; such an event is handled after the request, and no run here shows that.
-/

namespace BridgeWarden.Link

/-- The bound on one call into the engine. -/
def callBound : Span := .ofSecs 5

/-- How many of the engine's events the daemon's queue holds. -/
def eventCapacity : Nat := 16

/-- How many requests to connect the queue holds. -/
def requestCapacity : Nat := 8

/-- What the machine is about. -/
inductive Phase where
  /-- Not begun. -/
  | fresh
  /-- Inside the engine's `connect`, which is cut off at the instant. -/
  | attempting (cutOff : Nat)
  /-- Inside the engine's `disconnect`, which is cut off at the instant; a delay comes after. -/
  | abandoning (cutOff : Nat) (delay : Span)
  /-- Waiting for an event, a request or, while connecting, the end of the negotiation's time. -/
  | watching (deadline : Option Nat)
  /-- Ended by cancellation. -/
  | stopped
  /-- Ended because the clock cannot tell the negotiation's deadline. -/
  | crashed
  deriving DecidableEq, Inhabited

def Phase.isOver : Phase → Bool
  | .stopped | .crashed => true
  | _ => false

/-- What the driver is about. -/
inductive Driver where
  /-- Waiting for a delay. -/
  | waiting
  /-- Waiting out a delay until the instant. -/
  | sleeping (due : Nat)
  /-- Asking for a connection, perhaps held up by a full queue. -/
  | sending
  | stopped
  deriving DecidableEq, Inhabited

/-- What a run shows of itself. -/
inductive Happening where
  /-- The engine's `connect` was called. -/
  | connect
  /-- The engine's `disconnect` was called. -/
  | disconnect
  /-- Readers see a new copy of the session. -/
  | published (snapshot : Snapshot)
  /-- A delay was handed to the driver, or found its place taken and was dropped. -/
  | scheduled (delay : Span) (accepted : Bool)
  /-- A request to connect was taken up while there was nothing to connect. -/
  | requestIgnored
  deriving DecidableEq, Inhabited

structure System where
  /-- How many of the engine's events the queue holds. -/
  capacity : Nat
  now : Nat
  /-- How long a negotiation may take. -/
  negotiation : Span
  session : Session
  phase : Phase
  /-- The engine's events, oldest first. -/
  events : List Event
  /-- How many requests to connect are queued. -/
  requests : Nat
  /-- The delay on its way to the driver. -/
  delay : Option Span
  driver : Driver
  cancelled : Bool
  /-- What happened and when, latest first. -/
  history : List (Nat × Happening)
  deriving DecidableEq, Inhabited

/-- What the system itself or the world around it does next. -/
inductive Action where
  /-- The machine makes its own next move. -/
  | machine
  /-- The driver goes on with its work. -/
  | driver
  /-- The driver notices the cancellation. -/
  | driverQuits
  /-- The engine's `connect` returns. -/
  | connectEnds (ok : Bool)
  /-- The engine's `disconnect` returns. -/
  | disconnectEnds
  /-- The engine reports an event. -/
  | report (e : Event)
  /-- Somebody's request to connect enters the queue, perhaps after a wait for room. -/
  | request
  | cancel
  /-- Nothing happens for some milliseconds. -/
  | pass (millis : Nat)
  deriving DecidableEq, Inhabited

/-- How an offer to a queue ended. -/
inductive Offer where
  | sent
  | full
  | closed
  deriving DecidableEq, Inhabited

namespace System

def new (capacity : Nat) (backoff : Backoff) (negotiation : Span) : System :=
  { capacity, now := 0, negotiation, session := .new backoff, phase := .fresh, events := []
    requests := 0, delay := none, driver := .waiting, cancelled := false, history := [] }

def note (s : System) (h : Happening) : System := { s with history := (s.now, h) :: s.history }

/-- Shows the session to readers. -/
def publish (s : System) : System := s.note (.published s.session.snapshot)

/-- Begins to wait. The deadline of a negotiation is kept while it lasts and set when it begins. -/
def watch (deadline : Option Nat) (s : System) : System :=
  if s.session.state = .connecting then
    match deadline with
    | some d => { s with phase := .watching (some d) }
    | none => match Clock.deadline? s.now s.negotiation with
      | some d => { s with phase := .watching (some d) }
      | none => { s with phase := .crashed, events := [] }
  else { s with phase := .watching none }

/-- Hands a delay to the driver; it is dropped if another is on its way or the driver is gone. -/
def schedule (delay : Span) (s : System) : System :=
  if s.delay.isNone ∧ s.driver ≠ .stopped then
    { s with delay := some delay }.note (.scheduled delay true)
  else s.note (.scheduled delay false)

/-- Takes up a request to connect, the negotiation's deadline being `deadline`. -/
def beginConnect (deadline : Option Nat) (s : System) : System :=
  match s.session.beginConnect? with
  | some session =>
      { ({ s with session }.publish.note .connect) with
        phase := .attempting (Clock.wake s.now callBound) }
  | none => (s.note .requestIgnored).watch deadline

/-- Gives up the attempt under way: the session faults and the engine is told to let it go. -/
def failLocally (deadline : Option Nat) (s : System) : System :=
  match s.session.fail? with
  | some (session, delay) =>
      { ({ s with session }.note .disconnect) with
        phase := .abandoning (Clock.wake s.now callBound) delay }
  | none => s.watch deadline

/-- The engine has let the attempt go, or has had its time for it. -/
def abandoned (delay : Span) (s : System) : System := (s.publish.schedule delay).watch none

/-- Applies the engine's event `e`; the events after it stay queued. -/
def handleEvent (deadline : Option Nat) (e : Event) (rest : List Event) (s : System) : System :=
  let handled := s.session.handle e
  let after := { s with session := handled.1, events := rest }
  match handled.2 with
  | .ignored => after.watch deadline
  | .established => after.publish.watch deadline
  | .faulted delay => (after.publish.schedule delay).watch deadline

/-- Ends the machine; nobody will read the queues any more. -/
def stop (s : System) : System := { s with phase := .stopped, events := [], requests := 0 }

/-- The machine's own next move; none while it waits for others. A cancellation comes first, then
events, then requests, then the end of the negotiation's time. -/
def machine? (s : System) : Option System :=
  match s.phase with
  | .fresh => some (s.beginConnect none)
  | .attempting cutOff => if cutOff ≤ s.now then some (s.failLocally none) else none
  | .abandoning cutOff delay => if cutOff ≤ s.now then some (s.abandoned delay) else none
  | .watching deadline =>
      if s.cancelled then some s.stop
      else match s.events with
        | e :: rest => some (s.handleEvent deadline e rest)
        | [] =>
            if 0 < s.requests then
              some ({ s with requests := s.requests - 1 }.beginConnect deadline)
            else match deadline with
              | some d => if d ≤ s.now then some (s.failLocally deadline) else none
              | none => none
  | .stopped | .crashed => none

/-- The driver's next move, a cancellation left aside; none while it waits for others. -/
def driver? (s : System) : Option System :=
  match s.driver with
  | .waiting =>
      match s.delay with
      | some d => some { s with delay := none, driver := .sleeping (Clock.wake s.now d) }
      | none => if s.phase.isOver then some { s with driver := .stopped } else none
  | .sleeping due => if due ≤ s.now then some { s with driver := .sending } else none
  | .sending =>
      if s.phase.isOver then some { s with driver := .stopped }
      else if s.requests < requestCapacity then
        some { s with requests := s.requests + 1, driver := .waiting }
      else none
  | .stopped => none

/-- The driver ends on a cancellation; it does not look for one while it asks for a connection. -/
def driverQuits? (s : System) : Option System :=
  match s.driver with
  | .waiting | .sleeping _ => if s.cancelled then some { s with driver := .stopped } else none
  | .sending | .stopped => none

/-- Offers an event to the queue. -/
def offerEvent (e : Event) (s : System) : System × Offer :=
  if s.phase.isOver then (s, .closed)
  else if s.events.length < s.capacity then ({ s with events := s.events ++ [e] }, .sent)
  else (s, .full)

/-- Puts a request into the queue, if there is room and anybody reads it. -/
def enterRequest (s : System) : System :=
  if !s.phase.isOver && s.requests < requestCapacity then { s with requests := s.requests + 1 }
  else s

/-- Offers a request to the queue without a wait. A place that has become free belongs to the driver
if it is waiting for one. -/
def offerRequest (s : System) : System × Offer :=
  if s.phase.isOver then (s, .closed)
  else
    let held := if s.driver = .sending then 1 else 0
    if s.requests + held < requestCapacity then (s.enterRequest, .sent)
    else (s, .full)

/-- The instants at which a task will be able to move. -/
def deadlines (s : System) : List Nat :=
  (match s.phase with
    | .attempting cutOff => [cutOff]
    | .abandoning cutOff _ => [cutOff]
    | .watching (some d) => [d]
    | _ => []) ++
  (match s.driver with
    | .sleeping due => [due]
    | _ => [])

/-- Whether nothing can move for so long. -/
def canWait (s : System) (millis : Nat) : Bool :=
  s.machine?.isNone && s.driver?.isNone && s.driverQuits?.isNone &&
    s.deadlines.all fun d => s.now + millis ≤ d

/-- The system after an action; none if the action is not possible. -/
def next? (s : System) : Action → Option System
  | .machine => s.machine?
  | .driver => s.driver?
  | .driverQuits => s.driverQuits?
  | .connectEnds ok =>
      match s.phase with
      | .attempting _ => some (if ok then s.watch none else s.failLocally none)
      | _ => none
  | .disconnectEnds =>
      match s.phase with
      | .abandoning _ delay => some (s.abandoned delay)
      | _ => none
  | .report e => some (s.offerEvent e).1
  | .request => some s.enterRequest
  | .cancel => some { s with cancelled := true }
  | .pass millis => if s.canWait millis then some { s with now := s.now + millis } else none

/-- The system after a sequence of actions; none if one of them is not possible. -/
def run? (s : System) : List Action → Option System
  | [] => some s
  | a :: rest => (s.next? a).bind fun s => run? s rest

/-- What readers see: the last copy published, or the one that the session began with. -/
def snapshot (s : System) : Snapshot :=
  (s.history.findSome? fun h => match h.2 with
    | .published snapshot => some snapshot
    | _ => none).getD (Session.new s.session.backoff.reset).snapshot

end System

end BridgeWarden.Link

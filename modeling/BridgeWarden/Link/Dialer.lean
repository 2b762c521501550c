import BridgeWarden.Link.Session
import BridgeWarden.Program.Run

/-!
The sessions of the link engine, as a system of labelled transitions. Each `connect` begins a new
session and abandons the one before; `disconnect` abandons it without a successor. Sessions are
numbered, and a session reports an event only while its number is the current one. The queue of
events is bounded: a report that finds no room waits, first come, first served, and enters the
queue some time after room was made for it.

When sessions report, and what, is an action; a session reports at most once that the link is up
and at most once that it is down.
-/

namespace BridgeWarden.Link

/-- An event, and the session that reports it. -/
structure Report where
  session : Nat
  event : Event
  deriving DecidableEq, Inhabited

/-- Whether an event says that the link is up. -/
def Event.isUp : Event → Bool
  | .up .. => true
  | .down _ => false

/-- The fault of a session whose program cannot be started. -/
def startFault (program : String) (trouble : FileTrouble) : Fault :=
  .link ("failed to start " ++ program ++ ": " ++ trouble.text)

/-- What a session reports when its program ends. -/
def exitEvent (ending : Program.Ending) : Event := .down ("pppd exited: " ++ ending.text)

structure Dialer where
  capacity : Nat
  /-- The current number: how many sessions were begun or abandoned without a successor. -/
  number : Nat
  /-- The session that takes input. -/
  line : Option Nat
  /-- The sessions begun. -/
  begun : List Nat
  /-- The reports made, by session and whether it was up. -/
  spoken : List (Nat × Bool)
  /-- The queue of events, oldest first. -/
  queue : List Report
  /-- Reports for which room was made, and that have not entered the queue yet. -/
  admitted : List Report
  /-- Reports that wait for room, oldest first. -/
  waiting : List Report
  /-- What has entered the queue so far, oldest first. -/
  entered : List Report
  deriving DecidableEq, Inhabited

namespace Dialer

inductive Action where
  /-- A session is to begin; its program may fail to start. -/
  | connect (starts : Bool)
  | disconnect
  /-- A session reports an event, if it is the current one. -/
  | report (r : Report)
  /-- A report for which room was made enters the queue. -/
  | enter (place : Nat)
  /-- The first event of the queue is taken. -/
  | receive
  deriving DecidableEq, Inhabited

def new (capacity : Nat) : Dialer :=
  { capacity, number := 0, line := none, begun := [], spoken := [], queue := [], admitted := []
    waiting := [], entered := [] }

/-- Whether the queue has room that was not promised to anybody. -/
def hasRoom (d : Dialer) : Bool := d.queue.length + d.admitted.length < d.capacity

/-- Puts a report into the queue. -/
def put (r : Report) (d : Dialer) : Dialer :=
  { d with queue := d.queue ++ [r], entered := d.entered ++ [r] }

/-- Begins a session in place of the one before, if its program starts. -/
def connect (starts : Bool) (d : Dialer) : Dialer :=
  let number := d.number + 1
  if starts then { d with number, line := some number, begun := d.begun ++ [number] }
  else { d with number, line := none }

def disconnect (d : Dialer) : Dialer := { d with number := d.number + 1, line := none }

/-- A session that may still report so. -/
def mayReport (r : Report) (d : Dialer) : Bool :=
  d.begun.contains r.session && !d.spoken.contains (r.session, r.event.isUp)

/-- A session reports: nothing comes of it unless the session is the current one. -/
def report (r : Report) (d : Dialer) : Dialer :=
  let d := { d with spoken := (r.session, r.event.isUp) :: d.spoken }
  if r.session ≠ d.number then d
  else if d.hasRoom then d.put r
  else { d with waiting := d.waiting ++ [r] }

/-- Takes the first event; the room it leaves goes to the report that has waited longest. -/
def receive? (d : Dialer) : Option Dialer :=
  match d.queue, d.waiting with
  | [], _ => none
  | _ :: queue, [] => some { d with queue }
  | _ :: queue, r :: waiting => some { d with queue, waiting, admitted := d.admitted ++ [r] }

/-- The sessions after an action; none if the action is not possible. -/
def next? (d : Dialer) : Action → Option Dialer
  | .connect starts => some (d.connect starts)
  | .disconnect => some d.disconnect
  | .report r => if d.mayReport r then some (d.report r) else none
  | .enter place =>
      (d.admitted[place]?).map fun r =>
        { d with admitted := d.admitted.eraseIdx place }.put r
  | .receive => d.receive?

def run? (d : Dialer) : List Action → Option Dialer
  | [] => some d
  | a :: rest => (d.next? a).bind fun d => run? d rest

end Dialer

end BridgeWarden.Link

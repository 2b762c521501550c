import BridgeWarden.Text.Utf8
import BridgeWarden.Time.Clock

/-!
Concurrent writes to one channel, as a system of labelled transitions. A call waits for its turn,
first come, first served, hands its bytes to the channel piece by piece and flushes it at the
end. The time for all of that together is bounded; a call whose time is up, or whose bytes the
channel refuses, ends with the bytes accepted so far.

What the channel does is an action: how many of the bytes offered it accepts, that it refuses
them, that a flush is over.
-/

namespace BridgeWarden.Transport

open Text (Bytes)

/-- How far a call has come. -/
inductive Stage where
  /-- Waiting for its turn. -/
  | waiting
  | writing
  | flushing
  /-- Returned at the instant. -/
  | over (instant : Nat)
  deriving DecidableEq, Inhabited

structure Send where
  data : Bytes
  /-- How many bytes the channel has accepted. -/
  written : Nat
  started : Nat
  deadline : Nat
  stage : Stage
  deriving DecidableEq, Inhabited

/-- The bytes that the channel is still to accept. -/
def Send.offered (s : Send) : Bytes := s.data.drop s.written

structure Writer where
  now : Nat
  timeout : Span
  /-- The calls made so far; a call is known by its place. -/
  sends : List Send
  /-- The calls that want the channel, in the order they came; it belongs to the first. -/
  queue : List Nat
  /-- The calls that have had their turn, in order. -/
  turns : List Nat
  /-- What the channel has accepted. -/
  accepted : Bytes
  deriving DecidableEq, Inhabited

namespace Writer

inductive Action where
  /-- A call is made. -/
  | send (data : Bytes)
  /-- The turn of the first call in the queue begins. -/
  | take
  /-- The channel accepts some of the bytes offered, at least one. -/
  | accept (count : Nat)
  /-- The channel refuses, or accepts nothing. -/
  | refuse
  /-- The flush is over, well or not. -/
  | flushed
  /-- The time of a call is up. -/
  | expire (number : Nat)
  | pass (millis : Nat)
  deriving DecidableEq, Inhabited

def new (timeout : Span) : Writer :=
  { now := 0, timeout, sends := [], queue := [], turns := [], accepted := [] }

/-- The call whose turn it is, or is about to be. -/
def first? (w : Writer) : Option (Nat × Send) :=
  w.queue.head?.bind fun number => (w.sends[number]?).map fun s => (number, s)

/-- Makes a call. Without bytes it returns at once. -/
def send (data : Bytes) (w : Writer) : Writer :=
  let s : Send :=
    { data, written := 0, started := w.now, deadline := Clock.wake w.now w.timeout
      stage := .waiting }
  if data.isEmpty then { w with sends := w.sends ++ [{ s with stage := .over w.now }] }
  else { w with sends := w.sends ++ [s], queue := w.queue ++ [w.sends.length] }

/-- Ends a call. -/
def finish (number : Nat) (s : Send) (w : Writer) : Writer :=
  { w with
    sends := w.sends.set number { s with stage := .over w.now }
    queue := w.queue.filter (· ≠ number) }

/-- The channel accepts some bytes of the call; after the last one it is flushed. -/
def accept (number : Nat) (s : Send) (count : Nat) (w : Writer) : Writer :=
  let written := s.written + count
  let stage := if written < s.data.length then Stage.writing else .flushing
  { w with
    sends := w.sends.set number { s with written, stage }
    accepted := w.accepted ++ s.offered.take count }

def isOver (s : Send) : Bool :=
  match s.stage with
  | .over _ => true
  | _ => false

/-- Whether nothing can move for so long, the channel aside. -/
def canWait (millis : Nat) (w : Writer) : Bool :=
  (w.first?.all fun f => f.2.stage != .waiting) &&
    w.sends.all fun s => isOver s || (w.now < s.deadline && w.now + millis ≤ s.deadline)

/-- The writer after an action; none if the action is not possible. -/
def next? (w : Writer) : Action → Option Writer
  | .send data => some (w.send data)
  | .take =>
      match w.first? with
      | some (number, s) =>
          if s.stage = .waiting then
            some { w with
              sends := w.sends.set number { s with stage := .writing }
              turns := w.turns ++ [number] }
          else none
      | none => none
  | .accept count =>
      match w.first? with
      | some (number, s) =>
          if s.stage = .writing ∧ 0 < count ∧ count ≤ s.offered.length then
            some (w.accept number s count)
          else none
      | none => none
  | .refuse =>
      match w.first? with
      | some (number, s) => if s.stage = .writing then some (w.finish number s) else none
      | none => none
  | .flushed =>
      match w.first? with
      | some (number, s) => if s.stage = .flushing then some (w.finish number s) else none
      | none => none
  | .expire number =>
      match w.sends[number]? with
      | some s => if !isOver s && s.deadline ≤ w.now then some (w.finish number s) else none
      | none => none
  | .pass millis => if w.canWait millis then some { w with now := w.now + millis } else none

def run? (w : Writer) : List Action → Option Writer
  | [] => some w
  | a :: rest => (w.next? a).bind fun w => run? w rest

end Writer

end BridgeWarden.Transport

import BridgeWarden.Fault.Basic
import BridgeWarden.Text.Utf8
import BridgeWarden.Time.Clock

/-!
The pump that carries bytes from the channel to the link's engine, as a system of labelled
transitions. It waits for bytes for a bounded time and then waits anew, hands what has arrived to
the engine in pieces no greater than its buffer, and pauses after an error of the channel. It ends
when it is cancelled, which it does not notice while the engine takes a piece, or when the channel
is at its end.

What the channel and the engine do is an action.
-/

namespace BridgeWarden.Transport

open Text (Bytes)

namespace Pump

inductive Phase where
  /-- Waiting for bytes until the instant. -/
  | reading (cutOff : Nat)
  /-- Pausing after an error until the instant. -/
  | pausing (due : Nat)
  /-- The engine takes a piece. -/
  | feeding
  /-- Ended by cancellation. -/
  | stopped
  /-- Ended because the channel did, or gives nothing to a buffer of no size. -/
  | closed
  deriving DecidableEq, Inhabited

inductive Action where
  /-- Bytes arrive at the channel. -/
  | arrive (data : Bytes)
  /-- The pump reads what has arrived, as far as its buffer holds it. -/
  | read
  /-- The channel is at its end. -/
  | close
  /-- The channel fails to read. -/
  | fail
  /-- The time to wait for bytes is up. -/
  | timeOut
  /-- The pause is over. -/
  | resume
  /-- The engine has taken the piece. -/
  | taken
  /-- The pump notices the cancellation. -/
  | stop
  | cancel
  | pass (millis : Nat)
  deriving DecidableEq, Inhabited

end Pump

structure Pump where
  now : Nat
  readTimeout : Span
  chunkSize : Nat
  phase : Pump.Phase
  /-- What has arrived and was not read. -/
  waiting : Bytes
  cancelled : Bool
  /-- The pieces given to the engine and when, latest first. -/
  chunks : List (Nat × Bytes)
  deriving DecidableEq, Inhabited

namespace Pump

def new (readTimeout : Span) (chunkSize : Nat) : Pump :=
  { now := 0, readTimeout, chunkSize, phase := .reading (Clock.wake 0 readTimeout), waiting := []
    cancelled := false, chunks := [] }

/-- The greatest buffer that can be asked for. -/
def bufferLimit : Nat := UInt64.size / 2 - 1

/-- A pump with a buffer of the size. -/
def make? (readTimeout : Span) (chunkSize : Nat) : Except Breach Pump :=
  if bufferLimit < chunkSize then .error .bufferOverflow else .ok (new readTimeout chunkSize)

/-- Begins to wait for bytes. -/
def listen (p : Pump) : Pump := { p with phase := .reading (Clock.wake p.now p.readTimeout) }

/-- The fault of a channel at its end. -/
def endOfStream : Fault := .io "unexpected end of file"

/-- Whether the pump itself waits for so long. -/
def canWait (millis : Nat) (p : Pump) : Bool :=
  match p.phase with
  | .reading due =>
      !p.cancelled && p.waiting.isEmpty && p.chunkSize != 0 && p.now < due && p.now + millis ≤ due
  | .pausing due => !p.cancelled && p.now < due && p.now + millis ≤ due
  | .feeding | .stopped | .closed => true

/-- The pump after an action; none if the action is not possible. -/
def next? (p : Pump) : Action → Option Pump
  | .arrive data => some { p with waiting := p.waiting ++ data }
  | .read =>
      match p.phase with
      | .reading _ =>
          if p.chunkSize = 0 then some { p with phase := .closed }
          else if p.waiting.isEmpty then none
          else some { p with
            phase := .feeding
            waiting := p.waiting.drop p.chunkSize
            chunks := (p.now, p.waiting.take p.chunkSize) :: p.chunks }
      | _ => none
  | .close =>
      match p.phase with
      | .reading _ => if p.waiting.isEmpty then some { p with phase := .closed } else none
      | _ => none
  | .fail =>
      match p.phase with
      | .reading _ => some { p with phase := .pausing (Clock.wake p.now p.readTimeout) }
      | _ => none
  | .timeOut =>
      match p.phase with
      | .reading cutOff => if cutOff ≤ p.now then some p.listen else none
      | _ => none
  | .resume =>
      match p.phase with
      | .pausing due => if due ≤ p.now then some p.listen else none
      | _ => none
  | .taken =>
      match p.phase with
      | .feeding => some p.listen
      | _ => none
  | .stop =>
      match p.phase with
      | .reading _ | .pausing _ => if p.cancelled then some { p with phase := .stopped } else none
      | _ => none
  | .cancel => some { p with cancelled := true }
  | .pass millis => if p.canWait millis then some { p with now := p.now + millis } else none

def run? (p : Pump) : List Action → Option Pump
  | [] => some p
  | a :: rest => (p.next? a).bind fun p => run? p rest

end Pump

end BridgeWarden.Transport

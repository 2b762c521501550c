import BridgeWarden.Link.Session
import BridgeWarden.Remote.Telemetry
import BridgeWarden.Status.Display

/-!
Scripts run on single values: a backoff, a link session, the remote site's telemetry and the
display. A script is a list of steps; each step gives a frame that shows the value after it.
-/

namespace BridgeWarden.Rehearsal

/-! ### Backoff -/

inductive BackoffStep where
  | fail
  | succeed
  | look

/-- The delay that a failure asked for, and the delay for the next one. -/
structure BackoffFrame where
  delay : Option Span
  current : Span

def runBackoff (b : Link.Backoff) : List BackoffStep → List BackoffFrame
  | [] => []
  | .fail :: rest => ⟨some b.current, b.failed.current⟩ :: runBackoff b.failed rest
  | .succeed :: rest => ⟨none, b.reset.current⟩ :: runBackoff b.reset rest
  | .look :: rest => ⟨none, b.current⟩ :: runBackoff b rest

/-! ### Link session -/

inductive SessionStep where
  | connect
  | event (e : Link.Event)
  | fail

inductive SessionResult where
  | begun (accepted : Bool)
  | handled (effect : Link.Effect)
  | failed (delay : Option Span)

structure SessionFrame where
  result : SessionResult
  snapshot : Link.Snapshot

def stepSession (s : Link.Session) : SessionStep → Link.Session × SessionResult
  | .connect => match s.beginConnect? with
    | some next => (next, .begun true)
    | none => (s, .begun false)
  | .event e => let (next, effect) := s.handle e
    (next, .handled effect)
  | .fail => match s.fail? with
    | some (next, delay) => (next, .failed (some delay))
    | none => (s, .failed none)

def runSession (s : Link.Session) : List SessionStep → List SessionFrame
  | [] => []
  | step :: rest =>
      let (next, result) := stepSession s step
      ⟨result, next.snapshot⟩ :: runSession next rest

/-! ### Telemetry -/

inductive TelemetryStep where
  | payload (text : String)
  | report (state : Remote.Suppression)
  | advance (d : Span)
  | look

structure TelemetryFrame where
  now : Nat
  /-- How a payload was read. -/
  result : Option Remote.Suppression
  state : Remote.Suppression

def runTelemetry (t : Remote.Telemetry) (now : Nat) : List TelemetryStep → List TelemetryFrame
  | [] => []
  | step :: rest =>
      let (next, later, result) := match step with
        | .payload text =>
            (t.receive text.toList now, now, some (Remote.Suppression.ofPayload text.toList))
        | .report state => (t.report state now, now, none)
        | .advance d => (t, now + d.ceilMillis, none)
        | .look => (t, now, none)
      ⟨later, result, next.state later⟩ :: runTelemetry next later rest

/-! ### Display -/

inductive DisplayStep where
  | reset
  | advance (d : Span)
  | look

/-- The wall clock's seconds when a script begins. -/
def wallStart : Nat := 1700000000

def runDisplay (d : Status.Display) (now : Nat) : List DisplayStep → List Status.DisplayStatus
  | [] => []
  | step :: rest =>
      let (next, later) := match step with
        | .reset => (d.resetIdle now (wallStart + now / 1000), now)
        | .advance span => (d, now + span.ceilMillis)
        | .look => (d, now)
      next.status later :: runDisplay next later rest

end BridgeWarden.Rehearsal

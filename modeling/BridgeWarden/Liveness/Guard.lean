import BridgeWarden.Fault.Basic
import BridgeWarden.Time.Clock

/-!
A liveness timer in software. Its confirming half sets a deadline a fixed timeout ahead each time
it is confirmed; its watching half, the sentry, sleeps until the deadline it has last read and
trips if that is still the deadline then. Every change of the deadline is signalled, and a signal
lasts until the sentry has read the deadline again. To give up the confirming half leaves the
deadline as it is.
-/

namespace BridgeWarden.Liveness

/-- What the sentry is about. -/
inductive Sentry where
  /-- About to read the deadline. -/
  | reading
  /-- Asleep, with the deadline as it was read. -/
  | watching (deadline : Option Nat)
  | tripped (instant : Nat)
  | stopped
  deriving DecidableEq, Inhabited

structure Guard where
  /-- The timeout, once the timer is configured. -/
  timeout : Option Span
  deadline : Option Nat
  /-- The deadline was changed since the sentry read it. -/
  signalled : Bool
  sentry : Sentry
  deriving DecidableEq, Inhabited

/-- Why a timer does not do what it is asked. -/
inductive Refusal where
  | fault (f : Fault)
  | breach (b : Breach)
  deriving DecidableEq, Inhabited

namespace Guard

def new : Guard := { timeout := none, deadline := none, signalled := false, sentry := .reading }

def setDeadline (deadline : Option Nat) (g : Guard) : Guard :=
  { g with deadline, signalled := true }

/-- Sets the deadline a timeout ahead. -/
def arm (timeout : Span) (now : Nat) (g : Guard) : Except Refusal Guard :=
  match Clock.deadline? now timeout with
  | some deadline => .ok (g.setDeadline (some deadline))
  | none => .error (.breach .instantOverflow)

/-- Sets the timeout and the first deadline. -/
def configure (timeout : Span) (now : Nat) (g : Guard) : Except Refusal Guard :=
  if timeout.isZero then .error (.fault (.liveness "timeout must be non-zero"))
  else { g with timeout := some timeout }.arm timeout now

/-- Sets the deadline anew. -/
def confirm (now : Nat) (g : Guard) : Except Refusal Guard :=
  match g.timeout with
  | some timeout => g.arm timeout now
  | none => .error (.fault (.liveness "software watchdog not configured"))

/-- Clears the deadline and the timeout. -/
def disarm (g : Guard) : Guard := { g with timeout := none }.setDeadline none

/-! ### The sentry -/

/-- The sentry reads the deadline: at first, and after each signal. -/
def sentryReads? (g : Guard) : Option Guard :=
  let read := { g with signalled := false, sentry := .watching g.deadline }
  match g.sentry with
  | .reading => some read
  | .watching _ => if g.signalled then some read else none
  | .tripped _ | .stopped => none

/-- The sentry's sleep is over: it trips if the deadline in force has passed, or reads again. -/
def sentryWakes? (now : Nat) (g : Guard) : Option Guard :=
  match g.sentry with
  | .watching (some due) =>
      if due ≤ now then
        if g.deadline.any (· ≤ now) then some { g with sentry := .tripped now }
        else some { g with sentry := .reading }
      else none
  | _ => none

/-- The sentry ends on a cancellation. -/
def sentryStops? (cancelled : Bool) (g : Guard) : Option Guard :=
  match g.sentry with
  | .watching _ => if cancelled then some { g with sentry := .stopped } else none
  | _ => none

/-- When the sentry's sleep is over. -/
def due? (g : Guard) : Option Nat :=
  match g.sentry with
  | .watching deadline => deadline
  | _ => none

def trippedAt? (g : Guard) : Option Nat :=
  match g.sentry with
  | .tripped instant => some instant
  | _ => none

/-- Whether the sentry is at work. -/
def isWatched (g : Guard) : Bool :=
  match g.sentry with
  | .reading | .watching _ => true
  | .tripped _ | .stopped => false

/-- Whether nothing of the guard moves for so long. -/
def canWait (now millis : Nat) (cancelled : Bool) (g : Guard) : Bool :=
  g.sentryReads?.isNone && (g.sentryWakes? now).isNone && (g.sentryStops? cancelled).isNone &&
    g.due?.all (now + millis ≤ ·)

end Guard

/-! ### A guard on a clock -/

/-- A guard whose confirming half somebody uses until it is given up. -/
structure Vigil where
  now : Nat
  guard : Guard
  cancelled : Bool
  /-- The confirming half is gone. -/
  abandoned : Bool
  deriving DecidableEq, Inhabited

namespace Vigil

inductive Action where
  | configure (timeout : Span)
  | confirm
  | disarm
  /-- The confirming half is given up. -/
  | abandon
  | cancel
  | sentryReads
  | sentryWakes
  | sentryStops
  | pass (millis : Nat)
  deriving DecidableEq, Inhabited

def new : Vigil := { now := 0, guard := .new, cancelled := false, abandoned := false }

/-- What a use of the confirming half leaves; a refusal changes nothing. -/
def use (result : Except Refusal Guard) (v : Vigil) : Vigil :=
  match result with
  | .ok guard => { v with guard }
  | .error _ => v

/-- The vigil after an action; none if the action is not possible. -/
def next? (v : Vigil) : Action → Option Vigil
  | .configure timeout =>
      if v.abandoned then none else some (v.use (v.guard.configure timeout v.now))
  | .confirm => if v.abandoned then none else some (v.use (v.guard.confirm v.now))
  | .disarm => if v.abandoned then none else some { v with guard := v.guard.disarm }
  | .abandon => some { v with abandoned := true }
  | .cancel => some { v with cancelled := true }
  | .sentryReads => v.guard.sentryReads?.map fun guard => { v with guard }
  | .sentryWakes => (v.guard.sentryWakes? v.now).map fun guard => { v with guard }
  | .sentryStops => (v.guard.sentryStops? v.cancelled).map fun guard => { v with guard }
  | .pass millis =>
      if v.guard.canWait v.now millis v.cancelled then some { v with now := v.now + millis }
      else none

def run? (v : Vigil) : List Action → Option Vigil
  | [] => some v
  | a :: rest => (v.next? a).bind fun v => run? v rest

end Vigil

end BridgeWarden.Liveness

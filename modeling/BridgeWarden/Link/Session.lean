import BridgeWarden.Address.Ipv4
import BridgeWarden.Link.Backoff

/-!
The link's slot and its rules of transition. There is one slot for the whole run; an attempt
occupies it from `beginConnect` until an event or a local failure ends it. Every operation that
does not apply to the present state leaves the slot as it is.
-/

namespace BridgeWarden.Link

inductive State where
  | idle
  | connecting
  | established
  | faulted
  deriving DecidableEq, Inhabited

/-- What the link's engine reports. -/
inductive Event where
  | up (address peer netmask : Ipv4)
  | down (reason : String)
  deriving DecidableEq, Inhabited

/-- A copy of the slot as readers see it. -/
structure Snapshot where
  state : State
  address : Option Ipv4
  gateway : Option Ipv4
  netmask : Option Ipv4
  backoffSecs : Nat
  consecutiveFailures : Nat
  deriving DecidableEq, Inhabited

structure Session where
  state : State
  address : Option Ipv4
  peer : Option Ipv4
  netmask : Option Ipv4
  backoff : Backoff
  consecutiveFailures : Nat
  deriving DecidableEq, Inhabited

/-- What an event did to the slot. -/
inductive Effect where
  | ignored
  | established
  | faulted (delay : Span)
  deriving DecidableEq, Inhabited

namespace Session

def new (backoff : Backoff) : Session :=
  { state := .idle, address := none, peer := none, netmask := none, backoff
    consecutiveFailures := 0 }

/-- The greatest count of failures; there it stays. -/
def failureLimit : Nat := UInt32.size - 1

/-- The slot as an attempt begins; none while one is under way or the link is up. -/
def beginConnect? (s : Session) : Option Session :=
  match s.state with
  | .idle | .faulted => some { s with state := .connecting }
  | .connecting | .established => none

/-- The slot after a fault. The delay to wait is the backoff before it. -/
def fault (s : Session) : Session :=
  { state := .faulted, address := none, peer := none, netmask := none
    backoff := s.backoff.failed
    consecutiveFailures := min (s.consecutiveFailures + 1) failureLimit }

/-- The slot after an event of the engine, and what the event did. -/
def handle (s : Session) (e : Event) : Session × Effect :=
  match s.state, e with
  | .connecting, .up address peer netmask =>
      ({ state := .established, address := some address, peer := some peer
         netmask := some netmask, backoff := s.backoff.reset, consecutiveFailures := 0 },
       .established)
  | .connecting, .down _ => (s.fault, .faulted s.backoff.current)
  | .established, .down _ => (s.fault, .faulted s.backoff.current)
  | _, _ => (s, .ignored)

/-- The slot after a failure that the engine did not report, and the delay to wait; none when there
is nothing to fail. -/
def fail? (s : Session) : Option (Session × Span) :=
  match s.state with
  | .connecting | .established => some (s.fault, s.backoff.current)
  | .idle | .faulted => none

def snapshot (s : Session) : Snapshot :=
  { state := s.state, address := s.address, gateway := s.peer, netmask := s.netmask
    backoffSecs := s.backoff.current.secs, consecutiveFailures := s.consecutiveFailures }

@[simp] theorem snapshot_state (s : Session) : s.snapshot.state = s.state := rfl

end Session

end BridgeWarden.Link

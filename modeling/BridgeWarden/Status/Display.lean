import BridgeWarden.Time.Clock

/-!
What the device shows: how many recoveries there were, when the last one was, and how long the
idle view has been shown since.
-/

namespace BridgeWarden.Status

structure Display where
  recoveries : Nat
  lastRecoveryUnix : Option Nat
  idleSince : Nat
  deriving DecidableEq, Inhabited

/-- What readers of the display see. -/
structure DisplayStatus where
  recoveries : Nat
  lastRecoveryUnix : Option Nat
  idleSecs : Nat
  deriving DecidableEq, Inhabited

namespace Display

def new (now : Nat) : Display := ⟨0, none, now⟩

/-- Records a recovery and returns to the idle view. -/
def resetIdle (d : Display) (now wallSeconds : Nat) : Display :=
  ⟨d.recoveries + 1, some wallSeconds, now⟩

def status (d : Display) (now : Nat) : DisplayStatus :=
  ⟨d.recoveries, d.lastRecoveryUnix, Clock.secondsSince d.idleSince now⟩

end Display

end BridgeWarden.Status

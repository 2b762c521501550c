import BridgeWarden.Fault.Errno

/-!
Faults: what a collaborator or a component of the supervisor reports when it cannot do its work.
A fault has a kind, which says where it arose, and a text; the wording is in `Fault.message`.
A `Breach` is of another sort: a component was used against its own conditions and stopped.
-/

namespace BridgeWarden

inductive Fault where
  | io (text : String)
  | serial (text : String)
  | config (text : String)
  | link (text : String)
  | accessPoint (text : String)
  | liveness (text : String)
  | errno (number : Int)
  | other (text : String)
  deriving DecidableEq, Inhabited

/-- The text shown for a fault: where it arose, then what was reported. -/
def Fault.message : Fault → String
  | .io text => "I/O error: " ++ text
  | .serial text => "Serial port error: " ++ text
  | .config text => "Configuration error: " ++ text
  | .link text => "Link engine error: " ++ text
  | .accessPoint text => "Access point error: " ++ text
  | .liveness text => "Liveness timer error: " ++ text
  | .errno number => "System error: " ++ Errno.describe number
  | .other text => text

/-- A connection is asked of a link whose machine has ended. -/
def Fault.linkGone : Fault := .link "link state machine is not running"

/-- A condition that a component's user has to keep, found broken. -/
inductive Breach where
  | backoffZero
  | backoffInverted
  | additionOverflow
  | instantOverflow
  | spanOverflow
  | bufferOverflow
  | periodZero
  deriving DecidableEq, Inhabited

def Breach.message : Breach → String
  | .backoffZero => "backoff minimum must be non-zero"
  | .backoffInverted => "backoff minimum must not exceed maximum"
  | .additionOverflow => "attempt to add with overflow"
  | .instantOverflow => "overflow when adding duration to instant"
  | .spanOverflow => "overflow when adding durations"
  | .bufferOverflow => "capacity overflow"
  | .periodZero => "`period` must be non-zero."

end BridgeWarden

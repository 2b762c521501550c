import BridgeWarden.Address.Ipv4
import BridgeWarden.Fault.Basic
import BridgeWarden.Program.Run
import BridgeWarden.Time.Span

/-!
One echo request through the system's `ping`. It takes whole seconds only, at least one, and a
quarter of a second is allowed for its start; how it ends decides what is known of the client.
-/

namespace BridgeWarden.Reach.Ping

/-- What is allowed for starting the program. -/
def slack : Span := .ofMillis 250

/-- The whole seconds to wait for an answer: the timeout rounded up, at least one. -/
def waitSecs (timeout : Span) : Except Breach Nat :=
  let secs := timeout.secs + (if 0 < timeout.subsecNanos then 1 else 0)
  if secs < UInt64.size then .ok (max secs 1) else .error .additionOverflow

/-- The longest a probe can take. -/
def bound (timeout : Span) : Except Breach Span :=
  (waitSecs timeout).map fun wait => .ofSecs wait + slack

/-- The arguments of the program. -/
def arguments (wait : Nat) (address : Ipv4) : List String :=
  ["-n", "-q", "-c", "1", "-W", toString wait, address.text]

/-- The code a program exited with, as messages show it. -/
def codeText : Option Nat → String
  | some code => "Some(" ++ toString code ++ ")"
  | none => "None"

/-- What a run of the program says of the client. One that never ends is cut off at the bound and
counts as no answer. -/
def verdict (address : Ipv4) : Program.Run → Except Fault Bool
  | .refused trouble => .error (.io trouble.text)
  | .hangs => .ok false
  | .ended ending _ _ =>
      match ending.code? with
      | some 0 => .ok true
      | some 1 => .ok false
      | code => .error (.other ("ping " ++ address.text ++ " exited abnormally (" ++
          codeText code ++ ")"))

end BridgeWarden.Reach.Ping

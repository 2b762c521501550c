import BridgeWarden.Fault.Basic
import BridgeWarden.Text.File

/-!
The serial device that carries the link. Only a terminal can carry it; why anything else cannot is
said without a number.
-/

namespace BridgeWarden.Transport

/-- What stands behind the name of a serial device. -/
inductive Port where
  | terminal
  /-- A file that is no terminal. -/
  | plain
  /-- Something that cannot be opened. -/
  | closed (trouble : FileTrouble)
  deriving DecidableEq, Inhabited

/-- What opening the device comes to. -/
def Port.opened : Port → Except Fault Unit
  | .terminal => .ok ()
  | .plain => .error (.serial "Not a typewriter")
  | .closed trouble => .error (.serial trouble.description)

end BridgeWarden.Transport

import BridgeWarden.Fault.Basic
import BridgeWarden.Text.File
import BridgeWarden.Time.Span

/-!
The system's watchdog device as a liveness timer. Opening it arms it; each request to it restarts or
changes its countdown, and writing the letter V before it is closed stops it. Whether the device
grants a request is not decided here: `refusal` is the number of its error, if it has one.
-/

namespace BridgeWarden.Liveness

structure Device where
  name : String
  /-- Whether it is still held open. -/
  isOpen : Bool
  /-- What has been written to it. -/
  written : Text.Bytes
  deriving DecidableEq, Inhabited

namespace Device

/-- What is written before the device is closed. -/
def farewell : Text.Bytes := [0x56]

/-- The greatest timeout in seconds that can be asked for. -/
def secsLimit : Nat := UInt32.size / 2

/-- The device opened for writing. -/
def open? (name : String) (trouble : Option FileTrouble) : Except Fault Device :=
  match trouble with
  | some t => .error (.liveness ("cannot open " ++ name ++ ": " ++ t.text))
  | none => .ok ⟨name, true, []⟩

/-- What a request to the device comes to. -/
def request (refusal : Option Int) (d : Device) : Except Fault Unit :=
  if !d.isOpen then .error (.liveness (d.name ++ " already disarmed"))
  else match refusal with
    | some number => .error (.errno number)
    | none => .ok ()

def configure (refusal : Option Int) (timeout : Span) (d : Device) : Except Fault Unit :=
  if secsLimit ≤ timeout.secs then
    .error (.liveness ("timeout " ++ timeout.text ++ " out of range"))
  else d.request refusal

def confirm (refusal : Option Int) (d : Device) : Except Fault Unit := d.request refusal

/-- The device after it has been let go; a second time changes nothing. -/
def disarm (d : Device) : Device :=
  if d.isOpen then { d with isOpen := false, written := d.written ++ farewell } else d

end Device

end BridgeWarden.Liveness

import BridgeWarden.Settings.Check
import BridgeWarden.Settings.Decode
import BridgeWarden.Text.File
import BridgeWarden.Toml.Reader

/-!
Settings loaded from a file. A file that is asked for has to exist; without one, the file at the
usual place is read if it is there. The environment may replace two of the times, and what comes out
has to be settings that the supervisor can run with.
-/

namespace BridgeWarden.Settings

/-- Why a document gives no settings. -/
inductive DocumentFault where
  | malformed
  | mismatch (m : Mismatch)
  deriving DecidableEq, Inhabited

/-- The last line of the report on a document. -/
def DocumentFault.lastLine : DocumentFault → String
  | .malformed => "toml syntax"
  | .mismatch m =>
      String.ofList (m.message.toList.reverse.takeWhile (· != '\n')).reverse

/-- Why settings cannot be loaded. -/
inductive LoadFault where
  | unreadable (name : String) (trouble : FileTrouble)
  | document (fault : DocumentFault)
  | refused (complaint : Complaint)
  deriving DecidableEq, Inhabited

def LoadFault.fault : LoadFault → Fault
  | .unreadable name trouble => .config ("cannot read " ++ name ++ ": " ++ trouble.text)
  | .document fault => .config fault.lastLine
  | .refused complaint => complaint.fault

mutual

/-- Whether every integer of a tree is one of 64 bits with a sign. -/
def signed : Node → Bool
  | .int n => -0x8000000000000000 ≤ n && n < 0x8000000000000000
  | .list items => signedItems items
  | .table fields => signedFields fields
  | _ => true

def signedItems : List Node → Bool
  | [] => true
  | n :: rest => signed n && signedItems rest

def signedFields : List (String × Node) → Bool
  | [] => true
  | (_, n) :: rest => signed n && signedFields rest

end

/-- Settings from a document. One that gives none and holds an integer beyond 64 bits with a sign
counts as malformed. -/
def ofToml (s : List Char) : Except DocumentFault Settings :=
  match Toml.parse? s with
  | none => .error .malformed
  | some fields =>
      let node := Node.ofToml (.table .headed fields)
      match ofNode .toml node with
      | .ok settings => .ok settings
      | .error m => .error (if signed node then .mismatch m else .malformed)

/-- Settings from a file, by its name and what stands behind it. -/
def loadFrom (name : String) (file : FileState) : Except LoadFault Settings :=
  match file.read with
  | .error trouble => .error (.unreadable name trouble)
  | .ok text => (ofToml text).mapError .document

/-- What the environment says about settings. -/
structure Overrides where
  livenessTimeoutSecs : Option String := none
  probeTimeoutMs : Option String := none
  deriving DecidableEq, Inhabited

/-- The number in a variable, unless it is unset or no number of 64 bits. -/
def word? (value : Option String) : Option UInt64 :=
  (value.bind fun v => Text.readBelow? UInt64.size v.toList).map UInt64.ofNat

/-- The settings with what the environment replaces. -/
def override (o : Overrides) (s : Settings) : Settings :=
  { s with
    liveness := { s.liveness with
      timeoutSecs := (word? o.livenessTimeoutSecs).getD s.liveness.timeoutSecs }
    monitor := { s.monitor with
      probeTimeoutMs := (word? o.probeTimeoutMs).getD s.monitor.probeTimeoutMs } }

/-- Where settings are looked for. -/
inductive Place where
  /-- A file that was asked for. -/
  | asked (name : String) (file : FileState)
  /-- The usual place, which may be empty. -/
  | usual (name : String) (file : FileState)

/-- Loads settings, applies the environment and checks the result. -/
def load (place : Place) (o : Overrides) : Except Breach (Except LoadFault Settings) :=
  let read := match place with
    | .asked name file => loadFrom name file
    | .usual _ .missing => .ok {}
    | .usual name file => loadFrom name file
  match read with
  | .error f => .ok (.error f)
  | .ok s =>
      let s := override o s
      s.complaint?.map fun
        | some c => .error (.refused c)
        | none => .ok s

end BridgeWarden.Settings

import BridgeWarden.Console.Report
import BridgeWarden.Settings.Encode
import BridgeWarden.Transport.Serial

/-!
The two command lines. With `supervise` as the first argument the rest is the supervisor's: its
settings are loaded, and printed if it could start with them. Otherwise the arguments are the
client's, whose requests nobody answers here.
-/

namespace BridgeWarden.Console

/-- What stands behind the name of a file. -/
def lookAt (name : String) : IO FileState := do
  try
    return .content (← IO.FS.readBinFile name).toList
  catch
    | .noFileOrDirectory .. => return .missing
    | _ => return .directory

/-- The serial device of settings as far as files can stand for it. -/
def portAt (name : String) : IO Transport.Port := do
  match ← lookAt name with
  | .missing => return .closed .missing
  | .directory => return .closed .isDirectory
  | .content _ => return .plain

/-- Prints what a command line comes to. -/
def finish (e : Exit) : IO UInt32 := do
  for line in e.output do
    IO.println line
  match e.report with
  | [] => pure ()
  | message :: causes => do
      IO.eprintln ("Error: " ++ message)
      for cause in causes do
        IO.eprintln ("    " ++ cause)
  return UInt32.ofNat e.status

/-- The files that the supervisor may be told to read its settings from, with what stands behind
them. -/
def settingsFile (args : List String) (inherited : Option String) : IO (String → FileState) := do
  let name := match readSupervisor args with
    | .ok named => (named <|> inherited).getD usualPlace
    | _ => usualPlace
  let found ← lookAt name
  return fun asked => if asked = name then found else .missing

def supervise (args : List String) : IO UInt32 := do
  let inherited ← IO.getEnv "LINKGUARD_CONFIG"
  let overrides : Settings.Overrides :=
    ⟨← IO.getEnv "LINKGUARD_LIVENESS_TIMEOUT_SECS", ← IO.getEnv "LINKGUARD_PROBE_TIMEOUT_MS"⟩
  match settings args inherited overrides (← settingsFile args inherited) with
  | .error e => finish e
  | .ok s =>
      match (← portAt s.link.serialDevice).opened with
      | .error f => finish (serialExit f)
      | .ok () => finish ⟨0, [s.toJson.pretty], []⟩

end BridgeWarden.Console

open BridgeWarden in
def main (args : List String) : IO UInt32 := do
  match args with
  | "supervise" :: rest => Console.supervise rest
  | _ =>
      let inherited ← IO.getEnv "LINKGUARD_URL"
      Console.finish (Console.Exit.ofClient inherited args fun _ => none)

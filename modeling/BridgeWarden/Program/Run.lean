import BridgeWarden.Fault.Basic
import BridgeWarden.Text.Blank
import BridgeWarden.Text.File
import BridgeWarden.Time.Span

/-!
Programs of the system that the supervisor starts: what is run, how a run ends, and what is made of
a run that may take no longer than a limit. Output is read leniently, so bytes that are no text do
not fail a run.
-/

namespace BridgeWarden.Program

/-- A program and its arguments. -/
structure Command where
  name : String
  arguments : List String
  deriving DecidableEq, Inhabited

/-- How a program ends. -/
inductive Ending where
  | exited (code : Nat)
  | killed (signal : Nat)
  deriving DecidableEq, Inhabited

/-- What becomes of a program that is to be started. -/
inductive Run where
  /-- It cannot be started. -/
  | refused (trouble : FileTrouble)
  | ended (ending : Ending) (output errors : Text.Bytes)
  /-- It never ends of itself. -/
  | hangs
  deriving DecidableEq, Inhabited

/-- The names of the signals from the first on. -/
def signalNames : List String :=
  ["HUP", "INT", "QUIT", "ILL", "TRAP", "ABRT", "BUS", "FPE", "KILL", "USR1", "SEGV", "USR2",
    "PIPE", "ALRM", "TERM", "STKFLT", "CHLD", "CONT", "STOP", "TSTP", "TTIN", "TTOU", "URG",
    "XCPU", "XFSZ", "VTALRM", "PROF", "WINCH", "IO", "PWR", "SYS"]

def signalText (signal : Nat) : String :=
  match signal, signalNames[signal - 1]? with
  | _ + 1, some name => "signal: " ++ toString signal ++ " (SIG" ++ name ++ ")"
  | _, _ => "signal: " ++ toString signal

namespace Ending

def text : Ending → String
  | .exited code => "exit status: " ++ toString code
  | .killed signal => signalText signal

/-- The code a program exited with, if it was not killed. -/
def code? : Ending → Option Nat
  | .exited code => some code
  | .killed _ => none

def isSuccess (e : Ending) : Bool := e.code? == some 0

end Ending

/-- The output of a run that may take up to the limit. -/
def Run.output (name : String) (limit : Span) : Run → Except Fault (List Char)
  | .refused trouble => .error (.io trouble.text)
  | .hangs => .error (.io (name ++ " did not finish within " ++ limit.text))
  | .ended ending output errors =>
      if ending.isSuccess then .ok (Text.decodeLenient output)
      else .error (.accessPoint (name ++ " failed (" ++ ending.text ++ "): " ++
        String.ofList (Text.trim (Text.decodeLenient errors))))

end BridgeWarden.Program

import BridgeWarden.Program.Run

/-!
The system's own programs, as far as rehearsals start them: the two that only succeed or fail, and
the shell with a script of simple commands. Any other name stands for no program, or for a
directory, which cannot be run.
-/

namespace BridgeWarden.Rehearsal

/-- What a script has written so far and how its last command ended. -/
structure ShellState where
  output : List Char
  errors : List Char
  status : Nat
  ending : Option Program.Ending

/-- A command's words without those that send its output elsewhere, and whether it goes to the
errors. -/
def redirect (words : List String) : List String × Bool :=
  (words.filter fun w => w ≠ ">&2" && w ≠ "1>&2", words.any fun w => w = ">&2" || w = "1>&2")

/-- One command of a script. -/
def shellStep (s : ShellState) (words : List String) : ShellState :=
  if s.ending.isSome then s
  else
    let (words, toErrors) := redirect words
    match words with
    | [] => s
    | "true" :: _ => { s with status := 0 }
    | "false" :: _ => { s with status := 1 }
    | "echo" :: rest =>
        let line := (String.intercalate " " rest).toList ++ ['\n']
        if toErrors then { s with errors := s.errors ++ line, status := 0 }
        else { s with output := s.output ++ line, status := 0 }
    | ["exit"] => { s with ending := some (.exited s.status) }
    | "exit" :: code :: _ => { s with ending := some (.exited (code.toNat?.getD 2 % 256)) }
    | ["kill", signal, "$$"] =>
        { s with ending := some (.killed (((signal.drop 1).toNat?).getD 15)) }
    | _ => { s with status := 127 }

/-- A run of the shell with a script. -/
def runScript (script : String) : Program.Run :=
  let commands := (Text.splitOn (fun c => c = ';' || c = '\n') script.toList).map fun c =>
    (Text.words c).map String.ofList
  let s := commands.foldl shellStep ⟨[], [], 0, none⟩
  .ended (s.ending.getD (.exited s.status)) (Text.encode s.output) (Text.encode s.errors)

/-- Whether a path names one of several programs in one of the places of programs. -/
def isProgram (names : List String) (path : String) : Bool :=
  names.any fun n => path = n || path = "/bin/" ++ n || path = "/usr/bin/" ++ n

/-- Directories that every system has. -/
def directories : List String := ["/", ".", "./", "..", "/bin", "/etc", "/tmp", "/usr", "/dev"]

/-- What becomes of one of the system's programs. -/
def runStandard (c : Program.Command) : Program.Run :=
  if isProgram ["true"] c.name then .ended (.exited 0) [] []
  else if isProgram ["false"] c.name then .ended (.exited 1) [] []
  else if isProgram ["sh", "bash", "dash"] c.name then
    match c.arguments with
    | "-c" :: script :: _ => runScript script
    | _ => .ended (.exited 0) [] []
  else if isProgram ["echo"] c.name then
    .ended (.exited 0) (Text.encode ((String.intercalate " " c.arguments).toList ++ ['\n'])) []
  else .refused (if directories.contains c.name then .denied else .missing)

end BridgeWarden.Rehearsal

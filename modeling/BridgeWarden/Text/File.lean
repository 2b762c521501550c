import BridgeWarden.Text.Utf8

/-!
Files as the operating system shows them: what stands behind a name, and why a file cannot be read
or run. A file is read as a text as a whole or not at all.
-/

namespace BridgeWarden

/-- Why the operating system refuses a file. -/
inductive FileTrouble where
  | missing
  | denied
  | notDirectory
  | isDirectory
  | unknownFormat
  | notUtf8
  deriving DecidableEq, Inhabited

/-- The description of the trouble alone. -/
def FileTrouble.description : FileTrouble → String
  | .missing => "No such file or directory"
  | .denied => "Permission denied"
  | .notDirectory => "Not a directory"
  | .isDirectory => "Is a directory"
  | .unknownFormat => "Exec format error"
  | .notUtf8 => "stream did not contain valid UTF-8"

/-- The description with the error's number, where it has one. -/
def FileTrouble.text (t : FileTrouble) : String :=
  match t with
  | .missing => t.description ++ " (os error 2)"
  | .denied => t.description ++ " (os error 13)"
  | .notDirectory => t.description ++ " (os error 20)"
  | .isDirectory => t.description ++ " (os error 21)"
  | .unknownFormat => t.description ++ " (os error 8)"
  | .notUtf8 => t.description

/-- What stands behind a file's name. -/
inductive FileState where
  | missing
  | directory
  | content (bytes : List UInt8)
  deriving DecidableEq, Inhabited

/-- The text of a file. -/
def FileState.read : FileState → Except FileTrouble (List Char)
  | .missing => .error .missing
  | .directory => .error .isDirectory
  | .content bytes =>
      match Text.decode? bytes with
      | some text => .ok text
      | none => .error .notUtf8

end BridgeWarden

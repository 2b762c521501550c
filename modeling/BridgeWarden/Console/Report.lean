import BridgeWarden.Console.Arguments
import BridgeWarden.Json.Printer
import BridgeWarden.Settings.Load

/-!
What the command lines come to: an exit status, what is printed, and the report of a fault with its
causes. Arguments that cannot be understood exit with 2 and any other fault with 1.
-/

namespace BridgeWarden.Console

structure Exit where
  status : Nat
  output : List String
  /-- The fault and then its causes, if there was one. -/
  report : List String
  deriving DecidableEq, Inhabited

namespace Exit

def usage : Exit := ⟨2, [], []⟩

/-- The end of a command line that only explains itself. -/
def help : Exit := ⟨0, [], []⟩

def fault (message : String) (causes : List String) : Exit := ⟨1, [], message :: causes⟩

/-- What the client prints for an answer. A link that is down is told by the status, too. -/
def ofValue : Status.CallValue → Exit
  | .linkUp true => ⟨0, ["up"], []⟩
  | .linkUp false => ⟨1, ["down"], []⟩
  | .remote r => ⟨0, [r.state.word], []⟩
  | value => ⟨0, [value.toJson.pretty], []⟩

/-- The end of the client, given what comes back for its request. -/
def ofTask (task : ClientTask) (reply : Option Status.Reply) : Exit :=
  match (Status.Client.ofUrl task.url).outcome task.call reply with
  | .ok value => ofValue value
  | .error f => fault f.message []

/-- The end of the client, given its arguments and how requests are answered. -/
def ofClient (inherited : Option String) (args : List String)
    (answer : ClientTask → Option Status.Reply) : Exit :=
  match readClient inherited args with
  | .ok task => ofTask task (answer task)
  | .help => help
  | .usage => usage

end Exit

/-- Where the supervisor looks for settings unless it is told. -/
def usualPlace : String := "/etc/linkguard/linkguard.toml"

/-- The settings of a supervisor, given its arguments, the environment and what stands behind the
names of files; or how it ends without them. -/
def settings (args : List String) (variableFile : Option String) (o : Settings.Overrides)
    (file : String → FileState) : Except Exit Settings :=
  match readSupervisor args with
  | .help => .error .help
  | .usage => .error .usage
  | .ok named =>
      let place := match named <|> variableFile with
        | some name => Settings.Place.asked name (file name)
        | none => .usual usualPlace (file usualPlace)
      match Settings.load place o with
      | .error breach => .error (.fault breach.message [])
      | .ok (.error f) => .error (.fault "loading configuration" [f.fault.message])
      | .ok (.ok s) => .ok s

/-- How a supervisor ends that cannot open its serial device. -/
def serialExit : Fault → Exit
  | .serial text => .fault (Fault.serial text).message [text]
  | f => .fault f.message []

end BridgeWarden.Console

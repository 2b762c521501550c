import BridgeWarden.Status.Client

/-!
The arguments of the two command lines. An argument that begins with a dash is an option, unless it
is a single dash or stands after two dashes alone; an option is given at most once, with its value
as the next argument or after an equals sign.
-/

namespace BridgeWarden.Console

/-- What arguments come to. -/
inductive Parsed (α : Type) where
  | ok (a : α)
  /-- The text that explains the command line is asked for. -/
  | help
  /-- They cannot be understood. -/
  | usage
  deriving DecidableEq, Inhabited

/-- Whether an argument has the form of an option. -/
def isOption (arg : String) : Bool :=
  match arg.toList with
  | '-' :: _ :: _ => true
  | _ => false

/-- Whether an argument asks for help. -/
def isHelp (arg : String) : Bool := arg = "--help" || arg.startsWith "-h"

/-- An option that takes a value. -/
structure ValueOption where
  long : String
  short : Option Char

/-- The value that an argument gives to the option by itself. -/
def ValueOption.attached? (o : ValueOption) (arg : String) : Option String :=
  let lead := (o.long ++ "=").toList
  if lead.isPrefixOf arg.toList then some (String.ofList (arg.toList.drop lead.length))
  else match arg.toList with
    | '-' :: c :: '=' :: rest => if o.short = some c then some (String.ofList rest) else none
    | '-' :: c :: d :: rest => if o.short = some c then some (String.ofList (d :: rest)) else none
    | _ => none

/-- Whether an argument is the name of the option. -/
def ValueOption.isName (o : ValueOption) (arg : String) : Bool :=
  arg = o.long || o.short.any fun c => arg = String.ofList ['-', c]

/-- What arguments begin with. -/
inductive Start where
  | nothing
  | help
  /-- The option and its value. -/
  | option (value : String) (rest : List String)
  | plain (arg : String) (rest : List String)
  /-- Two dashes alone. -/
  | dashes (rest : List String)
  | unknown

def start (o : ValueOption) : List String → Start
  | [] => .nothing
  | arg :: rest =>
      if arg = "--" then .dashes rest
      else if o.isName arg then
        match rest with
        | value :: rest => if isOption value then .unknown else .option value rest
        | [] => .unknown
      else if isHelp arg then .help
      else match o.attached? arg with
        | some value => .option value rest
        | none => if isOption arg then .unknown else .plain arg rest

/-- Exactly so many plain arguments. `done` are those read, last one first. -/
def readPlain (count : Nat) (done : List String) : List String → Parsed (List String)
  | [] => if done.length = count then .ok done.reverse else .usage
  | arg :: rest =>
      if arg = "--" then
        if done.length + rest.length = count then .ok (done.reverse ++ rest) else .usage
      else if isHelp arg then .help
      else if isOption arg || done.length = count then .usage
      else readPlain count (arg :: done) rest

/-! ### The client -/

/-- What the client is to do, and where the interface is. -/
structure ClientTask where
  url : String
  call : Status.Call
  deriving DecidableEq, Inhabited

/-- Where the interface is if nobody says. -/
def defaultUrl : String := "http://127.0.0.1:8080"

def urlOption : ValueOption := ⟨"--url", none⟩

/-- A command of the client, by its name and the arguments after it. -/
def readCommand (command : String) (rest : List String) : Parsed Status.Call :=
  let plain (count : Nat) (make : List String → Status.Call) : Parsed Status.Call :=
    match readPlain count [] rest with
    | .ok values => .ok (make values)
    | .help => .help
    | .usage => .usage
  match command with
  | "status" => plain 0 fun _ => .health
  | "link" => plain 0 fun _ => .link
  | "up" => plain 0 fun _ => .linkUp
  | "report" => plain 1 fun values => .report (values.headD "")
  | "help" =>
      if rest = [] ∨ ["status", "link", "up", "report", "help"].any (rest = [·]) then .help
      else .usage
  | _ => .usage

/-- The task of a command for the interface at an address. -/
def readTask (url command : String) (rest : List String) : Parsed ClientTask :=
  match readCommand command rest with
  | .ok call => .ok ⟨url, call⟩
  | .help => .help
  | .usage => .usage

/-- The client's arguments; `inherited` is the address that the environment names. -/
def readClient (inherited : Option String) (args : List String) : Parsed ClientTask :=
  match start urlOption args with
  | .plain command rest => readTask (inherited.getD defaultUrl) command rest
  | .help => .help
  | .option url rest =>
      match start urlOption rest with
      | .plain command rest => readTask url command rest
      | .help => .help
      | _ => .usage
  | _ => .usage

/-! ### The supervisor -/

def configOption : ValueOption := ⟨"--config", some 'c'⟩

/-- The supervisor's arguments: the file of its settings, if one is named. -/
def readSupervisor (args : List String) : Parsed (Option String) :=
  match start configOption args with
  | .nothing | .dashes [] => .ok none
  | .help => .help
  | .option file rest =>
      if file = "" then .usage
      else match start configOption rest with
        | .nothing | .dashes [] => .ok (some file)
        | .help => .help
        | _ => .usage
  | _ => .usage

end BridgeWarden.Console

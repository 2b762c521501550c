import BridgeWarden.Link.Dialer
import BridgeWarden.Link.Forward
import BridgeWarden.Link.Log
import BridgeWarden.Program.Run

/-!
The link engine over programs that follow a plan: what each session writes to its log and to the
channel when it begins, what it is given to read, and how it ends. Each step is followed until
nothing more can happen.
-/

namespace BridgeWarden.Rehearsal

open Text (Bytes)
open Link

/-- A step of a rehearsal. -/
inductive DialStep where
  /-- A session begins; it writes its log, perhaps closes it, and then its output. -/
  | connect (log : Bytes) (closeLog : Bool) (output : Bytes)
  | input (data : Bytes)
  /-- The program of the present session ends. -/
  | exit (ending : Program.Ending)
  | disconnect
  /-- The engine is let go. -/
  | drop
  deriving Inhabited

/-- What a step comes to. -/
inductive DialResult where
  | nothing
  | connected (fault : Option Fault)
  /-- What the last session has been given so far. -/
  | received (data : Bytes)

structure DialFrame where
  result : DialResult
  events : List Event
  handovers : List Handover

/-- How many bytes each offer to the channel takes, as far as that is planned. -/
abbrev Appetite := List Nat

/-- An offer to the channel; without a plan it takes everything. -/
def Appetite.send (plan : Appetite) (bytes : Bytes) : Appetite × Nat :=
  match plan with
  | [] => ([], bytes.length)
  | k :: rest => (rest, min k bytes.length)

structure DialStage where
  dialer : Dialer
  program : String
  /-- Why the program cannot be started, if so. -/
  trouble : Option FileTrouble
  /-- The number of the last session. -/
  session : Nat
  /-- The log of the last session. -/
  log : LogReader
  /-- Whether the program of the last session runs. -/
  running : Bool
  /-- What the last session has been given. -/
  received : Bytes
  appetite : Appetite
  dropped : Bool

namespace DialStage

/-- More events than any step reports. -/
def roomy : Nat := 64

def new (program : String) (trouble : Option FileTrouble) (appetite : Appetite) : DialStage :=
  { dialer := Dialer.new roomy, program, trouble, session := 0, log := .new, running := false
    received := [], appetite, dropped := false }

def act (a : Dialer.Action) (s : DialStage) : DialStage :=
  match s.dialer.next? a with
  | some dialer => { s with dialer }
  | none => s

/-- The last session reports. -/
def report (event : Event) (s : DialStage) : DialStage := s.act (.report ⟨s.session, event⟩)

/-- What becomes of the log; the session reports what the reader announces. -/
def onLog (f : LogReader → LogReader) (s : DialStage) : DialStage :=
  let log := f s.log
  match s.log.announced, log.announced with
  | none, some event => { s with log }.report event
  | _, _ => { s with log }

/-- The program of the last session ends, and its log with it. -/
def ended (ending : Program.Ending) (s : DialStage) : DialStage :=
  if s.running then
    ({ s with running := false }.onLog LogReader.finish).report (exitEvent ending)
  else s

/-- How a program ends that is no longer wanted. -/
def killed : Program.Ending := .killed 9

/-- A session has begun; it writes its log and its output. -/
def begin (log : Bytes) (closeLog : Bool) (output : Bytes) (s : DialStage) :
    DialStage × List Handover :=
  let s := { s with session := s.dialer.number, log := .new, running := true, received := [] }
  let s := s.onLog fun r => if closeLog then (r.feed log).finish else r.feed log
  let (appetite, handovers) := forward Appetite.send s.appetite (outputPieces output)
  ({ s with appetite }, handovers)

def step (s : DialStage) (step : DialStep) : DialStage × DialResult × List Handover :=
  if s.dropped then (s, .nothing, [])
  else match step with
    | .connect log closeLog output =>
        let s := (s.act (.connect s.trouble.isNone)).ended killed
        match s.trouble with
        | some t => (s, .connected (some (startFault s.program t)), [])
        | none =>
            let (s, handovers) := s.begin log closeLog output
            (s, .connected none, handovers)
    | .input data =>
        let received :=
          if s.running && s.dialer.line.isSome then s.received ++ data else s.received
        ({ s with received }, .received received, [])
    | .exit ending => (s.ended ending, .nothing, [])
    | .disconnect => ((s.act .disconnect).ended killed, .nothing, [])
    | .drop => ({ s.ended killed with dropped := true }, .nothing, [])

/-- Takes all events. -/
def drain (s : DialStage) : DialStage × List Event :=
  (s.dialer.queue.foldl (fun s _ => s.act .receive) s, s.dialer.queue.map (·.event))

def run (s : DialStage) : List DialStep → List DialFrame
  | [] => []
  | step :: rest =>
      let (s, result, handovers) := s.step step
      let (s, events) := s.drain
      ⟨result, events, handovers⟩ :: run s rest

end DialStage

end BridgeWarden.Rehearsal

import BridgeWarden.AccessPoint.Control
import BridgeWarden.Reach.Survey
import BridgeWarden.Rehearsal.Dialing

/-!
The whole supervisor over programs that follow a plan, from its start until its first cycle is over
and the link has come as far as is waited for: which programs it started with which arguments, and
which bytes it carried.
-/

namespace BridgeWarden.Rehearsal

open Text (Bytes)
open Reach

structure ServicePlan where
  settings : Settings
  interfacePresent : Bool
  stations : Program.Run
  leases : FileState
  ping : Program.Run
  restart : Program.Run
  /-- What the link engine's program logs and puts out. -/
  log : Bytes
  output : Bytes
  /-- How that program ends at once, if it does. -/
  ending : Option Program.Ending
  /-- What comes in over the serial line. -/
  serialIn : Bytes

/-- What a run of the supervisor shows. -/
structure ServiceFrame where
  /-- The arguments of each program's last run. -/
  stationArguments : Option (List String)
  pingArguments : Option (List String)
  restartArguments : Option (List String)
  engineReceived : Bytes
  serialOut : Bytes

namespace ServicePlan

/-- The answer to what a survey asks. -/
def answer (p : ServicePlan) : Query → Answer
  | .list => .clients (AccessPoint.clients p.settings.accessPoint p.interfacePresent p.stations)
  | .lease client => .lease (AccessPoint.leaseOf p.settings.accessPoint p.leases client)
  | .probe address _ => .probe (Ping.verdict address p.ping)

def monitor (p : ServicePlan) : Monitor :=
  ⟨p.settings.monitor.probeTimeout, p.settings.accessPoint.maxClients.toNat⟩

/-- What a survey asks from some point on, and where it ends. -/
def follow (p : ServicePlan) : Nat → Survey → List Query × Survey
  | 0, s => ([], s)
  | fuel + 1, s =>
      match s.query? p.monitor with
      | none => ([], s)
      | some q =>
          match s.answer? p.monitor (p.answer q) with
          | none => ([q], s)
          | some s =>
              let (more, s) := follow p fuel s
              (q :: more, s)

/-- More questions than a survey of the stations listed can ask. -/
def questionLimit (p : ServicePlan) : Nat :=
  match p.answer .list with
  | .clients (.ok clients) => 2 * clients.length + 2
  | _ => 2

/-- Whether a program was started. -/
def started : Program.Run → Bool
  | .refused _ => false
  | _ => true

def addressOf? : Query → Option Ipv4
  | .probe address _ => some address
  | _ => none

/-- The steps of the link's engine. -/
def dialSteps (p : ServicePlan) : List DialStep :=
  [.connect p.log false p.output] ++ (p.ending.map DialStep.exit).toList ++ [.input p.serialIn]

def run (p : ServicePlan) : ServiceFrame :=
  let (queries, survey) := p.follow p.questionLimit .listing
  let probed := (queries.filterMap addressOf?).getLast?
  let frames := (DialStage.new p.settings.link.pppd none []).run p.dialSteps
  let received := match frames.getLast?.map (·.result) with
    | some (.received data) => data
    | _ => []
  { stationArguments :=
      if p.interfacePresent && started p.stations then
        some (AccessPoint.listCommand p.settings.accessPoint).arguments
      else none
    pingArguments :=
      if started p.ping then
        probed.bind fun address =>
          match Ping.waitSecs p.settings.monitor.probeTimeout with
          | .ok wait => some (Ping.arguments wait address)
          | .error _ => none
      else none
    restartArguments :=
      if survey.outcome?.any Outcome.needsRecovery && started p.restart then
        (AccessPoint.restartCommand p.settings.accessPoint).toOption.map (·.arguments)
      else none
    engineReceived := received
    serialOut := frames.flatMap fun f => Link.takenBytes f.handovers }

end ServicePlan

end BridgeWarden.Rehearsal

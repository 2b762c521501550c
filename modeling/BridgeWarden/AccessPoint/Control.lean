import BridgeWarden.AccessPoint.Leases
import BridgeWarden.AccessPoint.Stations
import BridgeWarden.Program.Run
import BridgeWarden.Settings.Basic

/-!
How the access point is asked and restarted: its control program lists the stations, a file holds
the leases, and a command restarts it. Questions may take up to a timeout of the settings and a
restart up to half a minute.
-/

namespace BridgeWarden.AccessPoint

/-- The longest a restart may take. -/
def restartBound : Span := .ofSecs 30

/-- The command that lists the stations. -/
def listCommand (s : AccessPointSettings) : Program.Command :=
  ⟨s.hostapdCli, ["-i", s.interface, "list_sta"]⟩

/-- The stations, given whether the interface is there and what becomes of the command. -/
def clients (s : AccessPointSettings) (present : Bool) (run : Program.Run) :
    Except Fault (List Mac) :=
  if present then (run.output s.hostapdCli s.queryTimeout).map stations
  else .error (.accessPoint ("access point interface " ++ s.interface ++ " not found"))

/-- The command that restarts the access point. -/
def restartCommand (s : AccessPointSettings) : Except Fault Program.Command :=
  match s.restartCommand with
  | [] => .error (.accessPoint "restart command is empty")
  | name :: arguments => .ok ⟨name, arguments⟩

/-- What a restart comes to, given what becomes of the command. -/
def restarted (s : AccessPointSettings) (run : Program.Run) : Except Fault Unit :=
  (restartCommand s).bind fun command =>
    (run.output command.name restartBound).map fun _ => ()

/-- The address last given to a client, from the file of leases. -/
def leaseOf (s : AccessPointSettings) (file : FileState) (client : Mac) :
    Except Fault (Option Ipv4) :=
  match file.read with
  | .ok text => .ok (findLease? text client)
  | .error trouble =>
      .error (.accessPoint ("cannot read lease file " ++ s.leaseFile ++ ": " ++ trouble.text))

end BridgeWarden.AccessPoint

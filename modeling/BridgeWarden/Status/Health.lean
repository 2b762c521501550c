import BridgeWarden.Link.Session
import BridgeWarden.Recovery.Report
import BridgeWarden.Remote.Suppression
import BridgeWarden.Status.Display

/-!
The answers of the status interface.
-/

namespace BridgeWarden.Status

/-- The supervisor's health: link, remote site, last cycle and display. -/
structure Health where
  link : Link.Snapshot
  linkUp : Bool
  remote : Remote.Suppression
  lastCycle : Option Recovery.Report
  display : DisplayStatus
  deriving DecidableEq, Inhabited

/-- How a report of the remote site was read. -/
structure RemoteReport where
  state : Remote.Suppression
  deriving DecidableEq, Inhabited

/-- One associated client. -/
structure ClientRecord where
  hardwareAddress : Mac
  deriving DecidableEq, Inhabited

end BridgeWarden.Status

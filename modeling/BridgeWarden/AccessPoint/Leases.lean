import BridgeWarden.Address.Ipv4
import BridgeWarden.Address.Mac

/-!
The leases that the access point's address server has given out. A line says when a lease ends, to
which hardware address it was given and which address it is of; what follows does not matter, nor
does a line of another form. Of several leases of one client the last one counts.
-/

namespace BridgeWarden.AccessPoint

/-- An address given to a client. -/
structure Lease where
  client : Mac
  address : Ipv4
  deriving DecidableEq, Inhabited

/-- The lease that a line states, if it states one. -/
def Lease.ofLine? (line : List Char) : Option Lease :=
  match Text.words line with
  | _ :: client :: address :: _ => do
      return ⟨← Mac.parse? client, ← Ipv4.parse? address⟩
  | _ => none

/-- The leases of a text, in its order. -/
def leases (s : List Char) : List Lease := (Text.lines s).filterMap Lease.ofLine?

/-- The address last given to a client. -/
def findLease? (s : List Char) (client : Mac) : Option Ipv4 :=
  (((leases s).filter (·.client = client)).getLast?).map (·.address)

end BridgeWarden.AccessPoint

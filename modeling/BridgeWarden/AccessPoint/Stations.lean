import BridgeWarden.Address.Mac

/-!
The list of an access point's stations: one hardware address a line. Lines that are none are passed
over.
-/

namespace BridgeWarden.AccessPoint

/-- The stations of a list, in its order. -/
def stations (s : List Char) : List Mac :=
  (Text.lines s).filterMap fun line => Mac.parse? (Text.trim line)

end BridgeWarden.AccessPoint

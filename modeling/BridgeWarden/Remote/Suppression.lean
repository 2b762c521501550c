import BridgeWarden.Text.Blank

/-!
The remote site's view of whether it can reach this system, and how its payloads are read: three
words and their short forms, in either case, with blanks around them; anything else is unknown.
Only a positive report suppresses the monitoring of clients.
-/

namespace BridgeWarden.Remote

inductive Suppression where
  | online
  | offline
  | unknown
  deriving DecidableEq, Inhabited

namespace Suppression

def word : Suppression → String
  | .online => "online"
  | .offline => "offline"
  | .unknown => "unknown"

/-- The words for a state, in lower case. -/
def spellings : Suppression → List String
  | .online => ["online", "1", "true"]
  | .offline => ["offline", "0", "false"]
  | .unknown => ["unknown"]

def all : List Suppression := [.online, .offline, .unknown]

/-- The state that a word names, in either case of ASCII letters. -/
def ofWord? (s : List Char) : Option Suppression :=
  all.find? fun state => state.spellings.any fun w => w.toList == s.map Char.toLower

/-- How a payload is read. -/
def ofPayload (s : List Char) : Suppression := (ofWord? (Text.trim s)).getD .unknown

/-- Only a positive report suppresses monitoring. -/
def suppresses (s : Suppression) : Bool := s == .online

end Suppression

end BridgeWarden.Remote

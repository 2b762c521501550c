import BridgeWarden.Text.Blank
import BridgeWarden.Text.Decimal
import BridgeWarden.Text.Quoted

/-!
Hardware addresses: six octets, written as six pairs of hexadecimal digits joined by colons or
dashes.
-/

namespace BridgeWarden

/-- A hardware address of 48 bits. -/
structure Mac where
  o1 : UInt8
  o2 : UInt8
  o3 : UInt8
  o4 : UInt8
  o5 : UInt8
  o6 : UInt8
  deriving DecidableEq, Inhabited

namespace Mac

def octets (m : Mac) : List UInt8 := [m.o1, m.o2, m.o3, m.o4, m.o5, m.o6]

def ofOctets? : List UInt8 → Option Mac
  | [a, b, c, d, e, f] => some ⟨a, b, c, d, e, f⟩
  | _ => none

/-- What may stand between two octets. -/
def isSeparator (c : Char) : Bool := c = ':' || c = '-'

/-- Reads an address, blanks around it allowed. -/
def parse? (s : List Char) : Option Mac :=
  ((Text.splitOn isSeparator (Text.trim s)).mapM Text.readHexByte?).bind ofOctets?

/-- The address in lower case, joined by colons. -/
def render (m : Mac) : List Char :=
  [':'].intercalate (m.octets.map Text.hexByte)

def text (m : Mac) : String := String.ofList m.render

/-- The complaint about a text that is no address. -/
def complaint (s : String) : String := "invalid MAC address: " ++ Text.quote s

end Mac

end BridgeWarden

import BridgeWarden.Text.Blank
import BridgeWarden.Text.Decimal

/-!
Internet addresses of version 4: four octets, written in decimal without leading zeros and joined
by dots.
-/

namespace BridgeWarden

structure Ipv4 where
  o1 : UInt8
  o2 : UInt8
  o3 : UInt8
  o4 : UInt8
  deriving DecidableEq, Inhabited

namespace Ipv4

/-- All ones: the netmask of a link with a single peer. -/
def broadcast : Ipv4 := ⟨255, 255, 255, 255⟩

def octets (a : Ipv4) : List UInt8 := [a.o1, a.o2, a.o3, a.o4]

def ofOctets? : List UInt8 → Option Ipv4
  | [a, b, c, d] => some ⟨a, b, c, d⟩
  | _ => none

/-- Reads one octet: at most three digits, no leading zero before another digit, at most 255. -/
def readOctet? (s : List Char) : Option UInt8 :=
  if s.length ≤ 3 ∧ (s.head? = some '0' → s = ['0']) then
    ((Text.readDigits? s).filter (· < 256)).map UInt8.ofNat
  else none

/-- Reads an address; nothing may stand around it. -/
def parse? (s : List Char) : Option Ipv4 :=
  ((Text.splitOn (· == '.') s).mapM readOctet?).bind ofOctets?

def render (a : Ipv4) : List Char :=
  ['.'].intercalate (a.octets.map fun o => Text.decimal o.toNat)

def text (a : Ipv4) : String := String.ofList a.render

end Ipv4

end BridgeWarden

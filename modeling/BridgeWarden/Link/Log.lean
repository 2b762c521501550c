import BridgeWarden.Link.Session
import BridgeWarden.Text.File

/-!
What the link engine's log tells. A line that names the local address and one that names the remote
address, in either order, mean that the link is up; this is announced once, at the first line after
which both are known, with the last address of each kind so far. Any other line is passed over, but
the first one that is no text ends the reading.
-/

namespace BridgeWarden.Link

open Text (Bytes)

/-- What one line of the log tells. -/
inductive LogLine where
  | localAddress (a : Ipv4)
  | remoteAddress (a : Ipv4)
  | other
  deriving DecidableEq, Inhabited

namespace LogLine

/-- The words between the side and the address. -/
def phrase : List Char := "IP address".toList

/-- The text after a word and the blanks that have to follow it. -/
def afterWord? (word s : List Char) : Option (List Char) :=
  if word.isPrefixOf s then
    match s.drop word.length with
    | c :: rest => if Text.isBlank c then some (Text.trimStart rest) else none
    | [] => none
  else none

/-- The address of a line about a side. That four groups of one to three digits stand there goes
without saying: no other text is read as an address. -/
def addressOf? (side s : List Char) : Option Ipv4 := do
  let s ← afterWord? side (Text.trimStart s)
  let s ← afterWord? phrase s
  Ipv4.parse? (Text.trimEnd s)

/-- What a line tells: blanks, the side, blanks, the phrase, blanks, an address, blanks. -/
def parse (s : List Char) : LogLine :=
  match addressOf? "local".toList s, addressOf? "remote".toList s with
  | some a, _ => .localAddress a
  | none, some a => .remoteAddress a
  | none, none => .other

end LogLine

/-- A reader of a log. -/
structure LogReader where
  /-- The bytes of a line that has not ended yet, last byte first. -/
  pending : Bytes
  here : Option Ipv4
  peer : Option Ipv4
  /-- The announcement that the link is up. -/
  announced : Option Event
  isOpen : Bool
  deriving DecidableEq, Inhabited

namespace LogReader

def new : LogReader := ⟨[], none, none, none, true⟩

/-- Announces that the link is up once both addresses are known. -/
def announce (r : LogReader) : LogReader :=
  match r.announced, r.here, r.peer with
  | none, some address, some peer =>
      { r with announced := some (.up address peer Ipv4.broadcast) }
  | _, _, _ => r

/-- The reader after a line. -/
def take (r : LogReader) : LogLine → LogReader
  | .localAddress a => announce { r with here := some a }
  | .remoteAddress a => announce { r with peer := some a }
  | .other => r

/-- The reader after the bytes of a line. -/
def takeBytes (r : LogReader) (line : Bytes) : LogReader :=
  match Text.decode? line with
  | some s => r.take (LogLine.parse s)
  | none => { r with isOpen := false }

def lineFeed : UInt8 := 10

def carriageReturn : UInt8 := 13

/-- The reader after one more byte. A carriage return at the end of a line does not belong to it. -/
def feedByte (r : LogReader) (b : UInt8) : LogReader :=
  if !r.isOpen then r
  else if b = lineFeed then
    let line := if r.pending.head? = some carriageReturn then r.pending.tail else r.pending
    { r with pending := [] }.takeBytes line.reverse
  else { r with pending := b :: r.pending }

/-- The reader after more bytes. -/
def feed (r : LogReader) (bytes : Bytes) : LogReader := bytes.foldl feedByte r

/-- The reader after the end of the log. What follows the last end of a line is a line, too. -/
def finish (r : LogReader) : LogReader :=
  if !r.isOpen then r
  else
    let r' := if r.pending.isEmpty then r else r.takeBytes r.pending.reverse
    { r' with pending := [], isOpen := false }

end LogReader

end BridgeWarden.Link

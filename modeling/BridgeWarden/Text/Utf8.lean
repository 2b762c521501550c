import BridgeWarden.Text.Decimal

/-!
Bytes read as text. A well-formed sequence gives its character; where there is none, the bytes
that could still have begun one, or a single byte, stand for no character. A strict reading needs
every piece to be a character, a lenient one shows U+FFFD for the others.
-/

namespace BridgeWarden.Text

abbrev Bytes := List UInt8

/-- Reads `more` further bytes of a character of which `acc` has been read. The first of them has
to lie from `lo` to `hi`, the others from 80 to BF. Gives the character, if they do, and the bytes
that are left. -/
def readTail (acc : Nat) : Nat → UInt8 → UInt8 → Bytes → Option Char × Bytes
  | 0, _, _, bytes => (some (Char.ofNat acc), bytes)
  | _ + 1, _, _, [] => (none, [])
  | more + 1, lo, hi, b :: bytes =>
      if lo ≤ b ∧ b ≤ hi then readTail (acc * 64 + (b.toNat - 0x80)) more 0x80 0xBF bytes
      else (none, b :: bytes)

/-- The character that begins with `b`, if there is one, and the bytes after the piece read. -/
def readChar (b : UInt8) (bytes : Bytes) : Option Char × Bytes :=
  if b < 0x80 then (some (Char.ofNat b.toNat), bytes)
  else if 0xC2 ≤ b ∧ b ≤ 0xDF then readTail (b.toNat - 0xC0) 1 0x80 0xBF bytes
  else if b = 0xE0 then readTail 0 2 0xA0 0xBF bytes
  else if b = 0xED then readTail 0xD 2 0x80 0x9F bytes
  else if 0xE1 ≤ b ∧ b ≤ 0xEF then readTail (b.toNat - 0xE0) 2 0x80 0xBF bytes
  else if b = 0xF0 then readTail 0 3 0x90 0xBF bytes
  else if 0xF1 ≤ b ∧ b ≤ 0xF3 then readTail (b.toNat - 0xF0) 3 0x80 0xBF bytes
  else if b = 0xF4 then readTail 4 3 0x80 0x8F bytes
  else (none, bytes)

theorem readTail_length_le (acc more : Nat) (lo hi : UInt8) (bytes : Bytes) :
    (readTail acc more lo hi bytes).2.length ≤ bytes.length := by
  fun_induction readTail acc more lo hi bytes with
  | case1 => exact Nat.le_refl _
  | case2 => exact Nat.le_refl _
  | case3 _ _ _ _ _ _ _ ih => exact Nat.le_trans ih (Nat.le_succ _)
  | case4 => exact Nat.le_refl _

theorem readChar_length_le (b : UInt8) (bytes : Bytes) :
    (readChar b bytes).2.length ≤ bytes.length := by
  unfold readChar
  repeat' split
  all_goals first | exact Nat.le_refl _ | exact readTail_length_le ..

/-- The pieces of a byte sequence, each a character or none. -/
def pieces : Bytes → List (Option Char)
  | [] => []
  | b :: bytes => (readChar b bytes).1 :: pieces (readChar b bytes).2
termination_by bytes => bytes.length
decreasing_by exact Nat.lt_succ_of_le (readChar_length_le b bytes)

/-- The text of the bytes, if all of them are well formed. -/
def decode? (bytes : Bytes) : Option (List Char) := (pieces bytes).mapM id

/-- The text of the bytes, with U+FFFD for what is not well formed. -/
def decodeLenient (bytes : Bytes) : List Char := (pieces bytes).map (·.getD '\ufffd')

/-- Whether a byte begins a character of several bytes. -/
def isLead (b : UInt8) : Bool := 0xC2 ≤ b && b ≤ 0xF4

/-- Where bytes, the first of them at `position`, stop being a text: the place, and how many bytes
of no character stand there, or none if they end within a character. -/
def firstFault? (position : Nat) : Bytes → Option (Nat × Option Nat)
  | [] => none
  | b :: bytes =>
      let rest := (readChar b bytes).2
      let length := bytes.length + 1 - rest.length
      match (readChar b bytes).1 with
      | some _ => firstFault? (position + length) rest
      | none => some (position, if rest.isEmpty && isLead b then none else some length)
termination_by bytes => bytes.length
decreasing_by exact Nat.lt_succ_of_le (readChar_length_le b bytes)

/-- What is wrong with bytes that are no text. -/
def describeFault (position : Nat) (length : Option Nat) : String :=
  match length with
  | some n =>
      "invalid utf-8 sequence of " ++ toString n ++ " bytes from index " ++ toString position
  | none => "incomplete utf-8 byte sequence from index " ++ toString position

/-- The bytes of a text. -/
def encode (s : List Char) : Bytes := s.flatMap String.utf8EncodeChar

/-- The bytes that pairs of hexadecimal digits write; what is no pair of digits counts as zero. -/
def ofHex : List Char → Bytes
  | h :: l :: rest => (readHexByte? [h, l]).getD 0 :: ofHex rest
  | _ => []

/-- The bytes as pairs of lower-case hexadecimal digits. -/
def toHex (bytes : Bytes) : List Char := bytes.flatMap hexByte

end BridgeWarden.Text

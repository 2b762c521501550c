import BridgeWarden.Text.Hidden

/-!
Texts in quotation marks, for messages. Tab, line feed, carriage return and the null character
have short escapes, the quotation mark and the backslash are escaped by a backslash, and a
character that is hidden is shown by its number.
-/

namespace BridgeWarden.Text

/-- A number in lower-case hexadecimal digits. -/
def hex (n : Nat) : List Char := Nat.toDigits 16 n

/-- What a quoted text shows for one character. -/
def quotedChar (c : Char) : List Char :=
  if c = '"' then ['\\', '"']
  else if c = '\\' then ['\\', '\\']
  else if c = '\n' then ['\\', 'n']
  else if c = '\r' then ['\\', 'r']
  else if c = '\t' then ['\\', 't']
  else if c = '\x00' then ['\\', '0']
  else if 0x20 ≤ c.toNat && c.toNat < 0x7F then [c]
  else if isHidden c then ['\\', 'u', '\x7b'] ++ hex c.toNat ++ ['\x7d']
  else [c]

/-- The text in quotation marks. -/
def quoted (s : List Char) : List Char := '"' :: s.flatMap quotedChar ++ ['"']

/-- The text in quotation marks. -/
def quote (s : String) : String := String.ofList (quoted s.toList)

end BridgeWarden.Text

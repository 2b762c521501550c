/-!
Blank characters, and texts trimmed of them, split at them and cut into lines. The class is the
Unicode property White_Space.
-/

namespace BridgeWarden.Text

/-- The Unicode property White_Space. -/
def isBlank (c : Char) : Bool :=
  let n := c.toNat
  (9 ≤ n && n ≤ 13) || n == 0x20 || n == 0x85 || n == 0xA0 || n == 0x1680 ||
    (0x2000 ≤ n && n ≤ 0x200A) || n == 0x2028 || n == 0x2029 || n == 0x202F || n == 0x205F ||
    n == 0x3000

/-- The text without the blanks at its start. -/
def trimStart (s : List Char) : List Char := s.dropWhile isBlank

/-- The text without the blanks at its end. -/
def trimEnd (s : List Char) : List Char := (s.reverse.dropWhile isBlank).reverse

/-- The text without the blanks at either end. -/
def trim (s : List Char) : List Char := trimEnd (trimStart s)

/-- The longest runs of characters that are not blank, in order. `word` holds what has been read
of the present run, last character first. -/
def wordsFrom (word : List Char) : List Char → List (List Char)
  | [] => if word.isEmpty then [] else [word.reverse]
  | c :: rest =>
      if isBlank c then
        if word.isEmpty then wordsFrom [] rest else word.reverse :: wordsFrom [] rest
      else wordsFrom (c :: word) rest

/-- The longest runs of characters that are not blank, in order. -/
def words (s : List Char) : List (List Char) := wordsFrom [] s

/-- The text cut at every character of a class: one piece more than there are such characters. -/
def splitOn (cut : Char → Bool) : List Char → List (List Char)
  | [] => [[]]
  | c :: rest =>
      if cut c then [] :: splitOn cut rest
      else match splitOn cut rest with
        | [] => [[c]]
        | piece :: pieces => (c :: piece) :: pieces

/-- A line without the carriage return at its end, if it has one. -/
def dropReturn (line : List Char) : List Char :=
  if line.getLast? = some '\r' then line.dropLast else line

/-- The lines of a text. Each ends at a line feed, which is left out with a carriage return right
before it; what follows the last line feed is a line if it is not empty, and is kept whole. -/
def lines (s : List Char) : List (List Char) :=
  match (splitOn (· == '\n') s).reverse with
  | [] => []
  | last :: before => (before.map dropReturn).reverse ++ (if last.isEmpty then [] else [last])

end BridgeWarden.Text

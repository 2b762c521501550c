import BridgeWarden.Json.Value
import BridgeWarden.Number.Shortest
import BridgeWarden.Text.Decimal

/-!
JSON text of values, without blanks or, for people, with one field or item a line. Quotation mark,
backslash and control characters are escaped; all else stands for itself.
-/

namespace BridgeWarden.Json

/-- What a string shows for one character. -/
def escape (c : Char) : List Char :=
  if c = '"' then ['\\', '"']
  else if c = '\\' then ['\\', '\\']
  else if c = '\x08' then ['\\', 'b']
  else if c = '\x0c' then ['\\', 'f']
  else if c = '\n' then ['\\', 'n']
  else if c = '\r' then ['\\', 'r']
  else if c = '\t' then ['\\', 't']
  else if c.toNat < 0x20 then
    ['\\', 'u', '0', '0', Text.hexDigit (c.toNat / 16), Text.hexDigit (c.toNat % 16)]
  else [c]

def renderString (s : List Char) : List Char := '"' :: s.flatMap escape ++ ['"']

def renderInt (n : Int) : List Char :=
  match n with
  | .ofNat k => Text.decimal k
  | .negSucc k => '-' :: Text.decimal (k + 1)

/-- The text of a value that is no array and no object. -/
def renderScalar : Json → List Char
  | .bool true => ['t', 'r', 'u', 'e']
  | .bool false => ['f', 'a', 'l', 's', 'e']
  | .int n => renderInt n
  | .real x => if x.isFinite then (Shortest.text .compact x).toList else ['n', 'u', 'l', 'l']
  | .str s => renderString s.toList
  | _ => ['n', 'u', 'l', 'l']

mutual

/-- The text of a value without blanks. -/
def render : Json → List Char
  | .arr items => '[' :: renderItems items ++ [']']
  | .obj fields => '\x7b' :: renderFields fields ++ ['\x7d']
  | j => renderScalar j

def renderItems : List Json → List Char
  | [] => []
  | [j] => render j
  | j :: rest => render j ++ ',' :: renderItems rest

def renderFields : List (String × Json) → List Char
  | [] => []
  | [(k, j)] => renderString k.toList ++ ':' :: render j
  | (k, j) :: rest => renderString k.toList ++ ':' :: render j ++ ',' :: renderFields rest

end

/-- The text of a value without blanks. -/
def compact (j : Json) : String := String.ofList j.render

/-- A new line indented by two blanks for each level. -/
def newLine (level : Nat) : List Char := '\n' :: List.replicate (2 * level) ' '

mutual

/-- The text of a value at a level, one item or field a line. -/
def renderPretty (level : Nat) : Json → List Char
  | .arr [] => ['[', ']']
  | .obj [] => ['\x7b', '\x7d']
  | .arr items => '[' :: prettyItems (level + 1) items ++ newLine level ++ [']']
  | .obj fields => '\x7b' :: prettyFields (level + 1) fields ++ newLine level ++ ['\x7d']
  | j => renderScalar j

def prettyItems (level : Nat) : List Json → List Char
  | [] => []
  | [j] => newLine level ++ renderPretty level j
  | j :: rest => newLine level ++ renderPretty level j ++ ',' :: prettyItems level rest

def prettyFields (level : Nat) : List (String × Json) → List Char
  | [] => []
  | [(k, j)] => newLine level ++ renderString k.toList ++ ':' :: ' ' :: renderPretty level j
  | (k, j) :: rest =>
      newLine level ++ renderString k.toList ++ ':' :: ' ' :: renderPretty level j ++
        ',' :: prettyFields level rest

end

/-- The text of a value for people. -/
def pretty (j : Json) : String := String.ofList (renderPretty 0 j)

end BridgeWarden.Json

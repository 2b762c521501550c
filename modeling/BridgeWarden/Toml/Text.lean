import BridgeWarden.Text.Decimal

/-!
TOML's texts: between quotation marks, with escapes, or between apostrophes, without; on one line,
or between three marks on several. Control characters other than the tab have to be escaped. Names
are such texts on one line, or bare words, joined by dots.
-/

namespace BridgeWarden.Toml

/-- Whether a character may stand in a text or a comment as it is. -/
def isVisible (c : Char) : Bool := c = '\t' || (0x20 ≤ c.toNat && c.toNat ≠ 0x7F)

def isGap (c : Char) : Bool := c = ' ' || c = '\t'

def skipGap (s : List Char) : List Char := s.dropWhile isGap

/-- The rest after the end of a line. -/
def lineEnd? : List Char → Option (List Char)
  | '\n' :: rest => some rest
  | '\r' :: '\n' :: rest => some rest
  | _ => none

/-- The character of a number, if it is one. -/
def charOf? (n : Nat) : Option Char := if n.isValidChar then some (Char.ofNat n) else none

/-- The character that a number of hexadecimal digits stands for. -/
def readHex? (count : Nat) (s : List Char) : Option (Char × List Char) :=
  if s.length < count then none
  else ((s.take count).mapM Text.hexValue?).bind fun values =>
    (charOf? (values.foldl (fun n v => 16 * n + v) 0)).map fun c => (c, s.drop count)

/-- The character that an escape stands for, after its backslash. -/
def readEscape? : List Char → Option (Char × List Char)
  | 'b' :: rest => some ('\x08', rest)
  | 't' :: rest => some ('\t', rest)
  | 'n' :: rest => some ('\n', rest)
  | 'f' :: rest => some ('\x0c', rest)
  | 'r' :: rest => some ('\r', rest)
  | 'e' :: rest => some ('\x1b', rest)
  | '"' :: rest => some ('"', rest)
  | '\\' :: rest => some ('\\', rest)
  | 'x' :: rest => readHex? 2 rest
  | 'u' :: rest => readHex? 4 rest
  | 'U' :: rest => readHex? 8 rest
  | _ => none

/-- Drops blanks and ends of lines. -/
def skipLines : Nat → List Char → List Char
  | 0, s => s
  | fuel + 1, s =>
      match lineEnd? (skipGap s) with
      | some rest => skipLines fuel rest
      | none => skipGap s

/-- Reads a text of one line after its first mark. `done` holds the characters read, last one
first. -/
def readLine? (mark : Char) (escapes : Bool) (done : List Char) :
    Nat → List Char → Option (List Char × List Char)
  | 0, _ => none
  | _, [] => none
  | fuel + 1, c :: rest =>
      if c = mark then some (done.reverse, rest)
      else if c = '\\' ∧ escapes then
        match readEscape? rest with
        | some (e, rest) => readLine? mark escapes (e :: done) fuel rest
        | none => none
      else if isVisible c then readLine? mark escapes (c :: done) fuel rest
      else none

/-- Reads a text of several lines after its first marks. Up to two marks may stand before the three
that end it. -/
def readBlock? (mark : Char) (escapes : Bool) (done : List Char) :
    Nat → List Char → Option (List Char × List Char)
  | 0, _ => none
  | _, [] => none
  | fuel + 1, c :: rest =>
      if c = mark then
        let marks := 1 + (rest.takeWhile (· == mark)).length
        let after := rest.dropWhile (· == mark)
        if marks < 3 then readBlock? mark escapes (List.replicate marks mark ++ done) fuel after
        else if marks ≤ 5 then some ((List.replicate (marks - 3) mark ++ done).reverse, after)
        else none
      else if c = '\\' ∧ escapes then
        match lineEnd? (skipGap rest) with
        | some rest => readBlock? mark escapes done fuel (skipLines rest.length rest)
        | none => match readEscape? rest with
          | some (e, rest) => readBlock? mark escapes (e :: done) fuel rest
          | none => none
      else match lineEnd? (c :: rest) with
        | some rest => readBlock? mark escapes ('\n' :: done) fuel rest
        | none =>
            if isVisible c then readBlock? mark escapes (c :: done) fuel rest else none

/-- Reads a text that begins with the mark. -/
def readMarked? (mark : Char) (escapes : Bool) (s : List Char) : Option (String × List Char) :=
  let read := match s with
    | a :: b :: c :: rest =>
        if a = mark ∧ b = mark ∧ c = mark then
          let body := (lineEnd? rest).getD rest
          readBlock? mark escapes [] (body.length + 1) body
        else readLine? mark escapes [] (s.length + 1) (b :: c :: rest)
    | _ => readLine? mark escapes [] (s.length + 1) s.tail
  read.map fun (text, rest) => (String.ofList text, rest)

/-! ### Names -/

def isBare (c : Char) : Bool := c.isAlphanum || c = '_' || c = '-'

/-- Reads one part of a name. -/
def readName? (s : List Char) : Option (String × List Char) :=
  let quoted := fun mark escapes rest =>
    (readLine? mark escapes [] (rest.length + 1) rest).map fun (text, rest) =>
      (String.ofList text, rest)
  match s with
  | '"' :: rest => quoted '"' true rest
  | '\'' :: rest => quoted '\'' false rest
  | _ =>
      let word := s.takeWhile isBare
      if word.isEmpty then none else some (String.ofList word, s.dropWhile isBare)

/-- Reads a name of parts joined by dots, and the gap after it. -/
def readPath? : Nat → List Char → Option (List String × List Char)
  | 0, _ => none
  | fuel + 1, s => do
      let (name, rest) ← readName? (skipGap s)
      match skipGap rest with
      | '.' :: rest => do
          let (names, rest) ← readPath? fuel rest
          return (name :: names, rest)
      | rest => return ([name], rest)

end BridgeWarden.Toml

import BridgeWarden.Toml.Scalar
import BridgeWarden.Toml.Text

/-!
TOML documents read as tables. A document is a sequence of lines: each is empty, gives a field a
value or opens a table, and may end with a comment. Lists and tables in braces may go on over
several lines and end with a comma.
-/

namespace BridgeWarden.Toml

/-- How deep lists and tables in braces may lie inside one another. -/
def nestingLimit : Nat := 80

/-- The rest after a comment, if there is one here. -/
def skipComment? (s : List Char) : Option (List Char) :=
  match s with
  | '#' :: rest =>
      let line := rest.takeWhile isVisible
      let after := rest.drop line.length
      if after.isEmpty ∨ (lineEnd? after).isSome then some after else none
  | _ => some s

/-- Drops gaps, comments and ends of lines. -/
def skipAll? : Nat → List Char → Option (List Char)
  | 0, _ => none
  | fuel + 1, s =>
      (skipComment? (skipGap s)).bind fun s =>
        match lineEnd? s with
        | some rest => skipAll? fuel rest
        | none => some s

mutual

/-- Reads a value. The fuel bounds the calls; `depth` says how many lists and tables may still lie
inside one another. -/
def readValue? (depth : Nat) : Nat → List Char → Option (Toml × List Char)
  | 0, _ => none
  | fuel + 1, s =>
      match s with
      | '"' :: _ => (readMarked? '"' true s).map fun (text, rest) => (.str text, rest)
      | '\'' :: _ => (readMarked? '\'' false s).map fun (text, rest) => (.str text, rest)
      | '[' :: rest =>
          match depth with
          | 0 => none
          | depth + 1 =>
              (readItems? depth fuel rest).map fun (items, rest) => (.list items, rest)
      | '\x7b' :: rest =>
          match depth with
          | 0 => none
          | depth + 1 =>
              (readFields? depth fuel [] rest).map fun (fields, rest) =>
                (.table .sealed fields, rest)
      | _ =>
          let (word, rest) := takePlain s
          (readPlain? word).map fun value => (value, rest)

/-- Reads what is left of a list. -/
def readItems? (depth : Nat) : Nat → List Char → Option (List Toml × List Char)
  | 0, _ => none
  | fuel + 1, s => do
      match ← skipAll? (s.length + 1) s with
      | ']' :: rest => return ([], rest)
      | s => do
          let (item, rest) ← readValue? depth fuel s
          match ← skipAll? (rest.length + 1) rest with
          | ',' :: rest => do
              let (items, rest) ← readItems? depth fuel rest
              return (item :: items, rest)
          | ']' :: rest => return ([item], rest)
          | _ => none

/-- Reads what is left of a table in braces. -/
def readFields? (depth : Nat) : Nat → Fields → List Char → Option (Fields × List Char)
  | 0, _, _ => none
  | fuel + 1, fields, s => do
      match ← skipAll? (s.length + 1) s with
      | '\x7d' :: rest => return (fields, rest)
      | s => do
          let (path, rest) ← readPath? (s.length + 1) s
          match rest with
          | '=' :: rest => do
              let (value, rest) ← readValue? depth fuel (skipGap rest)
              let fields ← assign path value .sealed fields
              match ← skipAll? (rest.length + 1) rest with
              | ',' :: rest => readFields? depth fuel fields rest
              | '\x7d' :: rest => return (fields, rest)
              | _ => none
          | _ => none

end

/-- The rest after the end of a line, or nothing at the end of the document. -/
def finishLine? (s : List Char) : Option (List Char) :=
  (skipComment? (skipGap s)).bind fun rest =>
    if rest.isEmpty then some [] else lineEnd? rest

/-- Reads a header: whether it is for one of several tables, its path, and the rest. -/
def readHeader? (s : List Char) : Option (Bool × List String × List Char) := do
  match s with
  | '[' :: '[' :: rest => do
      let (path, rest) ← readPath? (rest.length + 1) rest
      match rest with
      | ']' :: ']' :: rest => return (true, path, rest)
      | _ => none
  | '[' :: rest => do
      let (path, rest) ← readPath? (rest.length + 1) rest
      match rest with
      | ']' :: rest => return (false, path, rest)
      | _ => none
  | _ => none

/-- Reads the lines of a document. `here` is the path of the table last opened. -/
def readLines? : Nat → List String → Fields → List Char → Option Fields
  | 0, _, _, _ => none
  | fuel + 1, here, fields, s => do
      match ← skipAll? (s.length + 1) s with
      | [] => return fields
      | '[' :: rest => do
          let (several, path, rest) ← readHeader? ('[' :: rest)
          let fields ← openTable several path .headed fields
          readLines? fuel path fields (← finishLine? rest)
      | s => do
          let (path, rest) ← readPath? (s.length + 1) s
          match rest with
          | '=' :: rest => do
              let (value, rest) ← readValue? nestingLimit (rest.length + 2) (skipGap rest)
              let fields ← editAt false (assign path value) here .headed fields
              readLines? fuel here fields (← finishLine? rest)
          | _ => none

/-- Reads a document, a byte order mark before it allowed. -/
def parse? (s : List Char) : Option Fields :=
  let body := match s with
    | '\ufeff' :: rest => rest
    | _ => s
  readLines? (body.length + 1) [] [] body

end BridgeWarden.Toml

import BridgeWarden.Json.Value
import BridgeWarden.Text.Decimal

/-!
JSON text read as values. The text is one value with blanks around it. Strings hold no raw control
characters; an integer is a number without fraction and exponent that 64 bits hold, and any other
number is the nearest floating-point one. What has the right form but denotes nothing reads as
`Json.unreadable`, so that a reader of the value may still pass over it.
-/

namespace BridgeWarden.Json

def isSpace (c : Char) : Bool := c = ' ' || c = '\n' || c = '\r' || c = '\t'

def skipSpace (s : List Char) : List Char := s.dropWhile isSpace

/-- The number that four hexadecimal digits write, and what follows them. -/
def readHex4? : List Char → Option (Nat × List Char)
  | a :: b :: c :: d :: rest => do
      let a ← Text.hexValue? a
      let b ← Text.hexValue? b
      let c ← Text.hexValue? c
      let d ← Text.hexValue? d
      return (((a * 16 + b) * 16 + c) * 16 + d, rest)
  | _ => none

def isHighHalf (n : Nat) : Bool := 0xD800 ≤ n && n < 0xDC00

def isLowHalf (n : Nat) : Bool := 0xDC00 ≤ n && n < 0xE000

/-- The character that a short escape stands for. -/
def shortEscape? (c : Char) : Option Char :=
  if c = '"' then some '"'
  else if c = '\\' then some '\\'
  else if c = '/' then some '/'
  else if c = 'b' then some '\x08'
  else if c = 'f' then some '\x0c'
  else if c = 'n' then some '\n'
  else if c = 'r' then some '\r'
  else if c = 't' then some '\t'
  else none

/-- Reads an escape after its backslash: the character, none for half a character, and the rest. -/
def readEscape? (s : List Char) : Option (Option Char × List Char) :=
  match s with
  | 'u' :: rest => do
      let (n, rest) ← readHex4? rest
      if isLowHalf n then return (none, rest)
      else if isHighHalf n then
        match rest with
        | '\\' :: 'u' :: more =>
            match readHex4? more with
            | some (m, after) =>
                if isLowHalf m then
                  return (some (Char.ofNat (0x10000 + (n - 0xD800) * 0x400 + (m - 0xDC00))), after)
                else return (none, rest)
            | none => return (none, rest)
        | _ => return (none, rest)
      else return (some (Char.ofNat n), rest)
  | c :: rest => (shortEscape? c).map fun e => (some e, rest)
  | [] => none

/-- Reads a string after its first quotation mark: its characters, none if one of them was half a
character, and the rest. `done` holds the characters read, last one first. -/
def readString? (fuel : Nat) (done : List Char) (whole : Bool) (s : List Char) :
    Option (Option (List Char) × List Char) :=
  match fuel, s with
  | 0, _ => none
  | _, [] => none
  | fuel + 1, c :: rest =>
      if c = '"' then some (if whole then some done.reverse else none, rest)
      else if c = '\\' then
        match readEscape? rest with
        | some (some e, rest) => readString? fuel (e :: done) whole rest
        | some (none, rest) => readString? fuel done false rest
        | none => none
      else if c.toNat < 0x20 then none
      else readString? fuel (c :: done) whole rest

def takeDigits (s : List Char) : List Char × List Char :=
  (s.takeWhile Char.isDigit, s.dropWhile Char.isDigit)

/-- Reads the fraction of a number, if there is one: its digits. -/
def readFraction? : List Char → Option (List Char × List Char)
  | '.' :: rest =>
      let (digits, rest) := takeDigits rest
      if digits.isEmpty then none else some (digits, rest)
  | s => some ([], s)

/-- Reads the exponent of a number, if there is one. -/
def readExponent? (s : List Char) : Option (Option Int × List Char) :=
  match s with
  | c :: rest =>
      if c = 'e' ∨ c = 'E' then
        let (negative, rest) := match rest with
          | '-' :: rest => (true, rest)
          | '+' :: rest => (false, rest)
          | _ => (false, rest)
        let (digits, rest) := takeDigits rest
        if digits.isEmpty then none
        else
          let n : Int := Nat.ofDigitChars 10 digits 0
          some (some (if negative then -n else n), rest)
      else some (none, s)
  | [] => some (none, s)

/-- The value of a number: an integer that 64 bits hold, or the nearest floating-point number. -/
def numberValue (negative : Bool) (whole fraction : List Char) (exponent : Option Int) : Json :=
  let n := Nat.ofDigitChars 10 whole 0
  if fraction.isEmpty && exponent.isNone && !negative && n < UInt64.size then .int n
  else if fraction.isEmpty && exponent.isNone && negative && 0 < n && n ≤ UInt64.size / 2 then
    .int (-n)
  else
    let x := Binary64.ofDecimal negative (Nat.ofDigitChars 10 (whole ++ fraction) 0)
      (exponent.getD 0 - fraction.length)
    if x.isFinite then .real x else .unreadable

/-- Reads a number. -/
def readNumber? (s : List Char) : Option (Json × List Char) := do
  let (negative, s) := match s with
    | '-' :: rest => (true, rest)
    | _ => (false, s)
  let (whole, s) := takeDigits s
  if whole.isEmpty ∨ (whole.head? = some '0' ∧ whole ≠ ['0']) then none
  else
    let (fraction, s) ← readFraction? s
    let (exponent, s) ← readExponent? s
    return (numberValue negative whole fraction exponent, s)

/-- Reads one of the words for null and the truth values. -/
def readWord? (s : List Char) : Option (Json × List Char) :=
  match s with
  | 'n' :: 'u' :: 'l' :: 'l' :: rest => some (.null, rest)
  | 't' :: 'r' :: 'u' :: 'e' :: rest => some (.bool true, rest)
  | 'f' :: 'a' :: 'l' :: 's' :: 'e' :: rest => some (.bool false, rest)
  | _ => none

/-- An object, or nothing if one of its names holds half a character. -/
def objectOf (fields : List (Option (List Char) × Json)) : Json :=
  match fields.mapM fun f => f.1.map fun k => (String.ofList k, f.2) with
  | some fields => .obj fields
  | none => .unreadable

mutual

/-- Reads a value. The fuel bounds the calls; twice the length of the text is enough. -/
def readValue? : Nat → List Char → Option (Json × List Char)
  | 0, _ => none
  | fuel + 1, s =>
      match skipSpace s with
      | '"' :: rest => do
          let (text, rest) ← readString? (rest.length + 1) [] true rest
          return (match text with
            | some t => .str (String.ofList t)
            | none => .unreadable, rest)
      | '[' :: rest =>
          match skipSpace rest with
          | ']' :: rest => some (.arr [], rest)
          | _ => do
              let (items, rest) ← readItems? fuel rest
              return (.arr items, rest)
      | '\x7b' :: rest =>
          match skipSpace rest with
          | '\x7d' :: rest => some (.obj [], rest)
          | _ => do
              let (fields, rest) ← readFields? fuel rest
              return (objectOf fields, rest)
      | c :: rest =>
          if c = '-' ∨ c.isDigit then readNumber? (c :: rest) else readWord? (c :: rest)
      | [] => none

/-- Reads the items of an array, of which there is at least one, and its end. -/
def readItems? : Nat → List Char → Option (List Json × List Char)
  | 0, _ => none
  | fuel + 1, s => do
      let (item, rest) ← readValue? fuel s
      match skipSpace rest with
      | ',' :: rest => do
          let (items, rest) ← readItems? fuel rest
          return (item :: items, rest)
      | ']' :: rest => return ([item], rest)
      | _ => none

/-- Reads the fields of an object, of which there is at least one, and its end. -/
def readFields? : Nat → List Char → Option (List (Option (List Char) × Json) × List Char)
  | 0, _ => none
  | fuel + 1, s =>
      match skipSpace s with
      | '"' :: rest => do
          let (name, rest) ← readString? (rest.length + 1) [] true rest
          match skipSpace rest with
          | ':' :: rest => do
              let (value, rest) ← readValue? fuel rest
              match skipSpace rest with
              | ',' :: rest => do
                  let (fields, rest) ← readFields? fuel rest
                  return ((name, value) :: fields, rest)
              | '\x7d' :: rest => return ([(name, value)], rest)
              | _ => none
          | _ => none
      | _ => none

end

/-- Reads a text that is one value. -/
def parse? (s : List Char) : Option Json := do
  let (value, rest) ← readValue? (2 * s.length + 2) s
  if (skipSpace rest).isEmpty then some value else none

end BridgeWarden.Json

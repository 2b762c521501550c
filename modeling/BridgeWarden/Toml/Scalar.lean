import BridgeWarden.Text.Decimal
import BridgeWarden.Toml.Value

/-!
TOML's plain values: truth values, whole numbers in four bases, floating-point numbers, dates and
times. Digits may be set apart by single underscores. A whole number has to fit into 64 bits, with
or without a sign, and a floating-point number must not be too great.
-/

namespace BridgeWarden.Toml

/-- The digits of a text in which single underscores stand between digits. -/
def ungroup? (isDigit : Char → Bool) : List Char → Option (List Char)
  | [] => none
  | [c] => if isDigit c then some [c] else none
  | c :: '_' :: rest =>
      if isDigit c then (ungroup? isDigit rest).map (c :: ·) else none
  | c :: rest => if isDigit c then (ungroup? isDigit rest).map (c :: ·) else none

/-- The text without its sign, and whether that is a minus. -/
def splitSign : List Char → Bool × List Char
  | '-' :: rest => (true, rest)
  | '+' :: rest => (false, rest)
  | s => (false, s)

/-- Decimal digits without a needless zero at their start. -/
def readWhole? (s : List Char) : Option (List Char) :=
  (ungroup? Char.isDigit s).filter fun digits => digits.length = 1 || digits.head? != some '0'

/-- A whole number that 64 bits hold, with or without a sign. -/
def bounded? (n : Int) : Option Toml :=
  if -0x8000000000000000 ≤ n ∧ n < 0x10000000000000000 then some (.int n) else none

/-- A number in a base with a mark of its own. -/
def readBased? (base : Nat) (s : List Char) : Option Toml := do
  let digits ← ungroup? (fun c => (Text.hexValue? c).any (· < base)) s
  bounded? (digits.foldl (fun n c => n * base + ((Text.hexValue? c).getD 0 : Nat)) 0)

def readInteger? (s : List Char) : Option Toml :=
  match s with
  | '0' :: 'x' :: rest => readBased? 16 rest
  | '0' :: 'o' :: rest => readBased? 8 rest
  | '0' :: 'b' :: rest => readBased? 2 rest
  | _ =>
      let (negative, body) := splitSign s
      (readWhole? body).bind fun digits =>
        let n : Int := Nat.ofDigitChars 10 digits 0
        bounded? (if negative then -n else n)

/-- An exponent after its mark. -/
def readPower? (s : List Char) : Option Int :=
  let (negative, body) := splitSign s
  (ungroup? Char.isDigit body).map fun digits =>
    let n : Int := Nat.ofDigitChars 10 digits 0
    if negative then -n else n

/-- The text before the first character of a class, and what follows that character, if there is
one. -/
def cutAt (cut : Char → Bool) (s : List Char) : List Char × Option (List Char) :=
  match s.dropWhile (!cut ·) with
  | _ :: rest => (s.takeWhile (!cut ·), some rest)
  | [] => (s, none)

def readReal? (s : List Char) : Option Toml := do
  let (negative, body) := splitSign s
  if body = ['i', 'n', 'f'] then return .real (.infinite negative)
  else if body = ['n', 'a', 'n'] then return .real .nan
  else
    let (mantissa, power) := cutAt (fun c => c = 'e' || c = 'E') body
    let (whole, fraction) := cutAt (· == '.') mantissa
    if power.isNone ∧ fraction.isNone then none
    else
      let whole ← readWhole? whole
      let fraction ← match fraction with
        | some f => ungroup? Char.isDigit f
        | none => some []
      let power ← match power with
        | some p => readPower? p
        | none => some 0
      let x := Binary64.ofDecimal negative (Nat.ofDigitChars 10 (whole ++ fraction) 0)
        (power - fraction.length)
      if x.isFinite then return .real x else none

/-! ### Dates and times -/

/-- A number of two digits within bounds. -/
def readTwo? (lo hi : Nat) : List Char → Option Nat
  | [a, b] => (Text.readDigits? [a, b]).filter fun n => lo ≤ n && n ≤ hi
  | _ => none

def isLeap (year : Nat) : Bool := year % 4 == 0 && (year % 100 != 0 || year % 400 == 0)

def daysIn (year month : Nat) : Nat :=
  if month = 2 then if isLeap year then 29 else 28
  else if month = 4 ∨ month = 6 ∨ month = 9 ∨ month = 11 then 30
  else 31

def isDate : List Char → Bool
  | [y1, y2, y3, y4, '-', m1, m2, '-', d1, d2] =>
      match Text.readDigits? [y1, y2, y3, y4], readTwo? 1 12 [m1, m2] with
      | some year, some month => (readTwo? 1 (daysIn year month) [d1, d2]).isSome
      | _, _ => false
  | _ => false

/-- Seconds after their colon, perhaps with a fraction. -/
def isSeconds : List Char → Bool
  | [a, b] => (readTwo? 0 60 [a, b]).isSome
  | a :: b :: '.' :: fraction => (readTwo? 0 60 [a, b]).isSome && (Text.readDigits? fraction).isSome
  | _ => false

/-- A time of day; its seconds may be left out. -/
def isTime : List Char → Bool
  | h1 :: h2 :: ':' :: m1 :: m2 :: rest =>
      (readTwo? 0 23 [h1, h2]).isSome && (readTwo? 0 59 [m1, m2]).isSome &&
        match rest with
        | [] => true
        | ':' :: seconds => isSeconds seconds
        | _ => false
  | _ => false

/-- The greatest distance from universal time, in minutes. -/
def farthestZone : Nat := 24 * 60

/-- Hours and minutes of a distance from universal time. -/
def isDistance (hours minutes : List Char) : Bool :=
  match readTwo? 0 99 hours, readTwo? 0 99 minutes with
  | some h, some m => h * 60 + m ≤ farthestZone
  | _, _ => false

/-- A time of day with or without its distance from universal time. -/
def isZonedTime (s : List Char) : Bool :=
  isTime s ||
    (match s.getLast? with
      | some c => (c = 'Z' || c = 'z') && isTime s.dropLast
      | none => false) ||
    (match s.reverse with
      | m2 :: m1 :: ':' :: h2 :: h1 :: sign :: time =>
          (sign = '+' || sign = '-') && isDistance [h1, h2] [m1, m2] && isTime time.reverse
      | _ => false)

def isMoment (s : List Char) : Bool :=
  isDate s || isTime s ||
    match s.drop 10 with
    | c :: time => (c = 'T' || c = 't' || c = ' ') && isDate (s.take 10) && isZonedTime time
    | [] => false

/-! ### Any plain value -/

/-- A character of a plain value. -/
def isPlain (c : Char) : Bool :=
  c.isAlphanum || c = '_' || c = '+' || c = '-' || c = '.' || c = ':'

/-- The text of a plain value, and the rest. A blank between a date and a time belongs to it. -/
def takePlain (s : List Char) : List Char × List Char :=
  let word := s.takeWhile isPlain
  match s.dropWhile isPlain with
  | ' ' :: c :: rest =>
      if isDate word && c.isDigit then
        (word ++ ' ' :: (c :: rest).takeWhile isPlain, (c :: rest).dropWhile isPlain)
      else (word, ' ' :: c :: rest)
  | rest => (word, rest)

def readPlain? (s : List Char) : Option Toml :=
  if s = ['t', 'r', 'u', 'e'] then some (.bool true)
  else if s = ['f', 'a', 'l', 's', 'e'] then some (.bool false)
  else if isMoment s then some .moment
  else readInteger? s <|> readReal? s

end BridgeWarden.Toml

import BridgeWarden.Number.Binary64
import BridgeWarden.Text.Decimal

/-!
The fewest decimal digits that read back as a given floating-point number, and two ways to set
them out: always positionally, or with an exponent when the number is very great or small.
-/

namespace BridgeWarden.Shortest

/-- A decimal: its digits without zeros at the end, and the power of ten of the first one. -/
structure Decimal where
  digits : List Char
  lead : Int
  deriving DecidableEq, Inhabited

/-- `n · 10 ^ p` as a ratio. -/
def tenfold (n : Nat) (p : Int) : Nat × Nat :=
  if 0 ≤ p then (n * Nat.pow 10 p.toNat, 1) else (n, Nat.pow 10 (-p).toNat)

/-- `n · 2 ^ e` as a ratio. -/
def twofold (n : Nat) (e : Int) : Nat × Nat :=
  if 0 ≤ e then (n * Nat.pow 2 e.toNat, 1) else (n, Nat.pow 2 (-e).toNat)

def ratioLe (a b : Nat × Nat) : Bool := a.1 * b.2 ≤ b.1 * a.2

def ratioLt (a b : Nat × Nat) : Bool := a.1 * b.2 < b.1 * a.2

/-- The power of ten of the first digit of a positive ratio, looked for upwards from `p`. -/
def leadFrom (v : Nat × Nat) : Nat → Int → Int
  | 0, p => p
  | fuel + 1, p => if ratioLe (tenfold 1 (p + 1)) v then leadFrom v fuel (p + 1) else p

/-- The ends of the interval of reals that round to `mantissa · 2 ^ exponent`, and whether they
belong to it. -/
def interval (mantissa : Nat) (exponent : Int) : (Nat × Nat) × (Nat × Nat) × Bool :=
  let below :=
    if mantissa = Nat.pow 2 52 ∧ -1074 < exponent then 4 * mantissa - 1 else 4 * mantissa - 2
  (twofold below (exponent - 2), twofold (4 * mantissa + 2) (exponent - 2), mantissa % 2 = 0)

def inside (bounds : (Nat × Nat) × (Nat × Nat) × Bool) (v : Nat × Nat) : Bool :=
  if bounds.2.2 then ratioLe bounds.1 v && ratioLe v bounds.2.1
  else ratioLt bounds.1 v && ratioLt v bounds.2.1

/-- Of the two neighbours of `v` on the grid of multiples of `10 ^ unit`, the one inside the bounds,
and of two the nearer, a tie to the even one. -/
def onGrid (v : Nat × Nat) (bounds : (Nat × Nat) × (Nat × Nat) × Bool) (unit : Int) :
    Option Nat :=
  let (num, den) :=
    if 0 ≤ unit then (v.1, v.2 * Nat.pow 10 unit.toNat) else (v.1 * Nat.pow 10 (-unit).toNat, v.2)
  let low := num / den
  let lowIn := inside bounds (tenfold low unit)
  let highIn := inside bounds (tenfold (low + 1) unit)
  if lowIn && highIn then some (Binary64.roundDiv num den)
  else if lowIn then some low
  else if highIn then some (low + 1)
  else none

/-- Tries grids from coarse to fine. -/
def search (v : Nat × Nat) (bounds : (Nat × Nat) × (Nat × Nat) × Bool) :
    Nat → Int → Nat × Int
  | 0, unit => (Binary64.roundDiv (v.1 * Nat.pow 10 (-unit).toNat) v.2, unit)
  | fuel + 1, unit =>
      match onGrid v bounds unit with
      | some n => (n, unit)
      | none => search v bounds fuel (unit - 1)

/-- The shortest decimal of `mantissa · 2 ^ exponent`. -/
def shortest (mantissa : Nat) (exponent : Int) : Decimal :=
  if mantissa = 0 then ⟨['0'], 0⟩
  else
    let v := twofold mantissa exponent
    let lead := leadFrom v 700 (-330)
    let (n, unit) := search v (interval mantissa exponent) 17 lead
    let digits := Text.decimal n
    let kept := (digits.reverse.dropWhile (· == '0')).reverse
    ⟨kept, (digits.length : Int) - 1 + unit⟩

def zeros (n : Nat) : List Char := List.replicate n '0'

/-- The decimal with its digits in their places; a point and a zero follow an integer. -/
def positional (d : Decimal) : List Char :=
  if d.lead < 0 then '0' :: '.' :: zeros ((-d.lead).toNat - 1) ++ d.digits
  else
    let whole := d.lead.toNat + 1
    let integer := d.digits.take whole ++ zeros (whole - d.digits.length)
    let fraction := d.digits.drop whole
    integer ++ ['.'] ++ (if fraction.isEmpty then ['0'] else fraction)

/-- The decimal with one digit before its point and an exponent. -/
def scientific (d : Decimal) : List Char :=
  let mantissa := match d.digits with
    | [c] => [c]
    | c :: rest => c :: '.' :: rest
    | [] => ['0']
  mantissa ++ ['e'] ++ (if d.lead < 0 then '-' :: Text.decimal (-d.lead).toNat
    else Text.decimal d.lead.toNat)

/-- Which decimals are set out positionally, by the power of ten of their first digit. -/
structure Layout where
  fromLead : Option Int
  toLead : Option Int

/-- Always positionally. -/
def Layout.plain : Layout := ⟨none, none⟩

/-- Positionally from 10^−5 up to below 10^16. -/
def Layout.compact : Layout := ⟨some (-5), some 15⟩

def Layout.isPositional (l : Layout) (lead : Int) : Bool :=
  (match l.fromLead with
    | none => true
    | some p => p ≤ lead) &&
  (match l.toLead with
    | none => true
    | some p => lead ≤ p)

/-- The text of a floating-point number. -/
def text (l : Layout) : Binary64 → String
  | .nan => "NaN"
  | .infinite negative => if negative then "-inf" else "inf"
  | .finite negative mantissa exponent =>
      let d := shortest mantissa exponent
      let body := if l.isPositional d.lead then positional d else scientific d
      String.ofList (if negative then '-' :: body else body)

end BridgeWarden.Shortest

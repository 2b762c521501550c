/-!
Floating-point numbers of 64 bits, by their value: a sign and `mantissa · 2 ^ exponent` with a
mantissa below 2^53 and an exponent of at least −1074, or infinite, or no number. A decimal is
rounded to the nearest of them, a tie to the even mantissa.
-/

namespace BridgeWarden

inductive Binary64 where
  | finite (negative : Bool) (mantissa : Nat) (exponent : Int)
  | infinite (negative : Bool)
  | nan
  deriving DecidableEq, Inhabited

namespace Binary64

/-- The quotient rounded to the nearest integer, a tie to the even one. -/
def roundDiv (num den : Nat) : Nat :=
  let q := num / den
  let twice := 2 * (num % den)
  if twice < den then q else if den < twice then q + 1 else q + q % 2

/-- The number of binary digits. -/
def bits (n : Nat) : Nat := if n = 0 then 0 else Nat.log2 n + 1

/-- `num / (den · 2 ^ e)`, rounded. -/
def scaled (num den : Nat) (e : Int) : Nat :=
  if 0 ≤ e then roundDiv num (den * Nat.pow 2 e.toNat)
  else roundDiv (num * Nat.pow 2 (-e).toNat) den

/-- The exponent at which a positive ratio has 53 binary digits, or the least one. -/
def exponentFor (num den : Nat) : Int :=
  let guess : Int := (bits num : Int) - (bits den : Int) - 53
  let tooSmall :=
    if 0 ≤ guess then den * Nat.pow 2 (guess.toNat + 53) ≤ num
    else den * Nat.pow 2 53 ≤ num * Nat.pow 2 (-guess).toNat
  max (-1074) (if tooSmall then guess + 1 else guess)

/-- The number nearest to a ratio of natural numbers; infinite if that is too great. -/
def ofRatio (negative : Bool) (num den : Nat) : Binary64 :=
  if num = 0 then .finite negative 0 (-1074)
  else
    let e := exponentFor num den
    let m := scaled num den e
    let (m, e) := if Nat.pow 2 53 ≤ m then (m / 2, e + 1) else (m, e)
    if 971 < e then .infinite negative else .finite negative m e

/-- The number nearest to `digits · 10 ^ power`. A number of more than 400 digits is infinite and
one with more than 800 zeros after its point is zero, whatever its digits. -/
def ofDecimal (negative : Bool) (digits : Nat) (power : Int) : Binary64 :=
  let size : Int := (Nat.toDigits 10 digits).length + power
  if digits = 0 ∨ size < -800 then .finite negative 0 (-1074)
  else if 400 < size then .infinite negative
  else if 0 ≤ power then ofRatio negative (digits * Nat.pow 10 power.toNat) 1
  else ofRatio negative digits (Nat.pow 10 (-power).toNat)

def isFinite : Binary64 → Bool
  | .finite .. => true
  | _ => false

end Binary64

end BridgeWarden

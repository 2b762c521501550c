/-!
Lengths of time, exact to the nanosecond, and their text. A span is a natural number of
nanoseconds; `Span.longest` is the greatest that the program's own counters can hold, and
doubling stops there. Clocks elsewhere count whole milliseconds, so `ceilMillis` says how long a
span takes on such a clock.
-/

namespace BridgeWarden

/-- A length of time in nanoseconds. -/
structure Span where
  nanos : Nat
  deriving DecidableEq, Inhabited

namespace Span

def nanosPerSecond : Nat := 1000000000

def nanosPerMilli : Nat := 1000000

def zero : Span := ⟨0⟩

/-- The greatest span: 2^64 − 1 seconds and all the nanoseconds of one more. -/
def longest : Span := ⟨UInt64.size * nanosPerSecond - 1⟩

def ofSecs (secs : Nat) : Span := ⟨nanosPerSecond * secs⟩

def ofMillis (millis : Nat) : Span := ⟨nanosPerMilli * millis⟩

/-- Whole seconds and further nanoseconds. -/
def ofParts (secs nanos : Nat) : Span := ⟨nanosPerSecond * secs + nanos⟩

/-- Whole seconds, rounded down. -/
def secs (d : Span) : Nat := d.nanos / nanosPerSecond

/-- Nanoseconds beyond the whole seconds. -/
def subsecNanos (d : Span) : Nat := d.nanos % nanosPerSecond

/-- Whole milliseconds, rounded down. -/
def millis (d : Span) : Nat := d.nanos / nanosPerMilli

/-- Whole milliseconds, rounded up: how long the span lasts on a clock of milliseconds. -/
def ceilMillis (d : Span) : Nat := (nanosPerMilli - 1 + d.nanos) / nanosPerMilli

def isZero (d : Span) : Bool := d.nanos == 0

instance : LE Span := ⟨fun a b => a.nanos ≤ b.nanos⟩

instance : LT Span := ⟨fun a b => a.nanos < b.nanos⟩

instance (a b : Span) : Decidable (a ≤ b) := inferInstanceAs (Decidable (a.nanos ≤ b.nanos))

instance (a b : Span) : Decidable (a < b) := inferInstanceAs (Decidable (a.nanos < b.nanos))

instance : Add Span := ⟨fun a b => ⟨a.nanos + b.nanos⟩⟩

/-- The smaller of two spans. -/
def least (a b : Span) : Span := ⟨min a.nanos b.nanos⟩

/-- Twice the span, or the longest one where twice is more than that. -/
def doubled (d : Span) : Span := least ⟨2 * d.nanos⟩ longest

/-- Half the span, rounded down to a nanosecond. -/
def half (d : Span) : Span := ⟨d.nanos / 2⟩

/-- `fraction`, below ten to the `places`, as decimal places with the zeros at the end left out
and no point when nothing is left. -/
def fractionText (fraction places : Nat) : String :=
  let digits := Nat.toDigits 10 fraction
  let padded := List.replicate (places - digits.length) '0' ++ digits
  let kept := (padded.reverse.dropWhile (· == '0')).reverse
  if kept.isEmpty then "" else "." ++ String.ofList kept

/-- The text of a span: its value in the greatest of seconds, milliseconds, microseconds and
nanoseconds of which there is at least one, with as many decimal places as it takes. -/
def text (d : Span) : String :=
  if 1 ≤ d.secs then toString d.secs ++ fractionText d.subsecNanos 9 ++ "s"
  else if nanosPerMilli ≤ d.nanos then
    toString d.millis ++ fractionText (d.nanos % nanosPerMilli) 6 ++ "ms"
  else if 1000 ≤ d.nanos then
    toString (d.nanos / 1000) ++ fractionText (d.nanos % 1000) 3 ++ "µs"
  else toString d.nanos ++ "ns"

@[simp] theorem ceilMillis_ofMillis (n : Nat) : (ofMillis n).ceilMillis = n := by
  simp only [ceilMillis, ofMillis, nanosPerMilli]
  omega

@[simp] theorem ceilMillis_ofSecs (n : Nat) : (ofSecs n).ceilMillis = 1000 * n := by
  simp only [ceilMillis, ofSecs, nanosPerSecond, nanosPerMilli]
  omega

@[simp] theorem ceilMillis_half_ofSecs (n : Nat) : (ofSecs n).half.ceilMillis = 500 * n := by
  simp only [ceilMillis, half, ofSecs, nanosPerSecond, nanosPerMilli]
  omega

theorem nanos_le_ceilMillis (d : Span) : d.nanos ≤ nanosPerMilli * d.ceilMillis := by
  simp only [ceilMillis, nanosPerMilli]
  omega

/-- A span that is not zero takes time. -/
theorem ceilMillis_pos {d : Span} (nonzero : d.isZero = false) : 0 < d.ceilMillis := by
  simp only [isZero, beq_eq_false_iff_ne] at nonzero
  simp only [ceilMillis, nanosPerMilli]
  omega

theorem half_le (d : Span) : d.half.nanos ≤ d.nanos := Nat.div_le_self _ _

theorem isZero_ofSecs {n : Nat} (positive : 0 < n) : (ofSecs n).isZero = false := by
  simp only [isZero, ofSecs, nanosPerSecond, beq_eq_false_iff_ne]
  omega

theorem lt_def {a b : Span} : a < b ↔ a.nanos < b.nanos := Iff.rfl

end Span

end BridgeWarden

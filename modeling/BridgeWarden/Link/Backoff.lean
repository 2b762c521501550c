import BridgeWarden.Time.Span
import BridgeWarden.Fault.Basic

/-!
The delay before the link is tried again. It doubles with each failure in a row, up to a ceiling,
and returns to its least value after a success.
-/

namespace BridgeWarden.Link

structure Backoff where
  least : Span
  ceiling : Span
  current : Span
  deriving DecidableEq, Inhabited

namespace Backoff

/-- A backoff between two bounds; the lower one is not zero and not above the upper one. -/
def make? (least ceiling : Span) : Except Breach Backoff :=
  if least.isZero then .error .backoffZero
  else if ceiling < least then .error .backoffInverted
  else .ok ⟨least, ceiling, least⟩

/-- Two bounds that are in order make a backoff. -/
theorem make?_of_le {least ceiling : Span} (nonzero : least.isZero = false)
    (ordered : least ≤ ceiling) : make? least ceiling = .ok ⟨least, ceiling, least⟩ := by
  have inOrder : ¬ ceiling < least := Nat.not_lt.mpr ordered
  unfold make?
  rw [nonzero, if_neg Bool.false_ne_true, if_neg inOrder]

/-- The backoff after a failure; the delay to wait is the one before it, `current`. -/
def failed (b : Backoff) : Backoff := { b with current := Span.least b.current.doubled b.ceiling }

/-- The backoff after a success. -/
def reset (b : Backoff) : Backoff := { b with current := b.least }

@[simp] theorem reset_current (b : Backoff) : b.reset.current = b.least := rfl

end Backoff

end BridgeWarden.Link

import BridgeWarden.Proofs.Link.Steps
import Mathlib.Algebra.Group.Nat.Defs

/-!
The delays of a link that fails again and again.

`failures` counts the faults that readers have seen in a row. `Doubling` is what every step keeps
of the backoff: the delay that a fault hands to the driver is the least one, doubled for each
failure before it and cut to the ceiling (`Backoff.delayAfter`).
-/

namespace BridgeWarden.Link

/-! ### Delays -/

namespace Backoff

/-- The delay after so many failures in a row before the last. -/
def delayAfter (least ceiling : Span) (failures : Nat) : Span :=
  Span.least ⟨least.nanos * 2 ^ failures⟩ ceiling

variable {least ceiling : Span} {backoff : Backoff}

theorem of_make? (made : make? least ceiling = .ok backoff) :
    backoff = ⟨least, ceiling, least⟩ ∧ least ≤ ceiling := by
  unfold make? at made
  split at made
  · cases made
  · split at made
    · cases made
    · rename_i inverted
      cases made
      exact ⟨rfl, Nat.le_of_not_lt inverted⟩

theorem delayAfter_zero (ordered : least ≤ ceiling) : delayAfter least ceiling 0 = least := by
  unfold delayAfter Span.least
  rw [pow_zero, Nat.mul_one, Nat.min_eq_left ordered]

/-- Doubling up to the ceiling comes to the same as doubling and then heeding the ceiling. -/
theorem delayAfter_succ (held : ceiling ≤ Span.longest) (failures : Nat) :
    Span.least (delayAfter least ceiling failures).doubled ceiling =
      delayAfter least ceiling (failures + 1) := by
  have within : ceiling.nanos ≤ Span.longest.nanos := held
  simp only [delayAfter, Span.least, Span.doubled, pow_succ, ← Nat.mul_assoc]
  congr 1
  omega

end Backoff

namespace System

variable {s s' : System} {action : Action} {least ceiling : Span}

/-! ### Failures in a row -/

/-- How many faults readers have seen since they last saw the link up. -/
def failures : List (Nat × Happening) → Nat
  | [] => 0
  | (_, .published snapshot) :: earlier =>
      match snapshot.state with
      | .established => 0
      | .faulted => failures earlier + 1
      | .idle | .connecting => failures earlier
  | _ :: earlier => failures earlier

section Views

variable {now : Nat} {snapshot : Snapshot} {history : List (Nat × Happening)}

theorem failures_established (up : snapshot.state = .established) :
    failures ((now, .published snapshot) :: history) = 0 := by
  simp [failures, up]

theorem failures_faulted (faulted : snapshot.state = .faulted) :
    failures ((now, .published snapshot) :: history) = failures history + 1 := by
  simp [failures, faulted]

theorem failures_showFault (faulted : s.session.state = .faulted) (delay : Span) :
    failures (s.showFault delay).history = failures s.history + 1 := by
  have shown : failures ((s.now, .published s.session.snapshot) :: s.history) =
      failures s.history + 1 := failures_faulted faulted
  exact shown

end Views

/-- The failures of the session that readers have not seen yet. -/
def unshown (s : System) : Nat :=
  match s.phase with
  | .abandoning .. => 1
  | .fresh | .attempting _ | .watching _ | .stopped | .crashed => 0

theorem unshown_of_attempting {cutOff : Nat} (attempting : s.phase = .attempting cutOff) :
    s.unshown = 0 := by
  simp [unshown, attempting]

theorem unshown_of_watching {deadline : Option Nat} (watching : s.phase = .watching deadline) :
    s.unshown = 0 := by
  simp [unshown, watching]

theorem LetsGo.unshown_eq {delay : Span} (letsGo : LetsGo s action delay) : s.unshown = 1 := by
  cases letsGo with
  | cutOff abandoning => simp [unshown, abandoning]
  | returned abandoning => simp [unshown, abandoning]

theorem TakesRequest.unshown_eq {requests : Nat} (takes : TakesRequest s requests) :
    s.unshown = 0 := by
  cases takes with
  | first fresh => simp [unshown, fresh]
  | queued watching => exact unshown_of_watching watching

theorem GivesUp.unshown_eq (givesUp : GivesUp s action) : s.unshown = 0 := by
  cases givesUp with
  | cutOff attempting => exact unshown_of_attempting attempting
  | refused attempting => exact unshown_of_attempting attempting
  | expired watching => exact unshown_of_watching watching

/-- The delays double with each failure in a row. -/
structure Doubling (least ceiling : Span) (s : System) : Prop where
  floor : s.session.backoff.least = least
  limit : s.session.backoff.ceiling = ceiling
  current : s.session.backoff.current =
    Backoff.delayAfter least ceiling (failures s.history + s.unshown)
  promised : ∀ cutOff delay, s.phase = .abandoning cutOff delay →
    delay = Backoff.delayAfter least ceiling (failures s.history)
  shown : ∀ since delay accepted earlier,
    s.history = (since, .scheduled delay accepted) :: earlier →
    0 < failures s.history ∧
      delay = Backoff.delayAfter least ceiling (failures s.history - 1)

namespace Doubling

theorem new (capacity : Nat) (ordered : least ≤ ceiling) (negotiation : Span) :
    Doubling least ceiling (new capacity ⟨least, ceiling, least⟩ negotiation) := by
  refine ⟨rfl, rfl, (Backoff.delayAfter_zero ordered).symm, ?_, ?_⟩
  · rintro cutOff delay ⟨⟩
  · rintro since delay accepted earlier ⟨⟩

/-- A session whose failures readers have all seen. -/
theorem current_of_seen (doubling : Doubling least ceiling s) (seen : s.unshown = 0) :
    s.session.backoff.current = Backoff.delayAfter least ceiling (failures s.history) := by
  rw [doubling.current, seen, Nat.add_zero]

/-- A fault takes the backoff one failure further. -/
theorem current_fault (doubling : Doubling least ceiling s) (held : ceiling ≤ Span.longest)
    (seen : s.unshown = 0) :
    s.session.fault.backoff.current =
      Backoff.delayAfter least ceiling (failures s.history + 1) := by
  have failed : s.session.fault.backoff.current =
      Span.least s.session.backoff.current.doubled s.session.backoff.ceiling := rfl
  rw [failed, doubling.current_of_seen seen, doubling.limit, Backoff.delayAfter_succ held]

/-- The delay of an attempt that was given up is the one for the failures that readers have seen. -/
theorem promised_of_letsGo (doubling : Doubling least ceiling s) {delay : Span}
    (letsGo : LetsGo s action delay) :
    delay = Backoff.delayAfter least ceiling (failures s.history) := by
  cases letsGo with
  | cutOff abandoning => exact doubling.promised _ _ abandoning
  | returned abandoning => exact doubling.promised _ _ abandoning

theorem showFault {delay : Span} (floor : s.session.backoff.least = least)
    (limit : s.session.backoff.ceiling = ceiling)
    (current : s.session.backoff.current =
      Backoff.delayAfter least ceiling (failures s.history + 1))
    (promised : delay = Backoff.delayAfter least ceiling (failures s.history))
    (faulted : s.session.state = .faulted) : Doubling least ceiling (s.showFault delay) := by
  have counted := failures_showFault faulted delay
  refine ⟨floor, limit, ?_, ?_, ?_⟩
  · rw [counted]
    exact current
  · rintro cutOff delay ⟨⟩
  · intro since delay' accepted earlier same
    rw [counted]
    cases same
    exact ⟨Nat.succ_pos _, promised⟩

theorem step (doubling : Doubling least ceiling s) (ordered : least ≤ ceiling)
    (held : ceiling ≤ Span.longest) (stepped : Step s action s') : Doubling least ceiling s' := by
  obtain ⟨floor, limit, current, promised, shown⟩ := id doubling
  cases stepped with
  | connected takes =>
      refine ⟨floor, limit, doubling.current_of_seen takes.unshown_eq, ?_, ?_⟩
      · rintro cutOff delay ⟨⟩
      · rintro since delay accepted earlier ⟨⟩
  | requestIgnored =>
      refine ⟨floor, limit, current, promised, ?_⟩
      rintro since delay accepted earlier ⟨⟩
  | connectReturned attempting | crashed attempting =>
      have seen := unshown_of_attempting attempting
      refine ⟨floor, limit, doubling.current_of_seen seen, ?_, shown⟩
      rintro cutOff delay ⟨⟩
  | gaveUp givesUp =>
      refine ⟨floor, limit, doubling.current_fault held givesUp.unshown_eq, ?_, ?_⟩
      · rintro cutOff delay ⟨⟩
        exact doubling.current_of_seen givesUp.unshown_eq
      · rintro since delay accepted earlier ⟨⟩
  | abandoned letsGo faulted =>
      rw [letsGo.unshown_eq] at current
      exact showFault floor limit current (doubling.promised_of_letsGo letsGo) faulted
  | established _ _ _ _ became =>
      refine ⟨?_, ?_, ?_, ?_, ?_⟩
      · rw [became]
        exact floor
      · rw [became]
        exact limit
      · rw [became, failures_established rfl]
        exact floor.trans (Backoff.delayAfter_zero ordered).symm
      · rintro cutOff delay ⟨⟩
      · rintro since delay accepted earlier ⟨⟩
  | faulted watching =>
      have seen := unshown_of_watching watching
      exact showFault floor limit (doubling.current_fault held seen)
        (doubling.current_of_seen seen) rfl
  | stopped watching =>
      have seen := unshown_of_watching watching
      refine ⟨floor, limit, doubling.current_of_seen seen, ?_, shown⟩
      rintro cutOff delay ⟨⟩
  | eventIgnored | driverSleeps | driverWakes | driverAsks | driverEnds | driverQuits | reported
  | unreported | requested | unrequested | cancelled | passed =>
      exact ⟨floor, limit, current, promised, shown⟩

end Doubling

/-- The delays of every run from the beginning double. -/
theorem doubling_of_run (capacity : Nat) {backoff : Backoff}
    (made : Backoff.make? least ceiling = .ok backoff) (held : ceiling ≤ Span.longest)
    (negotiation : Span) {actions : List Action}
    (ran : (new capacity backoff negotiation).run? actions = some s) :
    Doubling least ceiling s := by
  obtain ⟨rfl, ordered⟩ := Backoff.of_make? made
  refine (fits_new ..).keeps (Doubling least ceiling) ?_ (.new _ ordered _) ran
  intro s action s' doubling stepped
  exact doubling.step ordered held stepped

end System

end BridgeWarden.Link

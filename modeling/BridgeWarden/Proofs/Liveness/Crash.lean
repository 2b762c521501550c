import BridgeWarden.Proofs.Liveness.Guard
import BridgeWarden.Proofs.Liveness.Steps

/-!
When the supervisor breaks down.

With a period that is not zero it does so at one place only, where a guard in software is confirmed
and the clock cannot tell the guard's next deadline (`untold_of_crashed`). The timeout that counts
is the one that the guard was set to at first, or none once it is disarmed (`Excused`).
-/

namespace BridgeWarden.Liveness

namespace Guard

variable {g g' : Guard} {now : Nat} {span : Span}

/-- A guard can be set to a timeout that is not zero where the clock can tell its end. -/
theorem configured_iff (nonzero : span.isZero = false) :
    (∃ g', g.configure span now = .ok g') ↔ (Clock.deadline? now span).isSome := by
  have arms : g.configure span now = { g with timeout := some span }.arm span now := by
    rw [configure, nonzero]
    rfl
  rw [arms, arm]
  cases told : Clock.deadline? now span with
  | none => simp
  | some due => simp

/-- A guard whose confirmation breaks down has a timeout whose end the clock cannot tell. -/
theorem untold_of_confirm {breach : Breach} (broken : g.confirm now = .error (.breach breach)) :
    ∃ span, g.timeout = some span ∧ Clock.deadline? now span = none := by
  unfold confirm at broken
  cases timeout : g.timeout with
  | none => simp [timeout] at broken
  | some span =>
      cases told : Clock.deadline? now span with
      | none => exact ⟨span, rfl, told⟩
      | some due => simp [timeout, arm, told] at broken

theorem timeout_of_confirm (confirmed : g.confirm now = .ok g') : g'.timeout = g.timeout := by
  unfold confirm at confirmed
  cases timeout : g.timeout with
  | none => simp [timeout] at confirmed
  | some span =>
      cases told : Clock.deadline? now span with
      | none => simp [timeout, arm, told] at confirmed
      | some due =>
          simp only [timeout, arm, told, Except.ok.injEq] at confirmed
          rw [← confirmed, ← timeout]
          rfl

theorem timeout_of_sentryWakes (wakes : g.sentryWakes? now = some g') : g'.timeout = g.timeout := by
  rcases eq_of_sentryWakes? wakes with rfl | rfl <;> rfl

end Guard

namespace Supervisor

variable {s s' : Supervisor} {action : Action} {actions : List Action}

/-- The timeout that the guard in software is set to, where there is one. -/
def span? (s : Supervisor) : Option Span := s.guard.bind (·.timeout)

/-- A supervisor that has crashed has its reason. -/
structure Excused (first : Option Span) (s : Supervisor) : Prop where
  regular : s.rhythm.period.isZero = false
  timeout : s.span? = none ∨ s.span? = first
  untold : s.phase = .crashed → ∃ span, first = some span ∧ Clock.deadline? s.now span = none

/-- A confirmation does not change what the guard is set to. -/
theorem span_of_confirmed {now : Nat} {guard guard' : Option Guard}
    (confirmed : confirmed? now guard = some guard') :
    guard'.bind (·.timeout) = guard.bind (·.timeout) := by
  cases guard with
  | none =>
      cases confirmed
      rfl
  | some g =>
      unfold confirmed? at confirmed
      cases result : g.confirm now with
      | ok g' =>
          simp only [result, Option.some.injEq] at confirmed
          rw [← confirmed]
          exact Guard.timeout_of_confirm result
      | error refusal =>
          cases refusal with
          | fault f =>
              simp only [result, Option.some.injEq] at confirmed
              rw [← confirmed]
          | breach b => simp [result] at confirmed

theorem untold_of_unconfirmed {now : Nat} {guard : Option Guard}
    (unconfirmed : confirmed? now guard = none) :
    ∃ span, guard.bind (·.timeout) = some span ∧ Clock.deadline? now span = none := by
  cases guard with
  | none => cases unconfirmed
  | some g =>
      unfold confirmed? at unconfirmed
      cases result : g.confirm now with
      | ok g' => simp [result] at unconfirmed
      | error refusal =>
          cases refusal with
          | fault f => simp [result] at unconfirmed
          | breach b => exact Guard.untold_of_confirm result

namespace Excused

variable {first : Option Span}

theorem step (excused : Excused first s) (stepped : Step s action s') : Excused first s' := by
  obtain ⟨regular, timeout, untold⟩ := excused
  cases stepped with
  | beganToCrash _ irregular =>
      rw [regular] at irregular
      cases irregular
  | crashed _ _ unconfirmed =>
      refine ⟨regular, timeout, fun _ => ?_⟩
      obtain ⟨span, set, untold⟩ := untold_of_unconfirmed unconfirmed
      have known : s.span? = some span := set
      rw [known] at timeout
      exact ⟨span, (timeout.resolve_left (Option.some_ne_none span)).symm, untold⟩
  | reported _ _ confirmed | listing _ _ confirmed =>
      have same := span_of_confirmed confirmed
      exact ⟨regular, by rwa [span?, same], by rintro ⟨⟩⟩
  | disarmed =>
      refine ⟨regular, Or.inl ?_, by rintro ⟨⟩⟩
      unfold span?
      cases s.guard with
      | none => rfl
      | some g => rfl
  | sentryRead guarded reads =>
      refine ⟨regular, ?_, untold⟩
      rw [span?, guarded] at timeout
      rwa [Guard.eq_of_sentryReads? reads]
  | sentryWoke guarded wakes =>
      have same := Guard.timeout_of_sentryWakes wakes
      refine ⟨regular, ?_, untold⟩
      rw [span?, guarded, Option.bind_some] at timeout
      rwa [span?, Option.bind_some, same]
  | passed =>
      refine ⟨regular, timeout, fun crashed => ?_⟩
      obtain ⟨span, set, untold⟩ := untold crashed
      exact ⟨span, set, Clock.untold_of_le (Nat.le_add_right _ _) untold⟩
  | began | concluded | cutOff | stopped | aborted => exact ⟨regular, timeout, by rintro ⟨⟩⟩
  | asked | restartCalled | restartEnded | received | cancelled => exact ⟨regular, timeout, untold⟩

end Excused

/-- A supervisor that breaks down has a guard in software whose deadline the clock cannot tell. -/
theorem untold_of_crashed (regular : s.rhythm.period.isZero = false) (going : s.phase ≠ .crashed)
    (ran : s.run? actions = some s') (crashed : s'.phase = .crashed) :
    ∃ span, s.span? = some span ∧ Clock.deadline? s'.now span = none := by
  rw [run?_eq_foldlM] at ran
  have excused : Excused s.span? s' := by
    apply Runs.keeps (Excused s.span?) ?_ ?_ ran
    · intro s action s' excused _ computed
      exact excused.step (step_of_next? computed)
    · exact ⟨regular, Or.inr rfl, fun crashed => (going crashed).elim⟩
  exact excused.untold crashed

end Supervisor

end BridgeWarden.Liveness

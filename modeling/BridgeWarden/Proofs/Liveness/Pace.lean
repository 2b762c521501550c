import BridgeWarden.Proofs.Liveness.Guard
import BridgeWarden.Proofs.Liveness.Rhythm
import BridgeWarden.Proofs.Liveness.Steps

/-!
The pace of a supervisor.

`Paced` is the invariant behind a rhythmic history: the present phase says when the next tick is due
and which report is outstanding (`Placed`), and a guard in software has the deadline of the last
tick. Every step keeps it, up to the end in order, as long as the wait for a restart ends before
that deadline (`Paced.step`).
-/

namespace BridgeWarden.Liveness.Supervisor

/-- Where the phase stands after so many ticks and reports. -/
inductive Placed (start period budget ticks reports now : Nat) : Phase → Prop where
  | fresh (first : now = start) (unticked : ticks = 0) (unreported : reports = 0) :
      Placed start period budget ticks reports now .fresh
  | waiting {due : Nat} (next : due = start + ticks * period) (before : now ≤ due)
      (reported : reports = ticks) : Placed start period budget ticks reports now (.waiting due)
  | cycling {cutOff due : Nat} (next : due = start + ticks * period)
      (budgeted : cutOff = start + reports * period + budget) (outstanding : ticks = reports + 1)
      (since : start + reports * period ≤ now) (within : now ≤ cutOff) :
      Placed start period budget ticks reports now (.cycling cutOff due)
  | finishing {restart : Option Nat} (reported : reports = ticks) :
      Placed start period budget ticks reports now (.finishing restart)
  | ended {fault : Option Fault} (reported : reports = ticks) :
      Placed start period budget ticks reports now (.ended fault)

/-- The deadline that the last of so many ticks has set; the one set at the start before them. -/
def deadlineAfter (start period : Nat) (timeout : Span) (ticks : Nat) : Nat :=
  start + (ticks - 1) * period + timeout.ceilMillis

structure Paced (start period budget : Nat) (timeout : Span) (s : Supervisor) : Prop where
  keeps : s.rhythm.Keeps period budget timeout
  rhythmic : Rhythmic start period budget s.history
  placed : Placed start period budget (ticks s.history) (reports s.history) s.now s.phase
  guarded : ∀ g, s.guard = some g → (∀ fault, s.phase ≠ .ended fault) →
    g.Standing (some timeout) (some (deadlineAfter start period timeout (ticks s.history)))
  released : ∀ g fault, s.guard = some g → s.phase = .ended fault → g.Standing none none

variable {start period budget : Nat} {timeout : Span} {s s' : Supervisor}

namespace Paced

/-- Up to the end the deadline is ahead, if it is while a restart is waited for. -/
theorem early (paced : Paced start period budget timeout s)
    (unended : ∀ fault, s.phase ≠ .ended fault)
    (patient : ∀ restart, s.phase = .finishing restart →
      s.now < deadlineAfter start period timeout (ticks s.history)) :
    s.now < deadlineAfter start period timeout (ticks s.history) := by
  have outlasted := paced.keeps.outlasted
  have brief := paced.keeps.brief
  have placed := paced.placed
  generalize phase : s.phase = p at placed
  cases placed with
  | fresh first unticked unreported =>
      simp only [deadlineAfter, unticked, first]
      omega
  | waiting next before reported =>
      simp only [deadlineAfter]
      cases ticked : ticks s.history with
      | zero => simp only [ticked] at next; omega
      | succ n =>
          simp only [ticked, Nat.add_one_mul] at next
          simp only [Nat.add_one_sub_one]
          omega
  | cycling next budgeted outstanding since within =>
      simp only [deadlineAfter, outstanding, Nat.add_one_sub_one]
      omega
  | finishing reported => exact patient _ phase
  | ended reported => exact (unended _ phase).elim

/-- A tick that is due is in time, and its confirmation can be made. -/
theorem tick (paced : Paced start period budget timeout s) {due : Nat}
    (waiting : s.phase = .waiting due) (reached : due ≤ s.now)
    (told : (Clock.deadline? s.now timeout).isSome) :
    s.now = start + ticks s.history * period ∧ reports s.history = ticks s.history ∧
      s.rhythm.nextTick due s.now = start + (ticks s.history + 1) * period ∧
      ∃ guard, confirmed? s.now s.guard = some guard ∧ ∀ g, guard = some g →
        g.Standing (some timeout)
          (some (deadlineAfter start period timeout (ticks s.history + 1))) := by
  have placed := paced.placed
  rw [waiting] at placed
  cases placed with
  | waiting next before reported =>
      have now : due = s.now := Nat.le_antisymm reached before
      have prompt : s.now = start + ticks s.history * period := now ▸ next
      refine ⟨prompt, reported, ?_, ?_⟩
      · rw [now, paced.keeps.nextTick told, prompt, Nat.add_one_mul, Nat.add_assoc]
      · cases guard : s.guard with
        | none => exact ⟨none, rfl, by simp⟩
        | some g =>
            obtain ⟨g', confirmed, standing⟩ :=
              (paced.guarded g guard (by simp [waiting])).confirm told
            refine ⟨some g', by simp [confirmed?, confirmed], ?_⟩
            intro g'' same
            cases same
            simpa [deadlineAfter, prompt] using standing

theorem now_lt_nextTick (paced : Paced start period budget timeout s) {due : Nat}
    (waiting : s.phase = .waiting due) (reached : due ≤ s.now)
    (told : (Clock.deadline? s.now timeout).isSome) :
    s.now < s.rhythm.nextTick due s.now := by
  have positive := paced.keeps.positive
  have brief := paced.keeps.brief
  obtain ⟨now, -, next, -⟩ := paced.tick waiting reached told
  rw [next, now, Nat.add_one_mul]
  omega

/-- A happening that neither confirms nor reports leaves the pace as it is. -/
theorem silent (paced : Paced start period budget timeout s) (coordinator : Recovery.Coordinator)
    {h : Happening} (silent : Silent h) :
    Paced start period budget timeout
      { s with coordinator, history := (s.now, h) :: s.history } := by
  refine ⟨paced.keeps, paced.rhythmic.silent silent, ?_, ?_, paced.released⟩
  · simp only [ticks_silent silent, reports_silent silent]
    exact paced.placed
  · simp only [ticks_silent silent]
    exact paced.guarded

/-- The report of the present cycle ends it. -/
theorem report (paced : Paced start period budget timeout s) (coordinator : Recovery.Coordinator)
    {cutOff due : Nat} (cycling : s.phase = .cycling cutOff due) (report : Recovery.Report) :
    Paced start period budget timeout
      { s with
        coordinator, phase := .waiting due
        history := (s.now, .published report) :: s.history } := by
  have brief := paced.keeps.brief
  have placed := paced.placed
  rw [cycling] at placed
  cases placed with
  | cycling next budgeted outstanding since within =>
      refine ⟨paced.keeps, paced.rhythmic.publish since (by omega), ?_, ?_, by simp⟩
      · simp only [ticks_published, reports_published]
        refine .waiting next ?_ outstanding.symm
        rw [outstanding, Nat.add_one_mul] at next
        omega
      · simp only [ticks_published]
        exact fun g guarded _ => paced.guarded g guarded (by simp [cycling])

/-- The sentry changes only what it knows of the deadline, which is ahead. -/
theorem sentry (paced : Paced start period budget timeout s)
    (patient : ∀ restart, s.phase = .finishing restart →
      s.now < deadlineAfter start period timeout (ticks s.history)) {g g' : Guard}
    (guarded : s.guard = some g)
    (stands : ∀ span deadline, g.Standing span deadline →
      (∀ due, deadline = some due → s.now < due) → g'.Standing span deadline) :
    Paced start period budget timeout { s with guard := some g' } := by
  refine ⟨paced.keeps, paced.rhythmic, paced.placed, ?_, ?_⟩
  · intro other same unended
    cases same
    refine stands _ _ (paced.guarded g guarded unended) fun due scheduled => ?_
    cases scheduled
    exact paced.early unended patient
  · intro other fault same ended
    cases same
    exact stands _ _ (paced.released g fault guarded ended) (by simp)

theorem passed (paced : Paced start period budget timeout s) {millis : Nat}
    (waits : s.canWait millis = true) :
    Paced start period budget timeout { s with now := s.now + millis } := by
  refine ⟨paced.keeps, paced.rhythmic, ?_, paced.guarded, paced.released⟩
  have waits : s.taskCanWait millis = true := by
    simp only [canWait, Bool.and_eq_true] at waits
    exact waits.1.1
  have placed := paced.placed
  simp only [taskCanWait] at waits
  generalize s.phase = phase at placed waits
  cases placed with
  | fresh first unticked unreported => simp at waits
  | waiting next before reported =>
      simp only [Bool.and_eq_true, decide_eq_true_eq] at waits
      exact .waiting next waits.2 reported
  | cycling next budgeted outstanding since within =>
      simp only [Bool.and_eq_true, decide_eq_true_eq] at waits
      exact .cycling next budgeted outstanding (Nat.le_add_right_of_le since) waits.2
  | finishing reported => exact .finishing reported
  | ended reported => exact .ended reported

theorem step (paced : Paced start period budget timeout s) {action : Action}
    (stepped : Step s action s') (unaborted : action ≠ .abort)
    (told : (Clock.deadline? s.now timeout).isSome)
    (patient : ∀ restart, s.phase = .finishing restart →
      s.now < deadlineAfter start period timeout (ticks s.history)) :
    Paced start period budget timeout s' := by
  cases stepped with
  | began fresh regular =>
      refine ⟨paced.keeps, paced.rhythmic, ?_, ?_, by simp⟩
      · have placed := paced.placed
        rw [fresh] at placed
        cases placed with
        | fresh first unticked unreported =>
            refine .waiting ?_ (Nat.le_refl _) ?_
            · simp [first, unticked]
            · rw [unticked, unreported]
      · exact fun g guarded _ => paced.guarded g guarded (by simp [fresh])
  | beganToCrash fresh irregular => simp [paced.keeps.regular] at irregular
  | crashed waiting reached untold =>
      -- A clock that tells the timeout lets every tick confirm.
      obtain ⟨-, -, -, guard, confirmed, -⟩ := paced.tick waiting reached told
      simp [untold] at confirmed
  | reported waiting reached confirmed entered =>
      obtain ⟨now, reported, next, guard, same, standing⟩ := paced.tick waiting reached told
      rw [confirmed, Option.some.injEq] at same
      subst same
      refine ⟨paced.keeps, ?_, ?_, ?_, by simp⟩
      · refine (paced.rhythmic.confirm now).publish ?_ ?_ <;>
          simp only [reports_confirmed, reported] <;> omega
      · simp only [ticks_published, ticks_confirmed, reports_published, reports_confirmed, next]
        exact .waiting rfl (by rw [now, Nat.add_one_mul]; omega) (by rw [reported])
      · simp only [ticks_published, ticks_confirmed]
        exact fun g guarded _ => standing g guarded
  | listing waiting reached confirmed free offline =>
      obtain ⟨now, reported, next, guard, same, standing⟩ := paced.tick waiting reached told
      rw [confirmed, Option.some.injEq] at same
      subst same
      have asking : Silent (.asked .list) := ⟨by simp, by simp⟩
      refine ⟨paced.keeps, (paced.rhythmic.confirm now).silent asking, ?_, ?_, by simp⟩
      · simp only [ticks_silent asking, reports_silent asking, ticks_confirmed, reports_confirmed,
          next, paced.keeps.wake_budget told]
        refine .cycling rfl ?_ ?_ ?_ (Nat.le_add_right _ _) <;> rw [reported]
        · rw [← now]
        · omega
      · simp only [ticks_silent asking, ticks_confirmed]
        exact fun g guarded _ => standing g guarded
  | asked query cycling told => exact paced.silent _ ⟨by simp, by simp⟩
  | concluded cycling told => exact paced.report _ cycling _
  | cutOff cycling spent => exact paced.report _ cycling _
  | stopped waiting cancelled =>
      refine ⟨paced.keeps, paced.rhythmic, ?_, ?_, by simp⟩
      · have placed := paced.placed
        rw [waiting] at placed
        cases placed with
        | waiting next before reported => exact .finishing reported
      · exact fun g guarded _ => paced.guarded g guarded (by simp [waiting])
  | disarmed fault finishing gone =>
      have shown : Silent (.disarmed fault) := ⟨by simp, by simp⟩
      refine ⟨paced.keeps, paced.rhythmic.silent shown, ?_, by simp, ?_⟩
      · simp only [ticks_silent shown, reports_silent shown]
        have placed := paced.placed
        rw [finishing] at placed
        cases placed with
        | finishing reported => exact .ended reported
      · intro g fault guarded _
        obtain ⟨old, present, rfl⟩ := Option.map_eq_some_iff.mp guarded
        exact (paced.guarded old present (by simp [finishing])).disarm
  | aborted going => exact (unaborted rfl).elim
  | restartCalled begun => exact paced.silent _ ⟨by simp, by simp⟩
  | restartEnded called => exact paced.silent _ ⟨by simp, by simp⟩
  | sentryRead guarded reads =>
      exact paced.sentry patient guarded fun _ _ standing _ => standing.sentryReads reads
  | sentryWoke guarded wakes =>
      exact paced.sentry patient guarded fun _ _ standing early => standing.sentryWakes wakes early
  | received payload =>
      exact ⟨paced.keeps, paced.rhythmic, paced.placed, paced.guarded, paced.released⟩
  | cancelled => exact ⟨paced.keeps, paced.rhythmic, paced.placed, paced.guarded, paced.released⟩
  | passed waits => exact paced.passed waits

end Paced

end BridgeWarden.Liveness.Supervisor

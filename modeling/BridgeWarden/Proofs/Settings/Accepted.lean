import BridgeWarden.Liveness.Launch
import BridgeWarden.Proofs.Settings.Range

/-!
What accepted settings say of the liveness timer, of the backoff and of a cycle: the period is not
zero and below the timeout, the delays form a range, and one query and one whole probe fit the
budget.
-/

namespace BridgeWarden.Settings

variable {s : Settings}

theorem periodSecs_pos (accepted : s.complaint? = .ok none) : 0 < s.liveness.periodSecs.toNat :=
  (inRange_of_accepted accepted).period

theorem periodSecs_lt_timeoutSecs (accepted : s.complaint? = .ok none) :
    s.liveness.periodSecs.toNat < s.liveness.timeoutSecs.toNat :=
  (inRange_of_accepted accepted).timeout

theorem backoff_of_accepted (accepted : s.complaint? = .ok none) :
    ∃ backoff, s.link.backoff = .ok backoff := by
  have range := inRange_of_accepted accepted
  have nonzero := Span.isZero_ofSecs range.backoffFloor
  have ordered : Span.ofSecs s.link.backoffMinSecs.toNat ≤ .ofSecs s.link.backoffMaxSecs.toNat :=
    Nat.mul_le_mul_left _ range.backoffOrder
  exact ⟨_, Link.Backoff.make?_of_le nonzero ordered⟩

/-- One query and one whole probe together take less than the budget of a cycle. -/
theorem bound_of_accepted (accepted : s.complaint? = .ok none) :
    ∃ bound, Reach.Ping.bound s.monitor.probeTimeout = .ok bound ∧
      s.accessPoint.queryTimeout.nanos + bound.nanos < s.liveness.cycleBudget.nanos := by
  refine ⟨_, probeBound_eq s, ?_⟩
  have short := (inRange_of_accepted accepted).cycle
  have within : Span.ofMillis (s.accessPoint.queryTimeoutMs.toNat +
      (1000 * Reach.Ping.secsFor s.monitor.probeTimeoutMs.toNat + 250)) <
        .ofMillis (500 * s.liveness.periodSecs.toNat) := by
    rw [Nat.add_assoc] at short
    exact Nat.mul_lt_mul_of_pos_left short (by decide)
  rw [cycleBudget_eq]
  rw [← Span.ofMillis_add] at within
  exact within

end BridgeWarden.Settings

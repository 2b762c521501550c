import BridgeWarden.Settings.Check

/-!
Which settings are accepted, in whole numbers.

The check computes with spans: seconds and nanoseconds, a probe rounded up to whole seconds, half a
period. `InRange` says the same over the naturals that the fields stand for, with the millisecond as
the only unit. The check gives a verdict on all settings and never breaks off; it accepts exactly
those in range, and a complaint about any others holds of them, with the values that it names
(`verdict_iff_inRange`).
-/

namespace BridgeWarden

/-! ### The times of the check in milliseconds -/

namespace Span

theorem ofMillis_add (a b : Nat) : ofMillis a + ofMillis b = ofMillis (a + b) :=
  congrArg Span.mk (Nat.mul_add ..).symm

theorem ofSecs_eq_ofMillis (n : Nat) : ofSecs n = ofMillis (1000 * n) := by
  simp only [ofSecs, ofMillis, nanosPerSecond, nanosPerMilli, Span.mk.injEq]
  omega

theorem half_ofSecs (n : Nat) : (ofSecs n).half = ofMillis (500 * n) := by
  simp only [half, ofSecs, ofMillis, nanosPerSecond, nanosPerMilli, Span.mk.injEq]
  omega

theorem ofMillis_le_ofMillis {a b : Nat} : ofMillis a ≤ ofMillis b ↔ a ≤ b :=
  Nat.mul_le_mul_left_iff (by decide)

@[simp] theorem millis_ofMillis (n : Nat) : (ofMillis n).millis = n :=
  Nat.mul_div_cancel_left n (by decide)

/-- The sums that the check takes are far from the longest span. -/
theorem not_longest_lt_ofMillis {n : Nat} (small : n ≤ 3 * UInt64.size) :
    ¬ longest < ofMillis n := by
  simp only [lt_def, ofMillis, longest, nanosPerMilli, nanosPerSecond, UInt64.size] at small ⊢
  omega

end Span

namespace Reach.Ping

/-- The whole seconds that a probe of so many milliseconds waits for an answer. -/
def secsFor (millis : Nat) : Nat := max 1 ((millis + 999) / 1000)

theorem secsFor_le (millis : Nat) : 1000 * secsFor millis ≤ millis + 1000 := by
  unfold secsFor
  omega

theorem waitSecs_ofMillis {millis : Nat} (word : millis < UInt64.size) :
    waitSecs (.ofMillis millis) = .ok (secsFor millis) := by
  have rounded : (Span.ofMillis millis).secs +
      (if 0 < (Span.ofMillis millis).subsecNanos then 1 else 0) = (millis + 999) / 1000 := by
    by_cases part : 0 < (Span.ofMillis millis).subsecNanos
    · rw [if_pos part]
      simp only [Span.secs, Span.subsecNanos, Span.ofMillis, Span.nanosPerSecond,
        Span.nanosPerMilli] at part ⊢
      omega
    · rw [if_neg part]
      simp only [Span.secs, Span.subsecNanos, Span.ofMillis, Span.nanosPerSecond,
        Span.nanosPerMilli] at part ⊢
      omega
  have small : (millis + 999) / 1000 < UInt64.size := by
    simp only [UInt64.size] at word ⊢
    omega
  unfold waitSecs secsFor
  rw [rounded, if_pos small, Nat.max_comm]

theorem bound_ofMillis {millis : Nat} (word : millis < UInt64.size) :
    bound (.ofMillis millis) = .ok (.ofMillis (1000 * secsFor millis + 250)) := by
  unfold bound slack
  rw [waitSecs_ofMillis word, Except.map, Span.ofSecs_eq_ofMillis, Span.ofMillis_add]

end Reach.Ping

namespace Settings

open Reach.Ping (secsFor)

/-- The settings that are accepted, field by field. -/
structure InRange (s : Settings) : Prop where
  period : 1 ≤ s.liveness.periodSecs.toNat
  timeout : s.liveness.periodSecs.toNat < s.liveness.timeoutSecs.toNat
  backoffFloor : 1 ≤ s.link.backoffMinSecs.toNat
  backoffOrder : s.link.backoffMinSecs.toNat ≤ s.link.backoffMaxSecs.toNat
  cycle : s.accessPoint.queryTimeoutMs.toNat +
      1000 * max 1 ((s.monitor.probeTimeoutMs.toNat + 999) / 1000) + 250 <
    500 * s.liveness.periodSecs.toNat
  negotiation : 1 ≤ s.link.negotiationTimeoutSecs.toNat
  chunk : 1 ≤ s.link.readChunkSize.toNat
  restart : s.accessPoint.restartCommand ≠ []

/-- A complaint is true of the settings, and the values that it names are theirs. -/
def Complaint.Holds (s : Settings) : Complaint → Prop
  | .periodZero => s.liveness.periodSecs.toNat = 0
  | .timeoutWithinPeriod timeout period =>
      timeout = s.liveness.timeoutSecs.toNat ∧ period = s.liveness.periodSecs.toNat ∧
        timeout ≤ period
  | .backoffRange least ceiling =>
      least = s.link.backoffMinSecs.toNat ∧ ceiling = s.link.backoffMaxSecs.toNat ∧
        (least = 0 ∨ ceiling < least)
  | .cycleTooLong query probe =>
      query = s.accessPoint.queryTimeoutMs.toNat ∧
        probe = 1000 * max 1 ((s.monitor.probeTimeoutMs.toNat + 999) / 1000) + 250 ∧
        500 * s.liveness.periodSecs.toNat ≤ query + probe
  | .negotiationZero => s.link.negotiationTimeoutSecs.toNat = 0
  | .chunkZero => s.link.readChunkSize.toNat = 0
  | .noRestartCommand => s.accessPoint.restartCommand = []

variable {s : Settings}

theorem not_inRange_of_holds {c : Complaint} (holds : c.Holds s) : ¬ s.InRange := by
  intro range
  cases c with
  | periodZero => exact Nat.ne_of_gt range.period holds
  | timeoutWithinPeriod =>
      obtain ⟨rfl, rfl, within⟩ := holds
      exact Nat.not_lt.mpr within range.timeout
  | backoffRange =>
      obtain ⟨rfl, rfl, zero | inverted⟩ := holds
      · exact Nat.ne_of_gt range.backoffFloor zero
      · exact Nat.not_lt.mpr range.backoffOrder inverted
  | cycleTooLong =>
      obtain ⟨rfl, rfl, long⟩ := holds
      have short := range.cycle
      omega
  | negotiationZero => exact Nat.ne_of_gt range.negotiation holds
  | chunkZero => exact Nat.ne_of_gt range.chunk holds
  | noRestartCommand => exact range.restart holds

theorem cycleBudget_eq (s : Settings) :
    s.liveness.cycleBudget = .ofMillis (500 * s.liveness.periodSecs.toNat) :=
  Span.half_ofSecs _

theorem probeBound_eq (s : Settings) :
    Reach.Ping.bound s.monitor.probeTimeout =
      .ok (.ofMillis (1000 * secsFor s.monitor.probeTimeoutMs.toNat + 250)) :=
  Reach.Ping.bound_ofMillis s.monitor.probeTimeoutMs.toNat_lt_size

theorem worstCycle_of_bound {bound : Span}
    (probe : Reach.Ping.bound s.monitor.probeTimeout = .ok bound)
    (held : ¬ Span.longest < s.accessPoint.queryTimeout + bound) :
    s.worstCycle = .ok (s.accessPoint.queryTimeout + bound) := by
  unfold worstCycle
  simp only [probe, bind, Except.bind, held, if_false]
  rfl

/-- No settings make the worst cycle longer than a span can be. -/
theorem worstCycle_eq (s : Settings) :
    s.worstCycle = .ok (.ofMillis (s.accessPoint.queryTimeoutMs.toNat +
      (1000 * secsFor s.monitor.probeTimeoutMs.toNat + 250))) := by
  have query := s.accessPoint.queryTimeoutMs.toNat_lt_size
  have probe := s.monitor.probeTimeoutMs.toNat_lt_size
  have rounded := Reach.Ping.secsFor_le s.monitor.probeTimeoutMs.toNat
  have sum : s.accessPoint.queryTimeout +
      .ofMillis (1000 * secsFor s.monitor.probeTimeoutMs.toNat + 250) =
        .ofMillis (s.accessPoint.queryTimeoutMs.toNat +
          (1000 * secsFor s.monitor.probeTimeoutMs.toNat + 250)) := Span.ofMillis_add ..
  rw [← sum]
  apply worstCycle_of_bound (probeBound_eq s)
  rw [sum]
  apply Span.not_longest_lt_ofMillis
  simp only [UInt64.size] at query probe ⊢
  omega

/-- What the check says: a complaint that holds, or nothing, and then the settings are in range. -/
inductive Verdict (s : Settings) : Option Complaint → Prop where
  | accepted (range : s.InRange) : Verdict s none
  | refused {c : Complaint} (holds : c.Holds s) : Verdict s (some c)

theorem verdict_of_complaint? (s : Settings) :
    ∃ said, s.complaint? = .ok said ∧ s.Verdict said := by
  unfold complaint?
  rw [worstCycle_eq, probeBound_eq, cycleBudget_eq]
  simp only [← UInt64.toNat_inj, UInt64.le_iff_toNat_le, UInt64.lt_iff_toNat_lt,
    UInt64.toNat_zero, Span.ofMillis_le_ofMillis, Span.millis_ofMillis, bind, Except.bind, pure,
    Except.pure]
  -- the first check that fails makes the complaint, so each one is passed before the next
  by_cases period : s.liveness.periodSecs.toNat = 0
  · exact ⟨_, if_pos period, .refused period⟩
  rw [if_neg period]
  by_cases timeout : s.liveness.timeoutSecs.toNat ≤ s.liveness.periodSecs.toNat
  · exact ⟨_, if_pos timeout, .refused ⟨rfl, rfl, timeout⟩⟩
  rw [if_neg timeout]
  by_cases backoff : s.link.backoffMinSecs.toNat = 0 ∨
      s.link.backoffMaxSecs.toNat < s.link.backoffMinSecs.toNat
  · exact ⟨_, if_pos backoff, .refused ⟨rfl, rfl, backoff⟩⟩
  rw [if_neg backoff]
  by_cases cycle : 500 * s.liveness.periodSecs.toNat ≤ s.accessPoint.queryTimeoutMs.toNat +
      (1000 * secsFor s.monitor.probeTimeoutMs.toNat + 250)
  · exact ⟨_, if_pos cycle, .refused ⟨rfl, rfl, cycle⟩⟩
  rw [if_neg cycle]
  by_cases negotiation : s.link.negotiationTimeoutSecs.toNat = 0
  · exact ⟨_, if_pos negotiation, .refused negotiation⟩
  rw [if_neg negotiation]
  by_cases chunk : s.link.readChunkSize.toNat = 0
  · exact ⟨_, if_pos chunk, .refused chunk⟩
  rw [if_neg chunk]
  by_cases restart : s.accessPoint.restartCommand = []
  · exact ⟨_, if_pos restart, .refused restart⟩
  rw [if_neg restart]
  rw [not_or, Nat.not_lt] at backoff
  have short := Nat.lt_of_not_le cycle
  rw [← Nat.add_assoc] at short
  refine ⟨none, rfl, .accepted ?_⟩
  exact
    { period := Nat.pos_of_ne_zero period
      timeout := Nat.lt_of_not_le timeout
      backoffFloor := Nat.pos_of_ne_zero backoff.1
      backoffOrder := backoff.2
      cycle := short
      negotiation := Nat.pos_of_ne_zero negotiation
      chunk := Nat.pos_of_ne_zero chunk
      restart }

theorem inRange_of_accepted (accepted : s.complaint? = .ok none) : s.InRange := by
  obtain ⟨said, computed, verdict⟩ := verdict_of_complaint? s
  rw [accepted, Except.ok.injEq] at computed
  subst computed
  cases verdict with
  | accepted range => exact range

/-- The check accepts exactly the settings in range. About any others it has a complaint, which
holds of them and is shown as a fault of the configuration. -/
theorem verdict_iff_inRange (s : Settings) :
    (s.complaint? = .ok none ↔ s.InRange) ∧
    ((∃ c, s.complaint? = .ok (some c) ∧ c.Holds s ∧ c.fault = .config c.message) ↔
      ¬ s.InRange) := by
  obtain ⟨said, computed, verdict⟩ := verdict_of_complaint? s
  rw [computed]
  cases verdict with
  | accepted range =>
      constructor
      · exact iff_of_true rfl range
      · apply iff_of_false
        · rintro ⟨c, ⟨⟩, -⟩
        · exact fun outside => outside range
  | refused holds =>
      have outside := not_inRange_of_holds holds
      constructor
      · apply iff_of_false _ outside
        rintro ⟨⟩
      · exact iff_of_true ⟨_, rfl, holds, rfl⟩ outside

/-- Half a period is no longer enough when query and probe take all of it. -/
example : ({ accessPoint := { queryTimeoutMs := 1250 } } : Settings).complaint? =
    .ok (some (.cycleTooLong 1250 1250)) := rfl

end Settings

end BridgeWarden

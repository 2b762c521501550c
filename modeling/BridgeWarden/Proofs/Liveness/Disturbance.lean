import BridgeWarden.Proofs.Liveness.Shutdown

/-!
The shutdown that disturbs the guard, and the settings that rule it out.

`lateRestart` is the run to fear: a cycle begins a restart at the very end of its budget, the
supervisor is cancelled at once, and the restart takes as long as it may. Unless the timer outlasts
the budget and the restart, the sentry wakes at a deadline that nobody has put off
(`run?_lateRestart`). With what holds of every other run this decides which settings are safe
(`undisturbed_iff`).
-/

namespace BridgeWarden.Liveness

namespace Supervisor

variable {rhythm : Rhythm} {period budget : Nat} {timeout : Span} {m : Reach.Monitor}
variable {staleAfter : Span}

/-! ### The run to fear -/

/-- A cycle up to the probe of its only client. -/
def probeAsked : List Action :=
  [.begin, .tick, .sentryReads, .answer (.clients (.ok [default])),
    .answer (.lease (.ok (some default)))]

/-- The probe fails when the budget is spent, and a shutdown finds the restart inside its call. -/
def lateAlarm (budget : Nat) : List Action :=
  [.pass budget, .answer (.probe (.ok false)), .restartCalls 0, .cancel, .stop]

/-- A cycle begins a restart as late as it may, and a shutdown waits for it up to the deadline. -/
def lateRestart (budget deadline : Nat) : List Action :=
  probeAsked ++ (lateAlarm budget ++ [.pass (deadline - budget), .sentryWakes])

/-- A guard just configured. -/
def armedGuard (timeout : Span) : Guard :=
  { timeout := some timeout, deadline := some timeout.ceilMillis, signalled := true
    sentry := .reading }

/-- A guard whose sentry sleeps until the first deadline. -/
def watchedGuard (timeout : Span) : Guard :=
  { armedGuard timeout with signalled := false, sentry := .watching (some timeout.ceilMillis) }

/-- The supervisor that has asked for its first probe. -/
def probing (rhythm : Rhythm) (timeout : Span) (m : Reach.Monitor) (staleAfter : Span)
    (period budget : Nat) : Supervisor :=
  { new rhythm m staleAfter (some (watchedGuard timeout)) 0 0 with
    phase := .cycling budget period
    coordinator :=
      { Recovery.Coordinator.new m (.new 0) with survey := some (.probing default default [] 0 0) }
    history := [(0, .asked (.probe default m.probeTimeout)), (0, .asked (.lease default)),
      (0, .asked .list), (0, .confirmed)] }

/-- The supervisor that waits for the restart of its first cycle. -/
def stopping (rhythm : Rhythm) (timeout : Span) (m : Reach.Monitor) (staleAfter : Span)
    (budget : Nat) : Supervisor :=
  { new rhythm m staleAfter (some (watchedGuard timeout)) 0 0 with
    now := budget, phase := .finishing (some 0), cancelled := true
    coordinator :=
      { Recovery.Coordinator.new m ((Status.Display.new 0).resetIdle budget (budget / 1000)) with
        restarts := [(0, .calling)], begun := 1 }
    history := [(budget, .restartCalled 0),
      (budget, .published (.checked (.unreachable default default) true)),
      (0, .asked (.probe default m.probeTimeout)), (0, .asked (.lease default)),
      (0, .asked .list), (0, .confirmed)] }

theorem run?_probeAsked (keeps : rhythm.Keeps period budget timeout)
    (somebody : 0 < m.maxClients) (told : (Clock.deadline? 0 timeout).isSome) :
    (new rhythm m staleAfter (some (armedGuard timeout)) 0 0).run? probeAsked =
      some (probing rhythm timeout m staleAfter period budget) := by
  have asked : [(default : Mac)].take m.maxClients = [default] := List.take_of_length_le somebody
  have next := keeps.nextTick told
  have wake := keeps.wake_budget told
  have armed := Clock.deadline?_of_isSome told
  simp [probeAsked, probing, armedGuard, watchedGuard, run?, next?, new, next, wake, armed, asked,
    keeps.regular, tick, note, confirmGuard?, Guard.confirm, Guard.arm, Guard.setDeadline,
    Guard.sentryReads?, beginCycle, ask, Recovery.Coordinator.begin, Recovery.Coordinator.isBusy,
    Recovery.Coordinator.new, Recovery.Coordinator.query?, Recovery.Coordinator.answer?,
    Remote.Telemetry.state, Remote.Telemetry.new, Remote.Suppression.suppresses,
    Reach.Survey.query?, Reach.Survey.answer?, Reach.Survey.listed, Reach.Survey.outcome?,
    Reach.Survey.visit]

theorem run?_lateAlarm (keeps : rhythm.Keeps period budget timeout) :
    (probing rhythm timeout m staleAfter period budget).run? (lateAlarm budget) =
      some (stopping rhythm timeout m staleAfter budget) := by
  have positive := keeps.positive
  have ahead : budget ≤ timeout.ceilMillis :=
    Nat.le_of_lt (Nat.lt_trans keeps.brief keeps.outlasted)
  have asleep : ¬ timeout.ceilMillis = 0 := by omega
  simp [lateAlarm, probing, stopping, watchedGuard, armedGuard, run?, next?, new, canWait,
    taskCanWait, Guard.canWait, Guard.sentryReads?, Guard.sentryWakes?, Guard.sentryStops?,
    Guard.due?, positive, ahead, asleep, publish, note, wall, Recovery.Coordinator.new,
    Recovery.Coordinator.answer?, Recovery.Coordinator.conclude,
    Recovery.Coordinator.beginRestart, Recovery.Coordinator.restartCalls,
    Recovery.Coordinator.release, Reach.Survey.answer?, Reach.Survey.outcome?,
    Reach.Outcome.needsRecovery]

/-- The supervisor whose guard has tripped while it waits. -/
def disturbed (rhythm : Rhythm) (timeout : Span) (m : Reach.Monitor) (staleAfter : Span)
    (budget : Nat) : Supervisor :=
  { stopping rhythm timeout m staleAfter budget with
    now := timeout.ceilMillis
    guard := some { watchedGuard timeout with sentry := .tripped timeout.ceilMillis } }

theorem run?_lateRestart (keeps : rhythm.Keeps period budget timeout)
    (somebody : 0 < m.maxClients) (told : (Clock.deadline? 0 timeout).isSome) :
    (new rhythm m staleAfter (some (armedGuard timeout)) 0 0).run?
        (lateRestart budget timeout.ceilMillis) =
      some (disturbed rhythm timeout m staleAfter budget) := by
  have ahead : budget < timeout.ceilMillis := Nat.lt_trans keeps.brief keeps.outlasted
  have asleep : ¬ timeout.ceilMillis ≤ budget := Nat.not_le.mpr ahead
  have waited : budget + (timeout.ceilMillis - budget) = timeout.ceilMillis :=
    Nat.add_sub_of_le (Nat.le_of_lt ahead)
  have trips : (stopping rhythm timeout m staleAfter budget).run?
      [.pass (timeout.ceilMillis - budget), .sentryWakes] =
        some (disturbed rhythm timeout m staleAfter budget) := by
    simp [stopping, disturbed, watchedGuard, armedGuard, run?, next?, new, canWait, taskCanWait,
      isFinished, Recovery.Coordinator.new, Recovery.Coordinator.isRunning, Guard.canWait,
      Guard.sentryReads?, Guard.sentryWakes?, Guard.sentryStops?, Guard.due?, asleep, waited]
  simp [lateRestart, run?_append, run?_probeAsked keeps somebody told, run?_lateAlarm keeps, trips]

/-- The restart of the run to fear is as old as the guard's deadline is away from its call. -/
theorem disturbed_within {bound : Nat} (late : timeout.ceilMillis ≤ bound + budget) :
    RestartsWithin bound (disturbed rhythm timeout m staleAfter budget) := by
  intro number called member
  have same : called = budget := by
    simp only [disturbed, stopping, List.mem_cons, Prod.mk.injEq, reduceCtorEq, and_false,
      List.not_mem_nil, or_false] at member
    exact member.1
  refine ⟨fun ending ended => ?_, fun _ => ?_⟩
  · simp [disturbed, stopping] at ended
  · simp only [disturbed, same]
    omega

end Supervisor

/-! ### Safe settings -/

variable {settings : Settings}

/-- Where the clock can tell the timeout, settings with a guard in software arm it. -/
theorem supervisor?_software (software : settings.liveness.watchdog = .software)
    (positive : 0 < settings.liveness.timeoutSecs.toNat)
    (told : (Clock.deadline? 0 settings.liveness.timeout).isSome) :
    settings.supervisor? 0 0 = .ok (.new settings.liveness.rhythm settings.reach
      settings.telemetry.staleAfter (some (Supervisor.armedGuard settings.liveness.timeout))
      0 0) := by
  have nonzero : settings.liveness.timeout.isZero = false := Span.isZero_ofSecs positive
  have armed := Clock.deadline?_of_isSome told
  simp [Settings.supervisor?, software, Supervisor.armed?, Guard.configure, nonzero, Guard.arm,
    armed, Except.map, Guard.setDeadline, Guard.new, Supervisor.armedGuard]

/-- A timeout of less than a minute is told by any clock within its first minute. -/
theorem told_of_short {now : Nat} (short : settings.liveness.timeoutSecs.toNat < 60)
    (early : now ≤ 60000) : (Clock.deadline? now settings.liveness.timeout).isSome := by
  rw [Clock.deadline?_isSome_iff]
  simp only [Clock.nanos, LivenessSettings.timeout, Span.ofSecs, Span.nanosPerSecond,
    Span.nanosPerMilli, Clock.lastSecond, UInt64.size]
  omega

theorem disturbed_trips {rhythm : Rhythm} {timeout : Span} {m : Reach.Monitor} {staleAfter : Span}
    {budget : Nat} : ¬ (Supervisor.disturbed rhythm timeout m staleAfter budget).Undisturbed := by
  intro undisturbed
  obtain ⟨untripped, -⟩ := undisturbed _ rfl
  simp [Guard.trippedAt?] at untripped

/-- Accepted settings with a guard in software rule out that a shutdown disturbs it exactly when no
client may be asked for, or the timeout outlasts a restart and a cycle's budget. -/
theorem undisturbed_iff (settings : Settings) (accepted : settings.complaint? = .ok none)
    (software : settings.liveness.watchdog = .software) :
    (∀ epoch start first actions s, settings.supervisor? epoch start = .ok first →
      first.run? actions = some s → .abort ∉ actions →
      (Clock.deadline? s.now settings.liveness.timeout).isSome →
      s.RestartsWithin AccessPoint.restartBound.ceilMillis → s.Undisturbed) ↔
    settings.accessPoint.maxClients = 0 ∨
      AccessPoint.restartBound.ceilMillis + settings.liveness.cycleBudget.ceilMillis <
        settings.liveness.timeout.ceilMillis := by
  have keeps := keeps_of_accepted accepted
  have outlasted := Settings.periodSecs_lt_timeoutSecs accepted
  have budget : settings.liveness.cycleBudget.ceilMillis =
      500 * settings.liveness.periodSecs.toNat := Span.ceilMillis_half_ofSecs _
  have timeout : settings.liveness.timeout.ceilMillis =
      1000 * settings.liveness.timeoutSecs.toNat := Span.ceilMillis_ofSecs _
  have bound : AccessPoint.restartBound.ceilMillis = 30000 := Span.ceilMillis_ofSecs _
  constructor
  · intro undisturbed
    by_contra risky
    rw [not_or, bound, budget, timeout, Nat.not_lt] at risky
    obtain ⟨clients, late⟩ := risky
    have somebody : 0 < settings.reach.maxClients :=
      Nat.pos_of_ne_zero fun zero => clients (UInt64.toNat_inj.mp zero)
    -- Settings at risk have a short timeout, which the clock tells all through the run to fear.
    have short : settings.liveness.timeoutSecs.toNat < 60 := by omega
    have told := told_of_short short (Nat.zero_le _)
    refine disturbed_trips (undisturbed 0 0 _ _ _ (supervisor?_software software (by omega) told)
      (Supervisor.run?_lateRestart keeps somebody told) ?_ ?_ ?_)
    · simp [Supervisor.lateRestart, Supervisor.probeAsked, Supervisor.lateAlarm]
    · exact told_of_short short (by simp only [Supervisor.disturbed]; omega)
    · exact Supervisor.disturbed_within (by omega)
  · intro safe epoch start first actions s launched ran unaborted told within
    have working := working_of_supervisor? accepted launched
    obtain ⟨guard, rfl, -⟩ := new_of_supervisor? launched
    rcases safe with clientless | outlasts
    · have deserted : (Supervisor.new settings.liveness.rhythm settings.reach
          settings.telemetry.staleAfter guard epoch start).Deserted :=
        ⟨by simp [Supervisor.new, Recovery.Coordinator.new, Settings.reach, clientless], rfl,
          by simp [Supervisor.new, Recovery.Coordinator.new]⟩
      exact (working.quiet_of_deserted deserted ran unaborted ⟨told, within⟩).undisturbed
    · rw [budget] at outlasts
      exact (working.quiet_of_outlasted .new outlasts ran unaborted ⟨told, within⟩).undisturbed

/-- The default settings with a guard in software that waits for a minute. -/
def patientDefaults : Settings := { liveness := { watchdog := .software, timeoutSecs := 60 } }

/-- A restart begun as late as it may be and as long as it may be, and the end after it. -/
def longRestart : List Action :=
  Supervisor.probeAsked ++
    (Supervisor.lateAlarm 2500 ++ [.pass 30000, .restartEnds 0, .disarm none])

/-- A minute is enough for the default period. -/
theorem long_restart_undisturbed :
    ∃ first s, patientDefaults.supervisor? 0 0 = .ok first ∧ first.run? longRestart = some s ∧
      s.phase = .ended none ∧ s.Undisturbed := by
  obtain ⟨first, launched⟩ : ∃ first, patientDefaults.supervisor? 0 0 = .ok first := ⟨_, rfl⟩
  obtain ⟨s, ran⟩ : ∃ s, first.run? longRestart = some s := by
    cases launched
    exact ⟨_, rfl⟩
  obtain ⟨now, phase, calls, ends⟩ : s.now = 32500 ∧ s.phase = .ended none ∧
      (s.history.filter fun h => h.2 matches .restartCalled _) = [(2500, .restartCalled 0)] ∧
      (s.history.filter fun h => h.2 matches .restartEnded _) = [(32500, .restartEnded 0)] := by
    cases launched
    cases ran
    decide
  have within : s.RestartsWithin AccessPoint.restartBound.ceilMillis := by
    intro number called member
    have only : (called, Happening.restartCalled number) ∈ [(2500, .restartCalled 0)] :=
      calls ▸ List.mem_filter.mpr ⟨member, rfl⟩
    cases List.mem_singleton.mp only
    have ended : (32500, .restartEnded 0) ∈ s.history :=
      (List.mem_filter.mp (ends ▸ List.mem_singleton_self _)).1
    refine ⟨fun ending present => ?_, fun unended => (unended _ ended).elim⟩
    have last : (ending, Happening.restartEnded 0) ∈ [(32500, .restartEnded 0)] :=
      ends ▸ List.mem_filter.mpr ⟨present, rfl⟩
    cases List.mem_singleton.mp last
    decide
  have clear := (undisturbed_iff patientDefaults (by decide) rfl).mpr (by decide)
  refine ⟨first, s, launched, ran, phase, clear 0 0 first longRestart s launched ran ?_ ?_ within⟩
  · simp [longRestart, Supervisor.probeAsked, Supervisor.lateAlarm]
  · rw [now]
    decide

/-- The default timeout is not: a restart that begins 2.5 s after the last confirmation and is still
within its bound holds up the shutdown until the guard trips. -/
theorem default_shutdown_trips :
    softwareDefaults.complaint? = .ok none ∧
    ∃ first s, softwareDefaults.supervisor? 0 0 = .ok first ∧
      first.run? (Supervisor.lateRestart 2500 30000) = some s ∧ s.cancelled = true ∧
      s.RestartsWithin AccessPoint.restartBound.ceilMillis ∧
      s.guard.bind (·.trippedAt?) = some 30000 := by
  refine ⟨by decide, _, Supervisor.disturbed softwareDefaults.liveness.rhythm
    softwareDefaults.liveness.timeout softwareDefaults.reach
    softwareDefaults.telemetry.staleAfter 2500, rfl, rfl, rfl, ?_, rfl⟩
  exact Supervisor.disturbed_within (by decide)

end BridgeWarden.Liveness

import BridgeWarden.Proofs.Liveness.Pace
import BridgeWarden.Proofs.Settings.Accepted

/-!
A supervisor that is not cancelled keeps time, whatever the world around it does.

`Working` is what every such run keeps, and `OnTime` what it shows: a confirmation at each period
from the start on, one report within half a period of each, and a guard that does not trip. That
time can go on at all is said too: from a working state the steps of the system itself lead to
every later instant, with nobody answering (`Working.reaches_later`).
-/

namespace BridgeWarden.Liveness

/-- Whether the supervisor has its work before it or does it. -/
def Phase.isAtWork : Phase → Bool
  | .fresh | .waiting _ | .cycling .. => true
  | .finishing _ | .ended _ | .crashed | .aborted => false

/-- Whether an action takes nobody but the system itself, and time. -/
def Action.isOwn : Action → Bool
  | .begin | .tick | .cutOff | .stop | .restartCalls _ | .sentryReads | .sentryWakes
  | .pass _ => true
  | .answer _ | .disarm _ | .abort | .restartEnds _ | .receive _ | .cancel => false

namespace Supervisor

variable {start period budget : Nat} {timeout : Span} {s s' : Supervisor}

/-! ### Work -/

structure Working (start period budget : Nat) (timeout : Span) (s : Supervisor) : Prop where
  paced : Paced start period budget timeout s
  sound : Sound s
  uncancelled : s.cancelled = false
  atWork : s.phase.isAtWork = true

namespace Working

theorem new {rhythm : Rhythm} (keeps : rhythm.Keeps period budget timeout) (m : Reach.Monitor)
    (staleAfter : Span) {guard : Option Guard} (epoch : Nat)
    (armed : ∀ g, guard = some g →
      g.Standing (some timeout) (some (start + timeout.ceilMillis))) :
    Working start period budget timeout (new rhythm m staleAfter guard epoch start) := by
  refine ⟨⟨keeps, Rhythmic.nil, .fresh rfl rfl rfl, ?_, by simp [Supervisor.new]⟩,
    Sound.new _ _ _ _ _ _, rfl, rfl⟩
  intro g guarded _
  simpa [deadlineAfter, ticks, confirmations, instants, Supervisor.new] using armed g guarded

theorem unended (working : Working start period budget timeout s) (fault : Option Fault) :
    s.phase ≠ .ended fault := by
  intro ended
  simpa [ended, Phase.isAtWork] using working.atWork

theorem patient (working : Working start period budget timeout s) (restart : Option Nat)
    (finishing : s.phase = .finishing restart) :
    s.now < deadlineAfter start period timeout (ticks s.history) := by
  simpa [finishing, Phase.isAtWork] using working.atWork

theorem early (working : Working start period budget timeout s) :
    s.now < deadlineAfter start period timeout (ticks s.history) :=
  working.paced.early working.unended working.patient

theorem step {action : Action} (working : Working start period budget timeout s)
    (stepped : Step s action s') (unaborted : action ≠ .abort)
    (told : (Clock.deadline? s.now timeout).isSome) (uncancelled : s'.cancelled = false) :
    Working start period budget timeout s' := by
  have paced := working.paced.step stepped unaborted told working.patient
  refine ⟨paced, working.sound.step stepped unaborted, uncancelled, ?_⟩
  have placed := paced.placed
  cases stepped with
  | stopped waiting cancelled => simp [working.uncancelled] at cancelled
  | disarmed fault finishing gone => simpa [finishing, Phase.isAtWork] using working.atWork
  | aborted going => exact (unaborted rfl).elim
  | crashed waiting reached untold => cases placed
  | beganToCrash fresh irregular => cases placed
  | began | reported | listing | concluded | cutOff => rfl
  | asked | restartCalled | restartEnded | sentryRead | sentryWoke | received | cancelled
  | passed => exact working.atWork

/-- A run that the clock can follow and that nobody cancels goes on working. -/
theorem run {actions : List Action} (working : Working start period budget timeout s)
    (ran : s.run? actions = some s') (unaborted : .abort ∉ actions)
    (uncancelled : s'.cancelled = false) (told : (Clock.deadline? s'.now timeout).isSome) :
    Working start period budget timeout s' := by
  refine run?_keeps (Working start period budget timeout)
    (fun s => s.cancelled = false ∧ (Clock.deadline? s.now timeout).isSome) ?_ ?_ working ran
    unaborted ⟨uncancelled, told⟩
  · intro s action s' stepped fair
    exact ⟨stepped.uncancelled fair.1,
      Clock.deadline?_isSome_mono stepped.now_le (Nat.le_refl _) fair.2⟩
  · intro s action s' working stepped going before after
    exact working.step stepped going before.2 after.1

end Working

/-! ### Time goes on -/

/-- The system comes from one state to another by itself. -/
def Reaches (s s' : Supervisor) : Prop :=
  ∃ own, (∀ action ∈ own, action.isOwn = true) ∧ s.run? own = some s'

namespace Reaches

theorem refl (s : Supervisor) : s.Reaches s := ⟨[], by simp, rfl⟩

theorem next {action : Action} (computed : s.next? action = some s')
    (own : action.isOwn = true) : s.Reaches s' :=
  ⟨[action], by simpa using own, by simp [run?, computed]⟩

theorem trans {s'' : Supervisor} (first : s.Reaches s') (second : s'.Reaches s'') :
    s.Reaches s'' := by
  obtain ⟨before, beforeOwn, ran⟩ := first
  obtain ⟨after, afterOwn, ranOn⟩ := second
  refine ⟨before ++ after, ?_, by simp [run?_append, ran, ranOn]⟩
  intro action member
  rcases List.mem_append.mp member with member | member
  · exact beforeOwn action member
  · exact afterOwn action member

end Reaches

namespace Working

/-- A working supervisor goes on working with what it does itself, which does not take time. -/
theorem next {action : Action} (working : Working start period budget timeout s)
    (computed : s.next? action = some s') (own : action.isOwn = true)
    (told : (Clock.deadline? s.now timeout).isSome) :
    Working start period budget timeout s' := by
  have stepped := step_of_next? computed
  have going : action ≠ .abort := by
    rintro rfl
    cases own
  have uncancelled : s'.cancelled = false := by
    have still := working.uncancelled
    cases stepped <;> first | exact still | cases own
  exact working.step stepped going told uncancelled

/-- A supervisor that waits for its tick ticks once it is due, and can then wait. -/
theorem ticksWhenDue (working : Working start period budget timeout s) {due : Nat}
    (waiting : s.phase = .waiting due) (told : (Clock.deadline? s.now timeout).isSome) :
    ∃ s', s.Reaches s' ∧ Working start period budget timeout s' ∧ s'.now = s.now ∧
      s'.taskCanWait 1 = true := by
  rcases Nat.lt_or_ge s.now due with ahead | reached
  · refine ⟨s, .refl s, working, rfl, ?_⟩
    simp [taskCanWait, waiting, working.uncancelled, ahead, Nat.succ_le_of_lt ahead]
  · have computed : s.next? .tick = some (s.tick due) := by simp [next?, waiting, reached]
    have ticked := working.next computed rfl told
    refine ⟨_, .next computed rfl, ticked, ?_⟩
    have positive := working.paced.keeps.positive
    have stepped := step_tick waiting reached
    generalize s.tick due = s' at stepped ticked
    cases stepped with
    | crashed waiting reached untold => cases ticked.atWork
    | reported waiting reached confirmed entered =>
        have later := working.paced.now_lt_nextTick waiting reached told
        simp [taskCanWait, working.uncancelled, later, Nat.succ_le_of_lt later]
    | listing waiting reached confirmed free offline =>
        simp [taskCanWait, working.paced.keeps.wake_budget told, positive,
          Nat.succ_le_of_lt positive]

/-- Whatever phase it is in, a working supervisor comes to wait. -/
theorem comesToWait (working : Working start period budget timeout s)
    (told : (Clock.deadline? s.now timeout).isSome) :
    ∃ s', s.Reaches s' ∧ Working start period budget timeout s' ∧ s'.now = s.now ∧
      s'.taskCanWait 1 = true := by
  cases phase : s.phase with
  | fresh =>
      have computed : s.next? .begin = some { s with phase := .waiting s.now } := by
        simp [next?, phase, working.paced.keeps.regular]
      obtain ⟨s', reached, ticked, now, waits⟩ :=
        (working.next computed rfl told).ticksWhenDue rfl told
      exact ⟨s', (Reaches.next computed rfl).trans reached, ticked, now, waits⟩
  | waiting due => exact working.ticksWhenDue phase told
  | cycling cutOff due =>
      rcases Nat.lt_or_ge s.now cutOff with ahead | spent
      · refine ⟨s, .refl s, working, rfl, ?_⟩
        simp [taskCanWait, phase, ahead, Nat.succ_le_of_lt ahead]
      · have computed : s.next? .cutOff =
            some ({ s with coordinator := s.coordinator.drop }.publish .overrun due) := by
          simp [next?, phase, spent]
        obtain ⟨s', reached, ticked, now, waits⟩ :=
          (working.next computed rfl told).ticksWhenDue rfl told
        exact ⟨s', (Reaches.next computed rfl).trans reached, ticked, now, waits⟩
  | finishing | ended | crashed | aborted =>
      have atWork := working.atWork
      simp [phase, Phase.isAtWork] at atWork

/-- At work, restarts have no part in what the supervisor waits for. -/
theorem taskCanWait_of_atWork (atWork : s.phase.isAtWork = true) {millis : Nat}
    (coordinator : Recovery.Coordinator) (history : List (Nat × Happening)) :
    { s with coordinator, history }.taskCanWait millis = s.taskCanWait millis := by
  simp only [taskCanWait]
  cases phase : s.phase with
  | finishing restart => simp [phase, Phase.isAtWork] at atWork
  | fresh | waiting | cycling | ended | crashed | aborted => rfl

/-- Every restart that is not over is soon inside its call. -/
theorem callsRestarts (working : Working start period budget timeout s)
    (waits : s.taskCanWait 1 = true) (told : (Clock.deadline? s.now timeout).isSome) :
    ∃ s', s.Reaches s' ∧ Working start period budget timeout s' ∧ s'.now = s.now ∧
      s'.taskCanWait 1 = true ∧ s'.coordinator.restarts.all (·.2 == .calling) = true := by
  have single := working.sound.custody.single
  match restarts : s.coordinator.restarts with
  | [] => exact ⟨s, .refl s, working, rfl, waits, by simp [restarts]⟩
  | [(number, .calling)] => exact ⟨s, .refl s, working, rfl, waits, by simp [restarts]⟩
  | [(number, .fresh)] =>
      have computed : s.next? (.restartCalls number) =
          some ({ s with coordinator := s.coordinator.restartCalls number }.note
            (.restartCalled number)) := by
        simp [next?, restarts]
      refine ⟨_, .next computed rfl, working.next computed rfl told, rfl, ?_, ?_⟩
      · exact (taskCanWait_of_atWork working.atWork _ _).trans waits
      · simp [note, Recovery.Coordinator.restartCalls, restarts]
  | first :: second :: rest => simp [restarts] at single

/-- A sentry that is about to read the deadline has soon read it. -/
theorem readsDeadline (working : Working start period budget timeout s)
    (waits : s.taskCanWait 1 = true)
    (called : s.coordinator.restarts.all (·.2 == .calling) = true)
    (told : (Clock.deadline? s.now timeout).isSome) :
    ∃ s', s.Reaches s' ∧ Working start period budget timeout s' ∧ s'.now = s.now ∧
      s'.canWait 1 = true := by
  cases guarded : s.guard with
  | none => exact ⟨s, .refl s, working, rfl, by simp [canWait, waits, called, guarded]⟩
  | some g =>
      have standing := working.paced.guarded g guarded working.unended
      have within : s.now + 1 ≤ deadlineAfter start period timeout (ticks s.history) :=
        working.early
      cases reads : g.sentryReads? with
      | none =>
          have asleep := standing.canWait reads working.early within
          exact ⟨s, .refl s, working, rfl, by simp [canWait, waits, called, guarded, asleep]⟩
      | some g' =>
          have computed : s.next? .sentryReads = some { s with guard := some g' } := by
            simp [next?, guarded, reads]
          have asleep := (standing.sentryReads reads).canWait (Guard.sentryReads?_twice reads)
            working.early within
          refine ⟨_, .next computed rfl, working.next computed rfl told, rfl, ?_⟩
          have still : { s with guard := some g' }.taskCanWait 1 = true := waits
          simp [canWait, still, called, asleep]

/-- A millisecond passes. -/
theorem reaches_succ (working : Working start period budget timeout s)
    (told : (Clock.deadline? s.now timeout).isSome) :
    ∃ s', s.Reaches s' ∧ Working start period budget timeout s' ∧ s'.now = s.now + 1 := by
  -- Three may hold up the time, and each goes on by itself: the task, a fresh restart, the sentry.
  obtain ⟨s₁, first, working, now₁, waits⟩ := working.comesToWait told
  rw [← now₁] at told
  obtain ⟨s₂, second, working, now₂, waits, called⟩ := working.callsRestarts waits told
  rw [← now₂] at told
  obtain ⟨s₃, third, working, now₃, waits⟩ := working.readsDeadline waits called told
  rw [← now₃] at told
  have computed : s₃.next? (.pass 1) = some { s₃ with now := s₃.now + 1 } := by
    simp [next?, waits]
  refine ⟨_, ((first.trans second).trans third).trans (.next computed rfl),
    working.next computed rfl told, ?_⟩
  simp [now₁, now₂, now₃]

/-- A working supervisor comes to every instant that the clock can tell. -/
theorem reaches_later (working : Working start period budget timeout s) {later : Nat}
    (after : s.now ≤ later) (told : (Clock.deadline? later timeout).isSome) :
    ∃ s', s.Reaches s' ∧ s'.now = later := by
  obtain ⟨millis, rfl⟩ := Nat.exists_eq_add_of_le after
  induction millis generalizing s with
  | zero => exact ⟨s, .refl s, rfl⟩
  | succ n ih =>
      have toldNow := Clock.deadline?_isSome_mono after (Nat.le_refl _) told
      obtain ⟨s₁, first, working, now⟩ := working.reaches_succ toldNow
      have same : s.now + (n + 1) = s₁.now + n := by omega
      rw [same] at told ⊢
      obtain ⟨s', second, reached⟩ := ih working (Nat.le_add_right _ _) told
      exact ⟨s', first.trans second, reached⟩

end Working

/-! ### On time -/

/-- The supervisor has confirmed the timer once a period from the start on and not missed a tick,
each tick has its one report within half a period, the last one perhaps not yet, and the guard has
not tripped. -/
structure OnTime (start period : Nat) (s : Supervisor) : Prop where
  confirmed : confirmations s.history = (List.range (ticks s.history)).map (start + · * period)
  current : s.now ≤ start + ticks s.history * period
  prompt : ∀ k instant, (publications s.history)[k]? = some instant →
    start + k * period ≤ instant ∧ instant ≤ start + k * period + period / 2
  reported : reports s.history = ticks s.history ∨
    reports s.history + 1 = ticks s.history ∧
      s.now ≤ start + reports s.history * period + period / 2
  untripped : ∀ g, s.guard = some g → g.trippedAt? = none

theorem Working.onTime (working : Working start period budget timeout s)
    (half : budget = period / 2) : OnTime start period s := by
  have brief := working.paced.keeps.brief
  have placed := working.paced.placed
  have atWork := working.atWork
  have standing := fun g guarded => working.paced.guarded g guarded working.unended
  refine ⟨working.paced.rhythmic.confirmed, ?_, half ▸ working.paced.rhythmic.prompt, ?_,
    fun g guarded => (standing g guarded).untripped⟩
  · generalize s.phase = phase at placed atWork
    cases placed with
    | fresh first unticked unreported => omega
    | waiting next before reported => omega
    | cycling next budgeted outstanding since within =>
        rw [outstanding, Nat.add_one_mul]
        omega
    | finishing reported => cases atWork
    | ended reported => cases atWork
  · generalize s.phase = phase at placed atWork
    cases placed with
    | fresh first unticked unreported => omega
    | waiting next before reported => exact Or.inl reported
    | cycling next budgeted outstanding since within => omega
    | finishing reported => cases atWork
    | ended reported => cases atWork

end Supervisor

/-! ### The supervisor of accepted settings -/

variable {settings : Settings}

/-- Accepted settings give a rhythm that the timer outlasts. -/
theorem keeps_of_accepted (accepted : settings.complaint? = .ok none) :
    settings.liveness.rhythm.Keeps (1000 * settings.liveness.periodSecs.toNat)
      (500 * settings.liveness.periodSecs.toNat) settings.liveness.timeout := by
  have positive := Settings.periodSecs_pos accepted
  have outlasted := Settings.periodSecs_lt_timeoutSecs accepted
  have within : settings.liveness.period.nanos ≤ settings.liveness.timeout.nanos :=
    Nat.mul_le_mul_left _ (Nat.le_of_lt outlasted)
  refine ⟨Span.ceilMillis_ofSecs _, Span.ceilMillis_half_ofSecs _, Span.isZero_ofSecs positive,
    by omega, by omega, ?_, within, Nat.le_trans (Span.half_le _) within⟩
  rw [LivenessSettings.timeout, Span.ceilMillis_ofSecs]
  omega

/-- The supervisor of settings is a new one, and a guard in software is armed. -/
theorem new_of_supervisor? {epoch start : Nat} {s : Supervisor}
    (launched : settings.supervisor? epoch start = .ok s) :
    ∃ guard, s = .new settings.liveness.rhythm settings.reach settings.telemetry.staleAfter
        guard epoch start ∧
      ∀ g, guard = some g → g.Standing (some settings.liveness.timeout)
        (some (start + settings.liveness.timeout.ceilMillis)) := by
  simp only [Settings.supervisor?] at launched
  split at launched
  · simp only [Supervisor.armed?] at launched
    cases configured : Guard.new.configure settings.liveness.timeout start with
    | error refusal => simp [configured, Except.map] at launched
    | ok g =>
        simp only [configured, Except.map, Except.ok.injEq] at launched
        refine ⟨some g, launched.symm, fun other same => ?_⟩
        cases same
        exact Guard.standing_of_configure configured
  · cases launched
    exact ⟨none, rfl, by simp⟩

/-- The supervisor of accepted settings is ready to work. -/
theorem working_of_supervisor? (accepted : settings.complaint? = .ok none) {epoch start : Nat}
    {s : Supervisor} (launched : settings.supervisor? epoch start = .ok s) :
    s.Working start (1000 * settings.liveness.periodSecs.toNat)
      (500 * settings.liveness.periodSecs.toNat) settings.liveness.timeout := by
  obtain ⟨guard, rfl, armed⟩ := new_of_supervisor? launched
  exact .new (keeps_of_accepted accepted) _ _ _ armed

/-- Until it is cancelled, the supervisor of accepted settings is on time, whatever the access
point, the clients and the remote site do; and time goes on without them. -/
theorem supervisor_on_time (settings : Settings) {epoch start : Nat} {first s : Supervisor}
    {actions : List Action} (accepted : settings.complaint? = .ok none)
    (launched : settings.supervisor? epoch start = .ok first)
    (ran : first.run? actions = some s) (unaborted : .abort ∉ actions)
    (uncancelled : s.cancelled = false)
    (told : (Clock.deadline? s.now settings.liveness.timeout).isSome) :
    s.OnTime start settings.liveness.period.ceilMillis ∧
    ∀ later, s.now ≤ later → (Clock.deadline? later settings.liveness.timeout).isSome →
      ∃ s', s.Reaches s' ∧ s'.now = later := by
  have working := (working_of_supervisor? accepted launched).run ran unaborted uncancelled told
  have period : settings.liveness.period.ceilMillis = 1000 * settings.liveness.periodSecs.toNat :=
    Span.ceilMillis_ofSecs _
  rw [period]
  exact ⟨working.onTime (by omega), fun later after => working.reaches_later after⟩

/-- The default settings, with a guard in software for a timer. -/
def softwareDefaults : Settings := { liveness := { watchdog := .software } }

/-- A cycle that nobody answers, up to the next tick. -/
def unanswered : List Action :=
  [.begin, .tick, .sentryReads, .pass 2500, .cutOff, .pass 2500, .tick]

theorem unanswered_on_time :
    ∃ first s, softwareDefaults.supervisor? 0 0 = .ok first ∧ first.run? unanswered = some s ∧
      Supervisor.confirmations s.history = [0, 5000] ∧ s.OnTime 0 5000 ∧
      ∃ s', s.Reaches s' ∧ s'.now = 60000 := by
  obtain ⟨first, launched⟩ : ∃ first, softwareDefaults.supervisor? 0 0 = .ok first := ⟨_, rfl⟩
  obtain ⟨s, ran⟩ : ∃ s, first.run? unanswered = some s := by
    cases launched
    exact ⟨_, rfl⟩
  obtain ⟨shown, uncancelled, now⟩ : Supervisor.confirmations s.history = [0, 5000] ∧
      s.cancelled = false ∧ s.now = 5000 := by
    cases launched
    cases ran
    decide
  obtain ⟨onTime, goesOn⟩ := supervisor_on_time softwareDefaults (by decide) launched ran
    (by simp [unanswered]) uncancelled (by rw [now]; decide)
  exact ⟨first, s, launched, ran, shown, onTime, goesOn 60000 (by omega) (by decide)⟩

end BridgeWarden.Liveness

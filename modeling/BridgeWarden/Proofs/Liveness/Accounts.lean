import BridgeWarden.Proofs.Liveness.Steps
import Mathlib.Data.List.Induction

/-!
The accounts of a supervisor.

The calls of restarts, the reports that say that a restart was begun, and the recoveries that the
device shows are counted in three places. `Balanced` compares each count with the number of
restarts begun, and every step keeps it, one that drops a cycle or ends the supervisor from outside
included. A cycle that is cut off leaves the coordinator as it found it, but for a restart that is
over (`Cycle`), so that the next cycle begins as if there had been none
(`restarts_accounted`).
-/

namespace BridgeWarden

/-! ### Reports and restarts -/

namespace Recovery

theorem needsRecovery_iff {outcome : Reach.Outcome} :
    outcome.needsRecovery = true ↔ ∃ client address, outcome = .unreachable client address := by
  constructor
  · intro needs
    cases outcome with
    | unreachable client address => exact ⟨client, address, rfl⟩
    | noClients | reachable | indeterminate => cases needs
  · rintro ⟨client, address, rfl⟩
    rfl

/-- A report says that a restart was begun exactly when a client did not answer. -/
def Report.Truthful (report : Report) : Prop :=
  ∀ outcome started, report = .checked outcome started →
    (started = true ↔ ∃ client address, outcome = .unreachable client address)

theorem Report.truthful_inFlight : Report.Truthful .inFlight := by
  rintro outcome started ⟨⟩

theorem Report.truthful_suppressed : Report.Truthful .suppressed := by
  rintro outcome started ⟨⟩

theorem Report.truthful_checked (outcome : Reach.Outcome) :
    Report.Truthful (.checked outcome outcome.needsRecovery) := by
  rintro other started ⟨⟩
  exact needsRecovery_iff

theorem Report.truthful_overrun : Report.Truthful .overrun := Report.truthful_checked _

namespace Coordinator

variable {c : Coordinator}

/-- How many restarts have not made their call yet. -/
def uncalled (c : Coordinator) : Nat := c.restarts.countP (·.2 == .fresh)

theorem uncalled_beginRestart (now wall : Nat) :
    (c.beginRestart now wall).uncalled = c.uncalled + 1 := by
  unfold uncalled beginRestart
  rw [List.countP_append]
  rfl

theorem uncalled_of_calling (calling : c.restarts.all (·.2 == .calling) = true) :
    c.uncalled = 0 := by
  unfold uncalled
  rw [List.countP_eq_zero]
  intro r member fresh
  have called : r.2 = .calling := by simpa using List.all_eq_true.mp calling r member
  simp [called] at fresh

namespace Custody

variable {awaited : Option Nat} {number : Nat}

/-- The call of a restart is made once. -/
theorem uncalled_restartCalls (custody : Custody c awaited)
    (begun : (number, .fresh) ∈ c.restarts) :
    (c.restartCalls number).uncalled + 1 = c.uncalled := by
  have only := custody.restarts_eq begun
  simp [uncalled, Coordinator.restartCalls, only]

theorem uncalled_restartEnds (custody : Custody c awaited)
    (called : (number, .calling) ∈ c.restarts) :
    (c.restartEnds number).uncalled = c.uncalled := by
  have only := custody.restarts_eq called
  simp [uncalled, Coordinator.restartEnds, only]

end Custody

/-- A report that a cycle has at once says nothing of clients. -/
theorem truthful_of_begin {remote : Remote.Suppression} {became : Coordinator} {report : Report}
    (entered : c.begin remote = (became, some report)) :
    report = .inFlight ∨ report = .suppressed := by
  cases busy : c.isBusy with
  | true =>
      rw [begin_of_busy busy] at entered
      cases entered
      exact Or.inl rfl
  | false =>
      cases online : remote.suppresses with
      | true =>
          rw [begin_of_suppressed busy online] at entered
          cases entered
          exact Or.inr rfl
      | false =>
          rw [begin_of_free busy online] at entered
          cases entered

end Coordinator

end Recovery

namespace Liveness.Supervisor

open Recovery (Coordinator Report)

variable {s s' : Supervisor} {action : Action} {c : Coordinator}
variable {history : List (Nat × Happening)} {now : Nat}

/-! ### Three counts -/

/-- Whether a restart is called. -/
def isCall : Happening → Bool
  | .restartCalled _ => true
  | .confirmed | .asked _ | .published _ | .restartEnded _ | .disarmed _ => false

/-- How many calls of restarts began. -/
def calls (history : List (Nat × Happening)) : Nat := history.countP (isCall ·.2)

/-- How many reports said that a restart was begun. -/
def alarms (history : List (Nat × Happening)) : Nat :=
  history.countP (·.2 matches .published (.checked _ true))

@[simp] theorem calls_called {number : Nat} :
    calls ((now, .restartCalled number) :: history) = calls history + 1 := by
  simp [calls, isCall]

@[simp] theorem alarms_alarm {outcome : Reach.Outcome} :
    alarms ((now, .published (.checked outcome true)) :: history) = alarms history + 1 := by
  simp [alarms]

structure Balanced (c : Coordinator) (history : List (Nat × Happening)) : Prop where
  shown : c.display.recoveries = c.begun
  reported : alarms history = c.begun
  called : calls history + c.uncalled = c.begun
  truthful : ∀ instant report, (instant, .published report) ∈ history → report.Truthful

namespace Balanced

theorem new (m : Reach.Monitor) (start : Nat) : Balanced (.new m (.new start)) [] := by
  refine ⟨rfl, rfl, rfl, ?_⟩
  intro instant report member
  cases member

/-- A happening that none of the three counts. -/
theorem silent (balanced : Balanced c history) {h : Happening}
    (uncalled : ∀ number, h ≠ .restartCalled number)
    (unreported : ∀ report, h ≠ .published report) :
    Balanced c ((now, h) :: history) := by
  have alike : calls ((now, h) :: history) = calls history ∧
      alarms ((now, h) :: history) = alarms history := by
    cases h with
    | restartCalled number => exact (uncalled number rfl).elim
    | published report => exact (unreported report rfl).elim
    | confirmed | asked | restartEnded | disarmed => exact ⟨rfl, rfl⟩
  refine ⟨balanced.shown, ?_, ?_, ?_⟩
  · rw [alike.2, balanced.reported]
  · rw [alike.1, balanced.called]
  · intro instant report member
    rcases List.mem_cons.mp member with same | earlier
    · cases same
      exact (unreported report rfl).elim
    · exact balanced.truthful instant report earlier

/-- A report of a cycle that began no restart. -/
theorem publish (balanced : Balanced c history) {report : Report} (truthful : report.Truthful)
    (calm : ∀ outcome, report ≠ .checked outcome true) :
    Balanced c ((now, .published report) :: history) := by
  have quiet : alarms ((now, .published report) :: history) = alarms history := by
    rcases report with _ | _ | ⟨outcome, started⟩
    · rfl
    · rfl
    · cases started with
      | true => exact (calm outcome rfl).elim
      | false => rfl
  refine ⟨balanced.shown, quiet ▸ balanced.reported, balanced.called, ?_⟩
  intro instant other member
  rcases List.mem_cons.mp member with same | earlier
  · cases same
    exact truthful
  · exact balanced.truthful instant other earlier

/-- A cycle that begins a restart shows and reports it. -/
theorem alarm (balanced : Balanced c history) (wall : Nat) (client : Mac) (address : Ipv4) :
    Balanced (c.beginRestart now wall)
      ((now, .published (.checked (.unreachable client address) true)) :: history) := by
  refine ⟨?_, ?_, ?_, ?_⟩
  · exact congrArg (· + 1) balanced.shown
  · rw [alarms_alarm, balanced.reported]
    rfl
  · rw [Coordinator.uncalled_beginRestart]
    exact congrArg (· + 1) balanced.called
  · intro instant report member
    rcases List.mem_cons.mp member with same | earlier
    · cases same
      exact Report.truthful_checked (.unreachable client address)
    · exact balanced.truthful instant report earlier

/-- The call of a restart that was begun. -/
theorem call (balanced : Balanced c history) {awaited : Option Nat}
    (custody : c.Custody awaited) {number : Nat} (begun : (number, .fresh) ∈ c.restarts) :
    Balanced (c.restartCalls number) ((now, .restartCalled number) :: history) := by
  refine ⟨balanced.shown, balanced.reported, ?_, ?_⟩
  · have fewer := custody.uncalled_restartCalls begun
    have called := balanced.called
    rw [calls_called]
    change calls history + 1 + (c.restartCalls number).uncalled = c.begun
    omega
  · intro instant report member
    rcases List.mem_cons.mp member with same | earlier
    · cases same
    · exact balanced.truthful instant report earlier

/-- The end of a restart that was called. -/
theorem ended (balanced : Balanced c history) {awaited : Option Nat}
    (custody : c.Custody awaited) {number : Nat} (called : (number, .calling) ∈ c.restarts) :
    Balanced (c.restartEnds number) ((now, .restartEnded number) :: history) := by
  have kept : Balanced (c.restartEnds number) history := by
    refine ⟨balanced.shown, balanced.reported, ?_, balanced.truthful⟩
    rw [custody.uncalled_restartEnds called]
    exact balanced.called
  exact kept.silent (by simp) (by simp)

/-- The coordinator's survey and what it holds on to are not counted. -/
theorem frame (balanced : Balanced c history) (survey : Option Reach.Survey)
    (held : Option Nat) : Balanced { c with survey, held } history :=
  ⟨balanced.shown, balanced.reported, balanced.called, balanced.truthful⟩

end Balanced

/-! ### Custody and surveys, up to an end from outside -/

/-- After an end from outside only restarts go on. -/
theorem Step.of_aborted (stepped : Step s action s') (aborted : s.phase = .aborted) :
    s'.phase = .aborted ∧
      (s'.coordinator = s.coordinator ∨
        (∃ number, s'.coordinator = s.coordinator.restartCalls number) ∨
        ∃ number, s'.coordinator = s.coordinator.restartEnds number) := by
  cases stepped with
  | began fresh | beganToCrash fresh => simp [aborted] at fresh
  | crashed waiting | reported waiting | listing waiting | stopped waiting =>
      simp [aborted] at waiting
  | asked query cycling told => simp [aborted] at cycling
  | concluded cycling told => simp [aborted] at cycling
  | cutOff cycling spent => simp [aborted] at cycling
  | disarmed fault finishing gone => simp [aborted] at finishing
  | aborted going => simp [isOver, aborted] at going
  | restartCalled begun => exact ⟨aborted, Or.inr (Or.inl ⟨_, rfl⟩)⟩
  | restartEnded called => exact ⟨aborted, Or.inr (Or.inr ⟨_, rfl⟩)⟩
  | sentryRead | sentryWoke | received | cancelled | passed => exact ⟨aborted, Or.inl rfl⟩

structure Kept (s : Supervisor) : Prop where
  custody : ∃ awaited, s.coordinator.Custody awaited
  sound : s.phase ≠ .aborted → Sound s
  surveyed : s.coordinator.survey.isSome →
    (∃ cutOff due, s.phase = .cycling cutOff due) ∨ s.phase = .aborted

namespace Kept

theorem new (rhythm : Rhythm) (m : Reach.Monitor) (staleAfter : Span) (guard : Option Guard)
    (epoch start : Nat) : Kept (new rhythm m staleAfter guard epoch start) := by
  have sound := Sound.new rhythm m staleAfter guard epoch start
  refine ⟨⟨_, sound.custody⟩, fun _ => sound, ?_⟩
  intro surveyed
  cases surveyed

/-- While the supervisor waits for a tick no survey is under way. -/
theorem unsurveyed (kept : Kept s) {due : Nat} (waiting : s.phase = .waiting due) :
    s.coordinator.survey = none := by
  cases survey : s.coordinator.survey with
  | none => rfl
  | some underWay =>
      rcases kept.surveyed (by simp [survey]) with ⟨cutOff, next, cycling⟩ | aborted
      · simp [waiting] at cycling
      · simp [waiting] at aborted

theorem step (kept : Kept s) (stepped : Step s action s') : Kept s' := by
  have surveyed : s'.coordinator.survey.isSome →
      (∃ cutOff due, s'.phase = .cycling cutOff due) ∨ s'.phase = .aborted := by
    have before := kept.surveyed
    cases stepped with
    | began fresh | beganToCrash fresh => simpa [fresh] using before
    | crashed waiting => simpa [waiting] using before
    | @reported due guard coordinator report waiting reached confirmed entered =>
        obtain ⟨held, rfl⟩ := Coordinator.held_of_begin entered
        simp [kept.unsurveyed waiting]
    | listing => exact fun _ => Or.inl ⟨_, _, rfl⟩
    | asked query cycling told => exact fun _ => Or.inl ⟨_, _, cycling⟩
    | concluded cycling told =>
        cases told with
        | settled underWay told calm => simp
        | alarmed underWay told => simp [Coordinator.beginRestart]
    | cutOff cycling spent => simp [Coordinator.drop]
    | stopped waiting cancelled => simp [Coordinator.release, kept.unsurveyed waiting]
    | disarmed fault finishing gone => simpa [finishing] using before
    | aborted => exact fun _ => Or.inr rfl
    | restartCalled | restartEnded | sentryRead | sentryWoke | received | cancelled | passed =>
        exact before
  by_cases aborted : s.phase = .aborted
  · obtain ⟨still, became⟩ := stepped.of_aborted aborted
    refine ⟨?_, fun going => (going still).elim, surveyed⟩
    obtain ⟨awaited, custody⟩ := kept.custody
    rcases became with same | ⟨number, same⟩ | ⟨number, same⟩
    · exact ⟨awaited, same ▸ custody⟩
    · exact ⟨awaited, same ▸ custody.restartCalls number⟩
    · exact ⟨awaited, same ▸ custody.restartEnds number⟩
  · have sound := kept.sound aborted
    by_cases ends : action = .abort
    · subst ends
      cases stepped
      exact ⟨kept.custody, fun going => (going rfl).elim, surveyed⟩
    · have sound' := sound.step stepped ends
      exact ⟨⟨_, sound'.custody⟩, fun _ => sound', surveyed⟩

end Kept

/-! ### The accounts of a run -/

theorem Balanced.step (balanced : Balanced s.coordinator s.history) (kept : Kept s)
    (stepped : Step s action s') : Balanced s'.coordinator s'.history := by
  obtain ⟨awaited, custody⟩ := kept.custody
  cases stepped with
  | began | beganToCrash | aborted | sentryRead | sentryWoke | received | cancelled | passed =>
      exact balanced
  | crashed => exact balanced.silent (by simp) (by simp)
  | disarmed => exact balanced.silent (by simp) (by simp)
  | @reported due guard coordinator report waiting reached confirmed entered =>
      obtain ⟨held, rfl⟩ := Coordinator.held_of_begin entered
      have ticked : Balanced { s.coordinator with held } ((s.now, .confirmed) :: s.history) :=
        (balanced.silent (by simp) (by simp)).frame s.coordinator.survey held
      rcases Coordinator.truthful_of_begin entered with rfl | rfl
      · exact ticked.publish Report.truthful_inFlight (by simp)
      · exact ticked.publish Report.truthful_suppressed (by simp)
  | listing =>
      have ticked : Balanced s.coordinator ((s.now, .asked .list) :: (s.now, .confirmed) ::
          s.history) := (balanced.silent (by simp) (by simp)).silent (by simp) (by simp)
      exact ticked.frame (some .listing) none
  | asked query cycling told =>
      cases told with
      | @further survey next query underWay told asks =>
          exact (balanced.silent (by simp) (by simp)).frame (some next) s.coordinator.held
  | concluded cycling told =>
      have dropped := balanced.frame none s.coordinator.held
      cases told with
      | @settled survey outcome underWay told calm =>
          exact dropped.publish (calm ▸ Report.truthful_checked outcome) (by simp)
      | alarmed underWay told => exact dropped.alarm s.wall _ _
  | cutOff =>
      have dropped := balanced.frame none s.coordinator.held
      exact dropped.publish Report.truthful_overrun (by simp [Report.overrun])
  | stopped => exact balanced.frame s.coordinator.survey none
  | restartCalled begun => exact balanced.call custody begun
  | restartEnded called => exact balanced.ended custody called

theorem kept_and_balanced {rhythm : Rhythm} {m : Reach.Monitor} {staleAfter : Span}
    {guard : Option Guard} {epoch start : Nat} {actions : List Action}
    (ran : (new rhythm m staleAfter guard epoch start).run? actions = some s) :
    Kept s ∧ Balanced s.coordinator s.history := by
  rw [run?_eq_foldlM] at ran
  refine Runs.keeps (fun s => Kept s ∧ Balanced s.coordinator s.history) ?_ ?_ ran
  · rintro s action s' ⟨kept, balanced⟩ - computed
    have stepped := step_of_next? computed
    exact ⟨kept.step stepped, balanced.step kept stepped⟩
  · exact ⟨Kept.new rhythm m staleAfter guard epoch start, Balanced.new m start⟩

/-- While all tasks wait every restart that was begun has been called. -/
theorem uncalled_of_canWait {millis : Nat} (waits : s.canWait millis = true) :
    s.coordinator.uncalled = 0 := by
  unfold canWait at waits
  rw [Bool.and_eq_true, Bool.and_eq_true] at waits
  exact Coordinator.uncalled_of_calling waits.1.2

/-! ### A cycle that is cut off -/

/-- How a supervisor that was about to begin a cycle compares with what it has become within it. -/
structure Cycle (began : Supervisor) (c : Coordinator) (history : List (Nat × Happening)) :
    Prop where
  free : began.coordinator.isBusy = false
  idle : began.coordinator.restarts = []
  unsurveyed : began.coordinator.survey = none
  surveying : ∃ survey, c = { began.coordinator with held := none, survey }
  calls : calls history = calls began.history

namespace Cycle

variable {began : Supervisor}

/-- In a cycle there is no restart. -/
theorem restarts (cycle : Cycle began c history) : c.restarts = [] := by
  obtain ⟨survey, same⟩ := cycle.surveying
  rw [same]
  exact cycle.idle

theorem step (cycle : Cycle began s.coordinator s.history)
    (cycling : ∃ cutOff due, s.phase = .cycling cutOff due) (stepped : Step s action s')
    (still : ∃ cutOff due, s'.phase = .cycling cutOff due) :
    action ≠ .tick ∧ Cycle began s'.coordinator s'.history := by
  obtain ⟨cutOff, due, cycling⟩ := cycling
  obtain ⟨cutOff', due', still⟩ := still
  cases stepped with
  | began fresh | beganToCrash fresh => simp [cycling] at fresh
  | crashed waiting | reported waiting | listing waiting | stopped waiting =>
      simp [cycling] at waiting
  | disarmed fault finishing gone => simp [cycling] at finishing
  | concluded | cutOff | aborted => cases still
  | asked query underWay told =>
      cases told with
      | @further survey next query underWay told asks =>
          obtain ⟨survey, same⟩ := cycle.surveying
          refine ⟨by simp, cycle.free, cycle.idle, cycle.unsurveyed, ⟨some next, ?_⟩, ?_⟩
          · rw [same]
          · rw [← cycle.calls]
            rfl
  | restartCalled begun => simp [cycle.restarts] at begun
  | restartEnded called => simp [cycle.restarts] at called
  | sentryRead | sentryWoke | received | cancelled | passed => exact ⟨by simp, cycle⟩

/-- What a cut-off leaves of the coordinator. -/
theorem drop_eq (cycle : Cycle began c history) :
    c.drop = { began.coordinator with held := none } := by
  obtain ⟨survey, same⟩ := cycle.surveying
  simp only [Coordinator.drop, same, cycle.unsurveyed]

/-- The next cycle does not see that a cycle was cut off. -/
theorem begin_drop (cycle : Cycle began c history) (remote : Remote.Suppression) :
    c.drop.begin remote = began.coordinator.begin remote := by
  rw [cycle.drop_eq]
  have free : { began.coordinator with held := none }.isBusy = false := rfl
  cases online : remote.suppresses with
  | true => rw [Coordinator.begin_of_suppressed free online,
      Coordinator.begin_of_suppressed cycle.free online]
  | false => rw [Coordinator.begin_of_free free online,
      Coordinator.begin_of_free cycle.free online]

end Cycle

/-- A run that ends in a cycle began the cycle with a tick. -/
theorem cycle_of_run {rhythm : Rhythm} {m : Reach.Monitor} {staleAfter : Span}
    {guard : Option Guard} {epoch start : Nat} {actions : List Action}
    (ran : (new rhythm m staleAfter guard epoch start).run? actions = some s)
    (cycling : ∃ cutOff due, s.phase = .cycling cutOff due) :
    ∃ before within began, actions = before ++ .tick :: within ∧ .tick ∉ within ∧
      (new rhythm m staleAfter guard epoch start).run? before = some began ∧
      Cycle began s.coordinator s.history := by
  induction actions using List.reverseRecOn generalizing s with
  | nil =>
      cases ran
      obtain ⟨cutOff, due, cycling⟩ := cycling
      cases cycling
  | append_singleton earlier action ih =>
      rw [run?_append, Option.bind_eq_some_iff] at ran
      obtain ⟨middle, ranTo, last⟩ := ran
      have computed : middle.next? action = some s := by simpa [run?] using last
      have stepped := step_of_next? computed
      have kept := (kept_and_balanced ranTo).1
      by_cases already : ∃ cutOff due, middle.phase = .cycling cutOff due
      · obtain ⟨before, within, began, rfl, unticked, ranBefore, cycle⟩ := ih ranTo already
        obtain ⟨going, cycle'⟩ := cycle.step already stepped cycling
        refine ⟨before, within ++ [action], began, by simp, ?_, ranBefore, cycle'⟩
        intro member
        rcases List.mem_append.mp member with inside | same
        · exact unticked inside
        · exact going (List.mem_singleton.mp same).symm
      · obtain ⟨cutOff, due, cycling⟩ := cycling
        cases stepped with
        | listing waiting reached confirmed free offline =>
            have alone := (kept.sound (by simp [waiting])).alone (by simp [awaited, waiting])
            refine ⟨earlier, [], middle, rfl, by simp, ranTo, free, alone.restarts_of_free free,
              kept.unsurveyed waiting, ⟨some .listing, rfl⟩, rfl⟩
        | began | beganToCrash | crashed | reported | concluded | cutOff | stopped | disarmed
        | aborted => cases cycling
        | asked query underWay told => exact (already ⟨_, _, underWay⟩).elim
        | restartCalled | restartEnded | sentryRead | sentryWoke | received | cancelled | passed =>
            exact (already ⟨_, _, cycling⟩).elim

/-! ### The accounts -/

/-- Whatever the world around a supervisor does: once all tasks wait, there were as many calls of
restarts as reports of one and as recoveries shown; a report of a restart names a client that did
not answer, and the other way round; and a cycle that is cut off is reported as undetermined, and
leaves the restarts, the display and what the next cycle does as they were when it began. -/
theorem restarts_accounted (rhythm : Rhythm) (m : Reach.Monitor) (staleAfter : Span)
    (guard : Option Guard) (epoch start : Nat) {actions : List Action}
    (ran : (new rhythm m staleAfter guard epoch start).run? actions = some s) :
    (s.canWait 0 = true →
      calls s.history = alarms s.history ∧
      alarms s.history = (s.coordinator.display.status s.now).recoveries) ∧
    (∀ instant outcome started,
      (instant, .published (.checked outcome started)) ∈ s.history →
      (started = true ↔ ∃ client address, outcome = .unreachable client address)) ∧
    ∀ s', s.next? .cutOff = some s' →
      s'.history = (s.now,
        .published (.checked (.indeterminate "cycle exceeded its time budget") false)) ::
          s.history ∧
      ∃ before within began, actions = before ++ .tick :: within ∧ .tick ∉ within ∧
        (new rhythm m staleAfter guard epoch start).run? before = some began ∧
        calls s'.history = calls began.history ∧
        s'.coordinator = { began.coordinator with held := none } ∧
        began.coordinator.isBusy = false ∧
        ∀ remote, s'.coordinator.begin remote = began.coordinator.begin remote := by
  obtain ⟨kept, balanced⟩ := kept_and_balanced ran
  refine ⟨?_, ?_, ?_⟩
  · intro waits
    have called := balanced.called
    rw [uncalled_of_canWait waits, Nat.add_zero] at called
    exact ⟨called.trans balanced.reported.symm, balanced.reported.trans balanced.shown.symm⟩
  · intro instant outcome started member
    exact balanced.truthful instant _ member outcome started rfl
  · intro s' computed
    cases step_of_next? computed with
    | cutOff cycling spent =>
        obtain ⟨before, within, began, split, unticked, ranBefore, cycle⟩ :=
          cycle_of_run ran ⟨_, _, cycling⟩
        exact ⟨rfl, before, within, began, split, unticked, ranBefore, cycle.calls,
          cycle.drop_eq, cycle.free, cycle.begin_drop⟩

/-- A supervisor with a period of five seconds, and half of that for a cycle. -/
def fiveSecondly : Supervisor :=
  new ⟨.ofSecs 5, (Span.ofSecs 5).half⟩ ⟨.ofSecs 1, 4⟩ (.ofSecs 30) none 0 0

/-- A client that does not answer, and the call of the restart that this calls for. -/
def silentClient : List Action :=
  [.begin, .tick, .answer (.clients (.ok [default])), .answer (.lease (.ok (some default))),
    .answer (.probe (.ok false)), .restartCalls 0, .pass 1000]

/-- The restart is over, and the client's lease is not told within the budget of the next cycle. -/
def silentLease : List Action :=
  silentClient ++
    [.restartEnds 0, .pass 4000, .tick, .answer (.clients (.ok [default])), .pass 2500]

/-- One restart is called, reported and shown, and the cycle after it, which is cut off, leaves it
at that. -/
theorem cut_off_accounted :
    ∃ s₁ s₂ s', fiveSecondly.run? silentClient = some s₁ ∧ s₁.canWait 0 = true ∧
      calls s₁.history = 1 ∧ calls s₁.history = alarms s₁.history ∧
      fiveSecondly.run? silentLease = some s₂ ∧ s₂.next? .cutOff = some s' ∧
      ∃ (before within : List Action) (began : Supervisor),
        silentLease = before ++ .tick :: within ∧ calls s'.history = calls began.history ∧
        ∀ remote, s'.coordinator.begin remote = began.coordinator.begin remote := by
  obtain ⟨s₁, ran₁, waits, called⟩ : ∃ s₁, fiveSecondly.run? silentClient = some s₁ ∧
      s₁.canWait 0 = true ∧ calls s₁.history = 1 := ⟨_, rfl, by decide, by decide⟩
  obtain ⟨s₂, s', ran₂, cut⟩ : ∃ s₂ s', fiveSecondly.run? silentLease = some s₂ ∧
      s₂.next? .cutOff = some s' := ⟨_, _, rfl, rfl⟩
  obtain ⟨counted, -, -⟩ := restarts_accounted _ _ _ _ _ _ ran₁
  obtain ⟨-, -, left⟩ := restarts_accounted _ _ _ _ _ _ ran₂
  obtain ⟨-, before, within, began, split, -, -, uncalled, -, -, unseen⟩ := left s' cut
  exact ⟨s₁, s₂, s', ran₁, waits, called, (counted waits).1, ran₂, cut, before, within, began,
    split, uncalled, unseen⟩

end Liveness.Supervisor

end BridgeWarden

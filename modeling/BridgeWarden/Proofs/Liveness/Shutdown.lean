import BridgeWarden.AccessPoint.Control
import BridgeWarden.Proofs.Liveness.Progress

/-!
Shutdowns that leave the guard alone.

A cancelled supervisor confirms no more, and waits for a restart that may have begun up to a budget
after the last confirmation (`Timely`) and may take as long as its bound (`RestartsWithin`). The
deadline stays ahead all the while when the two together fit below the timeout
(`Working.quiet_of_outlasted`), and when no client may ever be asked for
(`Working.quiet_of_deserted`).
-/

namespace BridgeWarden.Liveness.Supervisor

variable {start period budget bound : Nat} {timeout : Span} {s s' : Supervisor} {action : Action}

/-! ### Restarts within a bound -/

/-- Every restart that was called ended within the bound, or may still do so. -/
def RestartsWithin (bound : Nat) (s : Supervisor) : Prop :=
  ∀ number called, (called, .restartCalled number) ∈ s.history →
    (∀ ending, (ending, .restartEnded number) ∈ s.history → ending ≤ called + bound) ∧
    ((∀ ending, (ending, .restartEnded number) ∉ s.history) → s.now ≤ called + bound)

/-- What a step adds to the history has the instant of the step. -/
theorem Step.history (stepped : Step s action s') :
    ∃ later, s'.history = later ++ s.history ∧ ∀ entry ∈ later, entry.1 = s.now := by
  cases stepped with
  | began | beganToCrash | stopped | aborted | sentryRead | sentryWoke | received | cancelled
  | passed => exact ⟨[], rfl, by simp⟩
  | crashed | asked | concluded | cutOff | disarmed | restartCalled | restartEnded =>
      exact ⟨[_], rfl, by simp⟩
  | reported | listing => exact ⟨[_, _], rfl, by simp⟩

/-- A run whose restarts end within a bound never had one that was older. -/
theorem RestartsWithin.back (stepped : Step s action s') (within : RestartsWithin bound s') :
    RestartsWithin bound s := by
  obtain ⟨later, grown, dated⟩ := stepped.history
  have known : ∀ entry ∈ s.history, entry ∈ s'.history := by
    intro entry member
    rw [grown]
    exact List.mem_append_right later member
  intro number called member
  obtain ⟨ended, outstanding⟩ := within number called (known _ member)
  refine ⟨fun ending present => ended ending (known _ present), fun unended => ?_⟩
  -- A restart that is not over here is over at the end of the step, or as old as it is then.
  by_cases soon : ∃ ending, (ending, .restartEnded number) ∈ s'.history
  · obtain ⟨ending, present⟩ := soon
    have bounded := ended ending present
    rw [grown] at present
    rcases List.mem_append.mp present with new | old
    · have same : ending = s.now := dated _ new
      exact same ▸ bounded
    · exact (unended ending old).elim
  · have bounded := outstanding fun ending present => soon ⟨ending, present⟩
    exact Nat.le_trans stepped.now_le bounded

/-! ### The deadline ahead -/

/-- What a run keeps whose supervisor never waits beyond the deadline. -/
structure Quiet (start period budget : Nat) (timeout : Span) (s : Supervisor) : Prop where
  paced : Paced start period budget timeout s
  sound : Sound s
  patient : ∀ restart, s.phase = .finishing restart →
    s.now < deadlineAfter start period timeout (ticks s.history)

theorem Working.quiet (working : Working start period budget timeout s) :
    Quiet start period budget timeout s :=
  ⟨working.paced, working.sound, working.patient⟩

namespace Quiet

/-- Only to wait for a restart can bring the deadline closer. -/
theorem step (quiet : Quiet start period budget timeout s) (stepped : Step s action s')
    (unaborted : action ≠ .abort) (told : (Clock.deadline? s.now timeout).isSome)
    (brisk : ∀ restart millis, s.phase = .finishing restart → s.canWait millis = true →
      s' = { s with now := s.now + millis } →
      s.now + millis < deadlineAfter start period timeout (ticks s.history)) :
    Quiet start period budget timeout s' := by
  refine ⟨quiet.paced.step stepped unaborted told quiet.patient,
    quiet.sound.step stepped unaborted, ?_⟩
  intro restart finishing
  -- Only the end of the wait for ticks leads into this phase, and only time passes within it.
  cases stepped with
  | began | beganToCrash | crashed | reported | listing | concluded | cutOff | disarmed =>
      cases finishing
  | stopped waiting cancelled =>
      refine quiet.paced.early ?_ ?_ <;> simp [waiting]
  | aborted going => exact (unaborted rfl).elim
  | asked query cycling told => simp [cycling] at finishing
  | restartCalled begun =>
      rw [ticks_silent ⟨by simp, by simp⟩]
      exact quiet.patient restart finishing
  | restartEnded called =>
      rw [ticks_silent ⟨by simp, by simp⟩]
      exact quiet.patient restart finishing
  | sentryRead | sentryWoke | received | cancelled => exact quiet.patient restart finishing
  | passed waits => exact brisk restart _ finishing waits rfl

end Quiet

/-- Whoever waits for a restart waits for one that is inside its call. -/
theorem calling_of_canWait {restart : Option Nat} {millis : Nat}
    (finishing : s.phase = .finishing restart) (waits : s.canWait millis = true) :
    ∃ number, (number, .calling) ∈ s.coordinator.restarts := by
  simp only [canWait, taskCanWait, finishing, isFinished, Bool.not_not, Bool.and_eq_true,
    Option.any_eq_true] at waits
  obtain ⟨⟨⟨number, -, running⟩, calling⟩, -⟩ := waits
  obtain ⟨progress, member⟩ := Recovery.Coordinator.isRunning_iff.mp running
  have called : progress = .calling := by
    simpa using List.all_eq_true.mp calling (number, progress) member
  exact ⟨number, called ▸ member⟩

/-! ### When restarts begin -/

/-- The last instant at which a cycle of the last tick may begin a restart. -/
def lastAlarm (start period budget ticks : Nat) : Nat := start + (ticks - 1) * period + budget

theorem lastAlarm_mono {fewer more : Nat} (le : fewer ≤ more) :
    lastAlarm start period budget fewer ≤ lastAlarm start period budget more := by
  have before := Nat.mul_le_mul_right period (Nat.sub_le_sub_right le 1)
  simp only [lastAlarm]
  omega

/-- No restart that is not over was called later than the last cycle could begin it. -/
structure Timely (start period budget : Nat) (s : Supervisor) : Prop where
  fresh : ∀ number, (number, .fresh) ∈ s.coordinator.restarts →
    s.now ≤ lastAlarm start period budget (ticks s.history)
  called : ∀ number, (number, .calling) ∈ s.coordinator.restarts →
    ∃ instant, (instant, .restartCalled number) ∈ s.history ∧
      instant ≤ lastAlarm start period budget (ticks s.history)
  ended : ∀ ending number, (ending, .restartEnded number) ∈ s.history →
    number < s.coordinator.begun ∧ ∀ r ∈ s.coordinator.restarts, r.1 ≠ number

namespace Timely

theorem new {rhythm : Rhythm} {m : Reach.Monitor} {staleAfter : Span} {guard : Option Guard}
    {epoch : Nat} : Timely start period budget (new rhythm m staleAfter guard epoch start) := by
  constructor <;> simp [Supervisor.new, Recovery.Coordinator.new]

/-- Whatever begins no restart and ends none leaves them timely. -/
theorem frame (timely : Timely start period budget s) (later : List (Nat × Happening))
    (restarts : s'.coordinator.restarts = s.coordinator.restarts)
    (begun : s'.coordinator.begun = s.coordinator.begun)
    (instant : ∀ number, (number, .fresh) ∈ s.coordinator.restarts → s'.now = s.now)
    (grown : s'.history = later ++ s.history)
    (other : ∀ entry ∈ later, ∀ number, entry.2 ≠ .restartEnded number) :
    Timely start period budget s' := by
  have ticked : lastAlarm start period budget (ticks s.history) ≤
      lastAlarm start period budget (ticks s'.history) := by
    rw [grown]
    exact lastAlarm_mono (ticks_append later)
  refine ⟨fun number member => ?_, fun number member => ?_, fun ending number member => ?_⟩
  · rw [restarts] at member
    rw [instant number member]
    exact Nat.le_trans (timely.fresh number member) ticked
  · rw [restarts] at member
    obtain ⟨instant, called, before⟩ := timely.called number member
    refine ⟨instant, ?_, Nat.le_trans before ticked⟩
    rw [grown]
    exact List.mem_append_right later called
  · rw [grown] at member
    rw [restarts, begun]
    rcases List.mem_append.mp member with new | old
    · exact (other _ new number rfl).elim
    · exact timely.ended ending number old

/-- A cycle that ends in time may begin a restart. -/
theorem conclude (timely : Timely start period budget s)
    (inTime : s.now ≤ lastAlarm start period budget (ticks s.history)) {phase : Phase}
    {answer : Reach.Answer} {coordinator : Recovery.Coordinator} {report : Recovery.Report}
    (told : s.coordinator.Told answer s.now s.wall (coordinator, some report)) :
    Timely start period budget
      { s with coordinator, phase, history := (s.now, .published report) :: s.history } := by
  cases told with
  | settled underWay told calm =>
      exact timely.frame [_] rfl rfl (fun _ _ => rfl) rfl (by simp)
  | alarmed underWay told =>
      refine ⟨fun _ _ => inTime, fun number member => ?_, fun ending number member => ?_⟩
      · simp only [Recovery.Coordinator.beginRestart, List.mem_append, List.mem_singleton,
          Prod.mk.injEq, reduceCtorEq, and_false, or_false] at member
        obtain ⟨instant, called, before⟩ := timely.called number member
        exact ⟨instant, List.mem_cons_of_mem _ called, before⟩
      · obtain ⟨below, apart⟩ := timely.ended ending number (by simpa using member)
        refine ⟨Nat.lt_succ_of_lt below, fun r running => ?_⟩
        rcases List.mem_append.mp running with old | new
        · exact apart r old
        · rw [List.mem_singleton.mp new]
          exact (Nat.ne_of_lt below).symm

/-- A restart is called at the instant that it begins. -/
theorem call (timely : Timely start period budget s) {number : Nat}
    (begun : (number, .fresh) ∈ s.coordinator.restarts) :
    Timely start period budget
      { s with
        coordinator := s.coordinator.restartCalls number
        history := (s.now, .restartCalled number) :: s.history } := by
  have inTime := timely.fresh number begun
  refine ⟨fun _ _ => inTime, fun other member => ?_, fun ending ended member => ?_⟩
  · obtain ⟨r, running, same⟩ := List.mem_map.mp member
    split at same
    · rename_i isNumber
      cases same
      exact ⟨s.now, List.mem_cons_self, inTime⟩
    · cases same
      obtain ⟨instant, called, before⟩ := timely.called other running
      exact ⟨instant, List.mem_cons_of_mem _ called, before⟩
  · obtain ⟨below, apart⟩ := timely.ended ending ended (by simpa using member)
    refine ⟨below, fun r running => ?_⟩
    obtain ⟨progress, old⟩ := Recovery.Coordinator.mem_of_restartCalls running
    exact apart (r.1, progress) old

/-- A restart that ends is none of those that go on, now or later. -/
theorem finish (timely : Timely start period budget s) {number : Nat}
    (below : number < s.coordinator.begun) :
    Timely start period budget
      { s with
        coordinator := s.coordinator.restartEnds number
        history := (s.now, .restartEnded number) :: s.history } := by
  refine ⟨fun other member => ?_, fun other member => ?_, fun ending ended member => ?_⟩
  · exact timely.fresh other (List.mem_filter.mp member).1
  · obtain ⟨instant, called, before⟩ := timely.called other (List.mem_filter.mp member).1
    exact ⟨instant, List.mem_cons_of_mem _ called, before⟩
  · rcases List.mem_cons.mp member with new | old
    · cases new
      refine ⟨below, fun r running => ?_⟩
      simpa using (List.mem_filter.mp running).2
    · obtain ⟨before, apart⟩ := timely.ended ending ended old
      exact ⟨before, fun r running => apart r (List.mem_filter.mp running).1⟩

/-- A cycle is under way for no longer than its budget. -/
theorem inTime_of_cycling (paced : Paced start period budget timeout s) {cutOff due : Nat}
    (cycling : s.phase = .cycling cutOff due) :
    s.now ≤ lastAlarm start period budget (ticks s.history) := by
  have placed := paced.placed
  rw [cycling] at placed
  cases placed with
  | cycling next budgeted outstanding since within =>
      rw [lastAlarm, outstanding, Nat.add_one_sub_one, ← budgeted]
      exact within

theorem step (timely : Timely start period budget s)
    (paced : Paced start period budget timeout s) (sound : Sound s)
    (stepped : Step s action s') : Timely start period budget s' := by
  cases stepped with
  | began | beganToCrash | aborted | sentryRead | sentryWoke | received | cancelled | stopped =>
      exact timely.frame [] rfl rfl (fun _ _ => rfl) rfl (by simp)
  | crashed | cutOff | disarmed => exact timely.frame [_] rfl rfl (fun _ _ => rfl) rfl (by simp)
  | reported waiting reached confirmed entered =>
      obtain ⟨held, rfl⟩ := Recovery.Coordinator.held_of_begin entered
      exact timely.frame [_, _] rfl rfl (fun _ _ => rfl) rfl (by simp)
  | listing => exact timely.frame [_, _] rfl rfl (fun _ _ => rfl) rfl (by simp)
  | asked query cycling told =>
      cases told with
      | further underWay told asks =>
          exact timely.frame [_] rfl rfl (fun _ _ => rfl) rfl (by simp)
  | concluded cycling told => exact timely.conclude (inTime_of_cycling paced cycling) told
  | restartCalled begun => exact timely.call begun
  | restartEnded called => exact timely.finish (sound.custody.numbered _ called)
  | passed waits =>
      -- No time passes while a restart is fresh.
      simp only [canWait, Bool.and_eq_true] at waits
      refine timely.frame [] rfl rfl (fun number fresh => ?_) rfl (by simp)
      simpa using List.all_eq_true.mp waits.1.2 _ fresh

/-- A restart that is waited for began in time, and so ends before the deadline. -/
theorem brisk (timely : Timely start period budget s)
    (outlasted : bound + budget < timeout.ceilMillis) {restart : Option Nat} {millis : Nat}
    (finishing : s.phase = .finishing restart) (waits : s.canWait millis = true)
    (within : RestartsWithin bound { s with now := s.now + millis }) :
    s.now + millis < deadlineAfter start period timeout (ticks s.history) := by
  obtain ⟨number, calling⟩ := calling_of_canWait finishing waits
  obtain ⟨instant, called, before⟩ := timely.called number calling
  have unended : ∀ ending, (ending, .restartEnded number) ∉ s.history := fun ending ended =>
    (timely.ended ending number ended).2 _ calling rfl
  have bounded : s.now + millis ≤ instant + bound := (within number instant called).2 unended
  simp only [lastAlarm] at before
  simp only [deadlineAfter]
  omega

end Timely

/-! ### Nobody to restart for -/

/-- No client may be asked for, and no restart was begun. -/
structure Deserted (s : Supervisor) : Prop where
  clientless : s.coordinator.monitor.maxClients = 0
  idle : s.coordinator.restarts = []
  listing : ∀ survey, s.coordinator.survey = some survey → survey = .listing

namespace Deserted

/-- A survey that may ask for no client ends with the list. -/
theorem told (deserted : Deserted s) {answer : Reach.Answer} {now wall : Nat}
    {became : Recovery.Coordinator × Option Recovery.Report}
    (told : s.coordinator.Told answer now wall became) :
    became.1 = { s.coordinator with survey := none } := by
  cases told with
  | further underWay told asks =>
      -- Among no clients there is none to go on with.
      rw [deserted.listing _ underWay] at told
      cases Reach.Survey.moves_of_answer? told with
      | unlisted f => simp at asks
      | nobody => simp [Reach.Survey.query?] at asks
      | listed somebody =>
          simp [deserted.clientless, Reach.Survey.visit, Reach.Survey.query?] at asks
  | settled underWay told calm => rfl
  | alarmed underWay told => cases deserted.listing _ underWay

theorem step (deserted : Deserted s) (stepped : Step s action s') : Deserted s' := by
  cases stepped with
  | began | beganToCrash | aborted | sentryRead | sentryWoke | received | cancelled | crashed
  | disarmed | passed | stopped => exact ⟨deserted.clientless, deserted.idle, deserted.listing⟩
  | reported waiting reached confirmed entered =>
      obtain ⟨held, rfl⟩ := Recovery.Coordinator.held_of_begin entered
      exact ⟨deserted.clientless, deserted.idle, deserted.listing⟩
  | listing => exact ⟨deserted.clientless, deserted.idle, fun survey same => by cases same; rfl⟩
  | asked query cycling told =>
      have became := deserted.told told
      subst became
      exact ⟨deserted.clientless, deserted.idle, by simp⟩
  | concluded cycling told =>
      have became := deserted.told told
      subst became
      exact ⟨deserted.clientless, deserted.idle, by simp⟩
  | cutOff => exact ⟨deserted.clientless, deserted.idle, by simp [Recovery.Coordinator.drop]⟩
  | restartCalled begun => simp [deserted.idle] at begun
  | restartEnded called => simp [deserted.idle] at called

end Deserted

/-! ### Undisturbed -/

/-- The guard has not tripped, its deadline is ahead until the end, and at the end there is none. -/
def Undisturbed (s : Supervisor) : Prop :=
  ∀ g, s.guard = some g → g.trippedAt? = none ∧
    ((∃ fault, s.phase = .ended fault) → g.deadline = none) ∧
    ((∀ fault, s.phase ≠ .ended fault) → ∀ due, g.deadline = some due → s.now < due)

theorem Quiet.undisturbed (quiet : Quiet start period budget timeout s) : Undisturbed s := by
  intro g guarded
  by_cases ended : ∃ fault, s.phase = .ended fault
  · obtain ⟨fault, ended⟩ := ended
    have standing := quiet.paced.released g fault guarded ended
    exact ⟨standing.untripped, fun _ => standing.scheduled,
      fun unended => (unended fault ended).elim⟩
  · have unended : ∀ fault, s.phase ≠ .ended fault := fun fault same => ended ⟨fault, same⟩
    have standing := quiet.paced.guarded g guarded unended
    refine ⟨standing.untripped, fun ending => (ended ending).elim, fun _ due scheduled => ?_⟩
    rw [standing.scheduled, Option.some.injEq] at scheduled
    exact scheduled ▸ quiet.paced.early unended quiet.patient

/-- What the world around a run may do: its clock is told the timeout, and restarts end. -/
def Fair (timeout : Span) (bound : Nat) (s : Supervisor) : Prop :=
  (Clock.deadline? s.now timeout).isSome ∧ RestartsWithin bound s

theorem Fair.back (stepped : Step s action s') (fair : Fair timeout bound s') :
    Fair timeout bound s :=
  ⟨Clock.deadline?_isSome_mono stepped.now_le (Nat.le_refl _) fair.1, fair.2.back stepped⟩

/-- A timer that outlasts a restart and a budget is not disturbed. -/
theorem Working.quiet_of_outlasted (working : Working start period budget timeout s)
    (timely : Timely start period budget s) (outlasted : bound + budget < timeout.ceilMillis)
    {actions : List Action} (ran : s.run? actions = some s') (unaborted : .abort ∉ actions)
    (fair : Fair timeout bound s') : Quiet start period budget timeout s' := by
  have kept := run?_keeps
    (fun s => Quiet start period budget timeout s ∧ Timely start period budget s)
    (Fair timeout bound) Fair.back ?_ ⟨working.quiet, timely⟩ ran unaborted fair
  · exact kept.1
  · rintro s action s' ⟨quiet, timely⟩ stepped going before after
    refine ⟨quiet.step stepped going before.1 ?_, timely.step quiet.paced quiet.sound stepped⟩
    rintro restart millis finishing waits rfl
    exact timely.brisk outlasted finishing waits after.2

/-- A timer is not disturbed when no client may be asked for. -/
theorem Working.quiet_of_deserted (working : Working start period budget timeout s)
    (deserted : Deserted s) {actions : List Action} (ran : s.run? actions = some s')
    (unaborted : .abort ∉ actions) (fair : Fair timeout bound s') :
    Quiet start period budget timeout s' := by
  have kept := run?_keeps (fun s => Quiet start period budget timeout s ∧ Deserted s)
    (Fair timeout bound) Fair.back ?_ ⟨working.quiet, deserted⟩ ran unaborted fair
  · exact kept.1
  · rintro s action s' ⟨quiet, deserted⟩ stepped going before after
    refine ⟨quiet.step stepped going before.1 ?_, deserted.step stepped⟩
    rintro restart millis finishing waits -
    obtain ⟨number, calling⟩ := calling_of_canWait finishing waits
    simp [deserted.idle] at calling

end BridgeWarden.Liveness.Supervisor

import BridgeWarden.Proofs.Recovery.Custody
import BridgeWarden.Proofs.Runs
import BridgeWarden.Liveness.Supervisor

/-!
The steps of the supervisor.

`Step` lists what an action does, guards included, and `step_of_next?` says that this is all that
`next?` does. `Sound` is the invariant of custody for a supervisor that is not ended from outside:
while it waits for a restart the coordinator holds on to none.
-/

namespace BridgeWarden.Liveness.Supervisor

open Recovery (Coordinator Progress Report)

variable {s s' : Supervisor}

/-- What a confirmation makes of the timer; none when the clock cannot tell the deadline. -/
def confirmed? (now : Nat) : Option Guard → Option (Option Guard)
  | none => some none
  | some g => match g.confirm now with
    | .ok g => some (some g)
    | .error (.fault _) => some (some g)
    | .error (.breach _) => none

theorem confirmGuard?_eq (s : Supervisor) :
    s.confirmGuard? = (confirmed? s.now s.guard).map fun guard => { s with guard } := by
  rcases s with ⟨now, epoch, rhythm, phase, coordinator, telemetry, guard, cancelled, history⟩
  cases guard with
  | none => rfl
  | some g =>
      simp only [confirmGuard?, confirmed?]
      cases g.confirm now with
      | ok g => rfl
      | error refusal => cases refusal <;> rfl

/-- The state of the remote site that a cycle reads now. -/
def remote (s : Supervisor) : Remote.Suppression := s.telemetry.state s.now

inductive Step (s : Supervisor) : Action → Supervisor → Prop where
  | began (fresh : s.phase = .fresh) (regular : s.rhythm.period.isZero = false) :
      Step s .begin { s with phase := .waiting s.now }
  | beganToCrash (fresh : s.phase = .fresh) (irregular : s.rhythm.period.isZero = true) :
      Step s .begin { s with phase := .crashed }
  | crashed {due : Nat} (waiting : s.phase = .waiting due) (reached : due ≤ s.now)
      (untold : confirmed? s.now s.guard = none) :
      Step s .tick { s with phase := .crashed, history := (s.now, .confirmed) :: s.history }
  /-- A cycle that has its report at once: of a restart found, or of a remote site that reports
  this system online. -/
  | reported {due : Nat} {guard : Option Guard} {coordinator : Coordinator} {report : Report}
      (waiting : s.phase = .waiting due) (reached : due ≤ s.now)
      (confirmed : confirmed? s.now s.guard = some guard)
      (entered : s.coordinator.begin s.remote = (coordinator, some report)) :
      Step s .tick
        { s with
          guard, coordinator, phase := .waiting (s.rhythm.nextTick due s.now)
          history := (s.now, .published report) :: (s.now, .confirmed) :: s.history }
  | listing {due : Nat} {guard : Option Guard} (waiting : s.phase = .waiting due)
      (reached : due ≤ s.now) (confirmed : confirmed? s.now s.guard = some guard)
      (free : s.coordinator.isBusy = false) (offline : s.remote.suppresses = false) :
      Step s .tick
        { s with
          guard
          coordinator := { s.coordinator with held := none, survey := some .listing }
          phase := .cycling (Clock.wake s.now s.rhythm.budget) (s.rhythm.nextTick due s.now)
          history := (s.now, .asked .list) :: (s.now, .confirmed) :: s.history }
  | asked {cutOff due : Nat} {answer : Reach.Answer} {coordinator : Coordinator}
      (query : Reach.Query) (cycling : s.phase = .cycling cutOff due)
      (told : s.coordinator.Told answer s.now s.wall (coordinator, none)) :
      Step s (.answer answer)
        { s with coordinator, history := (s.now, .asked query) :: s.history }
  | concluded {cutOff due : Nat} {answer : Reach.Answer} {coordinator : Coordinator}
      {report : Report} (cycling : s.phase = .cycling cutOff due)
      (told : s.coordinator.Told answer s.now s.wall (coordinator, some report)) :
      Step s (.answer answer)
        { s with
          coordinator, phase := .waiting due
          history := (s.now, .published report) :: s.history }
  | cutOff {cutOff due : Nat} (cycling : s.phase = .cycling cutOff due) (spent : cutOff ≤ s.now) :
      Step s .cutOff
        { s with
          coordinator := s.coordinator.drop, phase := .waiting due
          history := (s.now, .published .overrun) :: s.history }
  | stopped {due : Nat} (waiting : s.phase = .waiting due) (cancelled : s.cancelled = true) :
      Step s .stop
        { s with
          coordinator := s.coordinator.release.1
          phase := .finishing s.coordinator.release.2 }
  | disarmed {restart : Option Nat} (fault : Option Fault)
      (finishing : s.phase = .finishing restart)
      (gone : restart.any s.coordinator.isRunning = false) :
      Step s (.disarm fault)
        { s with
          phase := .ended fault, guard := s.guard.map (·.disarm)
          history := (s.now, .disarmed fault) :: s.history }
  | aborted (going : s.isOver = false) : Step s .abort { s with phase := .aborted }
  | restartCalled {number : Nat} (begun : (number, .fresh) ∈ s.coordinator.restarts) :
      Step s (.restartCalls number)
        { s with
          coordinator := s.coordinator.restartCalls number
          history := (s.now, .restartCalled number) :: s.history }
  | restartEnded {number : Nat} (called : (number, .calling) ∈ s.coordinator.restarts) :
      Step s (.restartEnds number)
        { s with
          coordinator := s.coordinator.restartEnds number
          history := (s.now, .restartEnded number) :: s.history }
  | sentryRead {g g' : Guard} (guarded : s.guard = some g) (reads : g.sentryReads? = some g') :
      Step s .sentryReads { s with guard := some g' }
  | sentryWoke {g g' : Guard} (guarded : s.guard = some g)
      (wakes : g.sentryWakes? s.now = some g') :
      Step s .sentryWakes { s with guard := some g' }
  | received (payload : List Char) :
      Step s (.receive payload) { s with telemetry := s.telemetry.receive payload s.now }
  | cancelled : Step s .cancel { s with cancelled := true }
  | passed {millis : Nat} (waits : s.canWait millis = true) :
      Step s (.pass millis) { s with now := s.now + millis }

theorem step_tick {due : Nat} (waiting : s.phase = .waiting due) (reached : due ≤ s.now) :
    Step s .tick (s.tick due) := by
  cases told : confirmed? s.now s.guard with
  | none =>
      have crashed := Step.crashed waiting reached told
      simpa [tick, confirmGuard?_eq, note, told] using crashed
  | some guard =>
      cases busy : s.coordinator.isBusy with
      | true =>
          have became : s.coordinator.begin s.remote = (s.coordinator, some .inFlight) :=
            Coordinator.begin_of_busy busy
          have found := Step.reported waiting reached told became
          simpa [tick, confirmGuard?_eq, note, told, beginCycle, publish, ← remote.eq_def, became]
            using found
      | false =>
          cases online : s.remote.suppresses with
          | true =>
              have became := Coordinator.begin_of_suppressed busy online
              have suppressed := Step.reported waiting reached told became
              simpa [tick, confirmGuard?_eq, note, told, beginCycle, publish, ← remote.eq_def,
                became] using suppressed
          | false =>
              have became := Coordinator.begin_of_free busy online
              have listing := Step.listing waiting reached told busy online
              simpa [tick, confirmGuard?_eq, note, told, beginCycle, ask, ← remote.eq_def, became,
                Coordinator.query?, Reach.Survey.query?] using listing

theorem step_of_next? {action : Action} (computed : s.next? action = some s') :
    Step s action s' := by
  cases action with
  | begin =>
      simp only [next?] at computed
      split at computed
      · rename_i fresh
        cases computed
        cases zero : s.rhythm.period.isZero with
        | true => simpa using Step.beganToCrash fresh zero
        | false => simpa using Step.began fresh zero
      · cases computed
  | tick =>
      simp only [next?] at computed
      split at computed
      · rename_i due waiting
        simp only [Option.ite_none_right_eq_some, Option.some.injEq] at computed
        exact computed.2 ▸ step_tick waiting computed.1
      · cases computed
  | answer answer =>
      simp only [next?] at computed
      split at computed
      · rename_i cutOff due cycling
        simp only [Option.map_eq_some_iff] at computed
        obtain ⟨⟨coordinator, report⟩, answered, rfl⟩ := computed
        have told := Coordinator.told_of_answer? answered
        cases report with
        | some report => simpa [publish, note] using Step.concluded cycling told
        | none =>
            obtain ⟨query, asks⟩ := told.query rfl
            simpa [ask, asks, note] using Step.asked query cycling told
      · cases computed
  | cutOff =>
      simp only [next?] at computed
      split at computed
      · rename_i cutOff due cycling
        simp only [Option.ite_none_right_eq_some, Option.some.injEq] at computed
        simpa [publish, note, ← computed.2] using Step.cutOff cycling computed.1
      · cases computed
  | stop =>
      simp only [next?] at computed
      split at computed
      · rename_i due waiting
        simp only [Option.ite_none_right_eq_some, Option.some.injEq] at computed
        exact computed.2 ▸ .stopped waiting computed.1
      · cases computed
  | disarm fault =>
      simp only [next?, Option.ite_none_right_eq_some, Option.some.injEq] at computed
      obtain ⟨finished, rfl⟩ := computed
      simp only [isFinished] at finished
      split at finished
      · rename_i restart finishing
        exact .disarmed fault finishing (by simpa using finished)
      · cases finished
  | abort =>
      simp only [next?, Option.ite_none_left_eq_some, Option.some.injEq] at computed
      exact computed.2 ▸ .aborted (by simpa using computed.1)
  | restartCalls number =>
      simp only [next?, Option.ite_none_right_eq_some, Option.some.injEq] at computed
      exact computed.2 ▸ .restartCalled (Coordinator.isAt_iff.mp computed.1)
  | restartEnds number =>
      simp only [next?, Option.ite_none_right_eq_some, Option.some.injEq] at computed
      exact computed.2 ▸ .restartEnded (Coordinator.isAt_iff.mp computed.1)
  | sentryReads =>
      simp only [next?, Option.map_eq_some_iff, Option.bind_eq_some_iff] at computed
      obtain ⟨g', ⟨g, guarded, reads⟩, rfl⟩ := computed
      exact .sentryRead guarded reads
  | sentryWakes =>
      simp only [next?, Option.map_eq_some_iff, Option.bind_eq_some_iff] at computed
      obtain ⟨g', ⟨g, guarded, wakes⟩, rfl⟩ := computed
      exact .sentryWoke guarded wakes
  | receive payload =>
      simp only [next?, Option.some.injEq] at computed
      exact computed ▸ .received payload
  | cancel =>
      simp only [next?, Option.some.injEq] at computed
      exact computed ▸ .cancelled
  | pass millis =>
      simp only [next?, Option.ite_none_right_eq_some, Option.some.injEq] at computed
      exact computed.2 ▸ .passed computed.1

/-! ### Runs -/

theorem run?_eq_foldlM {actions : List Action} : s.run? actions = actions.foldlM next? s :=
  Runs.eq_foldlM (fun _ => rfl) fun _ _ _ => rfl

/-- What every fair step keeps, every run that ends fairly keeps, unless it is ended from
outside. -/
theorem run?_keeps (holds fair : Supervisor → Prop) {actions : List Action}
    (back : ∀ {s action s'}, Step s action s' → fair s' → fair s)
    (kept : ∀ {s action s'}, holds s → Step s action s' → action ≠ .abort → fair s → fair s' →
      holds s')
    (first : holds s) (ran : s.run? actions = some s') (unaborted : .abort ∉ actions)
    (last : fair s') : holds s' := by
  rw [run?_eq_foldlM] at ran
  refine Runs.keeps_fairly holds fair (fun computed => back (step_of_next? computed)) ?_ first ran
    last
  intro s action s' held member computed before after
  have going : action ≠ .abort := fun same => unaborted (same ▸ member)
  exact kept held (step_of_next? computed) going before after

theorem run?_append {before after : List Action} :
    s.run? (before ++ after) = (s.run? before).bind (·.run? after) := by
  simp [run?_eq_foldlM]

/-! ### What a step leaves -/

namespace Step

variable {action : Action}

theorem now_le (stepped : Step s action s') : s.now ≤ s'.now := by
  cases stepped <;> simp

theorem uncancelled (stepped : Step s action s') (uncancelled : s'.cancelled = false) :
    s.cancelled = false := by
  cases stepped <;> first | exact uncancelled | cases uncancelled

end Step

/-! ### Custody in a supervisor -/

/-- The restart that the supervisor waits for. -/
def awaited (s : Supervisor) : Option Nat :=
  match s.phase with
  | .finishing restart => restart
  | _ => none

structure Sound (s : Supervisor) : Prop where
  custody : s.coordinator.Custody s.awaited
  released : ∀ restart, s.phase = .finishing restart → s.coordinator.held = none

namespace Sound

theorem new (rhythm : Rhythm) (m : Reach.Monitor) (staleAfter : Span) (guard : Option Guard)
    (epoch start : Nat) : Sound (new rhythm m staleAfter guard epoch start) :=
  ⟨Coordinator.Custody.new m _, by simp [Supervisor.new]⟩

/-- Outside of the wait for a restart the coordinator alone holds on to one. -/
theorem alone (sound : Sound s) (unfinished : s.awaited = none) : s.coordinator.Custody none :=
  unfinished ▸ sound.custody

theorem step {action : Action} (sound : Sound s) (stepped : Step s action s')
    (unaborted : action ≠ .abort) : Sound s' := by
  cases stepped with
  | began fresh regular => exact ⟨sound.alone (by simp [awaited, fresh]), by simp⟩
  | beganToCrash fresh irregular => exact ⟨sound.alone (by simp [awaited, fresh]), by simp⟩
  | crashed waiting reached untold => exact ⟨sound.alone (by simp [awaited, waiting]), by simp⟩
  | reported waiting reached confirmed entered =>
      have custody := (sound.alone (by simp [awaited, waiting])).begin s.remote
      rw [entered] at custody
      exact ⟨custody, by simp⟩
  | listing waiting reached confirmed free offline =>
      exact ⟨(sound.alone (by simp [awaited, waiting])).letGo free (some .listing), by simp⟩
  | asked query cycling told =>
      have alone : s.awaited = none := by simp [awaited, cycling]
      refine ⟨?_, by simp [cycling]⟩
      simpa [awaited, cycling] using (sound.alone alone).told told
  | concluded cycling told =>
      exact ⟨(sound.alone (by simp [awaited, cycling])).told told, by simp⟩
  | cutOff cycling spent => exact ⟨(sound.alone (by simp [awaited, cycling])).drop, by simp⟩
  | stopped waiting cancelled =>
      exact ⟨(sound.alone (by simp [awaited, waiting])).release, fun _ _ => rfl⟩
  | @disarmed restart fault finishing gone =>
      have same : s.awaited = restart := by simp [awaited, finishing]
      have idle := sound.custody.restarts_of_over (fun _ => sound.released _ finishing)
        (same ▸ gone)
      refine ⟨⟨?_, ?_, ?_, ?_, ?_⟩, by simp⟩ <;> simp [idle, awaited]
  | aborted going => exact (unaborted rfl).elim
  | restartCalled begun => exact ⟨sound.custody.restartCalls _, sound.released⟩
  | restartEnded called => exact ⟨sound.custody.restartEnds _, sound.released⟩
  | sentryRead guarded reads => exact ⟨sound.custody, sound.released⟩
  | sentryWoke guarded wakes => exact ⟨sound.custody, sound.released⟩
  | received payload => exact ⟨sound.custody, sound.released⟩
  | cancelled => exact ⟨sound.custody, sound.released⟩
  | passed waits => exact ⟨sound.custody, sound.released⟩

end Sound

end BridgeWarden.Liveness.Supervisor

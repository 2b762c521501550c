import BridgeWarden.Proofs.Recovery.Custody
import BridgeWarden.Proofs.Runs
import BridgeWarden.Recovery.Course

/-!
The steps of a course and what every run of one keeps.

`Step` lists what an action does, guards included, and `step_of_next?` says that this is all that
`next?` does. `Sound` is the invariant of custody for a whole course: while the coordinator is being
finished it holds on to nothing and no survey is under way.
-/

namespace BridgeWarden.Recovery.Course

variable {c c' : Course}

/-- The state of the remote site that a cycle reads now. -/
def remote (c : Course) : Remote.Suppression := c.telemetry.state c.now

inductive Step (c : Course) : Action → Course → Prop where
  | inFlight (idle : c.isIdle = true) (busy : c.coordinator.isBusy = true) :
      Step c .begin
        { c with history := (c.now, .reported .inFlight) :: (c.now, .entered) :: c.history }
  | suppressed (idle : c.isIdle = true) (free : c.coordinator.isBusy = false)
      (online : c.remote.suppresses = true) :
      Step c .begin
        { c with
          coordinator := { c.coordinator with held := none }
          history := (c.now, .reported .suppressed) :: (c.now, .believed c.remote) ::
            (c.now, .entered) :: c.history }
  | listing (idle : c.isIdle = true) (free : c.coordinator.isBusy = false)
      (offline : c.remote.suppresses = false) :
      Step c .begin
        { c with
          coordinator := { c.coordinator with held := none, survey := some .listing }
          history := (c.now, .asked .list) :: (c.now, .believed c.remote) ::
            (c.now, .entered) :: c.history }
  | further {answer : Reach.Answer} {survey next : Reach.Survey} {query : Reach.Query}
      (underWay : c.coordinator.survey = some survey)
      (told : survey.answer? c.coordinator.monitor answer = some next)
      (asks : next.query? c.coordinator.monitor = some query) :
      Step c (.answer answer)
        { c with
          coordinator := { c.coordinator with survey := some next }
          history := (c.now, .asked query) :: (c.now, .answered answer) :: c.history }
  | settled {answer : Reach.Answer} {survey : Reach.Survey} {outcome : Reach.Outcome}
      (underWay : c.coordinator.survey = some survey)
      (told : survey.answer? c.coordinator.monitor answer = some (.done outcome))
      (calm : outcome.needsRecovery = false) :
      Step c (.answer answer)
        { c with
          coordinator := { c.coordinator with survey := none }
          history := (c.now, .reported (.checked outcome false)) :: (c.now, .answered answer) ::
            c.history }
  | alarmed {client : Mac} {address : Ipv4} {rest : List Mac} {probed unresolved : Nat}
      (underWay : c.coordinator.survey = some (.probing client address rest probed unresolved)) :
      Step c (.answer (.probe (.ok false)))
        { c with
          coordinator := { c.coordinator with survey := none }.beginRestart c.now c.wall
          history := (c.now, .reported (.checked (.unreachable client address) true)) ::
            (c.now, .restartBegun c.coordinator.begun) ::
            (c.now, .answered (.probe (.ok false))) :: c.history }
  | dropped (underWay : c.coordinator.survey.isSome = true) :
      Step c .drop
        { c with
          coordinator := c.coordinator.drop
          history := (c.now, .dropped) :: c.history }
  | finish (idle : c.isIdle = true) :
      Step c .finish
        { c with
          coordinator := c.coordinator.release.1, finishing := some c.coordinator.release.2 }
  | finished (gone : c.isFinished = true) : Step c .finished { c with finishing := none }
  | restartCalled {number : Nat} (begun : (number, .fresh) ∈ c.coordinator.restarts) :
      Step c (.restartCalls number)
        { c with
          coordinator := c.coordinator.restartCalls number
          history := (c.now, .restartCalled number) :: c.history }
  | restartEnded {number : Nat} (called : (number, .calling) ∈ c.coordinator.restarts) :
      Step c (.restartEnds number)
        { c with
          coordinator := c.coordinator.restartEnds number
          history := (c.now, .restartEnded number) :: c.history }
  | received (payload : List Char) :
      Step c (.receive payload) { c with telemetry := c.telemetry.receive payload c.now }
  | passed {millis : Nat} (waits : c.canWait = true) :
      Step c (.pass millis) { c with now := c.now + millis }

/-! ### How a cycle enters -/

theorem enter_of_busy (busy : c.coordinator.isBusy = true) :
    c.enter =
      { c with history := (c.now, .reported .inFlight) :: (c.now, .entered) :: c.history } := by
  simp [enter, adopt, note, busy, Coordinator.begin_of_busy]

theorem enter_of_suppressed (free : c.coordinator.isBusy = false)
    (online : c.remote.suppresses = true) :
    c.enter =
      { c with
        coordinator := { c.coordinator with held := none }
        history := (c.now, .reported .suppressed) :: (c.now, .believed c.remote) ::
          (c.now, .entered) :: c.history } := by
  have became := Coordinator.begin_of_suppressed free online
  simp [enter, adopt, note, free, became, ← remote.eq_def]

theorem enter_of_free (free : c.coordinator.isBusy = false)
    (offline : c.remote.suppresses = false) :
    c.enter =
      { c with
        coordinator := { c.coordinator with held := none, survey := some .listing }
        history := (c.now, .asked .list) :: (c.now, .believed c.remote) ::
          (c.now, .entered) :: c.history } := by
  have became := Coordinator.begin_of_free free offline
  simp [enter, adopt, note, free, became, ← remote.eq_def, Coordinator.query?,
    Reach.Survey.query?]

theorem step_enter (idle : c.isIdle = true) : Step c .begin c.enter := by
  cases busy : c.coordinator.isBusy with
  | true => exact enter_of_busy busy ▸ .inFlight idle busy
  | false =>
      cases online : c.remote.suppresses with
      | true => exact enter_of_suppressed busy online ▸ .suppressed idle busy online
      | false => exact enter_of_free busy online ▸ .listing idle busy online

theorem step_of_next? {action : Action} (computed : c.next? action = some c') :
    Step c action c' := by
  cases action with
  | begin =>
      simp only [next?, Option.ite_none_right_eq_some, Option.some.injEq] at computed
      exact computed.2 ▸ step_enter computed.1
  | answer answer =>
      simp only [next?, Option.map_eq_some_iff] at computed
      obtain ⟨became, answered, rfl⟩ := computed
      cases Coordinator.told_of_answer? answered with
      | further underWay told asks =>
          have stepped := Step.further underWay told asks
          simpa [adopt, note, Coordinator.query?, asks] using stepped
      | settled underWay told calm =>
          have stepped := Step.settled underWay told calm
          simpa [adopt, note] using stepped
      | alarmed underWay told =>
          subst told
          have stepped := Step.alarmed underWay
          simpa [adopt, note, Coordinator.beginRestart] using stepped
  | drop =>
      simp only [next?, Option.ite_none_right_eq_some, Option.some.injEq] at computed
      exact computed.2 ▸ .dropped computed.1
  | finish =>
      simp only [next?, Option.ite_none_right_eq_some, Option.some.injEq] at computed
      exact computed.2 ▸ .finish computed.1
  | finished =>
      simp only [next?, Option.ite_none_right_eq_some, Option.some.injEq] at computed
      exact computed.2 ▸ .finished computed.1
  | restartCalls number =>
      simp only [next?, Option.ite_none_right_eq_some, Option.some.injEq] at computed
      exact computed.2 ▸ .restartCalled (Coordinator.isAt_iff.mp computed.1)
  | restartEnds number =>
      simp only [next?, Option.ite_none_right_eq_some, Option.some.injEq] at computed
      exact computed.2 ▸ .restartEnded (Coordinator.isAt_iff.mp computed.1)
  | receive payload =>
      simp only [next?, Option.some.injEq] at computed
      exact computed ▸ .received payload
  | pass millis =>
      simp only [next?, Option.ite_none_right_eq_some, Option.some.injEq] at computed
      exact computed.2 ▸ .passed computed.1

/-! ### Runs -/

theorem run?_eq_foldlM {actions : List Action} : c.run? actions = actions.foldlM next? c :=
  Runs.eq_foldlM (fun _ => rfl) fun _ _ _ => rfl

/-- What every step keeps, every run keeps. -/
theorem run?_keeps (holds : Course → Prop) {actions : List Action}
    (kept : ∀ {c action c'}, holds c → Step c action c' → holds c') (first : holds c)
    (ran : c.run? actions = some c') : holds c' :=
  Runs.keeps holds (fun held _ computed => kept held (step_of_next? computed)) first
    (run?_eq_foldlM ▸ ran)

/-! ### What is said of every event -/

/-- Something holds of every event and of what went before it, latest first. -/
def Throughout (holds : Happening → List Happening → Prop) (events : List Happening) : Prop :=
  ∀ happening earlier, happening :: earlier <:+ events → holds happening earlier

namespace Throughout

variable {holds : Happening → List Happening → Prop} {events : List Happening}

theorem nil : Throughout holds [] := by
  intro happening earlier within
  simp at within

theorem cons (throughout : Throughout holds events) (happening : Happening)
    (present : holds happening events) : Throughout holds (happening :: events) := by
  intro other earlier within
  rcases List.suffix_cons_iff.mp within with same | within
  · cases same
    exact present
  · exact throughout other earlier within

end Throughout

/-! ### Custody in a course -/

structure Sound (c : Course) : Prop where
  custody : c.coordinator.Custody c.finishing.join
  released : c.finishing.isSome → c.coordinator.held = none
  parted : c.finishing.isSome → c.coordinator.survey = none

theorem Sound.new (m : Reach.Monitor) (staleAfter : Span) (epoch : Nat) :
    Sound (new m staleAfter epoch) := by
  refine ⟨Coordinator.Custody.new m _, ?_, ?_⟩ <;> simp [Course.new]

theorem isIdle_iff : c.isIdle = true ↔ c.coordinator.survey = none ∧ c.finishing = none := by
  simp [isIdle]

namespace Sound

/-- Between cycles, and while nothing is finished, the coordinator alone holds on to a restart. -/
theorem alone (sound : Sound c) (unfinished : c.finishing = none) :
    c.coordinator.Custody none := by
  simpa [unfinished] using sound.custody

theorem unfinished_of_survey (sound : Sound c) (underWay : c.coordinator.survey.isSome) :
    c.finishing = none := by
  cases finishing : c.finishing with
  | none => rfl
  | some restart => simp [sound.parted (by simp [finishing])] at underWay

/-- A course with nothing to finish is sound as soon as custody is. -/
theorem of_alone (unfinished : c.finishing = none) (custody : c.coordinator.Custody none) :
    Sound c := by
  refine ⟨by simpa [unfinished] using custody, ?_, ?_⟩ <;> simp [unfinished]

theorem step {action : Action} (sound : Sound c) (stepped : Step c action c') : Sound c' := by
  cases stepped with
  | inFlight idle busy => exact ⟨sound.custody, sound.released, sound.parted⟩
  | suppressed idle free online =>
      have unfinished := (isIdle_iff.mp idle).2
      exact of_alone unfinished ((sound.alone unfinished).letGo free c.coordinator.survey)
  | listing idle free offline =>
      have unfinished := (isIdle_iff.mp idle).2
      exact of_alone unfinished ((sound.alone unfinished).letGo free (some .listing))
  | @further answer survey next query underWay told asks =>
      have unfinished := sound.unfinished_of_survey (by simp [underWay])
      have became : c.coordinator.Told answer c.now c.wall
          ({ c.coordinator with survey := some next }, none) :=
        .further underWay told asks
      exact of_alone unfinished ((sound.alone unfinished).told became)
  | @settled answer survey outcome underWay told calm =>
      have unfinished := sound.unfinished_of_survey (by simp [underWay])
      have became : c.coordinator.Told answer c.now c.wall
          ({ c.coordinator with survey := none }, some (.checked outcome false)) :=
        .settled underWay told calm
      exact of_alone unfinished ((sound.alone unfinished).told became)
  | alarmed underWay =>
      have unfinished := sound.unfinished_of_survey (by simp [underWay])
      exact of_alone unfinished ((sound.alone unfinished).told (.alarmed underWay rfl))
  | dropped underWay =>
      exact of_alone (sound.unfinished_of_survey underWay)
        (sound.alone (sound.unfinished_of_survey underWay)).drop
  | finish idle =>
      obtain ⟨noSurvey, unfinished⟩ := isIdle_iff.mp idle
      exact ⟨(sound.alone unfinished).release, fun _ => rfl, fun _ => noSurvey⟩
  | finished gone =>
      simp only [isFinished, Option.any_eq_true, Bool.not_eq_true'] at gone
      obtain ⟨restart, finishing, gone⟩ := gone
      have released := sound.released (by simp [finishing])
      have idle := sound.custody.restarts_of_over (fun _ => released)
        (by simpa [finishing] using gone)
      refine of_alone rfl ⟨?_, ?_, ?_, ?_, ?_⟩ <;> simp [idle]
  | restartCalled begun =>
      exact ⟨sound.custody.restartCalls _, sound.released, sound.parted⟩
  | restartEnded called =>
      exact ⟨sound.custody.restartEnds _, sound.released, sound.parted⟩
  | received payload => exact ⟨sound.custody, sound.released, sound.parted⟩
  | passed waits => exact ⟨sound.custody, sound.released, sound.parted⟩

/-- Between cycles a course is busy exactly while a restart is not over. -/
theorem isBusy_iff (sound : Sound c) (idle : c.isIdle = true) :
    c.coordinator.isBusy = true ↔ c.coordinator.restarts ≠ [] :=
  (sound.alone (isIdle_iff.mp idle).2).isBusy_iff

/-- While a survey is under way there is no restart. -/
theorem restarts_of_survey (sound : Sound c) (underWay : c.coordinator.survey.isSome) :
    c.coordinator.restarts = [] :=
  sound.custody.quiet underWay

/-- While there is a restart no survey is under way. -/
theorem unsurveyed (sound : Sound c) {r : Nat × Progress} (member : r ∈ c.coordinator.restarts) :
    c.coordinator.survey = none := by
  cases underWay : c.coordinator.survey with
  | none => rfl
  | some survey => simp [sound.restarts_of_survey (by simp [underWay])] at member

end Sound

end BridgeWarden.Recovery.Course

import BridgeWarden.Proofs.Liveness.Accounts
import BridgeWarden.Proofs.Liveness.Crash
import BridgeWarden.Proofs.Liveness.Progress
import BridgeWarden.Proofs.Reach.Silence

/-!
A client that does not answer is found out within the budget of its cycle.

Accepted settings leave a cycle time for one query and one whole probe (`bound_of_accepted`), and a
supervisor keeps the settings it was launched with (`Configured`). `Hears` lists how a supervisor
can come through a cycle while the world answers at its instants. Up to the last answer the cycle is
`Hearing`, with a survey that expects the rest of the roll, and the last answer ends it before it
can be cut off (`Hears.kept`); nothing within a cycle keeps the answers from being heard
(`Hearing.completes`).
-/

namespace BridgeWarden.Liveness

/-- Whether the action can be within a cycle and is no answer. -/
def Action.isMeanwhile : Action → Bool
  | .tick | .answer _ | .abort => false
  | .begin | .cutOff | .stop | .disarm _ | .restartCalls _ | .restartEnds _ | .sentryReads
  | .sentryWakes | .receive _ | .cancel | .pass _ => true

namespace Supervisor

open Recovery (Coordinator Report)
open Reach (Roll Answer)

/-! ### What a supervisor keeps of its settings -/

variable {settings : Settings} {s s' : Supervisor} {action : Action}

structure Configured (settings : Settings) (s : Supervisor) : Prop where
  rhythm : s.rhythm = settings.liveness.rhythm
  monitor : s.coordinator.monitor = settings.reach
  timeout : ∀ g, s.guard = some g → (∀ fault, s.phase ≠ .ended fault) →
    g.timeout = some settings.liveness.timeout

theorem timeout_of_confirmed {now : Nat} {guard : Option Guard} {g' : Guard} {span : Option Span}
    (confirmed : confirmed? now guard = some (some g'))
    (timeout : ∀ g, guard = some g → g.timeout = span) : g'.timeout = span := by
  have same := span_of_confirmed confirmed
  cases guard with
  | none => cases confirmed
  | some g => exact same.trans (timeout g rfl)

/-- A guard can be confirmed only where the clock can tell its next deadline. -/
theorem told_of_confirmed {now : Nat} {g : Guard} {guard : Option Guard} {span : Span}
    (confirmed : confirmed? now (some g) = some guard) (timeout : g.timeout = some span) :
    (Clock.deadline? now span).isSome := by
  cases told : Clock.deadline? now span with
  | some due => rfl
  | none => simp [confirmed?, Guard.confirm, timeout, Guard.arm, told] at confirmed

namespace Configured

theorem of_supervisor? {epoch start : Nat} (launched : settings.supervisor? epoch start = .ok s) :
    Configured settings s := by
  obtain ⟨guard, rfl, armed⟩ := new_of_supervisor? launched
  exact ⟨rfl, rfl, fun g guarded _ => (armed g guarded).configured⟩

theorem step (configured : Configured settings s) (stepped : Step s action s') :
    Configured settings s' := by
  obtain ⟨rhythm, monitor, timeout⟩ := configured
  cases stepped with
  | began fresh | beganToCrash fresh =>
      exact ⟨rhythm, monitor, fun g guarded _ => timeout g guarded (by simp [fresh])⟩
  | crashed waiting | stopped waiting =>
      exact ⟨rhythm, monitor, fun g guarded _ => timeout g guarded (by simp [waiting])⟩
  | @reported due guard coordinator report waiting reached confirmed entered =>
      obtain ⟨held, rfl⟩ := Coordinator.held_of_begin entered
      refine ⟨rhythm, monitor, ?_⟩
      rintro g rfl -
      exact timeout_of_confirmed confirmed fun g guarded => timeout g guarded (by simp [waiting])
  | listing waiting reached confirmed =>
      refine ⟨rhythm, monitor, ?_⟩
      rintro g rfl -
      exact timeout_of_confirmed confirmed fun g guarded => timeout g guarded (by simp [waiting])
  | asked query cycling told =>
      cases told
      exact ⟨rhythm, monitor, timeout⟩
  | concluded cycling told =>
      cases told <;>
        exact ⟨rhythm, monitor, fun g guarded _ => timeout g guarded (by simp [cycling])⟩
  | cutOff cycling =>
      exact ⟨rhythm, monitor, fun g guarded _ => timeout g guarded (by simp [cycling])⟩
  | disarmed fault => exact ⟨rhythm, monitor, fun g guarded unended => (unended fault rfl).elim⟩
  | aborted going =>
      refine ⟨rhythm, monitor, fun g guarded _ => timeout g guarded ?_⟩
      intro fault ended
      simp [isOver, ended] at going
  | sentryRead guarded reads =>
      refine ⟨rhythm, monitor, ?_⟩
      rintro g ⟨⟩ unended
      have set := timeout _ guarded unended
      rwa [Guard.eq_of_sentryReads? reads]
  | sentryWoke guarded wakes =>
      refine ⟨rhythm, monitor, ?_⟩
      rintro g ⟨⟩ unended
      rw [Guard.timeout_of_sentryWakes wakes]
      exact timeout _ guarded unended
  | restartCalled | restartEnded | received | cancelled | passed =>
      exact ⟨rhythm, monitor, timeout⟩

theorem run {actions : List Action} (configured : Configured settings s)
    (ran : s.run? actions = some s') : Configured settings s' :=
  Runs.keeps (Configured settings) (fun held _ computed => held.step (step_of_next? computed))
    configured (run?_eq_foldlM ▸ ran)

end Configured

/-! ### How a cycle goes -/

/-- How a supervisor comes on without another tick while the world gives its answers, each at its
instant; some may be left. -/
inductive Hears (s : Supervisor) (told : List (Nat × Answer)) :
    List (Nat × Answer) → Supervisor → Prop where
  | refl : Hears s told told s
  | answered {left : List (Nat × Answer)} {answer : Answer} {s₁ s₂ : Supervisor}
      (hears : Hears s told ((s₁.now, answer) :: left) s₁)
      (computed : s₁.next? (.answer answer) = some s₂) : Hears s told left s₂
  | meanwhile {left : List (Nat × Answer)} {action : Action} {s₁ s₂ : Supervisor}
      (hears : Hears s told left s₁) (aside : action.isMeanwhile = true)
      (computed : s₁.next? action = some s₂) (ahead : ∀ expected ∈ left, s₂.now ≤ expected.1) :
      Hears s told left s₂

variable {told left rest : List (Nat × Answer)}

theorem Hears.trans {s'' : Supervisor} (first : Hears s told left s')
    (second : Hears s' left rest s'') : Hears s told rest s'' := by
  induction second with
  | refl => exact first
  | answered _ computed ih => exact .answered ih computed
  | meanwhile _ aside computed ahead ih => exact .meanwhile ih aside computed ahead

/-- The reports that readers saw and when, latest first. -/
def shown (history : List (Nat × Happening)) : List (Nat × Report) :=
  history.filterMap fun
    | (instant, .published report) => some (instant, report)
    | _ => none

variable {roll : Roll} {listed missed cutOff : Nat} {earlier : List (Nat × Report)}

/-- In a cycle that expects the rest of the roll and has reported nothing. The last answer comes
before the cycle is cut off. -/
structure Hearing (roll : Roll) (listed missed cutOff : Nat) (earlier : List (Nat × Report))
    (left : List (Nat × Answer)) (s : Supervisor) : Prop where
  cycling : ∃ due, s.phase = .cycling cutOff due
  surveying : ∃ survey, s.coordinator.survey = some survey ∧
    Reach.Survey.Expects roll listed missed survey left
  few : roll.before.length < s.coordinator.monitor.maxClients
  idle : s.coordinator.restarts = []
  ahead : ∀ expected ∈ left, s.now ≤ expected.1
  quiet : shown s.history = earlier
  inOrder : listed ≤ missed
  inTime : missed < cutOff

/-- After a cycle that has found the silent client. -/
structure Found (roll : Roll) (missed : Nat) (earlier : List (Nat × Report)) (s : Supervisor) :
    Prop where
  ended : ∀ cutOff due, s.phase ≠ .cycling cutOff due
  report : shown s.history =
    (missed, .checked (.unreachable roll.silent roll.address) true) :: earlier

namespace Hearing

theorem ne_nil (hearing : Hearing roll listed missed cutOff earlier left s) : left ≠ [] := by
  obtain ⟨survey, -, expects⟩ := hearing.surveying
  exact expects.ne_nil

/-- A cycle is not cut off while an answer is expected. -/
theorem now_lt_cutOff (hearing : Hearing roll listed missed cutOff earlier left s) :
    s.now < cutOff := by
  obtain ⟨survey, -, expects⟩ := hearing.surveying
  obtain ⟨expected, member⟩ := List.exists_mem_of_ne_nil left hearing.ne_nil
  have ahead := hearing.ahead expected member
  have inOrder := hearing.inOrder
  have inTime := hearing.inTime
  rcases expects.instants expected member with same | same <;> omega

theorem meanwhile (hearing : Hearing roll listed missed cutOff earlier left s)
    (stepped : Step s action s') (aside : action.isMeanwhile = true)
    (ahead : ∀ expected ∈ left, s'.now ≤ expected.1) :
    Hearing roll listed missed cutOff earlier left s' := by
  have before := hearing.now_lt_cutOff
  obtain ⟨⟨due, cycling⟩, surveying, few, idle, -, quiet, inOrder, inTime⟩ := hearing
  cases stepped with
  | began fresh | beganToCrash fresh => simp [cycling] at fresh
  | crashed | reported | listing | asked | concluded | aborted => cases aside
  | cutOff cycling' spent =>
      rw [cycling, Phase.cycling.injEq] at cycling'
      omega
  | stopped waiting => simp [cycling] at waiting
  | disarmed fault finishing => simp [cycling] at finishing
  | restartCalled begun => simp [idle] at begun
  | restartEnded called => simp [idle] at called
  | sentryRead | sentryWoke | received | cancelled | passed =>
      exact ⟨⟨due, cycling⟩, surveying, few, idle, ahead, quiet, inOrder, inTime⟩

/-- An answer that is expected is heard. The last one finds the silent client. -/
theorem answered {answer : Answer}
    (hearing : Hearing roll listed missed cutOff earlier ((s.now, answer) :: left) s)
    (stepped : Step s (.answer answer) s') :
    Hearing roll listed missed cutOff earlier left s' ∨
      left = [] ∧ Found roll missed earlier s' := by
  obtain ⟨⟨due, cycling⟩, ⟨survey, underWay, expects⟩, few, idle, ahead, quiet, inOrder, inTime⟩ :=
    hearing
  obtain ⟨next, became, goesOn⟩ := expects.answered few
  cases stepped with
  | asked query cycling' told =>
      rcases told.outcome underWay became with ⟨-, undone, rfl⟩ | ⟨outcome, -, ⟨⟩⟩
      rcases goesOn with ⟨now, expects⟩ | ⟨-, -, rfl⟩
      · refine Or.inl ⟨⟨due, cycling⟩, ⟨next, rfl, expects⟩, few, idle, ?_, quiet, inOrder, inTime⟩
        intro expected member
        change s.now ≤ expected.1
        rcases expects.instants expected member with same | same <;> omega
      · cases undone
  | concluded cycling' told =>
      rcases told.outcome underWay became with ⟨⟨⟩, -⟩ | ⟨outcome, rfl, report⟩
      rcases goesOn with ⟨-, expects⟩ | ⟨now, rfl, same⟩
      · cases expects.outcome?_eq_none
      · cases same
        cases report
        refine Or.inr ⟨rfl, by simp, ?_⟩
        rw [← quiet, ← now]
        rfl

end Hearing

theorem Found.meanwhile (found : Found roll missed earlier s) (stepped : Step s action s')
    (aside : action.isMeanwhile = true) : Found roll missed earlier s' := by
  obtain ⟨ended, report⟩ := found
  cases stepped with
  | crashed | reported | listing | asked | concluded | aborted => cases aside
  | cutOff cycling => exact (ended _ _ cycling).elim
  | began | beganToCrash | stopped => exact ⟨by simp, report⟩
  | disarmed => exact ⟨by simp, report⟩
  | restartCalled | restartEnded | sentryRead | sentryWoke | received | cancelled | passed =>
      exact ⟨ended, report⟩

/-- A cycle hears the whole roll and then reports the silent client, and nothing else before or
after. -/
theorem Hears.kept (hears : Hears s told left s')
    (hearing : Hearing roll listed missed cutOff earlier told s) :
    Hearing roll listed missed cutOff earlier left s' ∨
      left = [] ∧ Found roll missed earlier s' := by
  induction hears with
  | refl => exact Or.inl hearing
  | answered hears computed ih =>
      rcases ih with hearing | ⟨nothing, -⟩
      · exact hearing.answered (step_of_next? computed)
      · cases nothing
  | meanwhile hears aside computed ahead ih =>
      rcases ih with hearing | ⟨rfl, found⟩
      · exact Or.inl (hearing.meanwhile (step_of_next? computed) aside ahead)
      · exact Or.inr ⟨rfl, found.meanwhile (step_of_next? computed) aside⟩

/-! ### Nothing keeps an answer from being heard -/

/-- The sentry of a guard in software does what it can do now. -/
theorem hears_settled (ahead : ∀ expected ∈ left, s.now ≤ expected.1) :
    ∃ s', Hears s left left s' ∧ s'.now = s.now ∧
      ∀ g, s'.guard = some g → g.sentryReads? = none ∧ g.sentryWakes? s'.now = none := by
  cases guarded : s.guard with
  | none => exact ⟨s, .refl, rfl, by simp [guarded]⟩
  | some g =>
      -- The guard settles in steps, and each is an action of the sentry at the same instant.
      obtain ⟨last, settles⟩ := g.settles s.now
      generalize clock : s.now = now at settles ahead ⊢
      induction settles generalizing s with
      | @settled g read asleep =>
          refine ⟨s, .refl, clock, ?_⟩
          rw [guarded, clock]
          rintro other ⟨⟩
          exact ⟨read, asleep⟩
      | @reads g g' last reads rest ih =>
          have computed : s.next? .sentryReads = some { s with guard := some g' } := by
            simp [next?, guarded, reads]
          obtain ⟨s', hears, now, settled⟩ := ih (s := { s with guard := some g' }) rfl clock
          have moved := Hears.refl.meanwhile rfl computed (fun e member => clock ▸ ahead e member)
          exact ⟨s', moved.trans hears, now, settled⟩
      | @wakes g g' last wakes rest ih =>
          have computed : s.next? .sentryWakes = some { s with guard := some g' } := by
            simp [next?, guarded, clock, wakes]
          obtain ⟨s', hears, now, settled⟩ := ih (s := { s with guard := some g' }) rfl clock
          have moved := Hears.refl.meanwhile rfl computed (fun e member => clock ▸ ahead e member)
          exact ⟨s', moved.trans hears, now, settled⟩

namespace Hearing

/-- Until it hears the next answer a cycle goes on as it is. -/
theorem still (hearing : Hearing roll listed missed cutOff earlier left s)
    (hears : Hears s left left s') : Hearing roll listed missed cutOff earlier left s' :=
  (hears.kept hearing).resolve_right fun found => hearing.ne_nil found.1

/-- A millisecond passes before the answers that are still to come. -/
theorem passes (hearing : Hearing roll listed missed cutOff earlier left s)
    (later : ∀ expected ∈ left, s.now < expected.1) :
    ∃ s', Hears s left left s' ∧ s'.now = s.now + 1 := by
  obtain ⟨s₁, hears, now, settled⟩ := hears_settled hearing.ahead
  have hearing₁ := hearing.still hears
  have before := hearing₁.now_lt_cutOff
  obtain ⟨due, cycling⟩ := hearing₁.cycling
  have asleep : s₁.guard.all (·.canWait s₁.now 1 false) = true := by
    cases guarded : s₁.guard with
    | none => rfl
    | some g =>
        obtain ⟨read, asleep⟩ := settled g guarded
        exact Guard.canWait_of_settled read asleep fun _ => Guard.lt_of_asleep asleep
  have waits : s₁.canWait 1 = true := by
    simp [canWait, taskCanWait, cycling, before, Nat.succ_le_of_lt before, hearing₁.idle, asleep]
  have computed : s₁.next? (.pass 1) = some { s₁ with now := s₁.now + 1 } := by
    simp [next?, waits]
  refine ⟨_, hears.meanwhile rfl computed ?_, by simp [now]⟩
  intro expected member
  rw [now]
  exact later expected member

/-- Time comes to the next answer. -/
theorem reaches {instant : Nat} (hearing : Hearing roll listed missed cutOff earlier left s)
    (later : ∀ expected ∈ left, instant ≤ expected.1) (reached : s.now ≤ instant) :
    ∃ s', Hears s left left s' ∧ s'.now = instant := by
  obtain ⟨millis, same⟩ := Nat.exists_eq_add_of_le reached
  induction millis generalizing s with
  | zero => exact ⟨s, .refl, same.symm⟩
  | succ millis ih =>
      have ahead : ∀ expected ∈ left, s.now < expected.1 := by
        intro expected member
        exact Nat.lt_of_lt_of_le (by omega) (later expected member)
      obtain ⟨s₁, passed, now⟩ := hearing.passes ahead
      obtain ⟨s', hears, clock⟩ := ih (hearing.still passed) (by omega) (by omega)
      exact ⟨s', passed.trans hears, clock⟩

/-- All the answers that are still to come can be heard. -/
theorem completes (hearing : Hearing roll listed missed cutOff earlier left s) :
    ∃ s', Hears s left [] s' := by
  -- Induction on the answers to come: time comes to the first, and hearing it leaves the rest.
  induction left generalizing s with
  | nil => exact (hearing.ne_nil rfl).elim
  | cons next left ih =>
      obtain ⟨instant, answer⟩ := next
      have later : ∀ expected ∈ (instant, answer) :: left, instant ≤ expected.1 := by
        obtain ⟨survey, -, expects⟩ := hearing.surveying
        exact expects.first_le hearing.few hearing.inOrder
      obtain ⟨s₁, waited, rfl⟩ := hearing.reaches later (hearing.ahead _ List.mem_cons_self)
      have hearing₁ := hearing.still waited
      obtain ⟨due, cycling⟩ := hearing₁.cycling
      obtain ⟨survey, underWay, expects⟩ := hearing₁.surveying
      obtain ⟨became, told, -⟩ := expects.answered hearing₁.few
      obtain ⟨s₂, computed⟩ : ∃ s₂, s₁.next? (.answer answer) = some s₂ := by
        simp [next?, cycling, Coordinator.answer?, underWay, told]
      have heard : Hears s ((s₁.now, answer) :: left) left s₂ := waited.answered computed
      rcases heard.kept hearing with hearing₂ | ⟨rfl, -⟩
      · obtain ⟨s', rest⟩ := ih hearing₂
        exact ⟨s', heard.trans rest⟩
      · exact ⟨s₂, heard⟩

end Hearing

/-! ### The cycle of a silent client -/

/-- A tick that begins a cycle has confirmed the timer, and found no restart to wait for. -/
theorem listing_of_tick {due : Nat} (ticked : s.next? .tick = some s')
    (cycling : s'.phase = .cycling cutOff due) :
    (∃ due, s.phase = .waiting due) ∧ (∃ guard, confirmed? s.now s.guard = some guard) ∧
      s.coordinator.isBusy = false ∧ cutOff = Clock.wake s.now s.rhythm.budget ∧
      s'.now = s.now ∧ shown s'.history = shown s.history ∧
      s'.coordinator = { s.coordinator with held := none, survey := some .listing } := by
  cases step_of_next? ticked with
  | crashed | reported => cases cycling
  | @listing due guard waiting reached confirmed free offline =>
      rw [Phase.cycling.injEq] at cycling
      exact ⟨⟨due, waiting⟩, ⟨guard, confirmed⟩, free, cycling.1.symm, rfl, rfl, rfl⟩

/-- The clock can tell the end of the budget when a guard in software is confirmed. -/
theorem Configured.told_of_tick (configured : Configured settings s)
    (accepted : settings.complaint? = .ok none) {due : Nat} (waiting : s.phase = .waiting due)
    (confirmed : ∃ guard, confirmed? s.now s.guard = some guard)
    (told : s.guard = none → (Clock.deadline? s.now settings.liveness.cycleBudget).isSome) :
    (Clock.deadline? s.now settings.liveness.cycleBudget).isSome := by
  cases guarded : s.guard with
  | none => exact told guarded
  | some g =>
      obtain ⟨guard, confirmed⟩ := confirmed
      have timeout := configured.timeout g guarded (by simp [waiting])
      exact Clock.deadline?_isSome_mono (Nat.le_refl _) (keeps_of_accepted accepted).budget_le
        (told_of_confirmed (guarded ▸ confirmed) timeout)

/-- A cycle begins by expecting the whole roll. -/
theorem hearing_of_tick {due : Nat} (kept : Kept s) (configured : Configured settings s)
    (accepted : settings.complaint? = .ok none)
    (told : s.guard = none → (Clock.deadline? s.now settings.liveness.cycleBudget).isSome)
    (few : roll.before.length < settings.accessPoint.maxClients.toNat)
    (after : s.now ≤ listed) (inOrder : listed ≤ missed)
    (spent : Clock.nanos (missed - s.now) < settings.liveness.cycleBudget.nanos)
    (ticked : s.next? .tick = some s') (cycling : s'.phase = .cycling cutOff due) :
    Hearing roll listed missed cutOff (shown s.history) (roll.told listed missed) s' := by
  obtain ⟨⟨due', waiting⟩, confirmed, free, cut, now, quiet, coordinator⟩ :=
    listing_of_tick ticked cycling
  have idle : s.coordinator.restarts = [] := by
    have sound := kept.sound (by simp [waiting])
    exact (sound.alone (by simp [awaited, waiting])).restarts_of_free free
  have inTime : missed < cutOff := by
    have known := configured.told_of_tick accepted waiting confirmed told
    have within := settings.liveness.cycleBudget.nanos_le_ceilMillis
    have fewer : missed - s.now < settings.liveness.cycleBudget.ceilMillis :=
      Nat.lt_of_mul_lt_mul_left (Nat.lt_of_lt_of_le spent within)
    have budget : s.rhythm.budget = settings.liveness.cycleBudget :=
      congrArg Rhythm.budget configured.rhythm
    rw [cut, budget, Clock.wake_of_isSome known]
    omega
  refine ⟨⟨due, cycling⟩, ⟨.listing, by rw [coordinator], .listing⟩, ?_, ?_, ?_, quiet, inOrder,
    inTime⟩
  · rw [coordinator, configured.monitor]
    exact few
  · rw [coordinator]
    exact idle
  · intro expected member
    rw [now]
    rcases Reach.Survey.Expects.listing.instants expected member with same | same <;> omega

end Supervisor

open Supervisor in
/-- Whatever happened before, a cycle of accepted settings that checks the clients finds out a
silent one, if those before it answer at once or have no lease: with the list at the end of its
timeout and the probe at the end of its bound at the latest, the cycle reports that client and a
recovery before its budget is spent, and reports nothing else. However far such a cycle has come, it
can come to its report. A guard in software lets no cycle begin of which the clock cannot tell the
end; for a device that is assumed. -/
theorem silent_client_confirmed (settings : Settings) (roll : Reach.Roll)
    {epoch start cutOff due : Nat} {first s began : Supervisor} {actions : List Action}
    (accepted : settings.complaint? = .ok none)
    (launched : settings.supervisor? epoch start = .ok first)
    (ran : first.run? actions = some s) (ticked : s.next? .tick = some began)
    (cycling : began.phase = .cycling cutOff due)
    (told : s.guard = none → (Clock.deadline? s.now settings.liveness.cycleBudget).isSome)
    (few : roll.before.length < settings.accessPoint.maxClients.toNat) :
    ∃ bound, Reach.Ping.bound settings.monitor.probeTimeout = .ok bound ∧
      ∀ listed missed, s.now ≤ listed →
        Clock.within s.now listed settings.accessPoint.queryTimeout = true →
        listed ≤ missed → Clock.within listed missed bound = true →
        Clock.nanos (missed - s.now) < settings.liveness.cycleBudget.nanos ∧
        ∀ left s', Hears began (roll.told listed missed) left s' →
          (left ≠ [] → shown s'.history = shown s.history) ∧
          (left = [] → shown s'.history =
            (missed, .checked (.unreachable roll.silent roll.address) true) :: shown s.history) ∧
          ∃ s'', Hears s' left [] s'' := by
  obtain ⟨bound, bounded, brief⟩ := Settings.bound_of_accepted accepted
  refine ⟨bound, bounded, ?_⟩
  intro listed missed after prompt inOrder waited
  have spent : Clock.nanos (missed - s.now) < settings.liveness.cycleBudget.nanos :=
    calc Clock.nanos (missed - s.now)
        = Clock.nanos (listed - s.now) + Clock.nanos (missed - listed) := by
          rw [Clock.nanos, Clock.nanos, Clock.nanos, ← Nat.mul_add]
          congr 1
          omega
      _ ≤ settings.accessPoint.queryTimeout.nanos + bound.nanos :=
          Nat.add_le_add (of_decide_eq_true prompt) (of_decide_eq_true waited)
      _ < settings.liveness.cycleBudget.nanos := brief
  refine ⟨spent, ?_⟩
  have configured := (Configured.of_supervisor? launched).run ran
  obtain ⟨guard, rfl, -⟩ := new_of_supervisor? launched
  have kept := (kept_and_balanced ran).1
  have hearing := hearing_of_tick kept configured accepted told few after inOrder spent ticked
    cycling
  intro left s' hears
  rcases hears.kept hearing with hearing' | ⟨rfl, found⟩
  · exact ⟨fun _ => hearing'.quiet, fun nothing => (hearing'.ne_nil nothing).elim,
      hearing'.completes⟩
  · exact ⟨fun something => (something rfl).elim, fun _ => found.report, s', .refl⟩

/-- A client without a lease, one that answers, and a silent one. -/
def thirdSilent : Reach.Roll where
  before := [(⟨2, 0, 0, 0, 0, 1⟩, none), (⟨2, 0, 0, 0, 0, 2⟩, some ⟨10, 0, 0, 2⟩)]
  silent := ⟨2, 0, 0, 0, 0, 3⟩
  address := ⟨10, 0, 0, 3⟩
  after := [⟨2, 0, 0, 0, 0, 4⟩]

open Supervisor in
/-- With the default settings the list may take a second and the probe a second and a quarter. -/
theorem third_client_confirmed :
    ∃ first s began s', softwareDefaults.supervisor? 0 0 = .ok first ∧
      first.run? [.begin] = some s ∧ s.next? .tick = some began ∧
      Hears began (thirdSilent.told 1000 2250) [] s' ∧
      shown s'.history =
        [(2250, .checked (.unreachable ⟨2, 0, 0, 0, 0, 3⟩ ⟨10, 0, 0, 3⟩) true)] := by
  obtain ⟨first, launched⟩ : ∃ first, softwareDefaults.supervisor? 0 0 = .ok first := ⟨_, rfl⟩
  obtain ⟨s, began, ran, ticked⟩ : ∃ s began, first.run? [.begin] = some s ∧
      s.next? .tick = some began := by
    cases launched
    exact ⟨_, _, rfl, rfl⟩
  obtain ⟨now, unreported, cycling⟩ : s.now = 0 ∧ shown s.history = [] ∧
      began.phase = .cycling 2500 5000 := by
    cases launched
    cases ran
    cases ticked
    decide
  obtain ⟨bound, bounded, confirmed⟩ := silent_client_confirmed softwareDefaults thirdSilent
    (by decide) launched ran ticked cycling (fun _ => by rw [now]; decide) (by decide)
  cases bounded
  obtain ⟨-, heard⟩ := confirmed 1000 2250 (by omega) (by rw [now]; decide) (by omega) (by decide)
  obtain ⟨-, -, s', hears⟩ := heard _ began .refl
  obtain ⟨-, reported, -⟩ := heard [] s' hears
  refine ⟨first, s, began, s', launched, ran, ticked, hears, ?_⟩
  rw [reported rfl, unreported]
  rfl

end BridgeWarden.Liveness

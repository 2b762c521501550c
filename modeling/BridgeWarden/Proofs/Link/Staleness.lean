import BridgeWarden.Proofs.Link.Publications

/-!
Old events and new attempts.

The machine looks for events before it looks for requests, and a link that has faulted passes over
every event. So an attempt after a fault begins with an empty queue (`Step.quiet_of_retried`): all
that entered before it was taken before it, and what is taken after it entered after it
(`attempt_meets_no_older_event`). That nothing enters the queue between the two looks is assumed of
the system, which takes them in one step. Nothing is said here of the first attempt, which takes up
no request, nor of what the engine reports of an older attempt when a new one has begun.
-/

namespace BridgeWarden.Link.System

variable {s s' : System} {action : Action}

/-- A link is tried again by the machine, and with no event in the queue. -/
theorem Step.quiet_of_retried (stepped : Step s action s') (fits : s.Fits)
    (faulted : s.session.state = .faulted) (retried : s'.session.state = .connecting) :
    action = .machine ∧ s.phase.isOver = false ∧ s.events = [] ∧ s'.events = [] := by
  cases stepped with
  | connected takes =>
      cases takes with
      | first fresh =>
          have idle := fits.idle_of_fresh fresh
          simp [idle] at faulted
      | queued watching _ quiet => exact ⟨rfl, by rw [watching]; rfl, quiet, quiet⟩
  | gaveUp | faulted => cases retried
  | established _ _ _ _ became => simp [became] at retried
  | abandoned | requestIgnored | connectReturned | crashed | eventIgnored | stopped | driverSleeps
  | driverWakes | driverAsks | driverEnds | driverQuits | reported | unreported | requested
  | unrequested | cancelled | passed =>
      have still : s.session.state = .connecting := retried
      simp [still] at faulted

/-- When the link is tried again after a fault, the machine has taken every event that entered the
queue before. However the run goes on, the events that it takes are the first ones to enter after
that, and each further change of the session is due to one of these or to none. -/
theorem attempt_meets_no_older_event (capacity : Nat) (backoff : Backoff) (negotiation : Span)
    {before : List Action} (ran : (new capacity backoff negotiation).run? before = some s)
    (computed : s.next? action = some s') (faulted : s.session.state = .faulted)
    (retried : s'.session.state = .connecting) :
    action = .machine ∧ s.events = [] ∧ s'.events = [] ∧
    (new capacity backoff negotiation).along taken before =
      (new capacity backoff negotiation).along entered before ∧
    ∀ later t, s'.run? later = some t →
      s'.along taken later <+: s'.along entered later ∧
      List.IsChain (fun one next => Session.Becomes one.2 next.1 next.2)
        ((none, s'.session) :: s'.along changes later) ∧
      ((s'.along changes later).filterMap (·.1)).Sublist (s'.along taken later) := by
  have fits := (fits_new capacity backoff negotiation).run ran
  have stepped := step_of_next? fits computed
  obtain ⟨moved, running, quiet, quiet'⟩ := stepped.quiet_of_retried fits faulted retried
  refine ⟨moved, quiet, quiet', ?_, ?_⟩
  · have whole := (ordered_of_run (fits_new capacity backoff negotiation) ran).whole running
    rw [quiet, List.append_nil] at whole
    exact whole.symm
  · intro later t ranOn
    have fits' := fits.step stepped
    have order := (ordered_of_run fits' ranOn).taken_first
    rw [quiet', List.nil_append] at order
    exact ⟨order, (shown_of_run fits' ranOn).chain, sublist_taken s' later⟩

/-- A negotiation takes too long. When the link may be tried again, the engine reports that the
attempt is over; the driver's request enters the queue of requests after that. -/
def lateReport : List Action :=
  [.machine, .connectEnds true, .pass 60000, .machine, .disconnectEnds, .driver, .pass 2000,
    .report (.down "late"), .driver, .driver, .machine]

/-- The late report is taken before the link is tried again, and the next report brings it up. -/
theorem late_report_passed_over :
    ∃ s s', (new 16 twoToThirty (.ofSecs 60)).run? lateReport = some s ∧
      s.next? .machine = some s' ∧ s.session.state = .faulted ∧ s'.session.state = .connecting ∧
      (new 16 twoToThirty (.ofSecs 60)).along taken lateReport = [.down "late"] ∧
      (new 16 twoToThirty (.ofSecs 60)).along entered lateReport = [.down "late"] ∧
      ∀ later t, s'.run? later = some t → s'.along taken later <+: s'.along entered later := by
  obtain ⟨s, ran⟩ : ∃ s, (new 16 twoToThirty (.ofSecs 60)).run? lateReport = some s := ⟨_, rfl⟩
  obtain ⟨s', computed⟩ : ∃ s', s.next? .machine = some s' := by
    cases ran
    exact ⟨_, rfl⟩
  obtain ⟨faulted, took⟩ : s.session.state = .faulted ∧
      (new 16 twoToThirty (.ofSecs 60)).along taken lateReport = [.down "late"] := by
    cases ran
    decide
  have retried : s'.session.state = .connecting := by
    cases ran
    cases computed
    rfl
  obtain ⟨-, -, -, same, fresh⟩ :=
    attempt_meets_no_older_event _ _ _ ran computed faulted retried
  refine ⟨s, s', ran, computed, faulted, retried, took, same ▸ took, ?_⟩
  intro later t ranOn
  exact (fresh later t ranOn).1

end BridgeWarden.Link.System

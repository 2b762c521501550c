import BridgeWarden.Proofs.Link.Attempts

/-!
Reconnects after a fault, whoever else asks for connections meanwhile.

`Tended` is what every run keeps that is not cancelled: the driver lives as long as the machine
does, it does not oversleep, and a faulted link that waits has a reconnect under way, also where
the delay of its last fault was dropped. So such a link is never stuck (`never_stuck`). When it is
tried again is up to the first reconnect that gets to the machine, which need not be the one of the
last fault: `backoff_honoured_iff` is the exact condition, and `stale_timer_misses_backoff` two
runs in which an older timer makes the attempt later, and earlier, than the backoff asks for.
-/

namespace BridgeWarden.Link.System

variable {s s' : System} {action : Action} {instant : Nat}

/-- A reconnect is under way: a delay is handed over or waited out, or a request is being sent or
queued. -/
def Reconnecting (s : System) : Prop :=
  s.delay.isSome = true ∨ (∃ due, s.driver = .sleeping due) ∨ s.driver = .sending ∨ 0 < s.requests

/-- What keeps a link that is not cancelled from getting stuck. -/
structure Tended (s : System) : Prop where
  driven : s.phase.isOver = false → s.driver ≠ .stopped
  punctual : ∀ due, s.driver = .sleeping due → s.now ≤ due
  underWay : ∀ deadline, s.phase = .watching deadline → s.session.state = .faulted →
    s.Reconnecting
  shown : ∀ since delay accepted earlier,
    s.history = (since, .scheduled delay accepted) :: earlier →
    s.phase = .watching none ∧ s.session.state = .faulted

/-- However a fault is shown, a delay is on its way to the driver afterwards. -/
theorem delay_showFault (driven : s.driver ≠ .stopped) (delay : Span) :
    (s.showFault delay).delay.isSome = true := by
  cases handed : s.delay with
  | none => simp [showFault, accepts, handed, driven]
  | some older => simp [showFault, accepts, handed]

namespace Tended

theorem new (capacity : Nat) (backoff : Backoff) (negotiation : Span) :
    Tended (new capacity backoff negotiation) := by
  refine ⟨?_, ?_, ?_, ?_⟩
  · rintro - ⟨⟩
  · rintro due ⟨⟩
  · rintro deadline ⟨⟩
  · rintro since delay accepted earlier ⟨⟩

/-- The driver lives as long as the machine. -/
theorem driven_step (tended : Tended s) (stepped : Step s action s')
    (uncancelled : s.cancelled = false) : s'.phase.isOver = false → s'.driver ≠ .stopped := by
  have driven := tended.driven
  intro running
  cases stepped with
  | connected takes => exact driven takes.running
  | gaveUp givesUp => exact driven givesUp.running
  | abandoned letsGo => exact driven letsGo.running
  | connectReturned attempting => exact driven (by rw [attempting]; rfl)
  | established watching | faulted watching => exact driven (by rw [watching]; rfl)
  | crashed => cases running
  | stopped => cases running
  | driverEnds ended => simp [ended] at running
  | driverQuits cancelled => simp [uncancelled] at cancelled
  | driverSleeps | driverWakes | driverAsks => rintro ⟨⟩
  | requestIgnored | eventIgnored | reported | unreported | requested | unrequested | cancelled
  | passed => exact driven running

/-- The driver does not oversleep. -/
theorem punctual_step (tended : Tended s) (stepped : Step s action s') :
    ∀ due, s'.driver = .sleeping due → s'.now ≤ due := by
  have punctual := tended.punctual
  intro due sleeping
  cases stepped with
  | driverSleeps =>
      cases sleeping
      exact Clock.le_wake _ _
  | passed waits =>
      simp only [canWait, Bool.and_eq_true, List.all_eq_true, decide_eq_true_eq] at waits
      have asleep : s.driver = .sleeping due := sleeping
      exact waits.2 due (by simp [deadlines, asleep])
  | driverWakes | driverAsks | driverEnds | driverQuits => cases sleeping
  | connected | requestIgnored | connectReturned | crashed | gaveUp | abandoned | eventIgnored
  | established | faulted | stopped | reported | unreported | requested | unrequested
  | cancelled => exact punctual due sleeping

/-- A reconnect goes from stage to stage and is not lost on the way. -/
theorem underWay_step (tended : Tended s) (fits : s.Fits) (stepped : Step s action s')
    (uncancelled : s.cancelled = false) :
    ∀ deadline, s'.phase = .watching deadline → s'.session.state = .faulted →
      s'.Reconnecting := by
  intro deadline watching faulted
  cases stepped with
  | connected | crashed | gaveUp | stopped => cases watching
  | connectReturned attempting =>
      have connecting := fits.connecting_of_attempting attempting
      simp [connecting] at faulted
  | requestIgnored _ _ _ _ active => exact (Session.inactive_of_faulted faulted active).elim
  | established _ _ _ _ became => simp [became] at faulted
  | abandoned letsGo => exact Or.inl (delay_showFault (tended.driven letsGo.running) _)
  | faulted watched =>
      exact Or.inl (delay_showFault (tended.driven (by rw [watched]; rfl)) _)
  | driverSleeps => exact Or.inr (Or.inl ⟨_, rfl⟩)
  | driverWakes => exact Or.inr (Or.inr (Or.inl rfl))
  | driverAsks => exact Or.inr (Or.inr (Or.inr (Nat.succ_pos _)))
  | driverEnds ended =>
      have still : s.phase = .watching deadline := watching
      simp [still, Phase.isOver] at ended
  | driverQuits cancelled => simp [uncancelled] at cancelled
  | requested => exact Or.inr (Or.inr (Or.inr (Nat.succ_pos _)))
  | eventIgnored | reported | unreported | unrequested | cancelled | passed =>
      exact tended.underWay deadline watching faulted

/-- A link that has shown a fault, and nothing since, is where it was then. -/
theorem shown_step (tended : Tended s) (stepped : Step s action s')
    (uncancelled : s.cancelled = false) :
    ∀ since delay accepted earlier, s'.history = (since, .scheduled delay accepted) :: earlier →
      s'.phase = .watching none ∧ s'.session.state = .faulted := by
  have shown := tended.shown
  intro since delay accepted earlier same
  cases stepped with
  | connected | requestIgnored | gaveUp | established => cases same
  | abandoned _ faulted => exact ⟨rfl, faulted⟩
  | faulted => exact ⟨rfl, rfl⟩
  | connectReturned attempting =>
      simpa [attempting] using (shown since delay accepted earlier same).1
  | crashed attempting =>
      simpa [attempting] using (shown since delay accepted earlier same).1
  | stopped _ cancelled => simp [uncancelled] at cancelled
  | eventIgnored | driverSleeps | driverWakes | driverAsks | driverEnds | driverQuits | reported
  | unreported | requested | unrequested | cancelled | passed =>
      exact shown since delay accepted earlier same

theorem step (tended : Tended s) (fits : s.Fits) (stepped : Step s action s')
    (uncancelled : s.cancelled = false) : Tended s' :=
  ⟨tended.driven_step stepped uncancelled, tended.punctual_step stepped,
    tended.underWay_step fits stepped uncancelled, tended.shown_step stepped uncancelled⟩

end Tended

/-- What a run from the beginning keeps, as long as it is not cancelled. -/
theorem tended_of_run (capacity : Nat) (backoff : Backoff) (negotiation : Span)
    {actions : List Action} (ran : (new capacity backoff negotiation).run? actions = some s)
    (uncancelled : s.cancelled = false) : Tended s :=
  run?_keeps Tended (·.cancelled = false) (fits_new ..) Step.uncancelled
    (fun tended fits _ stepped before _ => tended.step fits stepped before) (.new ..) ran
    uncancelled

namespace Tended

/-- A reconnect under way has an instant at which it gets to the machine. -/
theorem awaits (tended : Tended s) (fits : s.Fits) (uncancelled : s.cancelled = false)
    {deadline : Option Nat} (watching : s.phase = .watching deadline)
    (faulted : s.session.state = .faulted) : ∃ instant, Awaits s instant := by
  have unhurried := fits.unhurried_of_faulted watching faulted
  have driven := tended.driven (by rw [watching]; rfl)
  have arriving : ∃ instant, s.arrival? = some instant ∧ s.now ≤ instant := by
    by_cases asked : 0 < s.requests
    · exact ⟨s.now, arrival?_of_asked asked, Nat.le_refl _⟩
    · have unasked := Nat.eq_zero_of_not_pos asked
      cases stage : s.driver with
      | sending => exact ⟨s.now, arrival?_of_sending stage, Nat.le_refl _⟩
      | sleeping due => exact ⟨due, arrival?_of_sleeping unasked stage, tended.punctual due stage⟩
      | stopped => exact (driven stage).elim
      | waiting =>
          have handed : s.delay.isSome = true := by
            simpa [Reconnecting, stage, unasked] using tended.underWay deadline watching faulted
          obtain ⟨delay, handed⟩ := Option.isSome_iff_exists.mp handed
          refine ⟨Clock.wake s.now delay, ?_, Clock.le_wake _ _⟩
          rw [arrival?_of_waiting unasked stage, handed]
          rfl
  obtain ⟨instant, arrives, ahead⟩ := arriving
  exact ⟨instant, fits, unhurried, faulted, uncancelled, arrives, ahead⟩

end Tended

theorem awaits_of_run (capacity : Nat) (backoff : Backoff) (negotiation : Span)
    {actions : List Action} (ran : (new capacity backoff negotiation).run? actions = some s)
    (uncancelled : s.cancelled = false)
    {deadline : Option Nat} (watching : s.phase = .watching deadline)
    (faulted : s.session.state = .faulted) : ∃ instant, Awaits s instant :=
  (tended_of_run capacity backoff negotiation ran uncancelled).awaits
    ((fits_new capacity backoff negotiation).run ran) uncancelled watching faulted

/-- The next attempt of a faulted link that waits is the one whose instant `arrival?` tells. -/
theorem nextAttempt_iff (capacity : Nat) (backoff : Backoff) (negotiation : Span)
    {actions : List Action} (ran : (new capacity backoff negotiation).run? actions = some s)
    (uncancelled : s.cancelled = false)
    {deadline : Option Nat} (watching : s.phase = .watching deadline)
    (faulted : s.session.state = .faulted) (instant : Nat) :
    NextAttempt s instant ↔ s.arrival? = some instant := by
  obtain ⟨expected, awaits⟩ := awaits_of_run _ _ _ ran uncancelled watching faulted
  constructor
  · intro next
    rw [next.unique awaits.nextAttempt]
    exact awaits.arrives
  · intro arrives
    have same : expected = instant := Option.some.inj (awaits.arrives.symm.trans arrives)
    exact same ▸ awaits.nextAttempt

/-! ### Never stuck -/

/-- As long as it is not cancelled, whatever the engine reports and others ask, a faulted link that
waits has a reconnect under way; and left alone, it has a next attempt. -/
theorem never_stuck (capacity : Nat) (backoff : Backoff) (negotiation : Span)
    {actions : List Action} (ran : (new capacity backoff negotiation).run? actions = some s)
    (uncancelled : s.cancelled = false)
    {deadline : Option Nat} (watching : s.phase = .watching deadline)
    (faulted : s.session.state = .faulted) :
    s.Reconnecting ∧ ∃ instant, NextAttempt s instant := by
  have tended := tended_of_run capacity backoff negotiation ran uncancelled
  obtain ⟨instant, awaits⟩ := awaits_of_run _ _ _ ran uncancelled watching faulted
  exact ⟨tended.underWay deadline watching faulted, instant, awaits.nextAttempt⟩

/-- A backoff from two seconds to thirty. -/
def twoToThirty : Backoff := ⟨.ofSecs 2, .ofSecs 30, .ofSecs 2⟩

/-- The machine begins an attempt, and the engine reports at once that it came to nothing. -/
def failedAttempt : List Action :=
  [.machine, .report (.down "refused"), .connectEnds true, .machine]

/-- The driver sleeps on a first delay while two requests lead to further faults, and the second
of their delays finds the first one still there. -/
def dropping : List Action :=
  failedAttempt ++ .driver :: .request :: (failedAttempt ++ .request :: failedAttempt)

/-- A link whose last delay was dropped is not stuck. -/
theorem dropped_not_stuck :
    ∃ s, (new 16 twoToThirty (.ofSecs 60)).run? dropping = some s ∧
      (0, .scheduled (.ofSecs 8) false) ∈ s.history ∧ s.Reconnecting ∧
      ∃ instant, NextAttempt s instant := by
  obtain ⟨s, ran⟩ : ∃ s, (new 16 twoToThirty (.ofSecs 60)).run? dropping = some s := ⟨_, rfl⟩
  obtain ⟨dropped, uncancelled, watching, faulted⟩ :
      (0, .scheduled (.ofSecs 8) false) ∈ s.history ∧ s.cancelled = false ∧
        s.phase = .watching none ∧ s.session.state = .faulted := by
    cases ran
    decide
  exact ⟨s, ran, dropped, never_stuck _ _ _ ran uncancelled watching faulted⟩

/-! ### The backoff of the last fault -/

/-- A fault that was just shown is followed by an attempt when the first reconnect gets to the
machine; that is after the fault's own delay exactly when the first reconnect gets there then. -/
theorem backoff_honoured_iff (capacity : Nat) (backoff : Backoff) (negotiation : Span)
    {actions : List Action}
    {delay : Span} {accepted : Bool} {earlier : List (Nat × Happening)}
    (ran : (new capacity backoff negotiation).run? actions = some s)
    (uncancelled : s.cancelled = false)
    (shown : s.history = (s.now, .scheduled delay accepted) :: earlier) :
    (∃ instant, s.arrival? = some instant ∧ NextAttempt s instant) ∧
    (NextAttempt s (Clock.wake s.now delay) ↔ s.arrival? = some (Clock.wake s.now delay)) := by
  have tended := tended_of_run capacity backoff negotiation ran uncancelled
  obtain ⟨watching, faulted⟩ := tended.shown _ _ _ _ shown
  obtain ⟨instant, awaits⟩ := awaits_of_run _ _ _ ran uncancelled watching faulted
  exact ⟨⟨instant, awaits.arrives, awaits.nextAttempt⟩,
    nextAttempt_iff capacity backoff negotiation ran uncancelled watching faulted _⟩

/-- The backoff of a first fault is honoured. -/
theorem first_backoff_honoured :
    ∃ s, (new 16 twoToThirty (.ofSecs 60)).run? failedAttempt = some s ∧ NextAttempt s 2000 := by
  obtain ⟨s, ran⟩ : ∃ s, (new 16 twoToThirty (.ofSecs 60)).run? failedAttempt = some s := ⟨_, rfl⟩
  obtain ⟨earlier, shown, uncancelled, arrives, due⟩ : ∃ earlier,
      s.history = (s.now, .scheduled (.ofSecs 2) true) :: earlier ∧ s.cancelled = false ∧
        s.arrival? = some 2000 ∧ Clock.wake s.now (.ofSecs 2) = 2000 := by
    cases ran
    exact ⟨_, rfl, rfl, by decide, by decide⟩
  have honoured := (backoff_honoured_iff _ _ _ ran uncancelled shown).2
  rw [due] at honoured
  exact ⟨s, ran, honoured.mpr arrives⟩

/-- A second fault's delay is being waited out when a request brings the link up; then it goes down
again. -/
def outpaced : List Action :=
  failedAttempt ++ [.driver, .pass 2000, .driver, .driver] ++ failedAttempt ++
    [.driver, .pass 500, .request, .machine,
      .report (.up ⟨10, 0, 0, 2⟩ ⟨10, 0, 0, 1⟩ ⟨255, 255, 255, 255⟩), .connectEnds true, .machine,
      .pass 500, .report (.down "peer gone"), .machine]

/-- A first fault's delay is being waited out when a request leads to a second fault. -/
def overtaken : List Action := failedAttempt ++ .driver :: .pass 500 :: .request :: failedAttempt

/-- An older timer keeps the link down beyond the backoff of its last fault in one run, and has it
tried again before that in another. -/
theorem stale_timer_misses_backoff :
    (∃ s, (new 16 twoToThirty (.ofSecs 60)).run? outpaced = some s ∧ s.cancelled = false ∧
      s.requests = 0 ∧ s.history.head? = some (3000, .scheduled (.ofSecs 2) true) ∧
      NextAttempt s 6000 ∧ ¬ NextAttempt s 5000) ∧
    ∃ s, (new 16 twoToThirty (.ofSecs 60)).run? overtaken = some s ∧ s.cancelled = false ∧
      s.requests = 0 ∧ s.history.head? = some (500, .scheduled (.ofSecs 4) true) ∧
      NextAttempt s 2000 ∧ ¬ NextAttempt s 4500 := by
  constructor
  · obtain ⟨s, ran⟩ : ∃ s, (new 16 twoToThirty (.ofSecs 60)).run? outpaced = some s := ⟨_, rfl⟩
    obtain ⟨uncancelled, unasked, shown, watching, faulted, arrives⟩ : s.cancelled = false ∧
        s.requests = 0 ∧ s.history.head? = some (3000, .scheduled (.ofSecs 2) true) ∧
        s.phase = .watching none ∧ s.session.state = .faulted ∧ s.arrival? = some 6000 := by
      cases ran
      decide
    have next := nextAttempt_iff _ _ _ ran uncancelled watching faulted
    refine ⟨s, ran, uncancelled, unasked, shown, (next 6000).mpr arrives, ?_⟩
    rw [next, arrives]
    decide
  · obtain ⟨s, ran⟩ : ∃ s, (new 16 twoToThirty (.ofSecs 60)).run? overtaken = some s := ⟨_, rfl⟩
    obtain ⟨uncancelled, unasked, shown, watching, faulted, arrives⟩ : s.cancelled = false ∧
        s.requests = 0 ∧ s.history.head? = some (500, .scheduled (.ofSecs 4) true) ∧
        s.phase = .watching none ∧ s.session.state = .faulted ∧ s.arrival? = some 2000 := by
      cases ran
      decide
    have next := nextAttempt_iff _ _ _ ran uncancelled watching faulted
    refine ⟨s, ran, uncancelled, unasked, shown, (next 2000).mpr arrives, ?_⟩
    rw [next, arrives]
    decide

end BridgeWarden.Link.System

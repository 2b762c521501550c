import BridgeWarden.Proofs.Link.Doubling
import BridgeWarden.Proofs.Link.Reconnects

/-!
Reconnects while nobody else asks for connections.

A reconnect is a token: a fault makes it, as a delay; the driver takes the delay, sleeps on it and
sends a request; and the machine takes the request up, which ends the fault. `Conserved` says that
a faulted link has one token and every other link none, so no delay is dropped and no request is in
vain, and that the one token gets to the machine when the delay of the last fault is over.
`tokens_conserved` is what this comes to for a run, with the lengths of the delays.
-/

namespace BridgeWarden.Link

/-! ### Tokens -/

/-- How many delays the driver is waiting out. -/
def Driver.asleep : Driver → Nat
  | .sleeping _ => 1
  | .waiting | .sending | .stopped => 0

/-- How many requests the driver is about to send. -/
def Driver.asking : Driver → Nat
  | .sending => 1
  | .waiting | .sleeping _ | .stopped => 0

theorem Driver.asking_of_ne {driver : Driver} (unsent : driver ≠ .sending) :
    driver.asking = 0 := by
  cases driver with
  | sending => exact (unsent rfl).elim
  | waiting | sleeping | stopped => rfl

/-- Whether the machine is inside a call into the engine. -/
def Phase.isCalling : Phase → Bool
  | .attempting _ | .abandoning .. => true
  | .fresh | .watching _ | .stopped | .crashed => false

namespace System

variable {s s' : System} {action : Action}

/-- How many reconnects wait: as delays handed over or waited out, or as requests in the queue. -/
def pending (s : System) : Nat := s.delay.toList.length + s.driver.asleep + s.requests

/-- How many reconnects are under way. -/
def tokens (s : System) : Nat := s.pending + s.driver.asking

/-- How many reconnects a link is in need of. -/
def owed (s : System) : Nat :=
  if s.phase = .watching none ∧ s.session.state = .faulted then 1 else 0

theorem owed_le_one (s : System) : s.owed ≤ 1 := by
  unfold owed
  split
  · exact Nat.le_refl 1
  · exact Nat.zero_le 1

theorem owed_of_faulted (watching : s.phase = .watching none)
    (faulted : s.session.state = .faulted) : s.owed = 1 := if_pos ⟨watching, faulted⟩

theorem owed_of_elsewhere (elsewhere : s.phase ≠ .watching none) : s.owed = 0 :=
  if_neg fun both => elsewhere both.1

theorem owed_of_active (active : s.session.IsActive) : s.owed = 0 :=
  if_neg fun both => Session.inactive_of_faulted both.2 active

/-- A delay finds its place free when there is no token. -/
theorem accepts_of_tokenless (tokenless : s.tokens = 0) (driven : s.driver ≠ .stopped) :
    s.delay = none ∧ s.driver = .waiting ∧ s.requests = 0 ∧ s.accepts = true := by
  simp only [tokens, pending, Nat.add_eq_zero_iff, List.length_eq_zero_iff,
    Option.toList_eq_nil_iff] at tokenless
  obtain ⟨⟨⟨empty, awake⟩, unasked⟩, unsent⟩ := tokenless
  cases stage : s.driver with
  | waiting => exact ⟨empty, rfl, unasked, by simp [accepts, empty, stage]⟩
  | sleeping due => simp [stage, Driver.asleep] at awake
  | sending => simp [stage, Driver.asking] at unsent
  | stopped => exact (driven stage).elim

theorem tokens_showFault {delay : Span} (tokenless : s.tokens = 0)
    (driven : s.driver ≠ .stopped) : (s.showFault delay).tokens = 1 := by
  obtain ⟨empty, waiting, unasked, accepted⟩ := accepts_of_tokenless tokenless driven
  simp [tokens, pending, showFault, accepted, waiting, unasked, Driver.asleep, Driver.asking]

/-- A fault that finds no other token is followed by an attempt after its delay. -/
theorem awaits_showFault {delay : Span} (fits : (s.showFault delay).Fits)
    (faulted : s.session.state = .faulted) (uncancelled : s.cancelled = false)
    (tokenless : s.tokens = 0) (driven : s.driver ≠ .stopped) :
    Awaits (s.showFault delay) (Clock.wake s.now delay) := by
  obtain ⟨empty, waiting, unasked, accepted⟩ := accepts_of_tokenless tokenless driven
  refine ⟨fits, rfl, faulted, uncancelled, ?_, Clock.le_wake _ _⟩
  rw [arrival?_of_waiting (s := s.showFault delay) unasked waiting]
  simp [showFault, accepted]

/-- A fault that finds no other token hands its delay over. -/
theorem accepted_showFault {promised : Span}
    (before : ∀ since delay accepted, (since, .scheduled delay accepted) ∈ s.history →
      accepted = true) (tokenless : s.tokens = 0) (driven : s.driver ≠ .stopped) :
    ∀ since delay accepted, (since, .scheduled delay accepted) ∈ (s.showFault promised).history →
      accepted = true := by
  obtain ⟨-, -, -, free⟩ := accepts_of_tokenless tokenless driven
  intro since delay accepted member
  simp only [showFault, free, List.mem_cons, Prod.mk.injEq, Happening.scheduled.injEq,
    reduceCtorEq, and_false, false_or] at member
  rcases member with ⟨-, -, same⟩ | earlier
  · exact same
  · exact before since delay accepted earlier

/-- A link has the reconnects that it needs and no more. -/
structure Conserved (s : System) : Prop where
  going : s.phase ≠ .stopped
  balance : s.tokens = s.owed
  accepted : ∀ since delay accepted, (since, .scheduled delay accepted) ∈ s.history →
    accepted = true
  heeded : ∀ since, (since, .requestIgnored) ∉ s.history
  due : ∀ since delay accepted earlier,
    s.history = (since, .scheduled delay accepted) :: earlier →
    Awaits s (Clock.wake since delay)

namespace Conserved

theorem new (capacity : Nat) (backoff : Backoff) (negotiation : Span) :
    Conserved (new capacity backoff negotiation) := by
  refine ⟨?_, rfl, ?_, ?_, ?_⟩
  · rintro ⟨⟩
  · rintro since delay accepted ⟨⟩
  · rintro since ⟨⟩
  · rintro since delay accepted earlier ⟨⟩

/-- An attempt under way, or a link that is up, has no token. -/
theorem tokenless (conserved : Conserved s) (unowed : s.owed = 0) : s.tokens = 0 :=
  conserved.balance.trans unowed

/-- A request is not queued while there is nothing to connect. -/
theorem unasked_of_active (conserved : Conserved s) (active : s.session.IsActive) :
    s.requests = 0 := by
  have tokenless := conserved.tokenless (owed_of_active active)
  simp only [tokens, pending] at tokenless
  omega

/-- Whoever takes a token hands one on, but for a fault, which makes one, and an attempt, which
takes one up. -/
theorem balance_step (conserved : Conserved s) (tended : Tended s) (fits : s.Fits)
    (stepped : Step s action s') (calm : action.isCalm = true)
    (uncancelled : s.cancelled = false) : s'.tokens = s'.owed := by
  have balance := conserved.balance
  cases stepped with
  | connected takes free =>
      refine Eq.trans ?_ (owed_of_elsewhere (by simp)).symm
      cases takes with
      | first fresh => exact conserved.tokenless (owed_of_elsewhere (by simp [fresh]))
      | queued watching _ _ asked =>
          rcases free with idle | faulted
          · exact (fits.begun_of_watching watching idle).elim
          · rw [owed_of_faulted (fits.unhurried_of_faulted watching faulted) faulted] at balance
            simp only [tokens, pending] at balance ⊢
            omega
  | requestIgnored _ _ _ asked active =>
      have unasked := conserved.unasked_of_active active
      omega
  | connectReturned attempting =>
      refine (conserved.tokenless (owed_of_elsewhere (by simp [attempting]))).trans ?_
      exact (owed_of_elsewhere (by simp)).symm
  | crashed attempting =>
      refine (conserved.tokenless (owed_of_elsewhere (by simp [attempting]))).trans ?_
      exact (owed_of_elsewhere (by simp)).symm
  | gaveUp _ connecting =>
      refine (conserved.tokenless (owed_of_active (Or.inl connecting))).trans ?_
      exact (owed_of_elsewhere (by simp)).symm
  | abandoned letsGo faulted =>
      have tokenless := conserved.tokenless (owed_of_elsewhere letsGo.elsewhere)
      refine (tokens_showFault tokenless (tended.driven letsGo.running)).trans (Eq.symm ?_)
      exact owed_of_faulted rfl faulted
  | eventIgnored => exact balance
  | established _ _ _ connecting became =>
      refine (conserved.tokenless (owed_of_active (Or.inl connecting))).trans ?_
      exact (owed_of_active (Or.inr (by rw [became]))).symm
  | faulted watching _ _ active =>
      have tokenless := conserved.tokenless (owed_of_active active)
      have driven := tended.driven (by rw [watching]; rfl)
      refine (tokens_showFault tokenless driven).trans (Eq.symm ?_)
      exact owed_of_faulted rfl rfl
  | stopped _ cancelled => simp [uncancelled] at cancelled
  | driverSleeps waiting handed =>
      refine Eq.trans ?_ balance
      simp [tokens, pending, waiting, handed, Driver.asleep, Driver.asking, Nat.add_comm]
  | driverWakes sleeping =>
      refine Eq.trans ?_ balance
      simp only [tokens, pending, sleeping, Driver.asleep, Driver.asking]
      omega
  | driverAsks sending =>
      refine Eq.trans ?_ balance
      simp only [tokens, pending, sending, Driver.asleep, Driver.asking]
      omega
  | driverEnds ended =>
      have elsewhere : s.phase ≠ .watching none := by
        intro watching
        simp [watching, Phase.isOver] at ended
      have tokenless := conserved.tokenless (owed_of_elsewhere elsewhere)
      refine Eq.trans ?_ (owed_of_elsewhere elsewhere).symm
      simp only [tokens, pending, Driver.asleep, Driver.asking] at tokenless ⊢
      omega
  | driverQuits cancelled => simp [uncancelled] at cancelled
  | requested => cases calm
  | reported | unreported | unrequested | cancelled | passed => exact balance

/-- No delay is dropped. -/
theorem accepted_step (conserved : Conserved s) (tended : Tended s) (stepped : Step s action s') :
    ∀ since delay accepted, (since, .scheduled delay accepted) ∈ s'.history → accepted = true := by
  have before := conserved.accepted
  cases stepped with
  | connected | requestIgnored | gaveUp | established =>
      intro since delay accepted member
      exact before since delay accepted (by simpa using member)
  | abandoned letsGo =>
      have tokenless := conserved.tokenless (owed_of_elsewhere letsGo.elsewhere)
      exact accepted_showFault before tokenless (tended.driven letsGo.running)
  | faulted watching _ _ active =>
      have tokenless := conserved.tokenless (owed_of_active active)
      have driven := tended.driven (by rw [watching]; rfl)
      exact accepted_showFault (s := { s with session := s.session.fault, events := _ })
        before tokenless driven
  | connectReturned | crashed | eventIgnored | stopped | driverSleeps | driverWakes | driverAsks
  | driverEnds | driverQuits | reported | unreported | requested | unrequested | cancelled
  | passed => exact before

/-- No request is in vain. -/
theorem heeded_step (conserved : Conserved s) (stepped : Step s action s') :
    ∀ since, (since, .requestIgnored) ∉ s'.history := by
  have before := conserved.heeded
  cases stepped with
  | connected | gaveUp | established =>
      intro since member
      exact before since (by simpa using member)
  | abandoned | faulted =>
      intro since member
      exact before since (by simpa [showFault] using member)
  | requestIgnored _ _ _ asked active =>
      have unasked := conserved.unasked_of_active active
      omega
  | connectReturned | crashed | eventIgnored | stopped | driverSleeps | driverWakes | driverAsks
  | driverEnds | driverQuits | reported | unreported | requested | unrequested | cancelled
  | passed => exact before

/-- The token of a fault is that of the last delay. -/
theorem due_step (conserved : Conserved s) (tended : Tended s) (fits : s.Fits)
    (stepped : Step s action s') (calm : action.isCalm = true)
    (uncancelled : s.cancelled = false) :
    ∀ since delay accepted earlier, s'.history = (since, .scheduled delay accepted) :: earlier →
      Awaits s' (Clock.wake since delay) := by
  intro since delay accepted earlier last
  have fits' := fits.step stepped
  -- Without a new entry nothing was attempted, so the link waits as before.
  have still : s'.history = s.history → Awaits s' (Clock.wake since delay) := by
    intro same
    rw [same] at last
    rcases (conserved.due since delay accepted earlier last).step stepped calm with
      ⟨awaits, -⟩ | attempted
    · exact awaits
    · simp [same] at attempted
  cases stepped with
  | connected | requestIgnored | gaveUp | established => cases last
  | abandoned letsGo faulted =>
      have tokenless := conserved.tokenless (owed_of_elsewhere letsGo.elsewhere)
      cases last
      exact awaits_showFault fits' faulted uncancelled tokenless (tended.driven letsGo.running)
  | faulted watching _ _ active =>
      have tokenless := conserved.tokenless (owed_of_active active)
      have driven := tended.driven (by rw [watching]; rfl)
      cases last
      exact awaits_showFault fits' rfl uncancelled tokenless driven
  | connectReturned | crashed | eventIgnored | stopped | driverSleeps | driverWakes | driverAsks
  | driverEnds | driverQuits | reported | unreported | requested | unrequested | cancelled
  | passed => exact still rfl

theorem step (conserved : Conserved s) (tended : Tended s) (fits : s.Fits)
    (stepped : Step s action s') (calm : action.isCalm = true)
    (uncancelled : s.cancelled = false) : Conserved s' :=
  ⟨stepped.going conserved.going uncancelled,
    conserved.balance_step tended fits stepped calm uncancelled,
    conserved.accepted_step tended stepped, conserved.heeded_step stepped,
    conserved.due_step tended fits stepped calm uncancelled⟩

end Conserved

/-- A step that nobody asked for is calm if it leaves the system uncancelled. -/
theorem Step.calm (stepped : Step s action s') (unasked : action ≠ .request)
    (uncancelled : s'.cancelled = false) : action.isCalm = true := by
  cases action with
  | request => exact (unasked rfl).elim
  | cancel =>
      cases stepped with
      | gaveUp givesUp => cases givesUp
      | abandoned letsGo => cases letsGo
      | cancelled => cases uncancelled
  | machine | driver | driverQuits | connectEnds | disconnectEnds | report | pass => rfl

/-- What a run from the beginning keeps in which nobody asks for a connection or cancels. -/
theorem conserved_of_run (capacity : Nat) (backoff : Backoff) (negotiation : Span)
    {actions : List Action}
    (ran : (new capacity backoff negotiation).run? actions = some s) (unasked : .request ∉ actions)
    (uncancelled : s.cancelled = false) : Conserved s := by
  have both : Tended s ∧ Conserved s := by
    refine run?_keeps (fun t => Tended t ∧ Conserved t) (·.cancelled = false) (fits_new ..)
      Step.uncancelled ?_ ⟨.new .., .new ..⟩ ran uncancelled
    rintro s action s' ⟨tended, conserved⟩ fits member stepped before after
    have calm := stepped.calm (fun asked => unasked (asked ▸ member)) after
    exact ⟨tended.step fits stepped before, conserved.step tended fits stepped calm before⟩
  exact both.2

/-! ### Where both tasks wait -/

/-- A driver that wants to send has room for its request. -/
theorem Conserved.unsent (conserved : Conserved s) (resting : s.driver? = none) :
    s.driver ≠ .sending := by
  intro sending
  have room : s.requests < requestCapacity := by
    have balance := conserved.balance
    have within := s.owed_le_one
    simp only [tokens, pending] at balance
    simp only [requestCapacity]
    omega
  by_cases ended : s.phase.isOver = true
  · simp [driver?, sending, ended] at resting
  · simp [driver?, sending, ended, room] at resting

/-- Where both tasks wait, a link that has faulted has one reconnect that waits with them, and any
other link has none. -/
theorem Conserved.settled (conserved : Conserved s) (fits : s.Fits) (idle : s.machine? = none)
    (resting : s.driver? = none) :
    (s.session.IsActive ∨ s.phase.isCalling = true) ∧ s.pending = 0 ∨
      (s.session.state = .faulted ∧ s.phase.isCalling = false) ∧ s.pending = 1 := by
  have waiting : s.pending = s.owed := by
    rw [← conserved.balance, tokens, Driver.asking_of_ne (conserved.unsent resting), Nat.add_zero]
  have unowed : s.phase ≠ .watching none → s.pending = 0 :=
    fun elsewhere => waiting.trans (owed_of_elsewhere elsewhere)
  cases phase : s.phase with
  | fresh => simp [machine?, phase] at idle
  | stopped => exact (conserved.going phase).elim
  | attempting => exact Or.inl ⟨Or.inr rfl, unowed (by simp [phase])⟩
  | abandoning => exact Or.inl ⟨Or.inr rfl, unowed (by simp [phase])⟩
  | crashed =>
      exact Or.inl ⟨Or.inl (Or.inl (fits.connecting_of_crashed phase)), unowed (by simp [phase])⟩
  | watching deadline =>
      rcases fits.active_or_faulted phase with active | faulted
      · exact Or.inl ⟨Or.inl active, waiting.trans (owed_of_active active)⟩
      · have unhurried := fits.unhurried_of_faulted phase faulted
        exact Or.inr ⟨⟨faulted, rfl⟩, waiting.trans (owed_of_faulted unhurried faulted)⟩

/-- Where nobody else asks for connections and nobody cancels, at each point where both tasks wait,
a faulted link has one reconnect and any other none; no delay was dropped and no request in vain;
and a fault that is the last thing shown is followed by an attempt after the least delay, doubled
for each failure in a row before it and cut to the ceiling. -/
theorem tokens_conserved (capacity : Nat) {least ceiling : Span} {backoff : Backoff}
    (made : Backoff.make? least ceiling = .ok backoff) (held : ceiling ≤ Span.longest)
    (negotiation : Span) {actions : List Action}
    (ran : (new capacity backoff negotiation).run? actions = some s) (unasked : .request ∉ actions)
    (uncancelled : s.cancelled = false) :
    (s.machine? = none → s.driver? = none →
      s.driver ≠ .sending ∧
      ((s.session.IsActive ∨ s.phase.isCalling = true) ∧ s.pending = 0 ∨
        (s.session.state = .faulted ∧ s.phase.isCalling = false) ∧ s.pending = 1)) ∧
    (∀ since delay accepted, (since, .scheduled delay accepted) ∈ s.history →
      accepted = true) ∧
    (∀ since, (since, .requestIgnored) ∉ s.history) ∧
    ∀ since delay accepted earlier, s.history = (since, .scheduled delay accepted) :: earlier →
      0 < failures s.history ∧
      delay = Backoff.delayAfter least ceiling (failures s.history - 1) ∧
      ((Clock.deadline? since delay).isSome → NextAttempt s (since + delay.ceilMillis)) := by
  have fits := (fits_new capacity backoff negotiation).run ran
  have conserved := conserved_of_run capacity backoff negotiation ran unasked uncancelled
  have doubling := doubling_of_run capacity made held negotiation ran
  refine ⟨?_, conserved.accepted, conserved.heeded, ?_⟩
  · intro idle resting
    exact ⟨conserved.unsent resting, conserved.settled fits idle resting⟩
  · intro since delay accepted earlier last
    obtain ⟨counted, length⟩ := doubling.shown since delay accepted earlier last
    refine ⟨counted, length, fun told => ?_⟩
    rw [← Clock.wake_of_isSome told]
    exact (conserved.due since delay accepted earlier last).nextAttempt

/-- A fault, the attempt after its delay, and a second fault, whose delay the driver takes. -/
def failedTwice : List Action :=
  failedAttempt ++ [.driver, .pass 2000, .driver, .driver] ++ failedAttempt ++ [.driver]

/-- After a second failure the link is tried again in four seconds. -/
theorem failed_twice_conserved :
    ∃ s, (new 16 twoToThirty (.ofSecs 60)).run? failedTwice = some s ∧ s.pending = 1 ∧
      NextAttempt s 6000 := by
  obtain ⟨s, ran⟩ : ∃ s, (new 16 twoToThirty (.ofSecs 60)).run? failedTwice = some s := ⟨_, rfl⟩
  obtain ⟨earlier, last, idle, resting, uncancelled, watching, faulted⟩ : ∃ earlier,
      s.history = (2000, .scheduled (.ofSecs 4) true) :: earlier ∧ s.machine? = none ∧
        s.driver? = none ∧ s.cancelled = false ∧ s.phase = .watching none ∧
        s.session.state = .faulted := by
    cases ran
    exact ⟨_, rfl, rfl, rfl, rfl, rfl, rfl⟩
  have made : Backoff.make? (.ofSecs 2) (.ofSecs 30) = .ok twoToThirty := rfl
  obtain ⟨settled, -, -, next⟩ :=
    tokens_conserved _ made (by decide) _ ran (by decide) uncancelled
  obtain ⟨-, -, attempted⟩ := next _ _ _ _ last
  refine ⟨s, ran, ?_, attempted (by decide)⟩
  obtain ⟨-, ⟨active | calling, -⟩ | ⟨-, one⟩⟩ := settled idle resting
  · exact (Session.inactive_of_faulted faulted active).elim
  · simp [watching, Phase.isCalling] at calling
  · exact one

end System

end BridgeWarden.Link

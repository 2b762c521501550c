import BridgeWarden.Proofs.Link.Crash
import BridgeWarden.Proofs.Link.Reconnects

/-!
The end of the link's tasks.

Neither a call of the engine nor a driver that waits for room looks for a cancellation. The machine
that is cancelled in one of its calls comes through that call, and through the one that gives the
attempt up, and ends where it would begin to wait; no request is taken up on the way. `Closing` says
by when, and each of the tasks' own steps brings them nearer to their end (`Closing.nearer`), which
also a driver that waits for room comes to with the machine's. A machine whose call returns in time
for a negotiation that the clock cannot tell the end of crashes there instead (`ShutsDown.clean`).
-/

namespace BridgeWarden.Link

/-- When the call that the machine is in is cut off. -/
def Phase.cutOff? : Phase → Option Nat
  | .attempting cutOff | .abandoning cutOff _ => some cutOff
  | .fresh | .watching _ | .stopped | .crashed => none

/-- How many moves a machine that is cancelled still has to make. -/
def Phase.remaining : Phase → Nat
  | .fresh => 4
  | .attempting _ => 3
  | .abandoning .. => 2
  | .watching _ => 1
  | .stopped | .crashed => 0

/-- How many moves a driver that is cancelled may still make. -/
def Driver.remaining : Driver → Nat
  | .sending => 2
  | .waiting | .sleeping _ => 1
  | .stopped => 0

theorem Phase.deadline?_of_cutOff? {phase : Phase} {cutOff : Nat}
    (inCall : phase.cutOff? = some cutOff) : phase.deadline? = some cutOff := by
  cases phase with
  | attempting | abandoning => exact inCall
  | fresh | watching | stopped | crashed => cases inCall

namespace System

variable {s s' : System} {action : Action} {actions : List Action} {c : Nat}

/-! ### Calls -/

/-- The call that the machine is in, if any, is cut off in time. -/
def InCall (s : System) : Prop :=
  ∀ cutOff, s.phase.cutOff? = some cutOff →
    s.now ≤ cutOff ∧ ∃ begun ≤ s.now, cutOff = Clock.wake begun callBound

namespace InCall

theorem new (capacity : Nat) (backoff : Backoff) (negotiation : Span) :
    InCall (new capacity backoff negotiation) := by
  rintro cutOff ⟨⟩

theorem step (inCall : s.InCall) (stepped : Step s action s') : s'.InCall := by
  cases stepped with
  | connected | gaveUp =>
      rintro cutOff ⟨⟩
      exact ⟨Clock.le_wake _ _, s.now, Nat.le_refl _, rfl⟩
  | connectReturned | crashed | abandoned | established | faulted | stopped => rintro cutOff ⟨⟩
  | passed waits =>
      intro cutOff here
      obtain ⟨-, begun, before, same⟩ := inCall cutOff here
      exact ⟨le_of_canWait waits (Phase.deadline?_of_cutOff? here), begun,
        Nat.le_add_right_of_le before, same⟩
  | requestIgnored | eventIgnored | driverSleeps | driverWakes | driverAsks | driverEnds
  | driverQuits | reported | unreported | requested | unrequested | cancelled => exact inCall

theorem run (inCall : s.InCall) (fits : s.Fits) (ran : s.run? actions = some s') : s'.InCall := by
  apply fits.keeps InCall ?_ inCall ran
  intro s action s' inCall stepped
  exact inCall.step stepped

end InCall

/-- A call begun within five seconds lasts at most five seconds, where the clock can tell the next
ten. -/
theorem wake_callBound {begun : Nat} (told : (Clock.deadline? c (.ofSecs 10)).isSome)
    (early : begun ≤ c + 5000) : Clock.wake begun callBound = begun + 5000 := by
  have known : (Clock.deadline? begun callBound).isSome := by
    rw [Clock.deadline?_isSome_iff] at told ⊢
    refine Nat.le_trans (Nat.div_le_div_right ?_) told
    simp only [Clock.nanos, callBound, Span.ofSecs, Span.nanosPerSecond, Span.nanosPerMilli]
    omega
  rw [Clock.wake_of_isSome known, callBound, Span.ceilMillis_ofSecs]

/-! ### The end -/

/-- Both tasks have ended. -/
structure Ended (s : System) : Prop where
  machine : s.phase.isOver = true
  driver : s.driver = .stopped

/-- A machine that has ended makes no further move. -/
theorem isOver_of_step (finished : s.phase.isOver = true) (stepped : Step s action s') :
    s'.phase.isOver = true := by
  cases stepped with
  | connected takes => simp [takes.running] at finished
  | gaveUp givesUp => simp [givesUp.running] at finished
  | abandoned letsGo => simp [letsGo.running] at finished
  | crashed | stopped => rfl
  | connectReturned phase | established phase | faulted phase =>
      simp [phase, Phase.isOver] at finished
  | requestIgnored | eventIgnored | driverSleeps | driverWakes | driverAsks | driverEnds
  | driverQuits | reported | unreported | requested | unrequested | cancelled | passed =>
      exact finished

theorem Ended.step (ended : s.Ended) (stepped : Step s action s') : s'.Ended := by
  refine ⟨isOver_of_step ended.machine stepped, ?_⟩
  have driver := ended.driver
  cases stepped with
  | driverSleeps moved | driverWakes moved | driverAsks moved => simp [driver] at moved
  | driverEnds | driverQuits => rfl
  | connected | requestIgnored | connectReturned | crashed | gaveUp | abandoned | eventIgnored
  | established | faulted | stopped | reported | unreported | requested | unrequested | cancelled
  | passed => exact driver

/-- While time passes after a cancellation, the driver has ended or waits for room. -/
theorem driver_of_canWait {millis : Nat} (cancelled : s.cancelled = true)
    (waits : s.canWait millis = true) :
    s.driver = .stopped ∨ s.driver = .sending ∧ s.phase.isOver = false := by
  simp only [canWait, Bool.and_eq_true, Option.isNone_iff_eq_none] at waits
  obtain ⟨⟨⟨-, driver⟩, quits⟩, -⟩ := waits
  cases stage : s.driver with
  | stopped => exact Or.inl rfl
  | waiting | sleeping => simp [driverQuits?, stage, cancelled] at quits
  | sending =>
      cases finished : s.phase.isOver with
      | false => exact Or.inr ⟨rfl, rfl⟩
      | true => simp [driver?, stage, finished] at driver

/-- A machine that is cancelled does not wait between its calls. -/
theorem unwatching_of_canWait {millis : Nat} (cancelled : s.cancelled = true)
    (waits : s.canWait millis = true) (deadline : Option Nat) : s.phase ≠ .watching deadline := by
  intro watching
  simp [canWait, machine?, watching, cancelled] at waits

/-! ### On the way -/

/-- A link that was cancelled at the instant `c` is on its way to the end, or there. -/
structure Closing (c : Nat) (s : System) : Prop where
  fits : s.Fits
  cancelled : s.cancelled = true
  begun : s.phase ≠ .fresh
  attempting : ∀ cutOff, s.phase = .attempting cutOff → s.now ≤ cutOff ∧ cutOff ≤ c + 5000
  abandoning : ∀ cutOff delay, s.phase = .abandoning cutOff delay →
    s.now ≤ cutOff ∧ cutOff ≤ c + 10000
  intime : s.now ≤ c + 10000 ∨ s.Ended

namespace Closing

/-- From the cancellation on, wherever the tasks are. -/
theorem of_cancelled (fits : s.Fits) (inCall : s.InCall) (begun : s.phase ≠ .fresh)
    (told : (Clock.deadline? s.now (.ofSecs 10)).isSome) :
    Closing s.now { s with cancelled := true } := by
  have limit : ∀ cutOff, s.phase.cutOff? = some cutOff →
      s.now ≤ cutOff ∧ cutOff ≤ s.now + 5000 := by
    intro cutOff here
    obtain ⟨ahead, start, before, rfl⟩ := inCall cutOff here
    rw [wake_callBound told (Nat.le_add_right_of_le before)] at ahead ⊢
    exact ⟨ahead, Nat.add_le_add_right before _⟩
  refine ⟨fits, rfl, begun, ?_, ?_, Or.inl (Nat.le_add_right _ _)⟩
  · intro cutOff attempting
    apply limit
    exact congrArg Phase.cutOff? attempting
  · intro cutOff delay abandoning
    obtain ⟨ahead, within⟩ := limit cutOff (congrArg Phase.cutOff? abandoning)
    exact ⟨ahead, Nat.le_trans within (by simp)⟩

/-- A machine that is cancelled takes nothing up. -/
theorem untaken (closing : Closing c s) {requests : Nat} : ¬ TakesRequest s requests := by
  intro takes
  cases takes with
  | first fresh => exact closing.begun fresh
  | queued _ uncancelled => simp [closing.cancelled] at uncancelled

/-- It gives up an attempt only out of the call that began it. -/
theorem attempting_of_givesUp (closing : Closing c s) (givesUp : GivesUp s action) :
    ∃ cutOff, s.phase = .attempting cutOff := by
  cases givesUp with
  | cutOff attempting => exact ⟨_, attempting⟩
  | refused attempting => exact ⟨_, attempting⟩
  | expired _ uncancelled => simp [closing.cancelled] at uncancelled

theorem abandoning_of_letsGo {delay : Span} (letsGo : LetsGo s action delay) :
    ∃ cutOff, s.phase = .abandoning cutOff delay := by
  cases letsGo with
  | cutOff abandoning => exact ⟨_, abandoning⟩
  | returned abandoning => exact ⟨_, abandoning⟩

/-- Time passes within a call, or after the end. -/
theorem pass (closing : Closing c s) {millis : Nat} (waits : s.canWait millis = true) :
    Closing c { s with now := s.now + millis } := by
  have within : ∀ cutOff, s.phase.cutOff? = some cutOff → s.now + millis ≤ cutOff := by
    intro cutOff here
    exact le_of_canWait waits (Phase.deadline?_of_cutOff? here)
  have attempting : ∀ cutOff, s.phase = .attempting cutOff →
      s.now + millis ≤ cutOff ∧ cutOff ≤ c + 5000 := by
    intro cutOff here
    exact ⟨within cutOff (congrArg Phase.cutOff? here), (closing.attempting cutOff here).2⟩
  have abandoning : ∀ cutOff delay, s.phase = .abandoning cutOff delay →
      s.now + millis ≤ cutOff ∧ cutOff ≤ c + 10000 := by
    intro cutOff delay here
    exact ⟨within cutOff (congrArg Phase.cutOff? here), (closing.abandoning cutOff delay here).2⟩
  have early : s.phase.isOver = false → s.now + millis ≤ c + 10000 := by
    intro running
    cases phase : s.phase with
    | fresh => exact (closing.begun phase).elim
    | attempting cutOff =>
        obtain ⟨early, late⟩ := attempting cutOff phase
        omega
    | abandoning cutOff delay =>
        obtain ⟨early, late⟩ := abandoning cutOff delay phase
        exact Nat.le_trans early late
    | watching deadline =>
        exact (unwatching_of_canWait closing.cancelled waits deadline phase).elim
    | stopped | crashed => simp [phase, Phase.isOver] at running
  refine ⟨closing.fits, closing.cancelled, closing.begun, attempting, abandoning, ?_⟩
  cases finished : s.phase.isOver with
  | false => exact Or.inl (early finished)
  | true =>
      rcases driver_of_canWait closing.cancelled waits with stopped | ⟨-, running⟩
      · exact Or.inr ⟨finished, stopped⟩
      · simp [finished] at running

theorem step (closing : Closing c s) (told : (Clock.deadline? c (.ofSecs 10)).isSome)
    (stepped : Step s action s') : Closing c s' := by
  have fits := closing.fits.step stepped
  have intime : s'.now = s.now → s'.now ≤ c + 10000 ∨ s'.Ended := by
    intro same
    rcases closing.intime with early | ended
    · exact Or.inl (same ▸ early)
    · exact Or.inr (ended.step stepped)
  have cancelled := closing.cancelled
  have begun := closing.begun
  have attempting := closing.attempting
  have abandoning := closing.abandoning
  cases stepped with
  | connected takes => exact (closing.untaken takes).elim
  | requestIgnored _ uncancelled | eventIgnored _ uncancelled | established _ uncancelled
  | faulted _ uncancelled => simp [cancelled] at uncancelled
  | gaveUp givesUp =>
      obtain ⟨cutOff, here⟩ := closing.attempting_of_givesUp givesUp
      obtain ⟨early, late⟩ := attempting cutOff here
      refine ⟨fits, cancelled, by rintro ⟨⟩, by rintro cutOff ⟨⟩, ?_, intime rfl⟩
      rintro cutOff delay ⟨⟩
      have limit : Clock.wake s.now callBound = s.now + 5000 := wake_callBound told (by omega)
      simp only [limit]
      omega
  | connectReturned | crashed | abandoned | stopped =>
      exact ⟨fits, cancelled, by rintro ⟨⟩, by rintro cutOff ⟨⟩, by rintro cutOff delay ⟨⟩,
        intime rfl⟩
  | cancelled => exact ⟨fits, rfl, begun, attempting, abandoning, intime rfl⟩
  | passed waits => exact closing.pass waits
  | driverSleeps | driverWakes | driverAsks | driverEnds | driverQuits | reported | unreported
  | requested | unrequested => exact ⟨fits, cancelled, begun, attempting, abandoning, intime rfl⟩

theorem run (closing : Closing c s) (told : (Clock.deadline? c (.ofSecs 10)).isSome)
    (ran : s.run? actions = some s') : Closing c s' := by
  apply closing.fits.keeps (Closing c) ?_ closing ran
  intro s action s' closing stepped
  exact closing.step told stepped

/-! ### Nearer to the end -/

/-- A move of the machine's leaves the driver alone. -/
theorem machine_lowers (closing : Closing c s) (stepped : Step s .machine s') :
    s'.now = s.now ∧ s'.driver = s.driver ∧ s'.phase.remaining < s.phase.remaining := by
  cases stepped with
  | connected takes => exact (closing.untaken takes).elim
  | requestIgnored _ uncancelled | eventIgnored _ uncancelled | established _ uncancelled
  | faulted _ uncancelled => simp [closing.cancelled] at uncancelled
  | gaveUp givesUp =>
      obtain ⟨cutOff, here⟩ := closing.attempting_of_givesUp givesUp
      exact ⟨rfl, rfl, by rw [here]; exact Nat.lt_succ_self _⟩
  | abandoned letsGo =>
      obtain ⟨cutOff, here⟩ := abandoning_of_letsGo letsGo
      exact ⟨rfl, rfl, by rw [here]; exact Nat.lt_succ_self _⟩
  | stopped watching => exact ⟨rfl, rfl, by rw [watching]; exact Nat.lt_succ_self _⟩

/-- A machine that cannot move is in a call that is not cut off yet. -/
theorem due_of_waiting (closing : Closing c s) (running : s.phase.isOver = false)
    (still : s.machine? = none) :
    ∃ due, s.phase.cutOff? = some due ∧ s.now < due ∧ due ≤ c + 10000 := by
  cases phase : s.phase with
  | fresh => exact (closing.begun phase).elim
  | attempting cutOff =>
      have late := (closing.attempting cutOff phase).2
      simp only [machine?, phase, ite_eq_right_iff, reduceCtorEq, imp_false, Nat.not_le] at still
      exact ⟨cutOff, rfl, still, by omega⟩
  | abandoning cutOff delay =>
      have late := (closing.abandoning cutOff delay phase).2
      simp only [machine?, phase, ite_eq_right_iff, reduceCtorEq, imp_false, Nat.not_le] at still
      exact ⟨cutOff, rfl, still, late⟩
  | watching deadline => simp [machine?, phase, closing.cancelled] at still
  | stopped | crashed => simp [phase, Phase.isOver] at running

/-- How many milliseconds can pass before the end, and how many moves can be made. -/
def rank (c : Nat) (s : System) : Nat :=
  (c + 10000 - s.now) + s.phase.remaining + s.driver.remaining

/-- Where the driver cannot move, and does not sleep, the machine does or time goes on. -/
theorem machine_nearer (closing : Closing c s) (running : s.phase.isOver = false)
    (still : s.driver? = none) (quits : s.driverQuits? = none)
    (awake : s.driver = .stopped ∨ s.driver = .sending) :
    ∃ action s', action.isOwn = true ∧ s.next? action = some s' ∧ s'.now ≤ c + 10000 ∧
      rank c s' < rank c s := by
  have early : s.now ≤ c + 10000 := by
    rcases closing.intime with early | ended
    · exact early
    · simp [ended.machine] at running
  cases moved : s.machine? with
  | some s' =>
      have computed : s.next? .machine = some s' := moved
      obtain ⟨now, driver, lower⟩ :=
        closing.machine_lowers (step_of_next? closing.fits computed)
      refine ⟨.machine, s', rfl, computed, now ▸ early, ?_⟩
      simp only [rank, now, driver]
      omega
  | none =>
      obtain ⟨due, here, later, within⟩ := closing.due_of_waiting running moved
      have deadlines : s.deadlines = [due] := by
        unfold System.deadlines
        cases phase : s.phase with
        | attempting | abandoning =>
            rw [phase] at here
            cases here
            rcases awake with stopped | sending
            · rw [stopped]
              rfl
            · rw [sending]
              rfl
        | fresh | watching | stopped | crashed =>
            rw [phase] at here
            cases here
      have waits : s.canWait 1 = true := by
        rw [canWait, moved, still, quits, deadlines]
        simpa using Nat.succ_le_of_lt later
      refine ⟨.pass 1, { s with now := s.now + 1 }, rfl, by simp [next?, waits], ?_, ?_⟩
      · exact Nat.le_trans (Nat.succ_le_of_lt later) within
      · simp only [rank]
        omega

/-- A driver that waits or sleeps ends at once. -/
theorem quits_nearer (closing : Closing c s)
    (idle : s.driver = .waiting ∨ ∃ due, s.driver = .sleeping due) :
    ∃ s', s.next? .driverQuits = some s' ∧ s'.now = s.now ∧ rank c s' < rank c s := by
  have computed : s.next? .driverQuits = some { s with driver := .stopped } := by
    rcases idle with waiting | ⟨due, sleeping⟩
    · simp [next?, driverQuits?, waiting, closing.cancelled]
    · simp [next?, driverQuits?, sleeping, closing.cancelled]
  have lower : Driver.stopped.remaining < s.driver.remaining := by
    rcases idle with waiting | ⟨due, sleeping⟩
    · rw [waiting]
      exact Nat.zero_lt_one
    · rw [sleeping]
      exact Nat.zero_lt_one
  exact ⟨_, computed, rfl, Nat.add_lt_add_left lower _⟩

/-- A driver that asks for a connection ends with the machine, or gets its request in. -/
theorem driver_nearer (sending : s.driver = .sending)
    (free : s.phase.isOver = true ∨ s.requests < requestCapacity) :
    ∃ s', s.next? .driver = some s' ∧ s'.now = s.now ∧ rank c s' < rank c s := by
  have lower : Driver.waiting.remaining < s.driver.remaining := by
    rw [sending]
    exact Nat.one_lt_two
  cases finished : s.phase.isOver with
  | true =>
      have computed : s.next? .driver = some { s with driver := .stopped } := by
        simp [next?, driver?, sending, finished]
      exact ⟨_, computed, rfl, Nat.add_lt_add_left (Nat.zero_lt_of_lt lower) _⟩
  | false =>
      have room : s.requests < requestCapacity := free.resolve_left (by simp [finished])
      have computed : s.next? .driver =
          some { s with requests := s.requests + 1, driver := .waiting } := by
        simp [next?, driver?, sending, finished, room]
      exact ⟨_, computed, rfl, Nat.add_lt_add_left lower _⟩

/-- As long as one of the tasks has not ended, a step of their own brings them nearer to it. -/
theorem nearer (closing : Closing c s) (going : ¬ s.Ended) :
    ∃ action s', action.isOwn = true ∧ s.next? action = some s' ∧ s'.now ≤ c + 10000 ∧
      rank c s' < rank c s := by
  have early : s.now ≤ c + 10000 := closing.intime.resolve_right going
  cases stage : s.driver with
  | waiting =>
      obtain ⟨s', computed, now, lower⟩ := closing.quits_nearer (Or.inl stage)
      exact ⟨.driverQuits, s', rfl, computed, now ▸ early, lower⟩
  | sleeping due =>
      obtain ⟨s', computed, now, lower⟩ := closing.quits_nearer (Or.inr ⟨due, stage⟩)
      exact ⟨.driverQuits, s', rfl, computed, now ▸ early, lower⟩
  | sending =>
      by_cases free : s.phase.isOver = true ∨ s.requests < requestCapacity
      · obtain ⟨s', computed, now, lower⟩ := driver_nearer stage free
        exact ⟨.driver, s', rfl, computed, now ▸ early, lower⟩
      · -- The queue is full: the driver is held up until the machine ends.
        rw [not_or, Bool.not_eq_true] at free
        obtain ⟨running, full⟩ := free
        have still : s.driver? = none := by simp [driver?, stage, running, full]
        have quits : s.driverQuits? = none := by simp [driverQuits?, stage]
        exact closing.machine_nearer running still quits (Or.inr stage)
  | stopped =>
      have running : s.phase.isOver = false := by
        cases finished : s.phase.isOver with
        | false => rfl
        | true => exact (going ⟨finished, stage⟩).elim
      have still : s.driver? = none := by simp [driver?, stage]
      have quits : s.driverQuits? = none := by simp [driverQuits?, stage]
      exact closing.machine_nearer running still quits (Or.inl stage)

/-- Both tasks come to their end by themselves, within ten seconds of the cancellation. -/
theorem comes (closing : Closing c s) (told : (Clock.deadline? c (.ofSecs 10)).isSome)
    (early : s.now ≤ c + 10000) :
    ∃ s', Leads Action.isOwn s s' ∧ s'.Ended ∧ s'.now ≤ c + 10000 := by
  generalize bound : rank c s = n
  induction n using Nat.strongRecOn generalizing s with
  | ind n ih =>
      by_cases ended : s.Ended
      · exact ⟨s, .refl _ s, ended, early⟩
      · obtain ⟨action, s', own, computed, within, lower⟩ := closing.nearer ended
        have still := closing.step told (step_of_next? closing.fits computed)
        obtain ⟨s'', leads, ended, late⟩ := ih _ (bound ▸ lower) still within rfl
        exact ⟨s'', (Leads.next computed own).trans leads, ended, late⟩

/-! ### What no longer happens -/

/-- No attempt begins. -/
theorem attempts_same (closing : Closing c s) (stepped : Step s action s') :
    attempts s'.history = attempts s.history := by
  cases stepped with
  | connected takes => exact (closing.untaken takes).elim
  | requestIgnored | connectReturned | crashed | gaveUp | abandoned | eventIgnored | established
  | faulted | stopped | driverSleeps | driverWakes | driverAsks | driverEnds | driverQuits
  | reported | unreported | requested | unrequested | cancelled | passed => rfl

theorem unattempted (closing : Closing c s) (told : (Clock.deadline? c (.ofSecs 10)).isSome)
    (ran : s.run? actions = some s') : attempts s'.history = attempts s.history := by
  have both : Closing c s' ∧ attempts s'.history = attempts s.history := by
    apply closing.fits.keeps (fun t => Closing c t ∧ attempts t.history = attempts s.history) ?_
      ⟨closing, rfl⟩ ran
    rintro t action t' ⟨closing, same⟩ stepped
    exact ⟨closing.step told stepped, (closing.attempts_same stepped).trans same⟩
  exact both.2

/-- Where the machine has ended, time does not pass before the driver has. -/
theorem together (closing : Closing c s) (told : (Clock.deadline? c (.ofSecs 10)).isSome)
    (finished : s.phase.isOver = true) (ran : s.run? actions = some s') (later : s.now < s'.now) :
    s'.driver = .stopped := by
  have both : Closing c s' ∧ s'.phase.isOver = true ∧ (s'.now = s.now ∨ s'.Ended) := by
    apply closing.fits.keeps
      (fun t => Closing c t ∧ t.phase.isOver = true ∧ (t.now = s.now ∨ t.Ended)) ?_
      ⟨closing, finished, Or.inl rfl⟩ ran
    rintro t action t' ⟨closing, finished, when⟩ stepped
    have finished' := isOver_of_step finished stepped
    refine ⟨closing.step told stepped, finished', ?_⟩
    rcases when with same | ended
    · cases stepped with
      | passed waits =>
          rcases driver_of_canWait closing.cancelled waits with stopped | ⟨-, running⟩
          · exact Or.inr ⟨finished', stopped⟩
          · simp [finished] at running
      | connected | requestIgnored | connectReturned | crashed | gaveUp | abandoned | eventIgnored
      | established | faulted | stopped | driverSleeps | driverWakes | driverAsks | driverEnds
      | driverQuits | reported | unreported | requested | unrequested | cancelled =>
          exact Or.inl same
    · exact Or.inr (ended.step stepped)
  rcases both.2.2 with same | ended
  · exact absurd same (Nat.ne_of_gt later)
  · exact ended.driver

end Closing

/-! ### The shutdown -/

/-- From here on no attempt begins; the tasks end by the instant `limit`, by themselves whatever the
engine does, the driver at the latest when the machine does; and the machine crashes only where the
clock cannot tell the end of a negotiation. -/
structure ShutsDown (negotiation : Span) (limit : Nat) (s : System) : Prop where
  unattempted : ∀ after t, s.run? after = some t → attempts t.history = attempts s.history
  timely : ∀ after t, s.run? after = some t → ¬ t.Ended →
    t.now ≤ limit ∧ ∃ t', Leads Action.isOwn t t' ∧ t'.Ended ∧ t'.now ≤ limit
  together : ∀ after t later t', s.run? after = some t → t.phase.isOver = true →
    t.run? later = some t' → t.now < t'.now → t'.driver = .stopped
  clean : ∀ after t, s.run? after = some t → t.phase = .crashed →
    Clock.deadline? t.now negotiation = none

/-- Wherever the tasks are when they are cancelled, once the first attempt has begun: no further
attempt begins, and both have ended ten seconds later, the driver no later than the machine,
whatever the engine does and whatever is queued; as long as the clock can tell that instant. -/
theorem shuts_down (capacity : Nat) (backoff : Backoff) (negotiation : Span)
    (ran : (new capacity backoff negotiation).run? actions = some s) (begun : s.phase ≠ .fresh)
    (told : (Clock.deadline? s.now (.ofSecs 10)).isSome) :
    ShutsDown negotiation (s.now + 10000) { s with cancelled := true } := by
  have fits := (fits_new capacity backoff negotiation).run ran
  have inCall := (InCall.new capacity backoff negotiation).run (fits_new ..) ran
  have excused := (Excused.new capacity backoff negotiation).run (fits_new ..) ran
  have closing := Closing.of_cancelled fits inCall begun told
  constructor
  · intro after t ranOn
    exact closing.unattempted told ranOn
  · intro after t ranOn going
    have still := closing.run told ranOn
    have early := still.intime.resolve_right going
    exact ⟨early, still.comes told early⟩
  · intro after t later t' ranOn finished ranFurther elapsed
    exact (closing.run told ranOn).together told finished ranFurther elapsed
  · intro after t ranOn crashed
    have cancelled : Excused negotiation { s with cancelled := true } :=
      ⟨excused.allowed, excused.untold⟩
    exact (cancelled.run fits ranOn).untold crashed

/-- The engine cannot begin the first attempt. The driver sleeps out the delay while somebody fills
the queue of requests, and then waits for room, the machine being in its second attempt. -/
def heldUp : List Action :=
  [.machine, .connectEnds false, .disconnectEnds, .driver, .pass 1000, .request, .machine,
    .pass 1000, .driver, .request, .request, .request, .request, .request, .request, .request,
    .request, .pass 500]

/-- The engine's calls never return: the attempt is cut off, and the call that gives it up. -/
def cutOffTwice : List Action :=
  [.pass 3500, .machine, .pass 5000, .machine, .machine, .driver]

/-- A driver held up by a full queue ends with the machine, 8.5 seconds after the cancellation. -/
theorem held_up_shuts_down :
    ∃ s t, (new 16 twoToThirty (.ofSecs 60)).run? heldUp = some s ∧ s.now = 2500 ∧
      s.driver = .sending ∧ s.requests = requestCapacity ∧
      ShutsDown (.ofSecs 60) 12500 { s with cancelled := true } ∧
      { s with cancelled := true }.run? cutOffTwice = some t ∧ t.now = 11000 ∧ t.Ended ∧
      attempts t.history = [0, 1000] := by
  obtain ⟨s, ran⟩ : ∃ s, (new 16 twoToThirty (.ofSecs 60)).run? heldUp = some s := ⟨_, rfl⟩
  obtain ⟨now, sending, full, begun⟩ : s.now = 2500 ∧ s.driver = .sending ∧
      s.requests = requestCapacity ∧ s.phase ≠ .fresh := by
    cases ran
    exact ⟨rfl, rfl, rfl, by rintro ⟨⟩⟩
  obtain ⟨t, ranOn, ends, ended, attempted⟩ : ∃ t,
      { s with cancelled := true }.run? cutOffTwice = some t ∧ t.now = 11000 ∧ t.Ended ∧
        attempts t.history = [0, 1000] := by
    cases ran
    exact ⟨_, rfl, rfl, ⟨rfl, rfl⟩, rfl⟩
  have told : (Clock.deadline? s.now (.ofSecs 10)).isSome := by
    rw [now]
    decide
  have shutdown := shuts_down 16 twoToThirty (.ofSecs 60) ran begun told
  have limit : s.now + 10000 = 12500 := by rw [now]
  rw [limit] at shutdown
  exact ⟨s, t, ran, now, sending, full, shutdown, ranOn, ends, ended, attempted⟩

end System

end BridgeWarden.Link

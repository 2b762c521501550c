import BridgeWarden.Proofs.Link.Steps

/-!
The next attempt at a link that has faulted.

`attempts` says when the engine was told to connect. `arrival?` is the instant at which the first
of the reconnects under way gets to the machine: at once where one is queued or being sent, else
when the delay that the driver sleeps on, or is about to, is over. A faulted link `Awaits` that
instant, and each step that is neither a cancellation nor somebody's request to connect leaves it
waiting for the same one, or is the attempt (`Awaits.step`). The attempt comes without help from
outside (`Awaits.comes`), so the instant is that of the next attempt (`Awaits.nextAttempt`).
-/

namespace BridgeWarden.Link

/-- Whether an action takes nobody but the tasks themselves, and time. -/
def Action.isOwn : Action → Bool
  | .machine | .driver | .driverQuits | .pass _ => true
  | .connectEnds _ | .disconnectEnds | .report _ | .request | .cancel => false

/-- Whether an action is neither somebody's request to connect nor a cancellation. -/
def Action.isCalm : Action → Bool
  | .request | .cancel => false
  | .machine | .driver | .driverQuits | .connectEnds _ | .disconnectEnds | .report _
  | .pass _ => true

theorem Action.isCalm_of_isOwn {action : Action} (own : action.isOwn = true) :
    action.isCalm = true := by
  cases action with
  | machine | driver | driverQuits | pass => rfl
  | connectEnds | disconnectEnds | report | request | cancel => cases own

namespace System

variable {s s' s'' : System} {action : Action} {kind : Action → Bool} {instant : Nat}

/-! ### Attempts -/

/-- When the engine was told to connect, the earliest first. -/
def attempts : List (Nat × Happening) → List Nat
  | [] => []
  | (instant, .connect) :: earlier => attempts earlier ++ [instant]
  | _ :: earlier => attempts earlier

theorem attempts_append (later earlier : List (Nat × Happening)) :
    attempts (later ++ earlier) = attempts earlier ++ attempts later := by
  induction later with
  | nil => rw [List.nil_append, attempts, List.append_nil]
  | cons entry rest ih =>
      obtain ⟨instant, happening⟩ := entry
      cases happening with
      | connect => simp only [List.cons_append, attempts, ih, List.append_assoc]
      | disconnect | published | scheduled | requestIgnored => exact ih

/-- Attempts are not undone. -/
theorem Fits.attempts_grow {actions : List Action} (fits : s.Fits)
    (ran : s.run? actions = some s') :
    ∃ more, attempts s'.history = attempts s.history ++ more := by
  rw [run?_eq_foldlM] at ran
  have both : s'.Fits ∧ ∃ more, attempts s'.history = attempts s.history ++ more := by
    refine Runs.keeps
      (fun t => t.Fits ∧ ∃ more, attempts t.history = attempts s.history ++ more) ?_
      ⟨fits, [], by simp⟩ ran
    rintro t action t' ⟨fits, more, grown⟩ _ computed
    have stepped := step_of_next? fits computed
    obtain ⟨later, added, -⟩ := stepped.history
    refine ⟨fits.step stepped, more ++ attempts later, ?_⟩
    rw [added, attempts_append, grown, List.append_assoc]
  exact both.2

/-! ### What actions of a kind lead to -/

/-- Actions of a kind lead from one state to another. -/
def Leads (kind : Action → Bool) (s s' : System) : Prop :=
  ∃ actions, (∀ action ∈ actions, kind action = true) ∧ s.run? actions = some s'

namespace Leads

theorem refl (kind : Action → Bool) (s : System) : Leads kind s s := ⟨[], by simp, rfl⟩

theorem next (computed : s.next? action = some s') (allowed : kind action = true) :
    Leads kind s s' :=
  ⟨[action], by simpa using allowed, by simp [run?, computed]⟩

theorem trans (first : Leads kind s s') (second : Leads kind s' s'') : Leads kind s s'' := by
  obtain ⟨before, allowedBefore, ran⟩ := first
  obtain ⟨after, allowedAfter, ranOn⟩ := second
  refine ⟨before ++ after, ?_, by simp [run?_append, ran, ranOn]⟩
  intro action member
  rcases List.mem_append.mp member with member | member
  · exact allowedBefore action member
  · exact allowedAfter action member

theorem mono {wider : Action → Bool} (wide : ∀ {action}, kind action = true → wider action = true)
    (leads : Leads kind s s') : Leads wider s s' := by
  obtain ⟨actions, allowed, ran⟩ := leads
  exact ⟨actions, fun action member => wide (allowed action member), ran⟩

end Leads

/-- As long as nobody asks for a connection or cancels, the next attempt is made at the instant:
no other comes before it, time does not go beyond the instant without it, and at any point before
it the tasks come to it by themselves. -/
structure NextAttempt (s : System) (instant : Nat) : Prop where
  only : ∀ s', Leads Action.isCalm s s' → ∀ next more,
    attempts s'.history = attempts s.history ++ next :: more → next = instant
  timely : ∀ s', Leads Action.isCalm s s' → attempts s'.history = attempts s.history →
    s'.now ≤ instant
  comes : ∀ s', Leads Action.isCalm s s' → attempts s'.history = attempts s.history →
    ∃ s'', Leads Action.isOwn s' s'' ∧ attempts s''.history = attempts s.history ++ [instant]

/-- There is one next attempt. -/
theorem NextAttempt.unique {other : Nat} (next : NextAttempt s instant)
    (another : NextAttempt s other) : instant = other := by
  obtain ⟨s', leads, attempted⟩ := next.comes s (.refl _ s) rfl
  exact another.only s' (leads.mono Action.isCalm_of_isOwn) instant [] attempted

/-! ### Arrival -/

/-- When the first of the reconnects under way gets to the machine, if any is. -/
def arrival? (s : System) : Option Nat :=
  if 0 < s.requests then some s.now
  else match s.driver with
    | .sending => some s.now
    | .sleeping due => some due
    | .waiting => s.delay.map (Clock.wake s.now)
    | .stopped => none

theorem arrival?_of_asked (asked : 0 < s.requests) : s.arrival? = some s.now := if_pos asked

theorem arrival?_of_sending (sending : s.driver = .sending) : s.arrival? = some s.now := by
  unfold arrival?
  rw [sending]
  exact ite_self _

theorem arrival?_of_sleeping {due : Nat} (unasked : s.requests = 0)
    (sleeping : s.driver = .sleeping due) : s.arrival? = some due := by
  simp [arrival?, unasked, sleeping]

theorem arrival?_of_waiting (unasked : s.requests = 0) (waiting : s.driver = .waiting) :
    s.arrival? = s.delay.map (Clock.wake s.now) := by
  simp [arrival?, unasked, waiting]

theorem arrival?_of_stopped (unasked : s.requests = 0) (stopped : s.driver = .stopped) :
    s.arrival? = none := by
  simp [arrival?, unasked, stopped]

/-- The link has faulted, and the first reconnect gets to the machine at the instant. -/
structure Awaits (s : System) (instant : Nat) : Prop where
  fits : s.Fits
  watching : s.phase = .watching none
  faulted : s.session.state = .faulted
  uncancelled : s.cancelled = false
  arrives : s.arrival? = some instant
  ahead : s.now ≤ instant

/-! What a machine does that waits without a deadline and is not cancelled. -/

section Watching

variable (watching : s.phase = .watching none) (uncancelled : s.cancelled = false)

include watching uncancelled

theorem machine?_of_queued {e : Event} {rest : List Event} (queued : s.events = e :: rest) :
    s.machine? = some (s.handleEvent none e rest) := by
  simp [machine?, watching, uncancelled, queued]

theorem machine?_of_asked (quiet : s.events = []) (asked : 0 < s.requests) :
    s.machine? = some ({ s with requests := s.requests - 1 }.beginConnect none) := by
  simp [machine?, watching, uncancelled, quiet, asked]

theorem machine?_of_unasked (quiet : s.events = []) (unasked : s.requests = 0) :
    s.machine? = none := by
  simp [machine?, watching, uncancelled, quiet, unasked]

end Watching

namespace Awaits

theorem running (awaits : Awaits s instant) : s.phase.isOver = false := by
  rw [awaits.watching]
  rfl

theorem now_eq (awaits : Awaits s instant) (here : s.arrival? = some s.now) : instant = s.now :=
  Option.some.inj (awaits.arrives.symm.trans here)

/-- Nobody's request is left over where all wait, and the driver sleeps. -/
theorem asleep (awaits : Awaits s instant) {millis : Nat} (waits : s.canWait millis = true) :
    s.requests = 0 ∧ s.driver = .sleeping instant ∧ s.now + millis ≤ instant := by
  simp only [canWait, Bool.and_eq_true, Option.isNone_iff_eq_none, List.all_eq_true,
    decide_eq_true_eq] at waits
  obtain ⟨⟨⟨machine, driver⟩, -⟩, within⟩ := waits
  have unasked : s.requests = 0 := by
    cases queued : s.events with
    | cons e rest =>
        simp [machine?_of_queued awaits.watching awaits.uncancelled queued] at machine
    | nil =>
        refine Nat.eq_zero_of_not_pos fun asked => ?_
        simp [machine?_of_asked awaits.watching awaits.uncancelled queued asked] at machine
  have arrives := awaits.arrives
  unfold driver? at driver
  cases stage : s.driver with
  | waiting =>
      rw [arrival?_of_waiting unasked stage] at arrives
      obtain ⟨delay, handed, -⟩ := Option.map_eq_some_iff.mp arrives
      simp [stage, handed] at driver
  | sending => simp [stage, awaits.running, unasked, requestCapacity] at driver
  | stopped =>
      rw [arrival?_of_stopped unasked stage] at arrives
      cases arrives
  | sleeping due =>
      rw [arrival?_of_sleeping unasked stage] at arrives
      cases arrives
      exact ⟨unasked, rfl, within instant (by simp [deadlines, stage])⟩

/-- Unless somebody asks or cancels, what a faulted link waits for stays the same until it comes. -/
theorem step (awaits : Awaits s instant) (stepped : Step s action s')
    (calm : action.isCalm = true) :
    Awaits s' instant ∧ attempts s'.history = attempts s.history ∨
      attempts s'.history = attempts s.history ++ [instant] := by
  have fits' := awaits.fits.step stepped
  obtain ⟨fits, watching, faulted, uncancelled, arrives, ahead⟩ := awaits
  have inactive := Session.inactive_of_faulted faulted
  cases stepped with
  | connected takes free =>
      cases takes with
      | first fresh => simp [fresh] at watching
      | queued _ _ _ asked =>
          rw [arrival?_of_asked asked] at arrives
          cases arrives
          exact Or.inr rfl
  | requestIgnored _ _ _ _ active => exact (inactive active).elim
  | connectReturned attempting => simp [attempting] at watching
  | crashed attempting => simp [attempting] at watching
  | gaveUp _ connecting => exact (inactive (Or.inl connecting)).elim
  | abandoned letsGo =>
      cases letsGo with
      | cutOff abandoning => simp [abandoning] at watching
      | returned abandoning => simp [abandoning] at watching
  | established _ _ _ connecting => exact (inactive (Or.inl connecting)).elim
  | faulted _ _ _ active => exact (inactive active).elim
  | stopped _ cancelled => simp [uncancelled] at cancelled
  | driverSleeps waiting handed =>
      refine Or.inl ⟨⟨fits', watching, faulted, uncancelled, ?_, ahead⟩, rfl⟩
      by_cases asked : 0 < s.requests
      · rw [arrival?_of_asked asked] at arrives
        refine Eq.trans ?_ arrives
        exact arrival?_of_asked asked
      · have unasked := Nat.eq_zero_of_not_pos asked
        rw [arrival?_of_waiting unasked waiting, handed] at arrives
        refine Eq.trans ?_ arrives
        exact arrival?_of_sleeping unasked rfl
  | driverWakes sleeping reached =>
      refine Or.inl ⟨⟨fits', watching, faulted, uncancelled, ?_, ahead⟩, rfl⟩
      rw [arrival?_of_sending rfl]
      by_cases asked : 0 < s.requests
      · exact (arrival?_of_asked asked).symm.trans arrives
      · rw [arrival?_of_sleeping (Nat.eq_zero_of_not_pos asked) sleeping] at arrives
        cases arrives
        exact congrArg some (Nat.le_antisymm ahead reached)
  | driverAsks sending =>
      refine Or.inl ⟨⟨fits', watching, faulted, uncancelled, ?_, ahead⟩, rfl⟩
      rw [arrival?_of_sending sending] at arrives
      exact (arrival?_of_asked (Nat.succ_pos _)).trans arrives
  | driverEnds ended => simp [watching, Phase.isOver] at ended
  | driverQuits cancelled => simp [uncancelled] at cancelled
  | passed waits =>
      have asleep := asleep ⟨fits, watching, faulted, uncancelled, arrives, ahead⟩ waits
      obtain ⟨unasked, sleeping, within⟩ := asleep
      exact Or.inl ⟨⟨fits', watching, faulted, uncancelled,
        arrival?_of_sleeping unasked sleeping, within⟩, rfl⟩
  | eventIgnored | reported | unreported =>
      exact Or.inl ⟨⟨fits', watching, faulted, uncancelled, arrives, ahead⟩, rfl⟩
  | requested | unrequested | cancelled => cases calm

/-- A calm run goes on waiting for the same instant, or has made the attempt then. -/
theorem run (awaits : Awaits s instant) (leads : Leads Action.isCalm s s') :
    Awaits s' instant ∧ attempts s'.history = attempts s.history ∨
      ∃ more, attempts s'.history = attempts s.history ++ instant :: more := by
  obtain ⟨actions, calm, ran⟩ := leads
  induction actions generalizing s with
  | nil =>
      cases ran
      exact Or.inl ⟨awaits, rfl⟩
  | cons action rest ih =>
      simp only [run?, Option.bind_eq_some_iff] at ran
      obtain ⟨middle, computed, ran⟩ := ran
      have stepped := step_of_next? awaits.fits computed
      have calmLater : ∀ action ∈ rest, action.isCalm = true :=
        fun action member => calm action (List.mem_cons_of_mem _ member)
      rcases awaits.step stepped (calm action List.mem_cons_self) with ⟨still, same⟩ | attempted
      · rw [← same]
        exact ih still calmLater ran
      · obtain ⟨more, grown⟩ := (awaits.fits.step stepped).attempts_grow ran
        exact Or.inr ⟨more, by rw [grown, attempted, List.append_assoc]; rfl⟩

/-! ### The tasks come to the attempt -/

/-- The tasks come to the attempt by themselves. -/
def Comes (s : System) (instant : Nat) : Prop :=
  ∃ s', Leads Action.isOwn s s' ∧ attempts s'.history = attempts s.history ++ [instant]

/-- A step of the tasks' own that is not the attempt yet brings it nearer. -/
theorem comes_of_next (awaits : Awaits s instant) (computed : s.next? action = some s')
    (own : action.isOwn = true) (further : Awaits s' instant → Comes s' instant) :
    Comes s instant := by
  have stepped := step_of_next? awaits.fits computed
  rcases awaits.step stepped (Action.isCalm_of_isOwn own) with ⟨still, same⟩ | attempted
  · obtain ⟨s'', leads, attempted⟩ := further still
    exact ⟨s'', (Leads.next computed own).trans leads, by rw [attempted, same]⟩
  · exact ⟨s', .next computed own, attempted⟩

/-- A request that is first in line is taken up. -/
theorem comes_of_asked (awaits : Awaits s instant) (quiet : s.events = [])
    (asked : 0 < s.requests) : Comes s instant := by
  have computed : s.next? .machine =
      some ({ s with requests := s.requests - 1 }.beginConnect none) :=
    machine?_of_asked awaits.watching awaits.uncancelled quiet asked
  have begun : { s with requests := s.requests - 1 }.session.beginConnect? =
      some { s.session with state := .connecting } :=
    Session.beginConnect?_of_free (Or.inr awaits.faulted)
  refine ⟨_, .next computed rfl, ?_⟩
  rw [awaits.now_eq (arrival?_of_asked asked)]
  unfold beginConnect
  rw [begun]
  rfl

/-- A driver that asks gets its request into the queue. -/
theorem comes_of_sending (awaits : Awaits s instant) (quiet : s.events = [])
    (sending : s.driver = .sending) : Comes s instant := by
  by_cases asked : 0 < s.requests
  · exact awaits.comes_of_asked quiet asked
  · have room : s.requests < requestCapacity := by
      rw [Nat.eq_zero_of_not_pos asked]
      decide
    have computed : s.next? .driver =
        some { s with requests := s.requests + 1, driver := .waiting } := by
      simp [next?, driver?, sending, awaits.running, room]
    exact awaits.comes_of_next computed rfl fun still =>
      still.comes_of_asked quiet (Nat.succ_pos _)

/-- A driver that sleeps is woken when its delay is over, and asks. -/
theorem comes_of_sleeping (awaits : Awaits s instant) (quiet : s.events = [])
    (unasked : s.requests = 0) {due : Nat} (sleeping : s.driver = .sleeping due) :
    Comes s instant := by
  have same : due = instant :=
    Option.some.inj ((arrival?_of_sleeping unasked sleeping).symm.trans awaits.arrives)
  obtain ⟨millis, rfl⟩ := Nat.exists_eq_add_of_le awaits.ahead
  by_cases reached : millis = 0
  · have computed : s.next? .driver = some { s with driver := .sending } := by
      simp [next?, driver?, sleeping, same, reached]
    exact awaits.comes_of_next computed rfl fun still => still.comes_of_sending quiet rfl
  · have asleep : s.machine? = none ∧ s.driver? = none ∧ s.driverQuits? = none := by
      refine ⟨?_, ?_, ?_⟩
      · exact machine?_of_unasked awaits.watching awaits.uncancelled quiet unasked
      · simp only [driver?, sleeping, same]
        exact if_neg (by omega)
      · simp [driverQuits?, sleeping, awaits.uncancelled]
    have computed : s.next? (.pass millis) = some { s with now := s.now + millis } := by
      simp [next?, canWait, asleep, deadlines, awaits.watching, sleeping, same]
    refine awaits.comes_of_next computed rfl fun still => ?_
    have woken : { s with now := s.now + millis }.next? .driver =
        some { s with now := s.now + millis, driver := .sending } := by
      simp [next?, driver?, sleeping, same]
    exact still.comes_of_next woken rfl fun still => still.comes_of_sending quiet rfl

/-- Wherever the first reconnect is, it gets to the machine. -/
theorem comes_of_quiet (awaits : Awaits s instant) (quiet : s.events = []) : Comes s instant := by
  by_cases asked : 0 < s.requests
  · exact awaits.comes_of_asked quiet asked
  · have unasked := Nat.eq_zero_of_not_pos asked
    have arrives := awaits.arrives
    cases stage : s.driver with
    | sending => exact awaits.comes_of_sending quiet stage
    | sleeping due => exact awaits.comes_of_sleeping quiet unasked stage
    | stopped =>
        rw [arrival?_of_stopped unasked stage] at arrives
        cases arrives
    | waiting =>
        rw [arrival?_of_waiting unasked stage] at arrives
        obtain ⟨delay, handed, -⟩ := Option.map_eq_some_iff.mp arrives
        have computed : s.next? .driver =
            some { s with delay := none, driver := .sleeping (Clock.wake s.now delay) } := by
          simp [next?, driver?, stage, handed]
        exact awaits.comes_of_next computed rfl fun still =>
          still.comes_of_sleeping quiet unasked rfl

/-- A faulted link passes over the events that are queued, and then tries again. -/
theorem comes (awaits : Awaits s instant) : Comes s instant := by
  generalize queued : s.events = events
  induction events generalizing s with
  | nil => exact awaits.comes_of_quiet queued
  | cons e rest ih =>
      have computed : s.next? .machine = some { s with events := rest } := by
        simp only [next?, machine?_of_queued awaits.watching awaits.uncancelled queued]
        unfold handleEvent
        rw [Session.handle_of_faulted awaits.faulted]
        exact congrArg some
          (watch_of_watching awaits.fits awaits.watching rest s.requests s.history)
      exact awaits.comes_of_next computed rfl fun still => ih still rfl

theorem nextAttempt (awaits : Awaits s instant) : NextAttempt s instant := by
  refine ⟨?_, ?_, ?_⟩
  · intro s' leads next more attempted
    rcases awaits.run leads with ⟨-, same⟩ | ⟨others, first⟩
    · simp [same] at attempted
    · rw [attempted, List.append_cancel_left_eq, List.cons.injEq] at first
      exact first.1
  · intro s' leads unattempted
    rcases awaits.run leads with ⟨still, -⟩ | ⟨others, first⟩
    · exact still.ahead
    · simp [unattempted] at first
  · intro s' leads unattempted
    rcases awaits.run leads with ⟨still, same⟩ | ⟨others, first⟩
    · obtain ⟨s'', leads, attempted⟩ := still.comes
      exact ⟨s'', leads, by rw [attempted, same]⟩
    · simp [unattempted] at first

end Awaits

end System

end BridgeWarden.Link

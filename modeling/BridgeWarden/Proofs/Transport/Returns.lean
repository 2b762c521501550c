import BridgeWarden.Proofs.Transport.Accounting

/-!
When the calls of a writer return.

A call that has not returned is not past its deadline, which counts from the call and not from its
turn (`Timely`). From there the call comes to its end without the channel (`Pending.comes`): a call
whose turn it is takes it, one whose time is up returns, and where neither can be done a millisecond
goes by; each of these lowers `rank`. `writes_accounted` adds what the channel has accepted.
-/

namespace BridgeWarden.Transport

open Text (Bytes)

/-! ### A call and its deadline -/

/-- A call keeps its time. -/
structure Send.Timely (timeout : Span) (now : Nat) (s : Send) : Prop where
  started : s.started ≤ now
  deadline : s.deadline = Clock.wake s.started timeout
  pending : s.result? = none → now ≤ s.deadline
  returned : ∀ instant count, s.result? = some (instant, count) →
    count = s.written ∧ s.started ≤ instant ∧ instant ≤ s.deadline

namespace Send.Timely

variable {timeout : Span} {now : Nat} {s s' : Send}

/-- A call that goes on keeps its time. -/
theorem going (timely : s.Timely timeout now) (unreturned : s.result? = none)
    (started : s'.started = s.started) (deadline : s'.deadline = s.deadline)
    (still : s'.result? = none) : s'.Timely timeout now := by
  refine ⟨started ▸ timely.started, ?_, ?_, ?_⟩
  · rw [deadline, started]
    exact timely.deadline
  · intro _
    rw [deadline]
    exact timely.pending unreturned
  · intro instant count returned
    rw [still] at returned
    cases returned

theorem ended (timely : s.Timely timeout now) (unreturned : s.result? = none) :
    Timely timeout now { s with stage := .over now } := by
  refine ⟨timely.started, timely.deadline, by rintro ⟨⟩, ?_⟩
  intro instant count returned
  cases returned
  exact ⟨rfl, timely.started, timely.pending unreturned⟩

theorem passed (timely : s.Timely timeout now) {millis : Nat}
    (within : s.result? = none → now + millis ≤ s.deadline) :
    s.Timely timeout (now + millis) :=
  ⟨Nat.le_add_right_of_le timely.started, timely.deadline, within, timely.returned⟩

end Send.Timely

namespace Writer

variable {w w' : Writer} {action : Action} {actions : List Action} {number due : Nat} {s : Send}
variable {timeout : Span}

/-- The clock goes no further than a call that has not returned allows. -/
theorem within_of_canWait {millis : Nat} (waits : w.canWait millis = true)
    (called : w.sends[number]? = some s) (unreturned : s.result? = none) :
    w.now < s.deadline ∧ w.now + millis ≤ s.deadline := by
  simp only [canWait, Bool.and_eq_true, List.all_eq_true] at waits
  have free := waits.2 s (List.mem_of_getElem? called)
  simpa [isOver_eq, unreturned] using free

structure Timely (timeout : Span) (w : Writer) : Prop where
  bound : w.timeout = timeout
  calls : ∀ (number : Nat) (s : Send), w.sends[number]? = some s → s.Timely timeout w.now

namespace Timely

theorem new (timeout : Span) : Timely timeout (new timeout) :=
  ⟨rfl, by simp [Writer.new]⟩

/-- A call that has just been made has its time before it. -/
theorem called (timely : Timely timeout w) (data : Bytes) :
    (w.called data).Timely timeout w.now := by
  constructor
  · exact Nat.le_refl _
  · rw [← timely.bound]
    rfl
  · intro _
    exact Clock.le_wake _ _
  · rintro instant count ⟨⟩

theorem append (timely : Timely timeout w) {x : Send} (fresh : x.Timely timeout w.now)
    (queue : List Nat) : Timely timeout { w with sends := w.sends ++ [x], queue } := by
  refine ⟨timely.bound, ?_⟩
  intro number s called
  rcases getElem?_append_eq_some_iff.mp called with ⟨-, rfl⟩ | called
  · exact fresh
  · exact timely.calls number s called

theorem set (timely : Timely timeout w) {s' : Send} (present : w.sends[number]? = some s)
    (fresh : s'.Timely timeout w.now) (queue turns : List Nat) (accepted : Bytes) :
    Timely timeout { w with sends := w.sends.set number s', queue, turns, accepted } := by
  refine ⟨timely.bound, ?_⟩
  intro other t called
  rcases (getElem?_set_eq_some_iff present).mp called with ⟨-, rfl⟩ | ⟨-, called⟩
  · exact fresh
  · exact timely.calls other t called

theorem step (timely : Timely timeout w) (stepped : Step w action w') : Timely timeout w' := by
  cases stepped with
  | answered => exact timely.append ((timely.called []).ended rfl) w.queue
  | queued => exact timely.append (timely.called _) _
  | @began number s first waiting =>
      have present := (first?_eq_some_iff.mp first).2
      have unreturned : s.result? = none := by simp [Send.result?, waiting]
      have going : Send.Timely timeout w.now { s with stage := .writing } :=
        (timely.calls number s present).going unreturned rfl rfl rfl
      exact timely.set present going _ _ _
  | @accepted number count s stage first writing further =>
      have present := (first?_eq_some_iff.mp first).2
      have unreturned : s.result? = none := by simp [Send.result?, writing]
      have still : Send.result? { s with written := s.written + count, stage } = none := by
        rcases further with rfl | rfl
        · rfl
        · rfl
      have going : Send.Timely timeout w.now { s with written := s.written + count, stage } :=
        (timely.calls number s present).going unreturned rfl rfl still
      exact timely.set present going _ _ _
  | @ended _ number s ends =>
      have ended := (timely.calls number s ends.present).ended ends.unreturned
      exact timely.set ends.present ended _ _ _
  | passed waits =>
      refine ⟨timely.bound, ?_⟩
      intro number s called
      apply (timely.calls number s called).passed
      intro unreturned
      exact (within_of_canWait waits called unreturned).2

theorem of_run (ran : (Writer.new timeout).run? actions = some w) : Timely timeout w :=
  run?_keeps (Timely timeout) (fun timely stepped => timely.step stepped) (new timeout) ran

end Timely

/-! ### A call returns by itself -/

/-- What the calls do themselves, and that time goes on: nobody makes another call, and nothing is
heard of the channel. -/
def Action.isOwn : Action → Bool
  | .take | .expire _ | .pass _ => true
  | .send _ | .accept _ | .refuse | .flushed => false

/-- The call has returned, by the instant `due` at the latest. -/
def ReturnedBy (w : Writer) (number due : Nat) : Prop :=
  ∃ s instant count, w.sends[number]? = some s ∧ s.result? = some (instant, count) ∧ instant ≤ due

/-- The call returns by the instant `due` at the latest, though nothing more is heard of the
channel. -/
def ReturnsBy (w : Writer) (number due : Nat) : Prop :=
  ∃ own w', (∀ action ∈ own, action.isOwn = true) ∧ w.run? own = some w' ∧ w'.ReturnedBy number due

/-- The call has not returned, and has its time until `due`. -/
structure Pending (w : Writer) (number due : Nat) : Prop where
  call : ∃ s, w.sends[number]? = some s ∧ s.result? = none ∧ s.deadline = due
  ahead : w.now ≤ due

/-- How many milliseconds can pass before the instant, and how many calls can take their turn or
return. -/
def rank (w : Writer) (due : Nat) : Nat :=
  (due - w.now) + 2 * w.queue.length + (if w.first?.any (·.2.stage = .waiting) then 1 else 0)

/-- A call takes its turn. -/
theorem Pending.began {head : Nat} {t : Send} (pending : w.Pending number due)
    (first : w.first? = some (head, t)) (waiting : t.stage = .waiting) :
    ∃ w', w.next? .take = some w' ∧ w'.Pending number due ∧ w'.rank due < w.rank due := by
  obtain ⟨⟨rest, queue⟩, present⟩ := first?_eq_some_iff.mp first
  have turn : first? { w with
      sends := w.sends.set head { t with stage := .writing }
      turns := w.turns ++ [head] } = some (head, { t with stage := .writing }) :=
    first?_eq_some_iff.mpr
      ⟨⟨rest, queue⟩, (getElem?_set_eq_some_iff present).mpr (Or.inl ⟨rfl, rfl⟩)⟩
  have computed : w.next? .take = some { w with
      sends := w.sends.set head { t with stage := .writing }
      turns := w.turns ++ [head] } := by
    simp only [next?, first, waiting, if_true]
  refine ⟨_, computed, ⟨?_, pending.ahead⟩, ?_⟩
  · obtain ⟨s, called, unreturned, deadline⟩ := pending.call
    by_cases same : number = head
    · subst same
      rw [present] at called
      cases called
      exact ⟨_, (getElem?_set_eq_some_iff present).mpr (Or.inl ⟨rfl, rfl⟩), rfl, deadline⟩
    · exact ⟨s, (getElem?_set_eq_some_iff present).mpr (Or.inr ⟨same, called⟩), unreturned,
        deadline⟩
  · simp [rank, turn, first, waiting]

/-- A call whose time is up returns, and the others go on. -/
theorem Pending.expired {other : Nat} {t : Send} (pending : w.Pending number due)
    (orderly : Orderly w) (present : w.sends[other]? = some t) (unreturned : t.result? = none)
    (spent : t.deadline ≤ w.now) :
    ∃ w', w.next? (.expire other) = some w' ∧
      (w'.ReturnedBy number due ∨ w'.Pending number due ∧ w'.rank due < w.rank due) := by
  refine ⟨w.finish other t, by simp [next?, present, isOver_eq, unreturned, spent], ?_⟩
  by_cases same : number = other
  · subst same
    left
    exact ⟨{ t with stage := .over w.now }, w.now, t.written,
      (getElem?_set_eq_some_iff present).mpr (Or.inl ⟨rfl, rfl⟩), rfl, pending.ahead⟩
  · right
    constructor
    · obtain ⟨s, called, going, deadline⟩ := pending.call
      exact ⟨⟨s, (getElem?_set_eq_some_iff present).mpr (Or.inr ⟨same, called⟩), going, deadline⟩,
        pending.ahead⟩
    · have queued : other ∈ w.queue := (orderly.queued other).mpr ⟨t, present, unreturned⟩
      have fewer : (w.queue.filter (· ≠ other)).length < w.queue.length :=
        List.length_filter_lt_length_iff_exists.mpr ⟨other, queued, by simp⟩
      have shorter : (w.finish other t).queue.length < w.queue.length := fewer
      have instant : (w.finish other t).now = w.now := rfl
      simp only [rank, instant]
      split <;> split <;> omega

/-- Where no call can take its turn and no call's time is up, a millisecond goes by. -/
theorem Pending.passed (pending : w.Pending number due)
    (began : ∀ head t, w.first? = some (head, t) → t.stage ≠ .waiting)
    (early : ∀ (other : Nat) (t : Send), w.sends[other]? = some t → t.result? = none →
      w.now < t.deadline) :
    ∃ w', w.next? (.pass 1) = some w' ∧ w'.Pending number due ∧ w'.rank due < w.rank due := by
  obtain ⟨s, called, unreturned, deadline⟩ := pending.call
  have later : w.now < due := deadline ▸ early number s called unreturned
  have turn : (w.first?.all fun f => f.2.stage != .waiting) = true := by
    cases first : w.first? with
    | none => rfl
    | some f => simpa using began f.1 f.2 first
  have free : (w.sends.all fun t => isOver t ||
      (decide (w.now < t.deadline) && decide (w.now + 1 ≤ t.deadline))) = true := by
    rw [List.all_eq_true]
    intro t member
    obtain ⟨other, present⟩ := List.mem_iff_getElem?.mp member
    by_cases unreturned : t.result? = none
    · have ahead := early other t present unreturned
      simp only [ahead, Nat.succ_le_of_lt ahead, decide_true, Bool.and_self, Bool.or_true]
    · simp [isOver_eq, Option.isSome_iff_ne_none, unreturned]
  have waits : w.canWait 1 = true := by
    rw [canWait, turn, free]
    rfl
  refine ⟨{ w with now := w.now + 1 }, by simp [next?, waits], ?_, ?_⟩
  · exact ⟨⟨s, called, unreturned, deadline⟩, later⟩
  · have same : first? { w with now := w.now + 1 } = w.first? := rfl
    simp only [rank, same]
    omega

/-- A pending call comes nearer to its end, or to it. -/
theorem Pending.nearer (pending : w.Pending number due) (orderly : Orderly w) :
    ∃ action w', action.isOwn = true ∧ w.next? action = some w' ∧
      (w'.ReturnedBy number due ∨ w'.Pending number due ∧ w'.rank due < w.rank due) := by
  by_cases turn : ∃ head t, w.first? = some (head, t) ∧ t.stage = .waiting
  · obtain ⟨head, t, first, waiting⟩ := turn
    obtain ⟨w', computed, nearer⟩ := pending.began first waiting
    exact ⟨.take, w', rfl, computed, Or.inr nearer⟩
  · by_cases late : ∃ (other : Nat) (t : Send), w.sends[other]? = some t ∧ t.result? = none ∧
        t.deadline ≤ w.now
    · obtain ⟨other, t, present, unreturned, spent⟩ := late
      obtain ⟨w', computed, nearer⟩ := pending.expired orderly present unreturned spent
      exact ⟨.expire other, w', rfl, computed, nearer⟩
    · -- One millisecond is within every deadline ahead, so that the least of them is not needed.
      have began : ∀ head t, w.first? = some (head, t) → t.stage ≠ .waiting := by
        intro head t first waiting
        exact turn ⟨head, t, first, waiting⟩
      have early : ∀ (other : Nat) (t : Send), w.sends[other]? = some t → t.result? = none →
          w.now < t.deadline := by
        intro other t present unreturned
        apply Nat.lt_of_not_le
        intro spent
        exact late ⟨other, t, present, unreturned, spent⟩
      obtain ⟨w', computed, nearer⟩ := pending.passed began early
      exact ⟨.pass 1, w', rfl, computed, Or.inr nearer⟩

theorem Pending.comes (pending : w.Pending number due) (orderly : Orderly w) :
    w.ReturnsBy number due := by
  generalize bound : w.rank due = n
  induction n using Nat.strongRecOn generalizing w with
  | ind n ih =>
      obtain ⟨action, w', own, computed, returned | ⟨still, lower⟩⟩ := pending.nearer orderly
      · exact ⟨[action], w', by simpa using own, by simp [run?, computed], returned⟩
      · have orderly' := orderly.step (step_of_next? computed)
        obtain ⟨actions, w'', allOwn, ran, returned⟩ := ih _ (bound ▸ lower) still orderly' rfl
        refine ⟨action :: actions, w'', List.forall_mem_cons.mpr ⟨own, allOwn⟩, ?_, returned⟩
        rw [run?, computed]
        exact ran

/-! ### The account -/

/-- The call has returned in its time, or returns in its time whatever becomes of the channel. -/
def InTime (w : Writer) (number : Nat) (s : Send) : Prop :=
  match s.result? with
  | some (instant, _) => s.started ≤ instant ∧ instant ≤ s.started + w.timeout.ceilMillis
  | none =>
      w.now ≤ s.started + w.timeout.ceilMillis ∧
        w.ReturnsBy number (s.started + w.timeout.ceilMillis)

/-- A return by an earlier instant is one by a later instant. -/
theorem ReturnsBy.mono {later : Nat} (returns : w.ReturnsBy number due) (within : due ≤ later) :
    w.ReturnsBy number later := by
  obtain ⟨own, w', allOwn, ran, s, instant, count, called, returned, early⟩ := returns
  exact ⟨own, w', allOwn, ran, s, instant, count, called, returned, Nat.le_trans early within⟩

theorem inTime_of_timely (timely : Timely timeout w) (orderly : Orderly w)
    (called : w.sends[number]? = some s)
    (told : (Clock.deadline? s.started timeout).isSome ∨
      (Clock.deadline? s.started (.ofMillis Clock.farAhead)).isSome) : w.InTime number s := by
  obtain ⟨-, deadline, pending, returned⟩ := timely.calls number s called
  have limit : s.deadline ≤ s.started + w.timeout.ceilMillis := by
    rw [deadline, timely.bound]
    exact Clock.wake_le told
  unfold InTime
  cases result : s.result? with
  | some pair =>
      obtain ⟨-, begun, early⟩ := returned pair.1 pair.2 result
      exact ⟨begun, Nat.le_trans early limit⟩
  | none =>
      have ahead := pending result
      have returns := Pending.comes ⟨⟨s, called, result, rfl⟩, ahead⟩ orderly
      exact ⟨Nat.le_trans ahead limit, returns.mono limit⟩

/-- What the channel has accepted is one part of each call that has had a turn, in the order of the
turns and without anything between; the part is the beginning of the call's bytes, as long as the
number that the call returns, which no later turn and no later byte changes. Every call returns in
its time, the wait for its turn included, whatever the channel does and whoever else writes, where
the clock can tell the time at all. -/
theorem writes_accounted (timeout : Span) (ran : (new timeout).run? actions = some w) :
    w.accepted = w.turns.flatMap w.part ∧ w.turns.Pairwise (· < ·) ∧
    (∀ (number : Nat) (s : Send), w.sends[number]? = some s →
      w.part number = s.data.take s.written ∧ s.written ≤ s.data.length ∧
      (number ∉ w.turns → s.written = 0) ∧
      (∀ instant count, s.result? = some (instant, count) → count = s.written) ∧
      ((Clock.deadline? s.started timeout).isSome ∨
        (Clock.deadline? s.started (.ofMillis Clock.farAhead)).isSome → w.InTime number s)) ∧
    (∀ later w', w.run? later = some w' →
      w.accepted <+: w'.accepted ∧ w.turns <+: w'.turns ∧
      ∀ (number : Nat) (s : Send), w.sends[number]? = some s → s.result? ≠ none →
        w'.sends[number]? = some s) := by
  have orderly := Orderly.of_run ran
  have accounted := Accounted.of_run ran
  have timely := Timely.of_run ran
  refine ⟨accounted.parts, orderly.begun, ?_, ?_⟩
  · intro number s called
    refine ⟨part_of_present called, accounted.within number s called,
      accounted.untouched number s called, ?_, inTime_of_timely timely orderly called⟩
    intro instant count returned
    exact ((timely.calls number s called).returned instant count returned).1
  · intro later w' ranOn
    obtain ⟨bytes, turns⟩ := grows_of_run ranOn
    refine ⟨bytes, turns, ?_⟩
    intro number s called returned
    obtain ⟨result, returned⟩ := Option.ne_none_iff_exists'.mp returned
    obtain ⟨s', called', laterOn⟩ := later_of_run ranOn called
    rwa [laterOn.final result returned] at called'

/-- The channel accepts two of three bytes and stalls; the next caller, who has waited for most of
its own time, has its turn then. -/
def stalledChannel : List Action :=
  [.send [1, 2, 3], .take, .accept 2, .pass 100, .send [4, 5], .pass 400, .expire 0, .take,
    .accept 1, .pass 50]

/-- The first call has returned two, and the second one returns half a second after it was made. -/
theorem stalled_channel_accounted :
    ∃ w s t, (new (.ofMillis 500)).run? stalledChannel = some w ∧ w.sends = [s, t] ∧
      w.turns = [0, 1] ∧ s.result? = some (500, 2) ∧ w.accepted = s.data.take 2 ++ w.part 1 ∧
      t.started = 100 ∧ t.result? = none ∧ w.part 1 = [4] ∧ w.ReturnsBy 1 600 := by
  obtain ⟨w, ran⟩ : ∃ w, (new (.ofMillis 500)).run? stalledChannel = some w := ⟨_, rfl⟩
  obtain ⟨s, t, sends, turns, bound, first, begun, second, told⟩ :
      ∃ s t, w.sends = [s, t] ∧ w.turns = [0, 1] ∧ w.timeout = .ofMillis 500 ∧
        s.result? = some (500, 2) ∧ t.started = 100 ∧ t.result? = none ∧
        (Clock.deadline? t.started (.ofMillis 500)).isSome := by
    cases ran
    exact ⟨_, _, rfl, rfl, rfl, rfl, rfl, rfl, by decide⟩
  obtain ⟨parts, -, calls, -⟩ := writes_accounted (.ofMillis 500) ran
  obtain ⟨own, -, -, counted, -⟩ := calls 0 s (by rw [sends]; rfl)
  obtain ⟨-, -, -, -, intime⟩ := calls 1 t (by rw [sends]; rfl)
  have written := counted 500 2 first
  have returns := intime (Or.inl told)
  rw [InTime, second, begun, bound] at returns
  refine ⟨w, s, t, ran, sends, turns, first, ?_, begun, second, ?_, returns.2⟩
  · rw [parts, turns, written, ← own]
    simp
  · cases ran
    rfl

end Writer

end BridgeWarden.Transport

import BridgeWarden.Proofs.Link.Doubling
import BridgeWarden.Rehearsal.Values

/-!
Faults in a row, and the delays that they come with.

A session is taken through any sequence of operations (`course`). Its *streak* is what it has been
through since the link was last up: the delays of the faults, the first one first. `Moves` lists
what an operation can do. What each of them keeps is that the count of failures is the length of
the streak, as far as the counter goes, that the n-th delay of the streak is the least one doubled
n - 1 times and cut to the ceiling, and that the backoff is the next delay of that sequence
(`InStreak`). The counter stops at its limit and the backoff follows the streak, not the counter:
they agree all the same, since so many doublings have long reached the ceiling
(`delayAfter_limited`).
-/

namespace BridgeWarden.Link

open Rehearsal (SessionStep SessionResult stepSession)

/-! ### Delays -/

namespace Backoff

variable {least ceiling : Span} {m n : Nat}

theorem delayAfter_le_ceiling (n : Nat) : delayAfter least ceiling n ≤ ceiling :=
  Nat.min_le_right _ _

theorem least_le_delayAfter (ordered : least ≤ ceiling) (n : Nat) :
    least ≤ delayAfter least ceiling n := by
  apply Nat.le_min.mpr
  constructor
  · exact Nat.le_mul_of_pos_right _ (Nat.two_pow_pos n)
  · exact ordered

theorem delayAfter_mono (later : m ≤ n) :
    delayAfter least ceiling m ≤ delayAfter least ceiling n := by
  have power : 2 ^ m ≤ 2 ^ n := Nat.pow_le_pow_right (by decide) later
  have product : least.nanos * 2 ^ m ≤ least.nanos * 2 ^ n := Nat.mul_le_mul_left _ power
  apply Nat.le_min.mpr
  constructor
  · exact Nat.le_trans (Nat.min_le_left _ _) product
  · exact Nat.min_le_right _ _

/-- Ninety-four doublings take a single nanosecond past the longest span. -/
theorem delayAfter_of_long (nonzero : least.isZero = false) (held : ceiling ≤ Span.longest)
    (long : 94 ≤ n) : delayAfter least ceiling n = ceiling := by
  have positive : 1 ≤ least.nanos := by
    apply Nat.pos_of_ne_zero
    simpa [Span.isZero] using nonzero
  have reached : ceiling.nanos ≤ least.nanos * 2 ^ n := by
    calc ceiling.nanos ≤ Span.longest.nanos := held
      _ ≤ 2 ^ 94 := by decide
      _ ≤ 2 ^ n := Nat.pow_le_pow_right (by decide) long
      _ ≤ least.nanos * 2 ^ n := Nat.le_mul_of_pos_left _ positive
  exact congrArg Span.mk (Nat.min_eq_right reached)

/-- Failures beyond those that are counted make no difference. -/
theorem delayAfter_limited (nonzero : least.isZero = false) (held : ceiling ≤ Span.longest)
    (n : Nat) :
    delayAfter least ceiling (min n Session.failureLimit) = delayAfter least ceiling n := by
  have long : 94 ≤ Session.failureLimit := by decide
  by_cases counted : n ≤ Session.failureLimit
  · rw [Nat.min_eq_left counted]
  · have beyond : Session.failureLimit ≤ n := Nat.le_of_not_le counted
    rw [Nat.min_eq_right beyond, delayAfter_of_long nonzero held long,
      delayAfter_of_long nonzero held (Nat.le_trans long beyond)]

end Backoff

namespace Session

variable {s s' : Session} {result : SessionResult} {results : List SessionResult}
variable {least ceiling : Span}

/-! ### Operations and their results -/

/-- The delay that a fault came with. -/
def delay? : SessionResult → Option Span
  | .handled (.faulted delay) => some delay
  | .failed delay => delay
  | .begun _ | .handled .ignored | .handled .established => none

/-- Whether the link came up. -/
def isSuccess : SessionResult → Bool
  | .handled .established => true
  | .begun _ | .handled .ignored | .handled (.faulted _) | .failed _ => false

/-- Whether an operation did not apply. -/
def isIgnored : SessionResult → Bool
  | .begun false | .handled .ignored | .failed none => true
  | .begun true | .handled .established | .handled (.faulted _) | .failed (some _) => false

def advance (reached : Session × List SessionResult) (step : SessionStep) :
    Session × List SessionResult :=
  ((stepSession reached.1 step).1, (stepSession reached.1 step).2 :: reached.2)

/-- The session after operations, and their results, the last one first. -/
def course (first : Session) (steps : List SessionStep) : Session × List SessionResult :=
  steps.foldl advance (first, [])

/-- The delays of the faults since the link was last up, the first one first. -/
def streak (results : List SessionResult) : List Span :=
  ((results.takeWhile fun result => !isSuccess result).filterMap delay?).reverse

theorem streak_success (success : isSuccess result = true) : streak (result :: results) = [] := by
  simp [streak, success]

theorem streak_fault {delay : Span} (fault : delay? result = some delay) :
    streak (result :: results) = streak results ++ [delay] := by
  have lasting : isSuccess result = false := by
    cases result with
    | begun | failed => rfl
    | handled effect =>
        cases effect with
        | ignored | faulted => rfl
        | established => cases fault
  simp [streak, lasting, fault]

theorem streak_calm (lasting : isSuccess result = false) (calm : delay? result = none) :
    streak (result :: results) = streak results := by
  simp [streak, lasting, calm]

/-- What an operation can do to a session, with the result that tells it. -/
inductive Moves (s : Session) : Session → SessionResult → Prop where
  | begun : Moves s { s with state := .connecting } (.begun true)
  | established {s' : Session} (backoff : s'.backoff = s.backoff.reset)
      (count : s'.consecutiveFailures = 0) : Moves s s' (.handled .established)
  | faulted {result : SessionResult} (fault : delay? result = some s.backoff.current) :
      Moves s s.fault result
  | ignored {result : SessionResult} (ignored : isIgnored result = true) : Moves s s result

theorem active_or_free (s : Session) : s.IsActive ∨ s.state = .idle ∨ s.state = .faulted := by
  unfold IsActive
  cases s.state with
  | idle | connecting | established | faulted => simp

theorem handle_of_free (free : s.state = .idle ∨ s.state = .faulted) (e : Event) :
    s.handle e = (s, .ignored) := by
  rcases free with idle | faulted
  · unfold handle
    rw [idle]
  · exact handle_of_faulted faulted e

theorem fail?_of_free (free : s.state = .idle ∨ s.state = .faulted) : s.fail? = none := by
  unfold fail?
  rcases free with idle | faulted
  · rw [idle]
  · rw [faulted]

theorem moves_of_handle (s : Session) (e : Event) :
    Moves s (s.handle e).1 (.handled (s.handle e).2) := by
  rcases s.active_or_free with active | free
  · cases e with
    | down reason =>
        rw [handle_down active]
        exact .faulted rfl
    | up address peer netmask =>
        rcases active with connecting | established
        · rw [handle_up connecting]
          exact .established rfl rfl
        · rw [handle_of_established established]
          exact .ignored rfl
  · rw [handle_of_free free]
    exact .ignored rfl

theorem moves_of_step (s : Session) (step : SessionStep) :
    Moves s (stepSession s step).1 (stepSession s step).2 := by
  cases step with
  | event e => exact moves_of_handle s e
  | connect =>
      unfold stepSession
      rcases s.active_or_free with active | free
      · rw [beginConnect?_of_active active]
        exact .ignored rfl
      · rw [beginConnect?_of_free free]
        exact .begun
  | fail =>
      unfold stepSession
      rcases s.active_or_free with active | free
      · rw [fail?_of_active active]
        exact .faulted rfl
      · rw [fail?_of_free free]
        exact .ignored rfl

theorem calm_of_ignored (ignored : isIgnored result = true) :
    isSuccess result = false ∧ delay? result = none := by
  cases result with
  | begun => exact ⟨rfl, rfl⟩
  | handled effect =>
      cases effect with
      | ignored => exact ⟨rfl, rfl⟩
      | established | faulted => cases ignored
  | failed delay =>
      cases delay with
      | none => exact ⟨rfl, rfl⟩
      | some => cases ignored

/-- An operation that does not apply leaves the session as it is. -/
theorem unchanged_of_ignored (s : Session) (step : SessionStep)
    (ignored : isIgnored (stepSession s step).2 = true) : (stepSession s step).1 = s := by
  have moves := moves_of_step s step
  generalize stepSession s step = stepped at moves ignored
  obtain ⟨s', result⟩ := stepped
  have calm := calm_of_ignored ignored
  cases moves with
  | begun | established => cases ignored
  | faulted fault => simp [calm.2] at fault
  | ignored => rfl

/-! ### The invariant -/

/-- Count, delays and backoff of a session agree with its streak. -/
structure InStreak (least ceiling : Span) (s : Session) (results : List SessionResult) : Prop where
  floor : s.backoff.least = least
  limit : s.backoff.ceiling = ceiling
  failures : s.consecutiveFailures = min (streak results).length failureLimit
  current : s.backoff.current = Backoff.delayAfter least ceiling (streak results).length
  delays : streak results =
    (List.range (streak results).length).map (Backoff.delayAfter least ceiling)

namespace InStreak

theorem new (ordered : least ≤ ceiling) :
    InStreak least ceiling (.new ⟨least, ceiling, least⟩) [] :=
  { floor := rfl
    limit := rfl
    failures := rfl
    current := (Backoff.delayAfter_zero ordered).symm
    delays := rfl }

/-- What leaves the backoff, the count and the streak as they are. -/
theorem calm (inStreak : InStreak least ceiling s results) (backoff : s'.backoff = s.backoff)
    (count : s'.consecutiveFailures = s.consecutiveFailures) (lasting : isSuccess result = false)
    (calm : delay? result = none) : InStreak least ceiling s' (result :: results) := by
  obtain ⟨floor, limit, failures, current, delays⟩ := inStreak
  rw [← backoff] at floor limit current
  rw [← count] at failures
  rw [← streak_calm lasting calm] at failures current delays
  exact ⟨floor, limit, failures, current, delays⟩

theorem fault (inStreak : InStreak least ceiling s results) (held : ceiling ≤ Span.longest)
    (fault : delay? result = some s.backoff.current) :
    InStreak least ceiling s.fault (result :: results) := by
  obtain ⟨floor, limit, failures, current, delays⟩ := inStreak
  have longer : streak (result :: results) = streak results ++ [s.backoff.current] :=
    streak_fault fault
  have counted : (streak (result :: results)).length = (streak results).length + 1 := by
    rw [longer, List.length_append, List.length_singleton]
  refine ⟨floor, limit, ?_, ?_, ?_⟩
  · have raised : s.fault.consecutiveFailures = min (s.consecutiveFailures + 1) failureLimit := rfl
    rw [raised, failures, counted]
    omega
  · -- the fault handed out the delay that was next, so the backoff moves on to the one after it
    have doubled : s.fault.backoff.current =
        Span.least s.backoff.current.doubled s.backoff.ceiling := rfl
    rw [doubled, current, limit, counted, Backoff.delayAfter_succ held]
  · rw [counted, List.range_succ, List.map_append, ← delays, longer, current]
    rfl

theorem step (inStreak : InStreak least ceiling s results) (ordered : least ≤ ceiling)
    (held : ceiling ≤ Span.longest) (moves : Moves s s' result) :
    InStreak least ceiling s' (result :: results) := by
  cases moves with
  | begun => exact inStreak.calm rfl rfl rfl rfl
  | ignored ignored =>
      obtain ⟨lasting, calm⟩ := calm_of_ignored ignored
      exact inStreak.calm rfl rfl lasting calm
  | faulted fault => exact inStreak.fault held fault
  | established backoff count =>
      have fresh : streak (.handled .established :: results) = [] := streak_success rfl
      refine ⟨?_, ?_, ?_, ?_, ?_⟩
      · rw [backoff]
        exact inStreak.floor
      · rw [backoff]
        exact inStreak.limit
      · rw [fresh, count]
        rfl
      · rw [fresh, backoff, Backoff.reset_current, inStreak.floor]
        exact (Backoff.delayAfter_zero ordered).symm
      · rw [fresh]
        rfl

end InStreak

theorem inStreak_of_course (ordered : least ≤ ceiling) (held : ceiling ≤ Span.longest)
    (steps : List SessionStep) :
    InStreak least ceiling (course (.new ⟨least, ceiling, least⟩) steps).1
      (course (.new ⟨least, ceiling, least⟩) steps).2 := by
  have kept : ∀ reached, InStreak least ceiling reached.1 reached.2 →
      InStreak least ceiling (steps.foldl advance reached).1 (steps.foldl advance reached).2 := by
    induction steps with
    | nil => exact fun _ inStreak => inStreak
    | cons step rest ih =>
        intro reached inStreak
        exact ih _ (inStreak.step ordered held (moves_of_step reached.1 step))
  exact kept _ (.new ordered)

/-! ### Count, delays and backoff -/

/-- The delays of a streak whose n-th one is the least, doubled n - 1 times up to the ceiling. -/
structure Doubles (least ceiling : Span) (delays : List Span) : Prop where
  sequence : delays = (List.range delays.length).map (Backoff.delayAfter least ceiling)
  first : ∀ delay ∈ delays.head?, delay = least
  growing : delays.Pairwise (· ≤ ·)
  within : ∀ delay ∈ delays, least ≤ delay ∧ delay ≤ ceiling

theorem doubles_of_sequence {delays : List Span} (ordered : least ≤ ceiling)
    (sequence : delays = (List.range delays.length).map (Backoff.delayAfter least ceiling)) :
    Doubles least ceiling delays := by
  refine ⟨sequence, ?_, ?_, ?_⟩
  · intro delay first
    rw [sequence] at first
    cases count : delays.length with
    | zero => simp [count] at first
    | succ n =>
        rw [count, List.range_succ_eq_map, List.map_cons, List.head?_cons, Option.mem_some_iff]
          at first
        rw [← first, Backoff.delayAfter_zero ordered]
  · rw [sequence, List.pairwise_map]
    refine List.pairwise_lt_range.imp ?_
    intro m n before
    exact Backoff.delayAfter_mono (Nat.le_of_lt before)
  · intro delay member
    rw [sequence] at member
    obtain ⟨n, -, rfl⟩ := List.mem_map.mp member
    exact ⟨Backoff.least_le_delayAfter ordered n, Backoff.delayAfter_le_ceiling n⟩

/-- Bounds in order make a backoff, and then, after any operations, the count of failures is the
number of faults since the link was last up, the backoff is the least delay doubled so many times
and cut to the ceiling, the delays since then were the ones before it in that sequence, and a
further operation that does not apply changes nothing. -/
theorem failures_and_delays_agree (least ceiling : Span) (nonzero : least.isZero = false)
    (ordered : least ≤ ceiling) (held : ceiling ≤ Span.longest) :
    ∃ backoff, Backoff.make? least ceiling = .ok backoff ∧
      ∀ steps s results, course (.new backoff) steps = (s, results) →
        s.consecutiveFailures = min (streak results).length failureLimit ∧
        s.backoff.current = Backoff.delayAfter least ceiling s.consecutiveFailures ∧
        Doubles least ceiling (streak results) ∧
        ∀ step, isIgnored (stepSession s step).2 = true → (stepSession s step).1 = s := by
  refine ⟨_, Backoff.make?_of_le nonzero ordered, ?_⟩
  intro steps s results ran
  have inStreak := inStreak_of_course ordered held steps
  rw [ran] at inStreak
  refine ⟨inStreak.failures, ?_, doubles_of_sequence ordered inStreak.delays,
    unchanged_of_ignored s⟩
  rw [inStreak.failures, Backoff.delayAfter_limited nonzero held]
  exact inStreak.current

/-- Where twice the least delay is more than a span can be, the second delay is the longest span. -/
theorem faults_at_the_top :
    ∃ backoff s results, Backoff.make? (.ofSecs (2 ^ 63)) .longest = .ok backoff ∧
      course (.new backoff) [.connect, .fail, .fail, .connect, .event (.down "gone")] =
        (s, results) ∧
      streak results = [.ofSecs (2 ^ 63), .longest] ∧
      s.consecutiveFailures = min (streak results).length failureLimit ∧
      s.backoff.current =
        Backoff.delayAfter (.ofSecs (2 ^ 63)) .longest s.consecutiveFailures ∧
      Doubles (.ofSecs (2 ^ 63)) .longest (streak results) := by
  obtain ⟨backoff, made, agree⟩ := failures_and_delays_agree (.ofSecs (2 ^ 63)) .longest
    (by decide) (by decide) (by decide)
  have same : backoff = ⟨.ofSecs (2 ^ 63), .longest, .ofSecs (2 ^ 63)⟩ :=
    (Backoff.of_make? made).1
  subst same
  obtain ⟨failures, current, doubles, -⟩ :=
    agree [.connect, .fail, .fail, .connect, .event (.down "gone")] _ _ rfl
  exact ⟨_, _, _, made, rfl, rfl, failures, current, doubles⟩

end Session

end BridgeWarden.Link

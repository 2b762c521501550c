import BridgeWarden.Proofs.Liveness.Guard
import BridgeWarden.Proofs.Runs

/-!
When a guard in software trips.

The calls made of the confirming half say which deadline is in force (`setting`), and a deadline is
`Missed` at an instant when the calls made before that instant leave it in force. `Comes` lists how
a vigil can come about, whoever calls and however its sentry takes turns with the calls; a call at
the very instant of a deadline comes after the sentry. Every vigil that comes about is `Kept`: it is
set to what the calls say, and its sentry either has missed nothing yet or has tripped at the first
deadline that was missed. `trips_when_missed` reads the sentry off the calls alone, and says that
any calls at any instants can be made.
-/

namespace BridgeWarden.Liveness.Vigil

/-! ### What the calls say -/

/-- A call of the confirming half. -/
inductive Call where
  | configure (timeout : Span)
  | confirm
  | disarm
  deriving DecidableEq

def Call.action : Call → Action
  | .configure timeout => .configure timeout
  | .confirm => .confirm
  | .disarm => .disarm

/-- The timeout, once there is one, and the deadline in force. -/
structure Setting where
  timeout : Option Span
  deadline : Option Nat
  deriving DecidableEq

/-- The timeout from which a call sets the deadline; none if it is refused, or sets none. -/
def Setting.span? (s : Setting) : Call → Option Span
  | .configure timeout => if timeout.isZero then none else some timeout
  | .confirm => s.timeout
  | .disarm => none

/-- A call sets the deadline its timeout ahead, or clears it; a refused one changes nothing. -/
def Setting.after (s : Setting) (instant : Nat) (call : Call) : Setting :=
  match call, s.span? call with
  | .disarm, _ => ⟨none, none⟩
  | _, some span => ⟨some span, some (instant + span.ceilMillis)⟩
  | _, none => s

/-- What calls leave set. They are given with their instants, latest first. -/
def setting : List (Nat × Call) → Setting
  | [] => ⟨none, none⟩
  | (instant, call) :: earlier => (setting earlier).after instant call

/-- The clock can tell every deadline that is set. -/
def Told : List (Nat × Call) → Prop
  | [] => True
  | (instant, call) :: earlier =>
      Told earlier ∧
        ∀ span, (setting earlier).span? call = some span → (Clock.deadline? instant span).isSome

/-- The instant is the deadline in force when it comes: no call before it has replaced that. -/
def Missed (calls : List (Nat × Call)) (instant : Nat) : Prop :=
  (setting (calls.filter (·.1 < instant))).deadline = some instant

instance (calls : List (Nat × Call)) (instant : Nat) : Decidable (Missed calls instant) :=
  inferInstanceAs (Decidable (_ = _))

def FirstMissed (calls : List (Nat × Call)) (instant : Nat) : Prop :=
  Missed calls instant ∧ ∀ earlier < instant, ¬ Missed calls earlier

variable {calls : List (Nat × Call)} {call : Call} {instant now : Nat}

theorem FirstMissed.unique {other : Nat} (first : FirstMissed calls instant)
    (second : FirstMissed calls other) : instant = other := by
  rcases Nat.lt_trichotomy instant other with before | same | after
  · exact (second.2 instant before first.1).elim
  · exact same
  · exact (first.2 other after second.1).elim

/-- A call does not count for what is missed up to its own instant. -/
theorem missed_cons (reached : instant ≤ now) :
    Missed ((now, call) :: calls) instant ↔ Missed calls instant := by
  have late : ¬ now < instant := Nat.not_lt.mpr reached
  simp [Missed, late]

theorem firstMissed_cons (reached : instant ≤ now) :
    FirstMissed ((now, call) :: calls) instant ↔ FirstMissed calls instant := by
  unfold FirstMissed
  rw [missed_cons reached]
  refine and_congr_right fun _ => forall₂_congr fun earlier before => ?_
  rw [missed_cons (Nat.le_of_lt (Nat.lt_of_lt_of_le before reached))]

/-- After all the calls the deadline that they leave in force counts. -/
theorem missed_of_after (after : ∀ c ∈ calls, c.1 < instant) :
    Missed calls instant ↔ (setting calls).deadline = some instant := by
  have all : calls.filter (·.1 < instant) = calls :=
    List.filter_eq_self.mpr fun c member => by simpa using after c member
  rw [Missed, all]

/-- No call sets a timeout of nothing. -/
theorem isZero_of_span? {s : Setting}
    (nonzero : ∀ span, s.timeout = some span → span.isZero = false) {span : Span}
    (set : s.span? call = some span) : span.isZero = false := by
  cases call with
  | configure timeout =>
      simp only [Setting.span?, Option.ite_none_left_eq_some, Option.some.injEq] at set
      obtain ⟨positive, rfl⟩ := set
      simpa using positive
  | confirm => exact nonzero span set
  | disarm => cases set

theorem isZero_of_setting (calls : List (Nat × Call)) {span : Span}
    (set : (setting calls).timeout = some span) : span.isZero = false := by
  induction calls generalizing span with
  | nil => cases set
  | cons last earlier ih =>
      obtain ⟨instant, call⟩ := last
      have nonzero : ∀ span, (setting earlier).timeout = some span → span.isZero = false :=
        fun _ earlierSet => ih earlierSet
      cases counted : (setting earlier).span? call with
      | some other =>
          have known : (setting ((instant, call) :: earlier)).timeout = some other := by
            cases call with
            | disarm => cases counted
            | configure timeout | confirm => simp [setting, Setting.after, counted]
          rw [known, Option.some.injEq] at set
          exact set ▸ isZero_of_span? nonzero counted
      | none =>
          cases call with
          | disarm => cases set
          | configure timeout | confirm =>
              simp only [setting, Setting.after, counted] at set
              exact nonzero span set

/-! ### How a vigil comes about -/

/-- What a guard makes of a call. -/
def Call.result (g : Guard) (now : Nat) : Call → Except Refusal Guard
  | .configure timeout => g.configure timeout now
  | .confirm => g.confirm now
  | .disarm => .ok g.disarm

/-- Whether an action is neither a call nor a cancellation. -/
def Action.isPlain : Action → Bool
  | .abandon | .sentryReads | .sentryWakes | .pass _ => true
  | .configure _ | .confirm | .disarm | .cancel | .sentryStops => false

/-- A vigil that is never cancelled, and the calls made so far. -/
inductive Comes : List (Nat × Call) → Vigil → Prop where
  | new : Comes [] .new
  /-- A call is made, once the sentry has woken if it is due. -/
  | called {calls : List (Nat × Call)} {v v' : Vigil} {call : Call} (came : Comes calls v)
      (prompt : v.guard.sentryWakes? v.now = none) (computed : v.next? call.action = some v') :
      Comes ((v.now, call) :: calls) v'
  | moved {calls : List (Nat × Call)} {v v' : Vigil} {action : Action} (came : Comes calls v)
      (plain : action.isPlain = true) (computed : v.next? action = some v') : Comes calls v'

variable {v v' : Vigil} {action : Action}

theorem next?_action : v.next? call.action =
    if v.abandoned then none else some (v.use (call.result v.guard v.now)) := by
  cases call <;> rfl

/-- A guard that is set to a timeout does with a call what the call says. -/
theorem result_eq {g : Guard} {s : Setting} (timeout : g.timeout = s.timeout)
    (told : ∀ span, s.span? call = some span → (Clock.deadline? now span).isSome) :
    (s.after now call = s ∧ ∃ f, call.result g now = .error (.fault f)) ∨
      call.result g now =
        .ok ({ g with timeout := (s.after now call).timeout }.setDeadline
          (s.after now call).deadline) := by
  cases call with
  | disarm => exact Or.inr rfl
  | configure span =>
      cases zero : span.isZero with
      | true =>
          refine Or.inl ⟨by simp [Setting.after, Setting.span?, zero], ?_⟩
          exact ⟨_, by simp [Call.result, Guard.configure, zero]; rfl⟩
      | false =>
          have counted : s.span? (.configure span) = some span := by simp [Setting.span?, zero]
          refine Or.inr ?_
          simp [Call.result, Guard.configure, zero, Guard.arm,
            Clock.deadline?_of_isSome (told span counted), Setting.after, counted]
  | confirm =>
      cases set : s.timeout with
      | none =>
          refine Or.inl ⟨by simp [Setting.after, Setting.span?, set], ?_⟩
          exact ⟨_, by simp [Call.result, Guard.confirm, timeout, set]; rfl⟩
      | some span =>
          refine Or.inr ?_
          have same : { g with timeout := some span } = g := by
            rw [← set, ← timeout]
          simp [Call.result, Guard.confirm, timeout, set, Guard.arm,
            Clock.deadline?_of_isSome (told span set), Setting.after, Setting.span?, same]

/-! ### What every vigil keeps -/

/-- The sentry is at work and has missed no deadline. One that comes now it has read and waits
for. -/
structure Watchful (calls : List (Nat × Call)) (v : Vigil) : Prop where
  standing : v.guard.Standing (setting calls).timeout (setting calls).deadline
  ahead : ∀ due, (setting calls).deadline = some due → v.now ≤ due
  unmissed : ∀ instant < v.now, ¬ Missed calls instant
  present : Missed calls v.now ↔ (setting calls).deadline = some v.now
  heard : (setting calls).deadline = some v.now →
    v.guard.sentry = .watching (some v.now) ∧ v.guard.signalled = false

/-- The sentry has tripped at the first deadline that was missed. -/
def Tripped (calls : List (Nat × Call)) (v : Vigil) : Prop :=
  ∃ instant, v.guard.sentry = .tripped instant ∧ FirstMissed calls instant ∧ instant ≤ v.now

structure Kept (calls : List (Nat × Call)) (v : Vigil) : Prop where
  uncancelled : v.cancelled = false
  past : ∀ c ∈ calls, c.1 ≤ v.now
  timeout : v.guard.timeout = (setting calls).timeout
  deadline : v.guard.deadline = (setting calls).deadline
  sentry : Watchful calls v ∨ Tripped calls v

theorem Kept.new : Kept [] .new := by
  refine ⟨rfl, by simp, rfl, rfl, Or.inl ⟨Guard.new_standing, ?_, ?_, ?_, ?_⟩⟩
  · rintro due ⟨⟩
  · intro instant before
    exact (Nat.not_lt_zero _ before).elim
  · simp [Missed, setting]
  · rintro ⟨⟩

namespace Watchful

/-- A sentry that is not due has no deadline that comes now. -/
theorem lt_deadline (watchful : Watchful calls v) (prompt : v.guard.sentryWakes? v.now = none)
    {due : Nat} (deadline : (setting calls).deadline = some due) : v.now < due := by
  refine Nat.lt_of_le_of_ne (watchful.ahead due deadline) ?_
  rintro rfl
  obtain ⟨watching, -⟩ := watchful.heard deadline
  have scheduled := watchful.standing.scheduled.trans deadline
  simp [Guard.sentryWakes?, watching, scheduled] at prompt

/-- A call that is refused changes nothing. -/
theorem refused (watchful : Watchful calls v)
    (same : setting ((v.now, call) :: calls) = setting calls) :
    Watchful ((v.now, call) :: calls) v := by
  refine ⟨same ▸ watchful.standing, same ▸ watchful.ahead, ?_, ?_, same ▸ watchful.heard⟩
  · intro instant before
    rw [missed_cons (Nat.le_of_lt before)]
    exact watchful.unmissed instant before
  · rw [missed_cons (Nat.le_refl _), same]
    exact watchful.present

/-- A deadline that is set is ahead, and the sentry is told. -/
theorem set (watchful : Watchful calls v) (prompt : v.guard.sentryWakes? v.now = none) :
    Watchful ((v.now, call) :: calls)
      { v with
        guard := { v.guard with
          timeout := (setting ((v.now, call) :: calls)).timeout }.setDeadline
            (setting ((v.now, call) :: calls)).deadline } := by
  have later : ∀ due, (setting ((v.now, call) :: calls)).deadline = some due → v.now < due := by
    intro due deadline
    cases counted : (setting calls).span? call with
    | some span =>
        have positive := Span.ceilMillis_pos
          (isZero_of_span? (fun _ set => isZero_of_setting calls set) counted)
        cases call with
        | disarm => cases counted
        | configure timeout | confirm =>
            simp only [setting, Setting.after, counted, Option.some.injEq] at deadline
            omega
    | none =>
        cases call with
        | disarm => cases deadline
        | configure timeout | confirm =>
            simp only [setting, Setting.after, counted] at deadline
            exact watchful.lt_deadline prompt deadline
  have standing := watchful.standing.setDeadline (setting ((v.now, call) :: calls)).deadline
  refine ⟨⟨rfl, rfl, standing.awake⟩, ?_, ?_, ?_, ?_⟩
  · intro due deadline
    exact Nat.le_of_lt (later due deadline)
  · intro instant before
    rw [missed_cons (Nat.le_of_lt before)]
    exact watchful.unmissed instant before
  · change Missed ((v.now, call) :: calls) v.now ↔
      (setting ((v.now, call) :: calls)).deadline = some v.now
    rw [missed_cons (Nat.le_refl _), watchful.present]
    constructor
    · intro deadline
      exact (Nat.lt_irrefl _ (watchful.lt_deadline prompt deadline)).elim
    · intro deadline
      exact (Nat.lt_irrefl _ (later _ deadline)).elim
  · intro deadline
    exact (Nat.lt_irrefl _ (later _ deadline)).elim

theorem reads (watchful : Watchful calls v) {g : Guard} (reads : v.guard.sentryReads? = some g) :
    Watchful calls { v with guard := g } := by
  refine ⟨watchful.standing.sentryReads reads, watchful.ahead, watchful.unmissed,
    watchful.present, ?_⟩
  intro deadline
  obtain rfl := Guard.eq_of_sentryReads? reads
  exact ⟨congrArg Sentry.watching (watchful.standing.scheduled.trans deadline), rfl⟩

/-- A sentry that wakes trips, unless the deadline was put off. -/
theorem wakes (watchful : Watchful calls v) {g : Guard}
    (wakes : v.guard.sentryWakes? v.now = some g) :
    Watchful calls { v with guard := g } ∨ Tripped calls { v with guard := g } := by
  by_cases comes : (setting calls).deadline = some v.now
  · right
    obtain ⟨watching, -⟩ := watchful.heard comes
    have scheduled := watchful.standing.scheduled.trans comes
    have tripped : g = { v.guard with sentry := .tripped v.now } := by
      simpa [Guard.sentryWakes?, watching, scheduled] using wakes.symm
    refine ⟨v.now, by rw [tripped], ⟨watchful.present.mpr comes, watchful.unmissed⟩, ?_⟩
    exact Nat.le_refl _
  · left
    have early : ∀ due, (setting calls).deadline = some due → v.now < due := by
      intro due deadline
      refine Nat.lt_of_le_of_ne (watchful.ahead due deadline) ?_
      rintro rfl
      exact comes deadline
    refine ⟨watchful.standing.sentryWakes wakes early, watchful.ahead, watchful.unmissed,
      watchful.present, ?_⟩
    intro deadline
    exact (comes deadline).elim

/-- A sentry that has nothing to read waits for the deadline in force. -/
theorem asleep (watchful : Watchful calls v) (read : v.guard.sentryReads? = none) :
    v.guard.sentry = .watching (setting calls).deadline ∧ v.guard.signalled = false := by
  rcases watchful.standing.awake with reading | ⟨last, watching, known⟩
  · simp [Guard.sentryReads?, reading] at read
  · have quiet : v.guard.signalled = false := by simpa [Guard.sentryReads?, watching] using read
    exact ⟨known quiet ▸ watching, quiet⟩

/-- Time passes up to the deadline in force at most. -/
theorem passed (watchful : Watchful calls v) (past : ∀ c ∈ calls, c.1 ≤ v.now) {millis : Nat}
    (waits : v.guard.canWait v.now millis v.cancelled = true) :
    Watchful calls { v with now := v.now + millis } := by
  rcases Nat.eq_zero_or_pos millis with rfl | positive
  · exact watchful
  simp only [Guard.canWait, Bool.and_eq_true, Option.isNone_iff_eq_none] at waits
  obtain ⟨⟨⟨read, prompt⟩, -⟩, within⟩ := waits
  obtain ⟨watching, quiet⟩ := watchful.asleep read
  have ahead : ∀ due, (setting calls).deadline = some due → v.now + millis ≤ due := by
    intro due deadline
    simpa [Guard.due?, watching, deadline] using within
  have after : ∀ instant, v.now < instant →
      (Missed calls instant ↔ (setting calls).deadline = some instant) := by
    intro instant later
    exact missed_of_after fun c member => Nat.lt_of_le_of_lt (past c member) later
  have later : v.now < v.now + millis := Nat.lt_add_of_pos_right positive
  refine ⟨watchful.standing, ahead, ?_, after _ later, ?_⟩
  · intro instant before missed
    rcases Nat.lt_trichotomy instant v.now with earlier | rfl | later
    · exact watchful.unmissed instant earlier missed
    · exact Nat.lt_irrefl _ (watchful.lt_deadline prompt (watchful.present.mp missed))
    · exact Nat.lt_irrefl _ (Nat.lt_of_lt_of_le before (ahead instant ((after _ later).mp missed)))
  · intro deadline
    exact ⟨watching.trans (by rw [deadline]), quiet⟩

end Watchful

/-- The rest of a guard does not matter to a sentry that has tripped. -/
theorem Tripped.of_sentry (tripped : Tripped calls v) (same : v'.guard.sentry = v.guard.sentry)
    (later : v.now ≤ v'.now) : Tripped calls v' := by
  obtain ⟨instant, sentry, first, reached⟩ := tripped
  exact ⟨instant, same.trans sentry, first, Nat.le_trans reached later⟩

theorem Tripped.cons (tripped : Tripped calls v) : Tripped ((v.now, call) :: calls) v := by
  obtain ⟨instant, sentry, first, reached⟩ := tripped
  exact ⟨instant, sentry, (firstMissed_cons reached).mpr first, reached⟩

namespace Kept

theorem called (kept : Kept calls v) (prompt : v.guard.sentryWakes? v.now = none)
    (told : Told ((v.now, call) :: calls)) (computed : v.next? call.action = some v') :
    Kept ((v.now, call) :: calls) v' := by
  have past : ∀ c ∈ (v.now, call) :: calls, c.1 ≤ v.now := by
    intro c member
    rcases List.mem_cons.mp member with rfl | earlier
    · exact Nat.le_refl _
    · exact kept.past c earlier
  rw [next?_action, Option.ite_none_left_eq_some, Option.some.injEq] at computed
  obtain ⟨-, rfl⟩ := computed
  rcases result_eq kept.timeout told.2 with ⟨same, f, refused⟩ | accepted
  · have unchanged : setting ((v.now, call) :: calls) = setting calls := same
    rw [refused]
    refine ⟨kept.uncancelled, past, ?_, ?_, ?_⟩
    · rw [unchanged]
      exact kept.timeout
    · rw [unchanged]
      exact kept.deadline
    · exact kept.sentry.imp (·.refused unchanged) (·.cons)
  · rw [accepted]
    refine ⟨kept.uncancelled, past, rfl, rfl, ?_⟩
    exact kept.sentry.imp (·.set prompt) fun tripped =>
      tripped.cons.of_sentry rfl (Nat.le_refl _)

theorem moved (kept : Kept calls v) (plain : action.isPlain = true)
    (computed : v.next? action = some v') : Kept calls v' := by
  obtain ⟨uncancelled, past, timeout, deadline, sentry⟩ := kept
  cases action with
  | configure | confirm | disarm | cancel | sentryStops => cases plain
  | abandon =>
      simp only [next?, Option.some.injEq] at computed
      subst computed
      refine ⟨uncancelled, past, timeout, deadline, ?_⟩
      exact sentry.imp (fun w => ⟨w.standing, w.ahead, w.unmissed, w.present, w.heard⟩)
        (·.of_sentry rfl (Nat.le_refl _))
  | sentryReads =>
      simp only [next?, Option.map_eq_some_iff] at computed
      obtain ⟨g, reads, rfl⟩ := computed
      have same := Guard.eq_of_sentryReads? reads
      refine ⟨uncancelled, past, ?_, ?_, ?_⟩
      · rw [same]
        exact timeout
      · rw [same]
        exact deadline
      · refine sentry.imp (·.reads reads) ?_
        rintro ⟨instant, tripped, -⟩
        simp [Guard.sentryReads?, tripped] at reads
  | sentryWakes =>
      simp only [next?, Option.map_eq_some_iff] at computed
      obtain ⟨g, wakes, rfl⟩ := computed
      obtain ⟨other, same⟩ : ∃ other, g = { v.guard with sentry := other } := by
        rcases Guard.eq_of_sentryWakes? wakes with rfl | rfl <;> exact ⟨_, rfl⟩
      refine ⟨uncancelled, past, ?_, ?_, ?_⟩
      · rw [same]
        exact timeout
      · rw [same]
        exact deadline
      · rcases sentry with watchful | ⟨instant, tripped, -⟩
        · exact watchful.wakes wakes
        · simp [Guard.sentryWakes?, tripped] at wakes
  | pass millis =>
      simp only [next?, Option.ite_none_right_eq_some, Option.some.injEq] at computed
      obtain ⟨waits, rfl⟩ := computed
      refine ⟨uncancelled, ?_, timeout, deadline, ?_⟩
      · intro c member
        exact Nat.le_add_right_of_le (past c member)
      · exact sentry.imp (·.passed past waits) (·.of_sentry rfl (Nat.le_add_right _ _))

end Kept

theorem Comes.kept (came : Comes calls v) (told : Told calls) : Kept calls v := by
  induction came with
  | new => exact Kept.new
  | called came prompt computed ih => exact (ih told.1).called prompt told computed
  | moved came plain computed ih => exact (ih told).moved plain computed

/-! ### What every vigil can do -/

/-- The sentry has nothing to do now. -/
def IsSettled (v : Vigil) : Prop :=
  v.guard.sentryReads? = none ∧ v.guard.sentryWakes? v.now = none

/-- Nobody keeps the sentry from settling. -/
theorem Comes.settles (came : Comes calls v) :
    ∃ v', Comes calls v' ∧ v'.IsSettled ∧ v'.now = v.now ∧ v'.abandoned = v.abandoned := by
  obtain ⟨last, settles⟩ := v.guard.settles v.now
  generalize guarded : v.guard = g at settles
  generalize clock : v.now = now at settles ⊢
  induction settles generalizing v with
  | settled read asleep =>
      refine ⟨v, came, ⟨?_, ?_⟩, clock, rfl⟩
      · rw [guarded, read]
      · rw [guarded, clock, asleep]
  | @reads g g' last reads rest ih =>
      have computed : v.next? .sentryReads = some { v with guard := g' } := by
        simp [next?, guarded, reads]
      have moved := came.moved rfl computed
      have settled := ih moved rfl clock
      exact settled
  | @wakes g g' last wakes rest ih =>
      have computed : v.next? .sentryWakes = some { v with guard := g' } := by
        simp [next?, guarded, clock, wakes]
      have moved := came.moved rfl computed
      have settled := ih moved rfl clock
      exact settled

/-- Time passes as far as the sentry sleeps. -/
theorem Comes.pass (came : Comes calls v) (uncancelled : v.cancelled = false)
    (settled : v.IsSettled) {millis : Nat}
    (asleep : ∀ due, v.guard.due? = some due → v.now + millis ≤ due) :
    Comes calls { v with now := v.now + millis } := by
  have waits : v.guard.canWait v.now millis v.cancelled = true := by
    rw [uncancelled]
    exact Guard.canWait_of_settled settled.1 settled.2 asleep
  have computed : v.next? (.pass millis) = some { v with now := v.now + millis } := by
    simp [next?, waits]
  exact came.moved rfl computed

/-- A sentry that has tripped is settled for good. -/
theorem Tripped.isSettled (tripped : Tripped calls v) : v.IsSettled := by
  obtain ⟨instant, sentry, -⟩ := tripped
  exact ⟨by simp [Guard.sentryReads?, sentry], by simp [Guard.sentryWakes?, sentry]⟩

theorem Tripped.due?_eq_none (tripped : Tripped calls v) : v.guard.due? = none := by
  obtain ⟨instant, sentry, -⟩ := tripped
  simp [Guard.due?, sentry]

/-- A sentry that settles at the deadline in force has tripped. -/
theorem Kept.tripped_of_settled (kept : Kept calls v) (settled : v.IsSettled)
    (deadline : (setting calls).deadline = some v.now) : Tripped calls v := by
  rcases kept.sentry with watchful | tripped
  · exact (Nat.lt_irrefl _ (watchful.lt_deadline settled.2 deadline)).elim
  · exact tripped

/-- Time comes to every instant. -/
theorem Comes.reaches (came : Comes calls v) (told : Told calls) (settled : v.IsSettled)
    {horizon : Nat} (ahead : v.now ≤ horizon) :
    ∃ v', Comes calls v' ∧ v'.IsSettled ∧ v'.now = horizon ∧ v'.abandoned = v.abandoned := by
  have kept := came.kept told
  obtain ⟨millis, rfl⟩ := Nat.exists_eq_add_of_le ahead
  rcases kept.sentry with watchful | tripped
  · obtain ⟨watching, quiet⟩ := watchful.asleep settled.1
    by_cases comes : ∃ due, (setting calls).deadline = some due ∧ due < v.now + millis
    · -- The deadline in force comes first; there the sentry trips, and time goes on.
      obtain ⟨due, deadline, before⟩ := comes
      obtain ⟨until', rfl⟩ := Nat.exists_eq_add_of_le (watchful.ahead due deadline)
      have asleep : ∀ other, v.guard.due? = some other → v.now + until' ≤ other := by
        intro other due
        simp only [Guard.due?, watching, deadline, Option.some.injEq] at due
        exact Nat.le_of_eq due
      have atDue := came.pass kept.uncancelled settled asleep
      obtain ⟨v₁, came₁, settled₁, now₁, same₁⟩ := atDue.settles
      have kept₁ := came₁.kept told
      have tripped := kept₁.tripped_of_settled settled₁ (now₁ ▸ deadline)
      have awake : ∀ other, v₁.guard.due? = some other → v₁.now + (millis - until') ≤ other := by
        rw [tripped.due?_eq_none]
        rintro other ⟨⟩
      refine ⟨_, came₁.pass kept₁.uncancelled settled₁ awake, ?_, ?_, same₁⟩
      · have still : Tripped calls { v₁ with now := v₁.now + (millis - until') } :=
          tripped.of_sentry rfl (Nat.le_add_right _ _)
        exact still.isSettled
      · simp only [now₁]
        omega
    · have asleep : ∀ due, v.guard.due? = some due → v.now + millis ≤ due := by
        intro due waiting
        simp only [Guard.due?, watching] at waiting
        exact Nat.le_of_not_lt fun before => comes ⟨due, waiting, before⟩
      obtain ⟨v', came', settled', now', same'⟩ :=
        (came.pass kept.uncancelled settled asleep).settles
      exact ⟨v', came', settled', now', same'⟩
  · refine ⟨_, came.pass kept.uncancelled settled ?_, ?_, rfl, rfl⟩
    · rw [tripped.due?_eq_none]
      rintro due ⟨⟩
    · have still : Tripped calls { v with now := v.now + millis } :=
        tripped.of_sentry rfl (Nat.le_add_right _ _)
      exact still.isSettled

/-- Calls in the order of their instants can all be made. -/
theorem comes_of_calls {horizon : Nat} (told : Told calls)
    (ordered : calls.Pairwise fun later earlier => earlier.1 ≤ later.1)
    (past : ∀ c ∈ calls, c.1 ≤ horizon) :
    ∃ v, Comes calls v ∧ v.IsSettled ∧ v.now = horizon ∧ v.abandoned = false := by
  induction calls generalizing horizon with
  | nil =>
      obtain ⟨v, came, settled, now, same⟩ := Comes.new.settles
      obtain ⟨v', came', settled', now', same'⟩ :=
        came.reaches told settled (Nat.le_trans (Nat.le_of_eq now) (Nat.zero_le horizon))
      exact ⟨v', came', settled', now', same'.trans same⟩
  | cons last earlier ih =>
      obtain ⟨instant, call⟩ := last
      obtain ⟨first, ordered⟩ := List.pairwise_cons.mp ordered
      obtain ⟨v, came, settled, rfl, held⟩ := ih told.1 ordered first
      have computed : v.next? call.action = some (v.use (call.result v.guard v.now)) := by
        simp [next?_action, held]
      have called := came.called settled.2 computed
      have still : (v.use (call.result v.guard v.now)).now = v.now ∧
          (v.use (call.result v.guard v.now)).abandoned = false := by
        unfold use
        split <;> exact ⟨rfl, held⟩
      obtain ⟨v₁, came₁, settled₁, now₁, same₁⟩ := called.settles
      have ahead : v₁.now ≤ horizon := by
        rw [now₁, still.1]
        exact past _ List.mem_cons_self
      obtain ⟨v₂, came₂, settled₂, now₂, same₂⟩ := came₁.reaches told settled₁ ahead
      exact ⟨v₂, came₂, settled₂, now₂, same₂.trans (same₁.trans still.2)⟩

/-! ### When the sentry trips -/

theorem trippedAt?_eq_some_iff {g : Guard} :
    g.trippedAt? = some instant ↔ g.sentry = .tripped instant := by
  unfold Guard.trippedAt?
  split
  · rename_i other tripped
    simp [tripped]
  · rename_i untripped
    constructor
    · rintro ⟨⟩
    · intro tripped
      exact (untripped _ tripped).elim

/-- Nothing that is done with a guard moves its sentry. -/
theorem sentry_of_result {g g' : Guard} (accepted : call.result g now = .ok g') :
    g'.sentry = g.sentry := by
  have armed : ∀ {g g' : Guard} {span : Span}, g.arm span now = .ok g' → g'.sentry = g.sentry := by
    intro g g' span accepted
    unfold Guard.arm at accepted
    split at accepted
    · cases accepted
      rfl
    · cases accepted
  cases call with
  | configure span =>
      simp only [Call.result, Guard.configure] at accepted
      split at accepted
      · cases accepted
      · exact (armed accepted).trans rfl
  | confirm =>
      simp only [Call.result, Guard.confirm] at accepted
      split at accepted
      · exact armed accepted
      · cases accepted
  | disarm =>
      cases accepted
      rfl

theorem sentry_of_use : (v.use (call.result v.guard now)).guard.sentry = v.guard.sentry := by
  unfold use
  split
  · rename_i g accepted
    exact sentry_of_result accepted
  · rfl

theorem sentry_of_call (call : Call) (computed : v.next? call.action = some v') :
    v'.guard.sentry = v.guard.sentry := by
  rw [next?_action, Option.ite_none_left_eq_some, Option.some.injEq] at computed
  obtain ⟨-, rfl⟩ := computed
  exact sentry_of_use

/-- A sentry that has tripped has ended. -/
theorem tripped_of_next? (tripped : v.guard.sentry = .tripped instant)
    (computed : v.next? action = some v') : v'.guard.sentry = .tripped instant := by
  cases action with
  | configure span => exact (sentry_of_call (.configure span) computed).trans tripped
  | confirm => exact (sentry_of_call .confirm computed).trans tripped
  | disarm => exact (sentry_of_call .disarm computed).trans tripped
  | abandon | cancel =>
      cases computed
      exact tripped
  | sentryReads => simp [next?, Guard.sentryReads?, tripped] at computed
  | sentryWakes => simp [next?, Guard.sentryWakes?, tripped] at computed
  | sentryStops => simp [next?, Guard.sentryStops?, tripped] at computed
  | pass millis =>
      simp only [next?, Option.ite_none_right_eq_some, Option.some.injEq] at computed
      exact computed.2 ▸ tripped

theorem trippedAt?_of_run {actions : List Action} (tripped : v.guard.trippedAt? = some instant)
    (ran : v.run? actions = some v') : v'.guard.trippedAt? = some instant := by
  have folded : v.run? actions = actions.foldlM next? v :=
    Runs.eq_foldlM (fun _ => rfl) fun _ _ _ => rfl
  rw [trippedAt?_eq_some_iff] at tripped ⊢
  exact Runs.keeps (fun v : Vigil => v.guard.sentry = .tripped instant)
    (fun held _ computed => tripped_of_next? held computed) tripped (folded ▸ ran)

theorem Kept.trippedAt?_iff (kept : Kept calls v) (had : instant < v.now ∨ v.IsSettled) :
    v.guard.trippedAt? = some instant ↔ FirstMissed calls instant ∧ instant ≤ v.now := by
  rw [trippedAt?_eq_some_iff]
  rcases kept.sentry with watchful | ⟨other, sentry, first, reached⟩
  · have awake : ∀ other, v.guard.sentry ≠ .tripped other := by
      intro other
      rcases watchful.standing.awake with reading | ⟨last, watching, -⟩
      · simp [reading]
      · simp [watching]
    constructor
    · intro tripped
      exact (awake instant tripped).elim
    · rintro ⟨first, reached⟩
      rcases Nat.lt_or_eq_of_le reached with before | rfl
      · exact (watchful.unmissed instant before first.1).elim
      · have settled := had.resolve_left (Nat.lt_irrefl _)
        obtain ⟨other, tripped, -⟩ :=
          kept.tripped_of_settled settled (watchful.present.mp first.1)
        exact (awake other tripped).elim
  · rw [sentry, Sentry.tripped.injEq]
    constructor
    · rintro rfl
      exact ⟨first, reached⟩
    · rintro ⟨missed, -⟩
      exact first.unique missed

/-- Whoever calls and when, once its sentry has had its turn a guard has tripped exactly if a
deadline was missed, namely at the first one that was. It then stays tripped, whatever is done; it
is set to what the calls say; and a call that it refuses changes nothing. Any calls at any instants
can be made, up to any later instant. -/
theorem trips_when_missed (calls : List (Nat × Call)) (told : Told calls) :
    (∀ horizon, calls.Pairwise (fun later earlier => earlier.1 ≤ later.1) →
      (∀ c ∈ calls, c.1 ≤ horizon) → ∃ v, Comes calls v ∧ v.IsSettled ∧ v.now = horizon) ∧
    ∀ v, Comes calls v →
      (∀ instant, instant < v.now ∨ v.IsSettled →
        (v.guard.trippedAt? = some instant ↔ FirstMissed calls instant ∧ instant ≤ v.now)) ∧
      (∀ instant, v.guard.trippedAt? = some instant → v.guard.isWatched = false ∧
        ∀ actions v', v.run? actions = some v' → v'.guard.trippedAt? = some instant) ∧
      v.guard.timeout = (setting calls).timeout ∧
      v.guard.deadline = (setting calls).deadline ∧
      (∀ span, span.isZero = true →
        v.guard.configure span v.now =
          .error (.fault (.liveness "timeout must be non-zero")) ∧
        (v.abandoned = false → v.next? (.configure span) = some v)) ∧
      ((setting calls).timeout = none →
        v.guard.confirm v.now =
          .error (.fault (.liveness "software watchdog not configured")) ∧
        (v.abandoned = false → v.next? .confirm = some v)) := by
  constructor
  · intro horizon ordered past
    obtain ⟨v, came, settled, now, -⟩ := comes_of_calls told ordered past
    exact ⟨v, came, settled, now⟩
  · intro v came
    have kept := came.kept told
    refine ⟨fun instant had => kept.trippedAt?_iff had, ?_, kept.timeout, kept.deadline, ?_, ?_⟩
    · intro instant tripped
      refine ⟨?_, fun actions v' ran => trippedAt?_of_run tripped ran⟩
      simp [Guard.isWatched, trippedAt?_eq_some_iff.mp tripped]
    · intro span zero
      have refused : v.guard.configure span v.now =
          .error (.fault (.liveness "timeout must be non-zero")) := by
        simp [Guard.configure, zero]
      exact ⟨refused, fun held => by simp [next?, held, refused, use]⟩
    · intro unset
      have refused : v.guard.confirm v.now =
          .error (.fault (.liveness "software watchdog not configured")) := by
        simp [Guard.confirm, kept.timeout, unset]
      exact ⟨refused, fun held => by simp [next?, held, refused, use]⟩

/-- A timeout that is shortened when a tenth of it is over, and a confirmation at the instant of the
new deadline. -/
def shortened : List (Nat × Call) :=
  [(3, .confirm), (1, .configure (.ofMillis 2)), (0, .configure (.ofMillis 10))]

/-- The guard trips at the new deadline, before the confirmation. -/
theorem shortened_deadline_trips :
    Told shortened ∧ ∃ v, Comes shortened v ∧ v.now = 8 ∧ v.guard.trippedAt? = some 3 ∧
      v.guard.deadline = some 5 := by
  have told : Told shortened := by
    refine ⟨⟨⟨trivial, ?_⟩, ?_⟩, ?_⟩ <;>
      · rintro span ⟨⟩
        decide
  obtain ⟨made, exactly⟩ := trips_when_missed shortened told
  obtain ⟨v, came, settled, now⟩ := made 8 (by decide) (by decide)
  obtain ⟨trips, -, -, deadline, -⟩ := exactly v came
  refine ⟨told, v, came, now, (trips 3 (Or.inr settled)).mpr ⟨?_, by omega⟩, deadline⟩
  exact ⟨by decide, by decide⟩

end BridgeWarden.Liveness.Vigil

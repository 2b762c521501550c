import BridgeWarden.Proofs.Runs
import BridgeWarden.Transport.Writer
import Mathlib.Data.List.Basic

/-!
The calls of a writer.

`Step` lists what an action does, guards included, and `step_of_next?` says that this is all that
`next?` does. A call is never unmade: it keeps its bytes, its start and its deadline, what the
channel has accepted of it only grows, and once it has returned nothing of it changes (`Later`,
`later_of_run`).
-/

namespace BridgeWarden.Transport

open Text (Bytes)

namespace Send

/-- What the channel has accepted of a call. -/
def taken (s : Send) : Bytes := s.data.take s.written

/-- When a call returned, and the number that it returned. -/
def result? (s : Send) : Option (Nat × Nat) :=
  match s.stage with
  | .over instant => some (instant, s.written)
  | .waiting | .writing | .flushing => none

/-- A call some time later. -/
structure Later (s s' : Send) : Prop where
  data : s'.data = s.data
  started : s'.started = s.started
  deadline : s'.deadline = s.deadline
  written : s.written ≤ s'.written
  final : ∀ result, s.result? = some result → s' = s

theorem Later.refl (s : Send) : s.Later s := ⟨rfl, rfl, rfl, Nat.le_refl _, fun _ _ => rfl⟩

theorem Later.trans {s s' s'' : Send} (first : s.Later s') (second : s'.Later s'') :
    s.Later s'' := by
  refine ⟨second.data.trans first.data, second.started.trans first.started,
    second.deadline.trans first.deadline, Nat.le_trans first.written second.written, ?_⟩
  intro result returned
  have same := first.final result returned
  subst same
  exact second.final result returned

/-- A call that has not returned may still come further. -/
theorem later_of_unreturned {s s' : Send} (unreturned : s.result? = none) (data : s'.data = s.data)
    (started : s'.started = s.started) (deadline : s'.deadline = s.deadline)
    (written : s.written ≤ s'.written) : s.Later s' := by
  refine ⟨data, started, deadline, written, ?_⟩
  intro result returned
  rw [unreturned] at returned
  cases returned

end Send

namespace Writer

variable {w w' : Writer} {action : Action} {actions : List Action} {number : Nat} {s : Send}

theorem isOver_eq (s : Send) : isOver s = s.result?.isSome := by
  unfold isOver Send.result?
  cases s.stage <;> rfl

/-- The call whose turn it is is the first one queued. -/
theorem first?_eq_some_iff :
    w.first? = some (number, s) ↔
      (∃ rest, w.queue = number :: rest) ∧ w.sends[number]? = some s := by
  unfold first?
  cases queue : w.queue with
  | nil => simp
  | cons head rest =>
      simp only [List.head?_cons, Option.bind_some, Option.map_eq_some_iff, Prod.mk.injEq,
        List.cons.injEq]
      constructor
      · rintro ⟨other, called, rfl, rfl⟩
        exact ⟨⟨rest, rfl, rfl⟩, called⟩
      · rintro ⟨⟨others, rfl, -⟩, called⟩
        exact ⟨s, called, rfl, rfl⟩

/-! ### Steps -/

/-- A call as it is made. -/
def called (data : Bytes) (w : Writer) : Send :=
  { data, written := 0, started := w.now, deadline := Clock.wake w.now w.timeout
    stage := .waiting }

/-- A call comes to its end. -/
inductive Ends (w : Writer) : Action → Nat → Send → Prop where
  | refused {number : Nat} {s : Send} (first : w.first? = some (number, s))
      (writing : s.stage = .writing) : Ends w .refuse number s
  | flushed {number : Nat} {s : Send} (first : w.first? = some (number, s))
      (flushing : s.stage = .flushing) : Ends w .flushed number s
  | expired {number : Nat} {s : Send} (present : w.sends[number]? = some s)
      (unreturned : s.result? = none) (due : s.deadline ≤ w.now) : Ends w (.expire number) number s

theorem Ends.present (ends : Ends w action number s) : w.sends[number]? = some s := by
  cases ends with
  | refused first | flushed first => exact (first?_eq_some_iff.mp first).2
  | expired present => exact present

theorem Ends.unreturned (ends : Ends w action number s) : s.result? = none := by
  cases ends with
  | refused first writing => simp [Send.result?, writing]
  | flushed first flushing => simp [Send.result?, flushing]
  | expired present unreturned => exact unreturned

inductive Step (w : Writer) : Action → Writer → Prop where
  /-- A call without bytes returns at once. -/
  | answered :
      Step w (.send []) { w with sends := w.sends ++ [{ w.called [] with stage := .over w.now }] }
  | queued {data : Bytes} (something : data ≠ []) :
      Step w (.send data)
        { w with sends := w.sends ++ [w.called data], queue := w.queue ++ [w.sends.length] }
  | began {number : Nat} {s : Send} (first : w.first? = some (number, s))
      (waiting : s.stage = .waiting) :
      Step w .take
        { w with
          sends := w.sends.set number { s with stage := .writing }
          turns := w.turns ++ [number] }
  | accepted {number count : Nat} {s : Send} {stage : Stage}
      (first : w.first? = some (number, s)) (writing : s.stage = .writing)
      (further : stage = .writing ∨ stage = .flushing) (offered : count ≤ s.offered.length) :
      Step w (.accept count)
        { w with
          sends := w.sends.set number { s with written := s.written + count, stage }
          accepted := w.accepted ++ s.offered.take count }
  | ended {action : Action} {number : Nat} {s : Send} (ends : Ends w action number s) :
      Step w action
        { w with
          sends := w.sends.set number { s with stage := .over w.now }
          queue := w.queue.filter (· ≠ number) }
  | passed {millis : Nat} (waits : w.canWait millis = true) :
      Step w (.pass millis) { w with now := w.now + millis }

theorem step_send (data : Bytes) : Step w (.send data) (w.send data) := by
  cases data with
  | nil => exact .answered
  | cons byte rest => exact .queued (List.cons_ne_nil byte rest)

theorem step_accept {count : Nat} (first : w.first? = some (number, s))
    (writing : s.stage = .writing) (offered : count ≤ s.offered.length) :
    Step w (.accept count) (w.accept number s count) := by
  unfold accept
  by_cases more : s.written + count < s.data.length
  · simp only [more, if_true]
    exact .accepted first writing (Or.inl rfl) offered
  · simp only [more, if_false]
    exact .accepted first writing (Or.inr rfl) offered

theorem step_of_next? (computed : w.next? action = some w') : Step w action w' := by
  cases action with
  | send data =>
      cases computed
      exact step_send data
  | take =>
      simp only [next?] at computed
      split at computed
      · rename_i number s first
        rw [Option.ite_none_right_eq_some] at computed
        obtain ⟨waiting, same⟩ := computed
        cases same
        exact .began first waiting
      · cases computed
  | accept count =>
      simp only [next?] at computed
      split at computed
      · rename_i number s first
        rw [Option.ite_none_right_eq_some] at computed
        obtain ⟨⟨writing, -, offered⟩, same⟩ := computed
        cases same
        exact step_accept first writing offered
      · cases computed
  | refuse =>
      simp only [next?] at computed
      split at computed
      · rename_i number s first
        rw [Option.ite_none_right_eq_some] at computed
        obtain ⟨writing, same⟩ := computed
        cases same
        exact .ended (.refused first writing)
      · cases computed
  | flushed =>
      simp only [next?] at computed
      split at computed
      · rename_i number s first
        rw [Option.ite_none_right_eq_some] at computed
        obtain ⟨flushing, same⟩ := computed
        cases same
        exact .ended (.flushed first flushing)
      · cases computed
  | expire number =>
      simp only [next?] at computed
      split at computed
      · rename_i s present
        rw [Option.ite_none_right_eq_some] at computed
        obtain ⟨spent, same⟩ := computed
        simp only [isOver_eq, Bool.and_eq_true, Bool.not_eq_true', Option.isSome_eq_false_iff,
          Option.isNone_iff_eq_none, decide_eq_true_eq] at spent
        cases same
        exact .ended (.expired present spent.1 spent.2)
      · cases computed
  | pass millis =>
      simp only [next?] at computed
      rw [Option.ite_none_right_eq_some] at computed
      obtain ⟨waits, same⟩ := computed
      cases same
      exact .passed waits

theorem run?_eq_foldlM : w.run? actions = actions.foldlM next? w :=
  Runs.eq_foldlM (fun _ => rfl) fun _ _ _ => rfl

/-- What every step keeps, every run keeps. -/
theorem run?_keeps (holds : Writer → Prop)
    (kept : ∀ {w action w'}, holds w → Step w action w' → holds w') (first : holds w)
    (ran : w.run? actions = some w') : holds w' := by
  rw [run?_eq_foldlM] at ran
  exact Runs.keeps holds (fun held _ computed => kept held (step_of_next? computed)) first ran

/-! ### What becomes of a call -/

/-- A call after one of the calls has changed. -/
theorem getElem?_set_eq_some_iff {s' t : Send} {other : Nat} (present : w.sends[number]? = some s) :
    (w.sends.set number s')[other]? = some t ↔
      other = number ∧ t = s' ∨ other ≠ number ∧ w.sends[other]? = some t := by
  obtain ⟨within, -⟩ := List.getElem?_eq_some_iff.mp present
  rw [List.getElem?_set]
  by_cases same : number = other
  · subst same
    simp [within, eq_comm]
  · simp [same, Ne.symm same]

/-- A call after a further one was made. -/
theorem getElem?_append_eq_some_iff {t x : Send} {other : Nat} :
    (w.sends ++ [x])[other]? = some t ↔
      other = w.sends.length ∧ t = x ∨ w.sends[other]? = some t := by
  by_cases within : other < w.sends.length
  · rw [List.getElem?_append_left within]
    simp [Nat.ne_of_lt within]
  · have absent : w.sends[other]? = none := List.getElem?_eq_none (Nat.le_of_not_lt within)
    rw [List.getElem?_append_right (Nat.le_of_not_lt within), absent,
      List.getElem?_singleton]
    by_cases last : other = w.sends.length
    · simp [last, eq_comm]
    · have beyond : other - w.sends.length ≠ 0 := by omega
      simp [last, beyond]

/-- A step that changes one call leaves every call later than it was. -/
theorem later_of_set {s' t : Send} {other : Nat} (present : w.sends[number]? = some s)
    (later : s.Later s') (called : w.sends[other]? = some t) :
    ∃ t', (w.sends.set number s')[other]? = some t' ∧ t.Later t' := by
  by_cases same : other = number
  · subst same
    rw [present] at called
    cases called
    exact ⟨s', (getElem?_set_eq_some_iff present).mpr (Or.inl ⟨rfl, rfl⟩), later⟩
  · exact ⟨t, (getElem?_set_eq_some_iff present).mpr (Or.inr ⟨same, called⟩), .refl t⟩

namespace Step

theorem later (stepped : Step w action w') {other : Nat} {t : Send}
    (called : w.sends[other]? = some t) : ∃ t', w'.sends[other]? = some t' ∧ t.Later t' := by
  cases stepped with
  | answered | queued =>
      exact ⟨t, getElem?_append_eq_some_iff.mpr (Or.inr called), .refl t⟩
  | @began number s first waiting =>
      have unreturned : s.result? = none := by simp [Send.result?, waiting]
      have later : s.Later { s with stage := .writing } :=
        Send.later_of_unreturned unreturned rfl rfl rfl (Nat.le_refl _)
      exact later_of_set (first?_eq_some_iff.mp first).2 later called
  | @accepted number count s stage first writing =>
      have unreturned : s.result? = none := by simp [Send.result?, writing]
      have later : s.Later { s with written := s.written + count, stage } :=
        Send.later_of_unreturned unreturned rfl rfl rfl (Nat.le_add_right _ _)
      exact later_of_set (first?_eq_some_iff.mp first).2 later called
  | @ended _ number s ends =>
      have later : s.Later { s with stage := .over w.now } :=
        Send.later_of_unreturned ends.unreturned rfl rfl rfl (Nat.le_refl _)
      exact later_of_set ends.present later called
  | passed => exact ⟨t, called, .refl t⟩

/-- What the channel has accepted stays accepted, and turns that have begun have begun. -/
theorem grows (stepped : Step w action w') :
    w.accepted <+: w'.accepted ∧ w.turns <+: w'.turns := by
  cases stepped with
  | began => exact ⟨List.prefix_refl _, List.prefix_append _ _⟩
  | accepted => exact ⟨List.prefix_append _ _, List.prefix_refl _⟩
  | answered | queued | ended | passed => exact ⟨List.prefix_refl _, List.prefix_refl _⟩

end Step

theorem later_of_run (ran : w.run? actions = some w') {t : Send}
    (called : w.sends[number]? = some t) : ∃ t', w'.sends[number]? = some t' ∧ t.Later t' := by
  refine run?_keeps (fun w => ∃ t', w.sends[number]? = some t' ∧ t.Later t') ?_
    ⟨t, called, .refl t⟩ ran
  rintro w action w' ⟨t', present, later⟩ stepped
  obtain ⟨t'', present', further⟩ := stepped.later present
  exact ⟨t'', present', later.trans further⟩

theorem grows_of_run (ran : w.run? actions = some w') :
    w.accepted <+: w'.accepted ∧ w.turns <+: w'.turns := by
  refine run?_keeps (fun later => w.accepted <+: later.accepted ∧ w.turns <+: later.turns) ?_
    ⟨List.prefix_refl _, List.prefix_refl _⟩ ran
  rintro middle action w' ⟨bytes, turns⟩ stepped
  obtain ⟨moreBytes, moreTurns⟩ := stepped.grows
  exact ⟨bytes.trans moreBytes, turns.trans moreTurns⟩

end Writer

end BridgeWarden.Transport

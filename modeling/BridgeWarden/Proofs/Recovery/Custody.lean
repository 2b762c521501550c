import BridgeWarden.Proofs.Reach.Answers
import BridgeWarden.Recovery.Coordinator
import Mathlib.Data.List.Basic
import Mathlib.Tactic.ByContra

/-!
Who holds on to a restart that is not over.

`Custody c awaited` is what every use of a coordinator keeps: there is at most one restart that is
not over, either the coordinator holds on to it or somebody waits for it (`awaited`), and while a
survey is under way there is none. The lemmas before it say once what a cycle's beginning and an
answer do; nothing after them opens `begin` or `answer?`.
-/

namespace BridgeWarden.Recovery.Coordinator

variable {c : Coordinator} {remote : Remote.Suppression}

/-! ### What a cycle's beginning and an answer do -/

theorem begin_of_busy (busy : c.isBusy = true) : c.begin remote = (c, some .inFlight) := by
  simp [begin, busy]

theorem begin_of_suppressed (free : c.isBusy = false) (online : remote.suppresses = true) :
    c.begin remote = ({ c with held := none }, some .suppressed) := by
  simp [begin, free, online]

theorem begin_of_free (free : c.isBusy = false) (offline : remote.suppresses = false) :
    c.begin remote = ({ c with held := none, survey := some .listing }, none) := by
  simp [begin, free, offline]

/-- A cycle that has its report at once changes at most what the coordinator holds on to. -/
theorem held_of_begin {became : Coordinator} {report : Report}
    (entered : c.begin remote = (became, some report)) : ∃ held, became = { c with held } := by
  cases busy : c.isBusy with
  | true =>
      rw [begin_of_busy busy] at entered
      cases entered
      exact ⟨c.held, rfl⟩
  | false =>
      cases online : remote.suppresses with
      | true =>
          rw [begin_of_suppressed busy online] at entered
          cases entered
          exact ⟨none, rfl⟩
      | false =>
          rw [begin_of_free busy online] at entered
          cases entered

/-- What an answer to the present question comes to. -/
inductive Told (c : Coordinator) (answer : Reach.Answer) (now wall : Nat) :
    Coordinator × Option Report → Prop where
  /-- The survey has another question. -/
  | further {survey next : Reach.Survey} {query : Reach.Query} (underWay : c.survey = some survey)
      (told : survey.answer? c.monitor answer = some next)
      (asks : next.query? c.monitor = some query) :
      Told c answer now wall ({ c with survey := some next }, none)
  /-- The survey is done and nothing is to be done. -/
  | settled {survey : Reach.Survey} {outcome : Reach.Outcome} (underWay : c.survey = some survey)
      (told : survey.answer? c.monitor answer = some (.done outcome))
      (calm : outcome.needsRecovery = false) :
      Told c answer now wall ({ c with survey := none }, some (.checked outcome false))
  /-- A client did not answer. -/
  | alarmed {client : Mac} {address : Ipv4} {rest : List Mac} {probed unresolved : Nat}
      (underWay : c.survey = some (.probing client address rest probed unresolved))
      (told : answer = .probe (.ok false)) :
      Told c answer now wall ({ c with survey := none }.beginRestart now wall,
        some (.checked (.unreachable client address) true))

theorem told_of_answer? {answer : Reach.Answer} {now wall : Nat}
    {became : Coordinator × Option Report}
    (computed : c.answer? answer now wall = some became) : Told c answer now wall became := by
  simp only [answer?, Option.map_eq_some_iff, Option.bind_eq_some_iff] at computed
  obtain ⟨next, ⟨survey, underWay, told⟩, rfl⟩ := computed
  cases settled : next.outcome? with
  | none =>
      have asks : (next.query? c.monitor).isSome = true := by
        rw [Reach.Survey.query?_isSome, settled]
        rfl
      obtain ⟨query, asks⟩ := Option.isSome_iff_exists.mp asks
      exact .further underWay told asks
  | some outcome =>
      have done : next = .done outcome := by
        cases next <;> simp [Reach.Survey.outcome?] at settled
        rw [settled]
      cases needs : outcome.needsRecovery with
      | false =>
          simp only [conclude, needs, Bool.false_eq_true, if_false]
          exact .settled underWay (done ▸ told) needs
      | true =>
          obtain ⟨client, address, rest, probed, unresolved, rfl, rfl, rfl⟩ :=
            (Reach.Survey.moves_of_answer? told).needsRecovery settled needs
          simp only [conclude, needs, if_true]
          exact .alarmed underWay rfl

/-- A cycle that goes on has a question. -/
theorem Told.query {answer : Reach.Answer} {now wall : Nat} {became : Coordinator × Option Report}
    (told : Told c answer now wall became) (goesOn : became.2 = none) :
    ∃ query, became.1.query? = some query := by
  cases told with
  | @further survey next query underWay told asks => exact ⟨query, asks⟩
  | settled underWay told calm => cases goesOn
  | alarmed underWay told => cases goesOn

/-- The survey decides whether a cycle goes on and what it reports. -/
theorem Told.outcome {answer : Reach.Answer} {now wall : Nat} {became : Coordinator}
    {report : Option Report} {survey next : Reach.Survey}
    (told : Told c answer now wall (became, report)) (underWay : c.survey = some survey)
    (answered : survey.answer? c.monitor answer = some next) :
    report = none ∧ next.outcome? = none ∧ became = { c with survey := some next } ∨
      ∃ outcome, next = .done outcome ∧
        report = some (.checked outcome outcome.needsRecovery) := by
  cases told with
  | @further other next' query underWay' told asks =>
      obtain rfl : survey = other := Option.some.inj (underWay.symm.trans underWay')
      obtain rfl : next = next' := Option.some.inj (answered.symm.trans told)
      refine Or.inl ⟨rfl, ?_, rfl⟩
      cases next with
      | done outcome => cases asks
      | listing | resolving | probing => rfl
  | @settled other outcome underWay' told calm =>
      obtain rfl : survey = other := Option.some.inj (underWay.symm.trans underWay')
      obtain rfl : next = .done outcome := Option.some.inj (answered.symm.trans told)
      exact Or.inr ⟨outcome, rfl, by rw [calm]⟩
  | @alarmed client address rest probed unresolved underWay' told =>
      obtain rfl := Option.some.inj (underWay.symm.trans underWay')
      subst told
      exact Or.inr ⟨.unreachable client address, Option.some.inj answered.symm, rfl⟩

/-- A call begins no restart. -/
theorem mem_of_restartCalls {number : Nat} {r : Nat × Progress}
    (member : r ∈ (c.restartCalls number).restarts) : ∃ progress, (r.1, progress) ∈ c.restarts := by
  obtain ⟨old, present, rfl⟩ := List.mem_map.mp member
  refine ⟨old.2, ?_⟩
  split
  · rename_i same
    exact same ▸ present
  · exact present

/-! ### Custody -/

theorem isRunning_iff {number : Nat} :
    c.isRunning number = true ↔ ∃ progress, (number, progress) ∈ c.restarts := by
  simp only [isRunning, List.any_eq_true, beq_iff_eq]
  constructor
  · rintro ⟨⟨_, progress⟩, member, rfl⟩
    exact ⟨progress, member⟩
  · rintro ⟨progress, member⟩
    exact ⟨_, member, rfl⟩

@[simp] theorem isAt_iff {number : Nat} {progress : Progress} :
    c.isAt number progress = true ↔ (number, progress) ∈ c.restarts := by
  simp [isAt]

structure Custody (c : Coordinator) (awaited : Option Nat) : Prop where
  numbered : ∀ r ∈ c.restarts, r.1 < c.begun
  single : c.restarts.length ≤ 1
  kept : ∀ r ∈ c.restarts, c.held = some r.1 ∨ awaited = some r.1
  released : awaited.isSome → c.held = none
  quiet : c.survey.isSome → c.restarts = []

namespace Custody

variable {awaited : Option Nat}

theorem new (m : Reach.Monitor) (display : Status.Display) :
    Custody (Coordinator.new m display) none := by
  constructor <;> simp [Coordinator.new]

/-- Whoever has nobody to wait for is busy exactly while a restart is not over. -/
theorem isBusy_iff (custody : Custody c none) : c.isBusy = true ↔ c.restarts ≠ [] := by
  constructor
  · intro busy idle
    simp only [isBusy, Option.any_eq_true] at busy
    obtain ⟨number, _, running⟩ := busy
    simp [isRunning, idle] at running
  · intro outstanding
    obtain ⟨r, member⟩ := List.exists_mem_of_ne_nil _ outstanding
    rcases custody.kept r member with held | awaited
    · simp only [isBusy, held, Option.any_some]
      exact isRunning_iff.mpr ⟨r.2, member⟩
    · cases awaited

theorem restarts_of_free (custody : Custody c none) (free : c.isBusy = false) :
    c.restarts = [] := by
  by_contra outstanding
  simp [custody.isBusy_iff.mpr outstanding] at free

/-- The restart that is not over is the only one. -/
theorem restarts_eq (custody : Custody c awaited) {r : Nat × Progress}
    (member : r ∈ c.restarts) : c.restarts = [r] := by
  obtain ⟨only, eq⟩ := List.length_eq_one_iff.mp
    (Nat.le_antisymm custody.single (List.length_pos_of_mem member))
  rw [eq] at member ⊢
  rw [List.mem_singleton.mp member]

/-- A cycle that does not find a restart lets go of the last one. -/
theorem letGo (custody : Custody c none) (free : c.isBusy = false)
    (survey : Option Reach.Survey) : Custody { c with held := none, survey } none := by
  have idle := custody.restarts_of_free free
  constructor <;> simp [idle]

theorem begin (custody : Custody c none) (remote : Remote.Suppression) :
    Custody (c.begin remote).1 none := by
  cases busy : c.isBusy with
  | true =>
      rw [begin_of_busy busy]
      exact custody
  | false =>
      cases online : remote.suppresses with
      | true =>
          rw [begin_of_suppressed busy online]
          exact custody.letGo busy c.survey
      | false =>
          rw [begin_of_free busy online]
          exact custody.letGo busy (some .listing)

theorem told {answer : Reach.Answer} {now wall : Nat} {became : Coordinator × Option Report}
    (custody : Custody c none) (told : Told c answer now wall became) :
    Custody became.1 none := by
  cases told with
  | further underWay told asks =>
      exact { custody with quiet := fun _ => custody.quiet (by simp [underWay]) }
  | settled underWay told calm => exact { custody with quiet := by simp }
  | alarmed underWay told =>
      have idle : c.restarts = [] := custody.quiet (by simp [underWay])
      constructor <;> simp [beginRestart, idle]

theorem drop (custody : Custody c awaited) : Custody c.drop awaited :=
  { custody with quiet := by simp [Coordinator.drop] }

theorem restartCalls (custody : Custody c awaited) (number : Nat) :
    Custody (c.restartCalls number) awaited := by
  refine ⟨?_, ?_, ?_, custody.released, ?_⟩
  · intro r member
    obtain ⟨p, old⟩ := mem_of_restartCalls member
    exact custody.numbered (r.1, p) old
  · simpa [Coordinator.restartCalls] using custody.single
  · intro r member
    obtain ⟨p, old⟩ := mem_of_restartCalls member
    exact custody.kept (r.1, p) old
  · intro underWay
    simp [Coordinator.restartCalls, custody.quiet underWay]

theorem restartEnds (custody : Custody c awaited) (number : Nat) :
    Custody (c.restartEnds number) awaited := by
  refine ⟨?_, Nat.le_trans (List.length_filter_le _ _) custody.single, ?_, custody.released, ?_⟩
  · exact fun r member => custody.numbered r (List.mem_filter.mp member).1
  · exact fun r member => custody.kept r (List.mem_filter.mp member).1
  · intro underWay
    simp [Coordinator.restartEnds, custody.quiet underWay]

/-- Whoever finishes a coordinator waits for what it held on to. -/
theorem release (custody : Custody c none) : Custody c.release.1 c.release.2 := by
  refine ⟨custody.numbered, custody.single, ?_, fun _ => rfl, custody.quiet⟩
  intro r member
  exact Or.inr ((custody.kept r member).resolve_right (by simp))

/-- Whoever has waited long enough leaves no restart. -/
theorem restarts_of_over (custody : Custody c awaited)
    (finishing : awaited = none → c.held = none)
    (gone : awaited.any c.isRunning = false) : c.restarts = [] := by
  by_contra outstanding
  obtain ⟨r, member⟩ := List.exists_mem_of_ne_nil _ outstanding
  rcases custody.kept r member with held | waited
  · cases awaited with
    | none => simp [finishing rfl] at held
    | some number => simp [custody.released rfl] at held
  · simp only [waited, Option.any_some] at gone
    simp [isRunning_iff.mpr ⟨r.2, member⟩] at gone

end Custody

end BridgeWarden.Recovery.Coordinator

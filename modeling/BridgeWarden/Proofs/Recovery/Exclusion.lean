import BridgeWarden.Proofs.Recovery.Steps

/-!
One restart at a time.

Everything is said of what a course shows (`Course.events`). `pending` are the restarts that were
begun and are not over, `calling` those of them that are inside their call. In every run there is
at most one; a cycle that begins beside it reports so at once and does nothing else, and no other
cycle reports that (`one_restart_at_a_time`).
-/

namespace BridgeWarden.Recovery.Course

/-- The restarts that were begun and are not over, the latest first. -/
def pending : List Happening → List Nat
  | [] => []
  | .restartBegun number :: earlier => number :: pending earlier
  | .restartEnded number :: earlier => (pending earlier).filter (· ≠ number)
  | _ :: earlier => pending earlier

/-- The restarts whose call was made and has not ended, the latest first. -/
def calling : List Happening → List Nat
  | [] => []
  | .restartCalled number :: earlier => number :: calling earlier
  | .restartEnded number :: earlier => (calling earlier).filter (· ≠ number)
  | _ :: earlier => calling earlier

/-- A report belongs to the cycle entered last before it. It is that of a cycle that found a restart
exactly when there was one, and such a cycle did nothing between. -/
def Accounted : Happening → List Happening → Prop
  | .reported report, earlier =>
      ∃ cycle older, earlier = cycle ++ .entered :: older ∧ .entered ∉ cycle ∧
        (report = .inFlight ↔ pending older ≠ []) ∧ (report = .inFlight → cycle = [])
  | _, _ => True

/-- The present cycle was entered while no restart was pending. -/
def Unhindered (events : List Happening) : Prop :=
  ∃ cycle older, events = cycle ++ .entered :: older ∧ .entered ∉ cycle ∧ pending older = []

namespace Unhindered

variable {events : List Happening}

theorem entered (idle : pending events = []) : Unhindered (.entered :: events) :=
  ⟨[], events, rfl, by simp, idle⟩

/-- A cycle goes on with whatever is no new cycle. -/
theorem cons {happening : Happening} (unhindered : Unhindered events)
    (same : happening ≠ .entered) : Unhindered (happening :: events) := by
  obtain ⟨cycle, older, rfl, inside, idle⟩ := unhindered
  exact ⟨happening :: cycle, older, rfl, by simp [inside, same.symm], idle⟩

/-- An unhindered cycle accounts for every report but that of a restart found. -/
theorem accounts {report : Report} (unhindered : Unhindered events)
    (other : report ≠ .inFlight) :
    Accounted (.reported report) events := by
  obtain ⟨cycle, older, rfl, inside, idle⟩ := unhindered
  exact ⟨cycle, older, rfl, inside, by simp [other, idle], fun found => (other found).elim⟩

end Unhindered

/-! ### The invariant -/

structure Exclusive (c : Course) : Prop where
  sound : Sound c
  pending : pending c.events = c.coordinator.restarts.map Prod.fst
  calling : calling c.events =
    (c.coordinator.restarts.filter (·.2 = .calling)).map Prod.fst
  unhindered : c.coordinator.survey.isSome → Unhindered c.events
  accounted : Throughout Accounted c.events

variable {c c' : Course}

namespace Exclusive

theorem new (m : Reach.Monitor) (staleAfter : Span) (epoch : Nat) :
    Exclusive (new m staleAfter epoch) :=
  ⟨Sound.new m staleAfter epoch, rfl, rfl, by simp [Course.new, Coordinator.new],
    Throughout.nil⟩

/-- A cycle that finds no restart finds none pending. -/
theorem pending_of_free (exclusive : Exclusive c) (idle : c.isIdle = true)
    (free : c.coordinator.isBusy = false) : Course.pending c.events = [] := by
  have gone := (exclusive.sound.alone (isIdle_iff.mp idle).2).restarts_of_free free
  rw [exclusive.pending, gone, List.map_nil]

theorem pending_of_busy (exclusive : Exclusive c) (idle : c.isIdle = true)
    (busy : c.coordinator.isBusy = true) : Course.pending c.events ≠ [] := by
  have outstanding := (exclusive.sound.isBusy_iff idle).mp busy
  simp [exclusive.pending, outstanding]

/-- While a survey is under way nothing is pending, and nothing is calling. -/
theorem idle_of_survey (exclusive : Exclusive c) (underWay : c.coordinator.survey.isSome) :
    Course.pending c.events = [] ∧ Course.calling c.events = [] := by
  have idle := exclusive.sound.restarts_of_survey underWay
  exact ⟨by simp [exclusive.pending, idle], by simp [exclusive.calling, idle]⟩

theorem step {action : Action} (exclusive : Exclusive c) (stepped : Step c action c') :
    Exclusive c' := by
  have sound := exclusive.sound.step stepped
  have accounted := exclusive.accounted
  cases stepped with
  | inFlight idle busy =>
      have outstanding := exclusive.pending_of_busy idle busy
      refine ⟨sound, exclusive.pending, exclusive.calling, ?_, ?_⟩
      · simp [(isIdle_iff.mp idle).1]
      · refine (accounted.cons .entered trivial).cons (.reported .inFlight)
          ⟨[], c.events, rfl, by simp, ?_, fun _ => rfl⟩
        simpa using outstanding
  | suppressed idle free online =>
      have cycle := Unhindered.entered (exclusive.pending_of_free idle free)
      refine ⟨sound, exclusive.pending, exclusive.calling, ?_, ?_⟩
      · simp [(isIdle_iff.mp idle).1]
      · exact ((accounted.cons .entered trivial).cons (.believed c.remote) trivial).cons _
          ((cycle.cons (by simp)).accounts (by simp))
  | listing idle free offline =>
      have cycle := Unhindered.entered (exclusive.pending_of_free idle free)
      refine ⟨sound, exclusive.pending, exclusive.calling, fun _ => ?_, ?_⟩
      · exact (cycle.cons (by simp)).cons (by simp)
      · exact ((accounted.cons .entered trivial).cons (.believed c.remote) trivial).cons
          (.asked .list) trivial
  | @further answer survey next query underWay told asks =>
      have cycle := exclusive.unhindered (by simp [underWay])
      refine ⟨sound, exclusive.pending, exclusive.calling, fun _ => ?_, ?_⟩
      · exact (cycle.cons (by simp)).cons (by simp)
      · exact (accounted.cons (.answered answer) trivial).cons (.asked query) trivial
  | @settled answer survey outcome underWay told calm =>
      have cycle := exclusive.unhindered (by simp [underWay])
      refine ⟨sound, exclusive.pending, exclusive.calling, by simp, ?_⟩
      exact (accounted.cons (.answered answer) trivial).cons _
        ((cycle.cons (by simp)).accounts (by simp))
  | alarmed underWay =>
      have cycle := exclusive.unhindered (by simp [underWay])
      have idle := exclusive.sound.restarts_of_survey (by simp [underWay])
      obtain ⟨noPending, noCall⟩ := exclusive.idle_of_survey (by simp [underWay])
      refine ⟨sound, ?_, ?_, by simp [Coordinator.beginRestart], ?_⟩
      · change c.coordinator.begun :: Course.pending c.events = _
        simp [noPending, Coordinator.beginRestart, idle]
      · change Course.calling c.events = _
        simp [noCall, Coordinator.beginRestart, idle]
      · have begun := (accounted.cons (.answered (.probe (.ok false))) trivial).cons
          (.restartBegun c.coordinator.begun) trivial
        exact begun.cons _ (((cycle.cons (by simp)).cons (by simp)).accounts (by simp))
  | dropped underWay =>
      -- A cycle is dropped at a question, before it could begin a restart.
      refine ⟨sound, exclusive.pending, exclusive.calling, by simp [Coordinator.drop], ?_⟩
      exact accounted.cons .dropped trivial
  | finish idle =>
      exact ⟨sound, exclusive.pending, exclusive.calling, exclusive.unhindered, accounted⟩
  | finished gone =>
      exact ⟨sound, exclusive.pending, exclusive.calling, exclusive.unhindered, accounted⟩
  | @restartCalled number begun =>
      have only := exclusive.sound.custody.restarts_eq begun
      refine ⟨sound, ?_, ?_, fun underWay => ?_, accounted.cons (.restartCalled number) trivial⟩
      · change Course.pending c.events = _
        simp [exclusive.pending, only, Coordinator.restartCalls]
      · change number :: Course.calling c.events = _
        simp [exclusive.calling, only, Coordinator.restartCalls]
      · exact (exclusive.unhindered underWay).cons (by simp)
  | @restartEnded number called =>
      have only := exclusive.sound.custody.restarts_eq called
      refine ⟨sound, ?_, ?_, fun underWay => ?_, accounted.cons (.restartEnded number) trivial⟩
      · change (Course.pending c.events).filter (· ≠ number) = _
        simp [exclusive.pending, only, Coordinator.restartEnds]
      · change (Course.calling c.events).filter (· ≠ number) = _
        simp [exclusive.calling, only, Coordinator.restartEnds]
      · exact (exclusive.unhindered underWay).cons (by simp)
  | received payload =>
      exact ⟨sound, exclusive.pending, exclusive.calling, exclusive.unhindered, accounted⟩
  | passed waits =>
      exact ⟨sound, exclusive.pending, exclusive.calling, exclusive.unhindered, accounted⟩

/-- Every run keeps to one restart. -/
theorem run? {actions : List Action} (exclusive : Exclusive c)
    (ran : c.run? actions = some c') : Exclusive c' :=
  run?_keeps Exclusive (fun exclusive stepped => exclusive.step stepped) exclusive ran

end Exclusive

/-! ### One at a time -/

theorem next?_begin (idle : c.isIdle = true) : c.next? .begin = some c.enter := by
  simp [next?, idle]

/-- What a cycle shows as it enters with no restart going on is not the report of one found. -/
theorem events_enter_of_free (free : c.coordinator.isBusy = false) :
    ∃ later, c.enter.events = later ++ .entered :: c.events ∧ .reported .inFlight ∉ later := by
  cases online : c.remote.suppresses with
  | true =>
      rw [enter_of_suppressed free online]
      exact ⟨[.reported .suppressed, .believed c.remote], rfl, by simp⟩
  | false =>
      rw [enter_of_free free online]
      exact ⟨[.asked .list, .believed c.remote], rfl, by simp⟩

/-- At every instant at most one restart is pending, and so at most one inside its call. A cycle
that enters beside it reports it and changes nothing, display and all; one that enters after it
does not report it, then or later. -/
theorem one_restart_at_a_time (m : Reach.Monitor) (staleAfter : Span) (epoch : Nat)
    (actions : List Action) (c : Course) (ran : (new m staleAfter epoch).run? actions = some c) :
    (pending c.events).length ≤ 1 ∧
    (calling c.events).length ≤ 1 ∧
    calling c.events ⊆ pending c.events ∧
    (c.isIdle = true → pending c.events ≠ [] →
      c.next? .begin = some
        { c with history := (c.now, .reported .inFlight) :: (c.now, .entered) :: c.history }) ∧
    (c.isIdle = true → pending c.events = [] →
      ∃ c' later, c.next? .begin = some c' ∧ c'.events = later ++ .entered :: c.events ∧
        .reported .inFlight ∉ later) ∧
    Throughout Accounted c.events := by
  have exclusive := (Exclusive.new m staleAfter epoch).run? ran
  have single := exclusive.sound.custody.single
  refine ⟨?_, ?_, ?_, fun idle outstanding => ?_, fun idle cleared => ?_, exclusive.accounted⟩
  · rwa [exclusive.pending, List.length_map]
  · rw [exclusive.calling, List.length_map]
    exact Nat.le_trans (List.length_filter_le _ _) single
  · rw [exclusive.calling, exclusive.pending]
    exact List.map_subset _ (List.filter_subset_self _)
  · have busy := (exclusive.sound.isBusy_iff idle).mpr
      (by simpa [exclusive.pending] using outstanding)
    rw [next?_begin idle, enter_of_busy busy]
  · have gone : c.coordinator.restarts = [] := by simpa [exclusive.pending] using cleared
    have free : c.coordinator.isBusy = false := by
      simpa [gone] using exclusive.sound.isBusy_iff idle
    obtain ⟨later, shown, other⟩ := events_enter_of_free free
    exact ⟨c.enter, later, next?_begin idle, shown, other⟩

/-- A cycle that finds the only client dead, and the call of the restart that it begins. -/
def deadClient : List Action :=
  [.begin, .answer (.clients (.ok [default])), .answer (.lease (.ok (some default))),
    .answer (.probe (.ok false)), .restartCalls 0, .pass 5000]

/-- The next cycle finds the restart of a dead client. -/
theorem restart_found_by_next_cycle :
    ∃ c, (new ⟨.ofSecs 1, 4⟩ (.ofSecs 30) 0).run? deadClient = some c ∧
      calling c.events = [0] ∧ (pending c.events).length ≤ 1 ∧
      c.next? .begin = some
        { c with history := (c.now, .reported .inFlight) :: (c.now, .entered) :: c.history } := by
  obtain ⟨single, -, -, found, -⟩ :=
    one_restart_at_a_time ⟨.ofSecs 1, 4⟩ (.ofSecs 30) 0 deadClient _ rfl
  exact ⟨_, rfl, by decide, single, found (by decide) (by decide)⟩

end BridgeWarden.Recovery.Course

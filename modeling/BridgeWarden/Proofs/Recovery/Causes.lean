import BridgeWarden.Proofs.Recovery.Exclusion

/-!
Why a restart is made.

`Cause` is what came before a restart, back to the entry of its own cycle: a client of the list that
the access point gave, its address, and a probe of that address that got no answer. `Surveying`
says the same of a cycle that is not done, so that the answers of the present cycle can be read off
where its survey stands. Every call of a restart has a cause (`Founded`), because nothing but an
alarm begins one.
-/

namespace BridgeWarden.Recovery.Course

/-- What a cycle shows of a client that it does not stop at. -/
inductive Passing (m : Reach.Monitor) : Happening → Prop where
  | lease (client : Mac) : Passing m (.asked (.lease client))
  | unresolved : Passing m (.answered (.lease (.ok none)))
  | resolved (address : Ipv4) : Passing m (.answered (.lease (.ok (some address))))
  | probe (address : Ipv4) : Passing m (.asked (.probe address m.probeTimeout))
  | reachable : Passing m (.answered (.probe (.ok true)))

/-- A cycle that found no restart and a remote site that does not report this system online, was
told the clients, and passed all but `rest` of those that it may visit. -/
def Visiting (m : Reach.Monitor) (rest : List Mac) (events : List Happening) : Prop :=
  ∃ visits clients remote older,
    events = visits ++ .answered (.clients (.ok clients)) :: .asked .list :: .believed remote ::
      .entered :: older ∧
    (∀ h ∈ visits, Passing m h) ∧ rest <:+ clients.take m.maxClients ∧ remote ≠ .online ∧
    pending older = []

/-- What came before a restart: a client that may be visited is asked for, has a lease, and does
not answer. -/
def Cause (m : Reach.Monitor) (events : List Happening) : Prop :=
  ∃ client address visits clients remote older,
    events = .answered (.probe (.ok false)) :: .asked (.probe address m.probeTimeout) ::
      .answered (.lease (.ok (some address))) :: .asked (.lease client) :: visits ++
      .answered (.clients (.ok clients)) :: .asked .list :: .believed remote ::
      .entered :: older ∧
    (∀ h ∈ visits, Passing m h) ∧ client ∈ clients.take m.maxClients ∧ remote ≠ .online ∧
    pending older = []

/-- What a cycle has shown, by where its survey stands. -/
def Surveying (m : Reach.Monitor) : Reach.Survey → List Happening → Prop
  | .listing, events =>
      ∃ remote older, events = .asked .list :: .believed remote :: .entered :: older ∧
        remote ≠ .online ∧ pending older = []
  | .resolving client rest _ _, events =>
      ∃ earlier, events = .asked (.lease client) :: earlier ∧ Visiting m (client :: rest) earlier
  | .probing client address rest _ _, events =>
      ∃ earlier, events = .asked (.probe address m.probeTimeout) ::
          .answered (.lease (.ok (some address))) :: .asked (.lease client) :: earlier ∧
        Visiting m (client :: rest) earlier
  | .done _, _ => True

/-- A restart was begun. -/
def Begun (number : Nat) (events : List Happening) : Prop :=
  ∃ past, .restartBegun number :: past <:+ events

/-- A restart is begun for a cause, and called once, after it was begun. -/
def Founded (m : Reach.Monitor) : Happening → List Happening → Prop
  | .restartBegun _, past => Cause m past
  | .restartCalled number, earlier => Begun number earlier ∧ .restartCalled number ∉ earlier
  | _, _ => True

variable {m : Reach.Monitor}

namespace Visiting

variable {client : Mac} {rest : List Mac} {events : List Happening}

/-- A client is passed with what it shows. -/
theorem pass (visiting : Visiting m (client :: rest) events) (visit : List Happening)
    (passing : ∀ h ∈ visit, Passing m h) : Visiting m rest (visit ++ events) := by
  obtain ⟨visits, clients, remote, older, rfl, passed, among, offline, idle⟩ := visiting
  refine ⟨visit ++ visits, clients, remote, older, by simp, ?_, ?_, offline, idle⟩
  · intro h member
    rcases List.mem_append.mp member with member | member
    · exact passing h member
    · exact passed h member
  · exact (List.suffix_cons client rest).trans among

theorem unresolved (visiting : Visiting m (client :: rest) events) :
    Visiting m rest (.answered (.lease (.ok none)) :: .asked (.lease client) :: events) := by
  refine visiting.pass [.answered (.lease (.ok none)), .asked (.lease client)] ?_
  simp [Passing.unresolved, Passing.lease]

theorem reachable (visiting : Visiting m (client :: rest) events) (address : Ipv4) :
    Visiting m rest (.answered (.probe (.ok true)) :: .asked (.probe address m.probeTimeout) ::
      .answered (.lease (.ok (some address))) :: .asked (.lease client) :: events) := by
  refine visiting.pass [.answered (.probe (.ok true)), .asked (.probe address m.probeTimeout),
    .answered (.lease (.ok (some address))), .asked (.lease client)] ?_
  simp [Passing.reachable, Passing.probe, Passing.resolved, Passing.lease]

/-- A survey that goes on to the next client asks for its lease. -/
theorem surveying {query : Reach.Query} {probed unresolved : Nat}
    (visiting : Visiting m rest events)
    (asks : (Reach.Survey.visit rest probed unresolved).query? m = some query) :
    Surveying m (.visit rest probed unresolved) (.asked query :: events) := by
  cases rest with
  | nil => simp [Reach.Survey.visit, Reach.Survey.query?] at asks
  | cons client rest =>
      simp only [Reach.Survey.visit, Reach.Survey.query?, Option.some.injEq] at asks
      subst asks
      exact ⟨events, rfl, visiting⟩

end Visiting

namespace Surveying

variable {survey next : Reach.Survey} {answer : Reach.Answer} {events : List Happening}

/-- An answer that leads to another question. -/
theorem further (surveying : Surveying m survey events)
    (told : survey.answer? m answer = some next) {query : Reach.Query}
    (asks : next.query? m = some query) :
    Surveying m next (.asked query :: .answered answer :: events) := by
  cases Reach.Survey.moves_of_answer? told with
  | unlisted f => simp at asks
  | nobody => simp [Reach.Survey.query?] at asks
  | @listed clients somebody =>
      obtain ⟨remote, older, rfl, offline, idle⟩ := surveying
      have visiting : Visiting m (clients.take m.maxClients)
          (.answered (.clients (.ok clients)) :: .asked .list :: .believed remote ::
            .entered :: older) :=
        ⟨[], clients, remote, older, rfl, by simp, List.suffix_refl _, offline, idle⟩
      exact visiting.surveying asks
  | leaseless f => simp at asks
  | unresolved =>
      obtain ⟨earlier, rfl, visiting⟩ := surveying
      exact visiting.unresolved.surveying asks
  | resolved address =>
      obtain ⟨earlier, rfl, visiting⟩ := surveying
      simp only [Reach.Survey.query?, Option.some.injEq] at asks
      subst asks
      exact ⟨earlier, rfl, visiting⟩
  | unprobed f => simp at asks
  | @reachable client address rest probed unresolved =>
      obtain ⟨earlier, rfl, visiting⟩ := surveying
      exact (visiting.reachable address).surveying asks
  | silent => simp [Reach.Survey.query?] at asks

/-- A probe that gets no answer is a cause. -/
theorem cause {client : Mac} {address : Ipv4} {rest : List Mac} {probed unresolved : Nat}
    (surveying : Surveying m (.probing client address rest probed unresolved) events) :
    Cause m (.answered (.probe (.ok false)) :: events) := by
  obtain ⟨earlier, rfl, visits, clients, remote, older, rfl, passed, among, offline, idle⟩ :=
    surveying
  exact ⟨client, address, visits, clients, remote, older, rfl, passed,
    among.subset List.mem_cons_self, offline, idle⟩

end Surveying

theorem Begun.cons {number : Nat} {events : List Happening} (begun : Begun number events)
    (happening : Happening) : Begun number (happening :: events) := by
  obtain ⟨past, within⟩ := begun
  exact ⟨past, within.trans (List.suffix_cons happening events)⟩

/-! ### The invariant -/

/-- What is shown of the restarts that are not over, of which there have been `count`. -/
structure Recorded (restarts : List (Nat × Progress)) (count : Nat) (events : List Happening) :
    Prop where
  begun : ∀ r ∈ restarts, Begun r.1 events
  numbered : ∀ number, .restartCalled number ∈ events → number < count
  uncalled : ∀ r ∈ restarts, r.2 = .fresh → .restartCalled r.1 ∉ events

namespace Recorded

variable {restarts : List (Nat × Progress)} {count : Nat} {events : List Happening}

theorem cons (recorded : Recorded restarts count events) (happening : Happening)
    (other : ∀ number, .restartCalled number ≠ happening) :
    Recorded restarts count (happening :: events) := by
  refine ⟨fun r member => (recorded.begun r member).cons _, ?_, ?_⟩
  · intro number member
    rw [List.mem_cons] at member
    exact recorded.numbered number (member.resolve_left (other number))
  · intro r member fresh
    rw [List.mem_cons]
    rintro (same | known)
    · exact other r.1 same
    · exact recorded.uncalled r member fresh known

/-- The first restart of those not over is begun. -/
theorem begin (recorded : Recorded restarts count events) :
    Recorded [(count, .fresh)] (count + 1) (.restartBegun count :: events) := by
  refine ⟨?_, ?_, ?_⟩
  · intro r member
    rw [List.mem_singleton] at member
    subst member
    exact ⟨events, List.suffix_refl _⟩
  · intro number member
    exact Nat.lt_succ_of_lt (recorded.numbered number (by simpa using member))
  · intro r member fresh known
    rw [List.mem_singleton] at member
    subst member
    exact Nat.lt_irrefl _ (recorded.numbered _ (by simpa using known))

/-- The only restart makes its call. -/
theorem call {number : Nat} {progress : Progress}
    (recorded : Recorded [(number, progress)] count events) (below : number < count) :
    Recorded [(number, .calling)] count (.restartCalled number :: events) := by
  refine ⟨?_, ?_, ?_⟩
  · intro r member
    rw [List.mem_singleton] at member
    subst member
    exact (recorded.begun _ List.mem_cons_self).cons _
  · intro other member
    rw [List.mem_cons, Happening.restartCalled.injEq] at member
    rcases member with rfl | member
    · exact below
    · exact recorded.numbered other member
  · simp

theorem of_subset {fewer : List (Nat × Progress)} (recorded : Recorded restarts count events)
    (subset : fewer ⊆ restarts) : Recorded fewer count events :=
  ⟨fun r member => recorded.begun r (subset member), recorded.numbered,
    fun r member => recorded.uncalled r (subset member)⟩

end Recorded

structure Justified (m : Reach.Monitor) (c : Course) : Prop where
  exclusive : Exclusive c
  monitor : c.coordinator.monitor = m
  surveying : ∀ survey, c.coordinator.survey = some survey → Surveying m survey c.events
  recorded : Recorded c.coordinator.restarts c.coordinator.begun c.events
  founded : Throughout (Founded m) c.events

variable {c c' : Course}

namespace Justified

theorem new (m : Reach.Monitor) (staleAfter : Span) (epoch : Nat) :
    Justified m (new m staleAfter epoch) := by
  refine ⟨Exclusive.new m staleAfter epoch, rfl, ?_, ⟨?_, ?_, ?_⟩, Throughout.nil⟩ <;>
    simp [Course.new, Coordinator.new, events]

theorem step {action : Action} (justified : Justified m c) (stepped : Step c action c') :
    Justified m c' := by
  have exclusive := justified.exclusive.step stepped
  have founded := justified.founded
  have recorded := justified.recorded
  cases stepped with
  | inFlight idle busy =>
      refine ⟨exclusive, justified.monitor, by simp [(isIdle_iff.mp idle).1], ?_, ?_⟩
      · exact (recorded.cons .entered (by simp)).cons (.reported .inFlight) (by simp)
      · exact (founded.cons .entered trivial).cons (.reported .inFlight) trivial
  | suppressed idle free online =>
      refine ⟨exclusive, justified.monitor, by simp [(isIdle_iff.mp idle).1], ?_, ?_⟩
      · exact ((recorded.cons .entered (by simp)).cons (.believed c.remote) (by simp)).cons
          (.reported .suppressed) (by simp)
      · exact ((founded.cons .entered trivial).cons (.believed c.remote) trivial).cons
          (.reported .suppressed) trivial
  | listing idle free offline =>
      have gone := justified.exclusive.pending_of_free idle free
      refine ⟨exclusive, justified.monitor, ?_, ?_, ?_⟩
      · intro survey present
        cases present
        have unsuppressed : c.remote ≠ .online := by
          intro online
          simp [online, Remote.Suppression.suppresses] at offline
        exact ⟨c.remote, c.events, rfl, unsuppressed, gone⟩
      · exact ((recorded.cons .entered (by simp)).cons (.believed c.remote) (by simp)).cons
          (.asked .list) (by simp)
      · exact ((founded.cons .entered trivial).cons (.believed c.remote) trivial).cons
          (.asked .list) trivial
  | @further answer survey next query underWay told asks =>
      refine ⟨exclusive, justified.monitor, ?_, ?_, ?_⟩
      · intro survey present
        cases present
        rw [justified.monitor] at told asks
        exact (justified.surveying _ underWay).further told asks
      · exact (recorded.cons (.answered answer) (by simp)).cons (.asked query) (by simp)
      · exact (founded.cons (.answered answer) trivial).cons (.asked query) trivial
  | @settled answer survey outcome underWay told calm =>
      refine ⟨exclusive, justified.monitor, by simp, ?_, ?_⟩
      · exact (recorded.cons (.answered answer) (by simp)).cons
          (.reported (.checked outcome false)) (by simp)
      · exact (founded.cons (.answered answer) trivial).cons
          (.reported (.checked outcome false)) trivial
  | @alarmed client address rest probed unresolved underWay =>
      -- No other step begins a restart, and where the survey stands says why this one does.
      have cause := (justified.surveying _ underWay).cause
      have idle := justified.exclusive.sound.restarts_of_survey (by simp [underWay])
      have silent := recorded.cons (.answered (.probe (.ok false))) (by simp)
      refine ⟨exclusive, justified.monitor, by simp [Coordinator.beginRestart], ?_, ?_⟩
      · simp only [Coordinator.beginRestart, idle, List.nil_append]
        exact silent.begin.cons (.reported (.checked (.unreachable client address) true)) (by simp)
      · have answered := founded.cons (.answered (.probe (.ok false))) trivial
        exact (answered.cons (.restartBegun c.coordinator.begun) cause).cons
          (.reported (.checked (.unreachable client address) true)) trivial
  | dropped underWay =>
      refine ⟨exclusive, justified.monitor, by simp [Coordinator.drop], ?_, ?_⟩
      · exact recorded.cons .dropped (by simp)
      · exact founded.cons .dropped trivial
  | finish idle => exact ⟨exclusive, justified.monitor, justified.surveying, recorded, founded⟩
  | finished gone => exact ⟨exclusive, justified.monitor, justified.surveying, recorded, founded⟩
  | @restartCalled number begun =>
      have only := justified.exclusive.sound.custody.restarts_eq begun
      have quiet := justified.exclusive.sound.unsurveyed begun
      have below := justified.exclusive.sound.custody.numbered _ begun
      refine ⟨exclusive, justified.monitor, by simp [Coordinator.restartCalls, quiet], ?_, ?_⟩
      · simp only [Coordinator.restartCalls, only, List.map_cons, List.map_nil, if_true]
        rw [only] at recorded
        exact recorded.call below
      · exact founded.cons (.restartCalled number)
          ⟨recorded.begun _ begun, recorded.uncalled _ begun rfl⟩
  | @restartEnded number called =>
      have quiet := justified.exclusive.sound.unsurveyed called
      refine ⟨exclusive, justified.monitor, by simp [Coordinator.restartEnds, quiet], ?_, ?_⟩
      · exact (recorded.of_subset (List.filter_subset_self _)).cons (.restartEnded number) (by simp)
      · exact founded.cons (.restartEnded number) trivial
  | received payload =>
      exact ⟨exclusive, justified.monitor, justified.surveying, recorded, founded⟩
  | passed waits => exact ⟨exclusive, justified.monitor, justified.surveying, recorded, founded⟩

theorem run? {actions : List Action} (justified : Justified m c)
    (ran : c.run? actions = some c') : Justified m c' :=
  run?_keeps (Justified m) (fun justified stepped => justified.step stepped) justified ran

/-- Every call of a restart is the first of that restart, and comes after its beginning and that
after its cause. -/
theorem cause_of_called {number : Nat} {earlier : List Happening} (justified : Justified m c)
    (called : .restartCalled number :: earlier <:+ c.events) :
    .restartCalled number ∉ earlier ∧
      ∃ between past, earlier = between ++ .restartBegun number :: past ∧ Cause m past := by
  obtain ⟨⟨past, begun⟩, first⟩ := justified.founded _ _ called
  have within := (begun.trans (List.suffix_cons _ _)).trans called
  obtain ⟨between, rfl⟩ := begun
  exact ⟨first, between, past, rfl, justified.founded _ _ within⟩

end Justified

end BridgeWarden.Recovery.Course

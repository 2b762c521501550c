import BridgeWarden.Proofs.Link.Attempts
import BridgeWarden.Proofs.Link.Ledger
import BridgeWarden.Proofs.Link.Publications

/-!
How time comes to the machine's deadline.

A machine that `Idles` is inside a call of the engine or waits for the end of a negotiation, with no
event to take. The tasks' own steps then do nothing with the engine or the session until the
deadline: the driver comes to a halt, requests are passed over, and time goes on. Each of these
steps lowers `rank`, so the deadline comes by itself (`Idles.comes`). Then the machine gives up the
attempt (`Idles.comes_to_give_up`), which ends a negotiation (`Idles.comes_to_expire`), or shows
that it was given up (`Idles.comes_to_show`).
-/

namespace BridgeWarden.Link

/-- How many steps the driver can take, without those that a new delay leads to. -/
def Driver.stage : Driver → Nat
  | .sleeping _ => 3
  | .sending => 2
  | .waiting | .stopped => 0

namespace System

variable {s s' s'' : System} {action : Action} {due : Nat}

/-! ### Steps that do nothing -/

/-- The tasks' own steps lead from one state to another and do nothing with the engine or the
session. -/
structure Idly (s s' : System) : Prop where
  leads : ∃ actions, (∀ action ∈ actions, action.isOwn = true) ∧ s.run? actions = some s' ∧
    s.along deeds actions = []
  phase : s'.phase = s.phase
  session : s'.session = s.session
  events : s'.events = s.events
  cancelled : s'.cancelled = s.cancelled
  shown : publications s'.history = publications s.history

namespace Idly

theorem refl (s : System) : Idly s s := ⟨⟨[], by simp, rfl, rfl⟩, rfl, rfl, rfl, rfl, rfl⟩

theorem next (computed : s.next? action = some s') (own : action.isOwn = true)
    (nothing : s.deeds action s' = []) (phase : s'.phase = s.phase)
    (session : s'.session = s.session) (events : s'.events = s.events)
    (cancelled : s'.cancelled = s.cancelled)
    (shown : publications s'.history = publications s.history) : Idly s s' := by
  refine ⟨⟨[action], by simpa using own, ?_, ?_⟩, phase, session, events, cancelled, shown⟩
  · simp [run?, computed]
  · simp [along, computed, nothing]

theorem trans (first : Idly s s') (second : Idly s' s'') : Idly s s'' := by
  obtain ⟨before, ownBefore, ran, nothing⟩ := first.leads
  obtain ⟨after, ownAfter, ranOn, nothingMore⟩ := second.leads
  have own := List.forall_mem_append.mpr ⟨ownBefore, ownAfter⟩
  refine ⟨⟨before ++ after, own, by simp [run?_append, ran, ranOn], ?_⟩,
    second.phase.trans first.phase, second.session.trans first.session,
    second.events.trans first.events, second.cancelled.trans first.cancelled,
    second.shown.trans first.shown⟩
  rw [along_append ran, nothing, nothingMore, List.append_nil]

/-- What the tasks' own steps do after some that did nothing. -/
theorem leads_next (idly : Idly s s') (computed : s'.next? action = some s'')
    (own : action.isOwn = true) :
    ∃ actions, (∀ action ∈ actions, action.isOwn = true) ∧ s.run? actions = some s'' ∧
      s.along deeds actions = s'.deeds action s'' := by
  obtain ⟨before, ownBefore, ran, nothing⟩ := idly.leads
  refine ⟨before ++ [action], ?_, ?_, ?_⟩
  · exact List.forall_mem_append.mpr ⟨ownBefore, by simpa using own⟩
  · simp [run?_append, ran, run?, computed]
  · rw [along_append ran, nothing, along_cons computed, along, List.append_nil, List.nil_append]

end Idly

/-! ### A machine that idles -/

/-- The machine does nothing before its deadline, unless it hears of something. -/
structure Idles (s : System) (due : Nat) : Prop where
  deadline : s.phase.deadline? = some due
  fits : s.Fits
  uncancelled : s.cancelled = false
  ahead : s.now ≤ due
  quiet : ∀ deadline, s.phase = .watching deadline → s.events = []

/-- The deadline has come, and the machine has passed over all requests that it would take first. -/
structure Ready (s : System) (due : Nat) : Prop where
  reached : s.now = due
  unasked : ∀ deadline, s.phase = .watching deadline → s.requests = 0

/-- How many milliseconds can pass before the deadline has come, and how many steps the driver and
the machine can take. A request that the driver hands over is one step more for the machine. -/
def rank (s : System) (due : Nat) : Nat :=
  (due - s.now) + s.requests + (if s.delay.isSome then 4 else 0) + s.driver.stage

/-- A move of the driver's brings it nearer to a halt while the machine runs. -/
theorem driver_lowers (running : s.phase.isOver = false) (stepped : Step s .driver s') :
    s'.now = s.now ∧ s'.phase = s.phase ∧ s'.session = s.session ∧ s'.events = s.events ∧
      s'.cancelled = s.cancelled ∧ s'.history = s.history ∧ s'.rank due < s.rank due := by
  cases stepped with
  | driverSleeps waiting handed =>
      refine ⟨rfl, rfl, rfl, rfl, rfl, rfl, ?_⟩
      simp [rank, waiting, handed, Driver.stage]
  | driverWakes sleeping =>
      refine ⟨rfl, rfl, rfl, rfl, rfl, rfl, ?_⟩
      simp [rank, sleeping, Driver.stage]
  | driverAsks sending =>
      refine ⟨rfl, rfl, rfl, rfl, rfl, rfl, ?_⟩
      simp only [rank, sending, Driver.stage]
      omega
  | driverEnds ended => simp [running] at ended
  | gaveUp givesUp => cases givesUp
  | abandoned letsGo => cases letsGo

namespace Idles

theorem running (idles : s.Idles due) : s.phase.isOver = false :=
  Phase.running_of_deadline? idles.deadline

/-- A machine goes on idling as long as neither its session nor its deadline changes. -/
theorem on (idles : s.Idles due) (phase : s'.phase = s.phase) (session : s'.session = s.session)
    (events : s'.events = s.events) (cancelled : s'.cancelled = s.cancelled)
    (ahead : s'.now ≤ due) : s'.Idles due := by
  refine ⟨phase ▸ idles.deadline, ?_, cancelled.trans idles.uncancelled, ahead, ?_⟩
  · unfold Fits
    rw [phase, session]
    exact idles.fits
  · intro deadline watching
    exact events.trans (idles.quiet deadline (phase ▸ watching))

theorem state (idles : s.Idles due) :
    s.session.state = .connecting ∨ s.session.state = .faulted := by
  rcases Phase.cases_of_deadline? idles.deadline with attempting | ⟨delay, abandoning⟩ | watching
  · exact Or.inl (idles.fits.connecting_of_attempting attempting)
  · exact Or.inr (idles.fits.faulted_of_abandoning abandoning)
  · exact Or.inl (idles.fits.connecting_of_deadline watching)

/-- A machine that idles and waits, waits for the end of the negotiation. -/
theorem eq_due (idles : s.Idles due) {deadline : Option Nat}
    (watching : s.phase = .watching deadline) : deadline = some due := by
  have same := idles.deadline
  rw [watching] at same
  exact same

/-- A request is passed over while an attempt is under way. -/
theorem next_of_asked (idles : s.Idles due) {deadline : Option Nat}
    (watching : s.phase = .watching deadline) (asked : 0 < s.requests) :
    s.next? .machine = some
      { s with requests := s.requests - 1, history := (s.now, .requestIgnored) :: s.history } := by
  have quiet := idles.quiet deadline watching
  cases idles.eq_due watching
  have connecting := idles.fits.connecting_of_deadline watching
  have none : { s with requests := s.requests - 1 }.session.beginConnect? = none :=
    Session.beginConnect?_of_active (Or.inl connecting)
  have same : s.next? .machine =
      some ({ s with requests := s.requests - 1 }.beginConnect (some due)) := by
    simp [next?, machine?, watching, idles.uncancelled, quiet, asked]
  rw [same]
  unfold beginConnect
  rw [none]
  exact congrArg some (watch_of_watching idles.fits watching s.events _ _)

/-- The machine waits for its deadline. -/
theorem machine?_eq_none (idles : s.Idles due) (early : s.now < due)
    (unasked : ∀ deadline, s.phase = .watching deadline → s.requests = 0) :
    s.machine? = none := by
  have later : ¬ due ≤ s.now := Nat.not_le.mpr early
  unfold machine?
  rcases Phase.cases_of_deadline? idles.deadline with attempting | ⟨delay, abandoning⟩ | watching
  · rw [attempting]
    exact if_neg later
  · rw [abandoning]
    exact if_neg later
  · simp [watching, idles.uncancelled, idles.quiet _ watching, unasked _ watching, later]

/-- Where no task can move, only the machine's deadline and the end of the driver's sleep set an end
to the wait. -/
theorem next_pass (idles : s.Idles due) (machine : s.machine? = none) (driver : s.driver? = none)
    {millis : Nat} (within : s.now + millis ≤ due)
    (asleep : ∀ until_, s.driver = .sleeping until_ → s.now + millis ≤ until_) :
    s.next? (.pass millis) = some { s with now := s.now + millis } := by
  have quits : s.driverQuits? = none := by
    unfold driverQuits?
    cases s.driver with
    | waiting | sleeping => simp [idles.uncancelled]
    | sending | stopped => rfl
  have all : ∀ instant ∈ s.deadlines, s.now + millis ≤ instant := by
    intro instant member
    unfold deadlines at member
    rcases List.mem_append.mp member with here | there
    · rcases Phase.cases_of_deadline? idles.deadline with phase | ⟨delay, phase⟩ | phase
      all_goals
        rw [phase] at here
        rw [List.mem_singleton.mp here]
        exact within
    · cases stage : s.driver with
      | sleeping until_ =>
          rw [stage] at there
          rw [List.mem_singleton.mp there]
          exact asleep until_ stage
      | waiting | sending | stopped =>
          rw [stage] at there
          cases there
  simpa [next?, canWait, machine, driver, quits] using all

/-- Where all wait, time goes on to the deadline, or to the end of the driver's sleep. -/
theorem pass (idles : s.Idles due) (early : s.now < due)
    (unasked : ∀ deadline, s.phase = .watching deadline → s.requests = 0)
    (still : s.driver? = none) :
    ∃ millis, 0 < millis ∧ s.now + millis ≤ due ∧
      s.next? (.pass millis) = some { s with now := s.now + millis } := by
  obtain ⟨limit, later, within, asleep⟩ : ∃ limit, s.now < limit ∧ limit ≤ due ∧
      ∀ until_, s.driver = .sleeping until_ → limit ≤ until_ := by
    cases stage : s.driver with
    | waiting | sending | stopped => exact ⟨due, early, Nat.le_refl _, by simp⟩
    | sleeping until_ =>
        have later : s.now < until_ := by
          by_contra reached
          simp [driver?, stage, Nat.not_lt.mp reached] at still
        refine ⟨min due until_, Nat.lt_min.mpr ⟨early, later⟩, Nat.min_le_left _ _, ?_⟩
        intro other same
        cases same
        exact Nat.min_le_right _ _
  obtain ⟨millis, rfl⟩ := Nat.exists_eq_add_of_lt later
  have waits := idles.machine?_eq_none early unasked
  exact ⟨millis + 1, Nat.succ_pos _, within, idles.next_pass waits still within asleep⟩

/-- As long as the deadline has not come, a step of the tasks' own brings it nearer. -/
theorem next (idles : s.Idles due) (early : ¬ s.Ready due) :
    ∃ s', Idly s s' ∧ s'.now ≤ due ∧ s'.rank due < s.rank due := by
  by_cases asked : ∃ deadline, s.phase = .watching deadline ∧ 0 < s.requests
  · obtain ⟨deadline, watching, asked⟩ := asked
    have idly := Idly.next (idles.next_of_asked watching asked) rfl
      (deeds_of_requestIgnored watching _) rfl rfl rfl rfl rfl
    refine ⟨_, idly, idles.ahead, ?_⟩
    simp only [rank]
    omega
  · have unasked : ∀ deadline, s.phase = .watching deadline → s.requests = 0 := by
      intro deadline watching
      by_contra some
      exact asked ⟨deadline, watching, Nat.pos_of_ne_zero some⟩
    cases moved : s.driver? with
    | some s' =>
        have computed : s.next? .driver = some s' := moved
        obtain ⟨now, phase, session, events, cancelled, history, lower⟩ :=
          driver_lowers idles.running (step_driver moved)
        have idly := Idly.next computed rfl (deeds_of_still rfl session history) phase session
          events cancelled (history ▸ rfl)
        exact ⟨s', idly, now ▸ idles.ahead, lower⟩
    | none =>
        have earlier : s.now < due :=
          Nat.lt_of_le_of_ne idles.ahead fun reached => early ⟨reached, unasked⟩
        obtain ⟨millis, some, within, computed⟩ := idles.pass earlier unasked moved
        have idly := Idly.next computed rfl (deeds_of_still rfl rfl rfl) rfl rfl rfl rfl rfl
        refine ⟨_, idly, within, ?_⟩
        simp only [rank]
        omega

/-- The deadline comes by itself. -/
theorem comes (idles : s.Idles due) : ∃ s', Idly s s' ∧ s'.Idles due ∧ s'.Ready due := by
  generalize bound : s.rank due = n
  induction n using Nat.strong_induction_on generalizing s with
  | _ n ih =>
      by_cases ready : s.Ready due
      · exact ⟨s, .refl s, idles, ready⟩
      · obtain ⟨s', idly, ahead, lower⟩ := idles.next ready
        have still := idles.on idly.phase idly.session idly.events idly.cancelled ahead
        obtain ⟨s'', further, idle, ready⟩ := ih _ (bound ▸ lower) still rfl
        exact ⟨s'', idly.trans further, idle, ready⟩

/-! ### At the deadline -/

/-- At its deadline the machine gives up the attempt under way. -/
theorem next_of_ready (idles : s.Idles due) (ready : s.Ready due)
    (connecting : s.session.state = .connecting) :
    s.next? .machine = some
      { s with
        session := s.session.fault
        phase := .abandoning (Clock.wake s.now callBound) s.session.backoff.current
        history := (s.now, .disconnect) :: s.history } := by
  have gaveUp : ∀ deadline, s.failLocally deadline =
      { s with
        session := s.session.fault
        phase := .abandoning (Clock.wake s.now callBound) s.session.backoff.current
        history := (s.now, .disconnect) :: s.history } := by
    intro deadline
    unfold failLocally
    rw [Session.fail?_of_active (Or.inl connecting)]
    rfl
  have reached : due ≤ s.now := Nat.le_of_eq ready.reached.symm
  rw [next?, machine?]
  rcases Phase.cases_of_deadline? idles.deadline with attempting | ⟨delay, abandoning⟩ | watching
  · rw [attempting]
    exact (if_pos reached).trans (congrArg some (gaveUp none))
  · have faulted := idles.fits.faulted_of_abandoning abandoning
    simp [connecting] at faulted
  · simp [watching, idles.uncancelled, idles.quiet _ watching, ready.unasked _ watching, reached,
      gaveUp]

/-- The machine gives up an attempt by itself, which readers are not shown yet. -/
theorem comes_to_give_up (idles : s.Idles due) (connecting : s.session.state = .connecting) :
    ∃ s' cutOff, Leads Action.isOwn s s' ∧ s'.Idles cutOff ∧ s'.session.state = .faulted ∧
      publications s'.history = publications s.history := by
  obtain ⟨t, idly, still, ready⟩ := idles.comes
  have computed := still.next_of_ready ready (idly.session ▸ connecting)
  obtain ⟨actions, own, ran, -⟩ := idly.leads_next computed rfl
  refine ⟨_, Clock.wake t.now callBound, ⟨actions, own, ran⟩, ?_, rfl, idly.shown⟩
  exact ⟨rfl, rfl, still.uncancelled, Clock.le_wake _ _, by rintro deadline ⟨⟩⟩

/-- A negotiation that the machine hears nothing of is over at its deadline. -/
theorem comes_to_expire (idles : s.Idles due) (watching : s.phase = .watching (some due)) :
    ∃ actions s', (∀ action ∈ actions, action.isOwn = true) ∧ s.run? actions = some s' ∧
      s.along deeds actions = [(due, .faults .expired), (due, .begins .disconnect)] ∧
      s'.session = s.session.fault := by
  have connecting := idles.fits.connecting_of_deadline watching
  obtain ⟨t, idly, still, ready⟩ := idles.comes
  have waits : t.phase = .watching (some due) := idly.phase.trans watching
  have quiet := still.quiet _ waits
  have computed := still.next_of_ready ready (idly.session ▸ connecting)
  obtain ⟨actions, own, ran, does⟩ := idly.leads_next computed rfl
  refine ⟨actions, _, own, ran, ?_, congrArg Session.fault idly.session⟩
  have cause : t.cause .machine = .expired := by simp [cause, waits, quiet]
  rw [does, deeds_of_gaveUp (idly.session ▸ connecting), ended_of_watching waits, cause,
    ready.reached]
  rfl

/-- Once the engine has had its time for an attempt that was given up, readers are shown the
fault. -/
theorem comes_to_show (idles : s.Idles due) (faulted : s.session.state = .faulted) :
    ∃ s' next, Leads Action.isOwn s s' ∧
      publications s'.history = publications s.history ++ [next] := by
  obtain ⟨t, idly, still, ready⟩ := idles.comes
  have faulted' : t.session.state = .faulted := idly.session ▸ faulted
  obtain ⟨delay, abandoning⟩ : ∃ delay, t.phase = .abandoning due delay := by
    rcases Phase.cases_of_deadline? still.deadline with attempting | abandoning | watching
    · have connecting := still.fits.connecting_of_attempting attempting
      simp [connecting] at faulted'
    · exact abandoning
    · have connecting := still.fits.connecting_of_deadline watching
      simp [connecting] at faulted'
  have computed : t.next? .machine = some (t.showFault delay) := by
    simp only [next?, machine?, abandoning, if_pos (Nat.le_of_eq ready.reached.symm), abandoned]
    rw [watch_schedule_publish faulted']
  obtain ⟨actions, own, ran, -⟩ := idly.leads_next computed rfl
  refine ⟨_, (t.now, t.session.snapshot), ⟨actions, own, ran⟩, ?_⟩
  rw [← idly.shown]
  simp [showFault, publications]

end Idles

end System

end BridgeWarden.Link

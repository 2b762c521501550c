import BridgeWarden.Proofs.Recovery.Causes

/-!
One restart for each time that the clients fail.

A `Site` is a course at an access point: who is associated, and a list of clients that names nobody
else. A restart that succeeds leaves nobody associated, and until somebody associates again the site
stays `Barren`: no cycle visits a client, so no restart begins. Nothing remembers that there was a
restart; that there is no second one rests on the causes of restarts alone
(`restarts_are_justified`).
-/

namespace BridgeWarden.Recovery

/-- A course at an access point that loses its clients in a restart. -/
structure Site where
  course : Course
  /-- Who is associated. -/
  stations : List Mac
  /-- Who was associated at some instant since the last cycle began. -/
  seen : List Mac

namespace Site

inductive Action where
  /-- The course goes on. -/
  | course (action : Course.Action)
  /-- A restart ends well. -/
  | restored (number : Nat)
  | associate (client : Mac)
  | leave (client : Mac)

def new (monitor : Reach.Monitor) (staleAfter : Span) (epoch : Nat) (stations : List Mac) : Site :=
  { course := .new monitor staleAfter epoch, stations, seen := [] }

/-- Whether the access point may answer so: a list names nobody but clients that were associated
since it was asked for. -/
def allows (s : Site) : Course.Action → Bool
  | .answer (.clients (.ok clients)) => clients.all (s.seen.contains ·)
  | _ => true

/-- Who counts as seen after an action of the course. -/
def seenAfter (s : Site) : Course.Action → List Mac
  | .begin => s.stations
  | _ => s.seen

/-- The site after an action; none if the action is not possible. -/
def next? (s : Site) : Action → Option Site
  | .course action =>
      if s.allows action then
        (s.course.next? action).map fun course => { s with course, seen := s.seenAfter action }
      else none
  | .restored number =>
      (s.course.next? (.restartEnds number)).map fun course => { s with course, stations := [] }
  | .associate client =>
      some { s with stations := client :: s.stations, seen := client :: s.seen }
  | .leave client => some { s with stations := s.stations.filter (· ≠ client) }

def run? (s : Site) (actions : List Action) : Option Site := actions.foldlM next? s

variable {s s' : Site}

/-! ### Custody at a site -/

theorem sound_of_next? {action : Action} (sound : s.course.Sound)
    (computed : s.next? action = some s') : s'.course.Sound := by
  cases action with
  | course action =>
      simp only [next?, Option.ite_none_right_eq_some, Option.map_eq_some_iff] at computed
      obtain ⟨-, course, stepped, rfl⟩ := computed
      exact sound.step (Course.step_of_next? stepped)
  | restored number =>
      simp only [next?, Option.map_eq_some_iff] at computed
      obtain ⟨course, stepped, rfl⟩ := computed
      exact sound.step (Course.step_of_next? stepped)
  | associate client =>
      simp only [next?, Option.some.injEq] at computed
      exact computed ▸ sound
  | leave client =>
      simp only [next?, Option.some.injEq] at computed
      exact computed ▸ sound

theorem sound_of_run? {actions : List Action} (sound : s.course.Sound)
    (ran : s.run? actions = some s') : s'.course.Sound :=
  Runs.keeps (·.course.Sound) (fun sound _ computed => sound_of_next? sound computed) sound ran

/-! ### Nobody to restart for -/

/-- Nobody is associated, no restart is going on, and a cycle under way can only be told so. -/
structure Barren (s : Site) : Prop where
  deserted : s.stations = []
  idle : s.course.coordinator.restarts = []
  unlisted : ∀ survey, s.course.coordinator.survey = some survey → survey = .listing ∧ s.seen = []

/-- A restart that succeeds leaves a barren site. -/
theorem barren_of_restored {number : Nat} (sound : s.course.Sound)
    (computed : s.next? (.restored number) = some s') : s'.Barren := by
  simp only [next?, Option.map_eq_some_iff] at computed
  obtain ⟨course, stepped, rfl⟩ := computed
  cases Course.step_of_next? stepped with
  | restartEnded called =>
      refine ⟨rfl, ?_, ?_⟩
      · simp [Coordinator.restartEnds, sound.custody.restarts_eq called]
      · intro survey underWay
        simp [Coordinator.restartEnds, sound.unsurveyed called] at underWay

namespace Barren

/-- A course at a barren site asks for no client and begins no restart. -/
theorem course {action : Course.Action} {course : Course} (barren : s.Barren)
    (allowed : s.allows action = true) (stepped : s.course.Step action course) :
    Barren { s with course, seen := s.seenAfter action } := by
  cases stepped with
  | inFlight idle busy =>
      refine ⟨barren.deserted, barren.idle, fun survey underWay => ?_⟩
      simp [(Course.isIdle_iff.mp idle).1] at underWay
  | suppressed idle free online =>
      refine ⟨barren.deserted, barren.idle, fun survey underWay => ?_⟩
      simp [(Course.isIdle_iff.mp idle).1] at underWay
  | listing idle free offline =>
      refine ⟨barren.deserted, barren.idle, fun survey underWay => ?_⟩
      cases underWay
      exact ⟨rfl, barren.deserted⟩
  | further underWay told asks =>
      obtain ⟨rfl, unseen⟩ := barren.unlisted _ underWay
      cases Reach.Survey.moves_of_answer? told with
      | unlisted f => simp at asks
      | nobody => simp [Reach.Survey.query?] at asks
      | @listed clients somebody =>
          obtain ⟨client, member⟩ := List.exists_mem_of_ne_nil _ somebody
          simp only [allows, unseen, List.all_eq_true] at allowed
          simpa using allowed client member
  | settled underWay told calm => exact ⟨barren.deserted, barren.idle, by simp⟩
  | alarmed underWay =>
      obtain ⟨listing, -⟩ := barren.unlisted _ underWay
      cases listing
  | dropped underWay => exact ⟨barren.deserted, barren.idle, by simp [Coordinator.drop]⟩
  | finish idle => exact ⟨barren.deserted, barren.idle, barren.unlisted⟩
  | finished gone => exact ⟨barren.deserted, barren.idle, barren.unlisted⟩
  | restartCalled begun => simp [barren.idle] at begun
  | restartEnded called => simp [barren.idle] at called
  | received payload => exact ⟨barren.deserted, barren.idle, barren.unlisted⟩
  | passed waits => exact ⟨barren.deserted, barren.idle, barren.unlisted⟩

theorem step {action : Action} (barren : s.Barren) (computed : s.next? action = some s')
    (alone : ∀ client, action ≠ .associate client) : s'.Barren := by
  cases action with
  | course action =>
      simp only [next?, Option.ite_none_right_eq_some, Option.map_eq_some_iff] at computed
      obtain ⟨allowed, course, stepped, rfl⟩ := computed
      exact barren.course allowed (Course.step_of_next? stepped)
  | restored number =>
      simp only [next?, Option.map_eq_some_iff] at computed
      obtain ⟨course, stepped, rfl⟩ := computed
      cases Course.step_of_next? stepped with
      | restartEnded called => simp [barren.idle] at called
  | associate client => exact (alone client rfl).elim
  | leave client =>
      simp only [next?, Option.some.injEq] at computed
      subst computed
      exact ⟨by simp [barren.deserted], barren.idle, barren.unlisted⟩

/-- A site stays barren until somebody associates. -/
theorem run {actions : List Action} (barren : s.Barren) (ran : s.run? actions = some s')
    (alone : ∀ client, .associate client ∉ actions) : s'.Barren := by
  refine Runs.keeps Barren (fun barren member computed => ?_) barren ran
  exact barren.step computed fun client same => alone client (same ▸ member)

end Barren

/-- Between a restart that succeeds and the call of another somebody associates. -/
theorem associate_of_restarts {before mid after : List Action} {first second : Nat}
    (sound : s.course.Sound)
    (ran : s.run? (before ++ .restored first :: (mid ++ .course (.restartCalls second) :: after)) =
      some s') : ∃ client, .associate client ∈ mid := by
  simp only [run?, List.foldlM_append, List.foldlM_cons, Option.bind_eq_bind,
    Option.bind_eq_some_iff] at ran
  obtain ⟨atEnd, ranBefore, empty, restored, atCall, ranMid, called, stepped, -⟩ := ran
  -- Had nobody come, the site would be barren at the call, with no restart to make it.
  by_contra nobody
  have barren := (barren_of_restored (sound_of_run? sound ranBefore) restored).run ranMid
    (by simpa using nobody)
  simp [next?, Course.next?, barren.idle] at stepped

end Site

/-- Every call of a restart is the only one of that restart and comes after a cause in its own
cycle; and where restarts that succeed leave nobody associated, another one is called only after
somebody has associated again. -/
theorem restarts_are_justified (m : Reach.Monitor) (staleAfter : Span) (epoch : Nat) :
    (∀ actions c, (Course.new m staleAfter epoch).run? actions = some c →
      ∀ number earlier, .restartCalled number :: earlier <:+ c.events →
        .restartCalled number ∉ earlier ∧
        ∃ between past, earlier = between ++ .restartBegun number :: past ∧
          Course.Cause m past) ∧
    ∀ stations before first mid second after s,
      (Site.new m staleAfter epoch stations).run?
        (before ++ .restored first :: (mid ++ .course (.restartCalls second) :: after)) = some s →
      ∃ client, .associate client ∈ mid := by
  constructor
  · intro actions c ran number earlier called
    exact ((Course.Justified.new m staleAfter epoch).run? ran).cause_of_called called
  · intro stations before first mid second after s ran
    exact Site.associate_of_restarts (Course.Sound.new m staleAfter epoch) ran

/-- A client that is back after its restart, and is found dead again. -/
def Site.relapse : List Site.Action :=
  .associate default :: (Course.deadClient.take 4).map .course

/-- The restart of a dead client has its cause, and so has the one of its relapse. -/
theorem relapse_is_justified :
    (∃ c earlier, (Course.new ⟨.ofSecs 1, 4⟩ (.ofSecs 30) 0).run? Course.deadClient = some c ∧
      c.events = .restartCalled 0 :: earlier ∧
      ∃ between past, earlier = between ++ .restartBegun 0 :: past ∧
        Course.Cause ⟨.ofSecs 1, 4⟩ past) ∧
    ∃ s, (Site.new ⟨.ofSecs 1, 4⟩ (.ofSecs 30) 0 [default]).run?
        (Course.deadClient.map .course ++
          .restored 0 :: (Site.relapse ++ .course (.restartCalls 1) :: [])) = some s ∧
      ∃ client, .associate client ∈ Site.relapse := by
  obtain ⟨caused, apart⟩ := restarts_are_justified ⟨.ofSecs 1, 4⟩ (.ofSecs 30) 0
  constructor
  · obtain ⟨-, cause⟩ := caused Course.deadClient _ rfl 0 _ (List.suffix_refl _)
    exact ⟨_, _, rfl, rfl, cause⟩
  · exact ⟨_, rfl, apart [default] (Course.deadClient.map .course) 0 Site.relapse 1 [] _ rfl⟩

end BridgeWarden.Recovery

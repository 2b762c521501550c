import BridgeWarden.Proofs.Link.Events
import BridgeWarden.Proofs.Link.Reconnects
import Mathlib.Data.List.Chain

/-!
What readers see of the session.

`Session.Becomes` lists the changes of a session, each with the event of the engine that it is due
to, if it is due to one. `changes` is the account of a run's changes, and `publications` reads the
copies that readers were shown off the history. `Shown` ties them together: each change follows the
one before it, and readers are shown every one of them, once and in this order. One that they may
not have been shown yet is the fault of an attempt that the engine has not let go of
(`unpublished`). `publications_refine` is what this comes to for a run.
-/

namespace BridgeWarden.Link

/-! ### Changes of a session -/

namespace Session

variable {s s' : Session} {cause : Option Event}

/-- A session faults: it loses its addresses, counts a failure, as far as it can count, and doubles
its backoff, as far as the ceiling. -/
structure Falls (s s' : Session) : Prop where
  state : s'.state = .faulted
  address : s'.address = none
  peer : s'.peer = none
  netmask : s'.netmask = none
  counted : s'.consecutiveFailures = min (s.consecutiveFailures + 1) (UInt32.size - 1)
  doubled : s'.backoff =
    { s.backoff with current := Span.least s.backoff.current.doubled s.backoff.ceiling }

/-- One change of a session, and the event of the engine that it is due to, if any. -/
inductive Becomes (s : Session) : Option Event → Session → Prop where
  | begun (free : s.state = .idle ∨ s.state = .faulted) :
      Becomes s none { s with state := .connecting }
  | established (connecting : s.state = .connecting) (address peer netmask : Ipv4) :
      Becomes s (some (.up address peer netmask))
        { state := .established, address := some address, peer := some peer
          netmask := some netmask, backoff := { s.backoff with current := s.backoff.least }
          consecutiveFailures := 0 }
  | closed {s' : Session} (active : s.IsActive) (reason : String) (falls : Falls s s') :
      Becomes s (some (.down reason)) s'
  | failed {s' : Session} (connecting : s.state = .connecting) (falls : Falls s s') :
      Becomes s none s'

theorem falls_fault (s : Session) : Falls s s.fault := ⟨rfl, rfl, rfl, rfl, rfl, rfl⟩

namespace Becomes

theorem ne (becomes : s.Becomes cause s') : s' ≠ s := by
  intro same
  have state : s'.state = s.state := congrArg Session.state same
  cases becomes with
  | begun free =>
      rcases free with idle | faulted
      · simp [idle] at state
      · simp [faulted] at state
  | established connecting => simp [connecting] at state
  | closed active _ falls => exact inactive_of_faulted (state.symm.trans falls.state) active
  | failed connecting falls => simp [connecting, falls.state] at state

/-- A link comes up from an attempt. -/
theorem connecting_of_established (becomes : s.Becomes cause s')
    (established : s'.state = .established) : s.state = .connecting := by
  cases becomes with
  | begun => cases established
  | established connecting => exact connecting
  | closed _ _ falls => simp [falls.state] at established
  | failed _ falls => simp [falls.state] at established

end Becomes

end Session

/-- A copy has the three addresses while the link is up, and none of them otherwise. -/
def Snapshot.Whole (copy : Snapshot) : Prop :=
  (copy.state = .established ∧ copy.address.isSome ∧ copy.gateway.isSome ∧ copy.netmask.isSome) ∨
    (copy.state ≠ .established ∧ copy.address = none ∧ copy.gateway = none ∧ copy.netmask = none)

theorem Session.Becomes.whole {s s' : Session} {cause : Option Event}
    (becomes : s.Becomes cause s') (whole : s.snapshot.Whole) : s'.snapshot.Whole := by
  cases becomes with
  | begun free =>
      rcases whole with ⟨established, -⟩ | ⟨-, addresses⟩
      · have up : s.state = .established := established
        simp [up] at free
      · exact Or.inr ⟨by simp, addresses⟩
  | established => exact Or.inl ⟨rfl, rfl, rfl, rfl⟩
  | closed _ _ falls | failed _ falls =>
      exact Or.inr ⟨by simp [falls.state], falls.address, falls.peer, falls.netmask⟩

namespace System

variable {s s' : System} {action : Action} {actions : List Action}

/-! ### The account of changes -/

/-- The change of the session that a step makes, with the event that the machine took for it. -/
def changes (s : System) (action : Action) (s' : System) : List (Option Event × Session) :=
  if s'.session = s.session then [] else [((s.taken action s').head?, s'.session)]

theorem changes_of_same (same : s'.session = s.session) : s.changes action s' = [] := if_pos same

theorem changes_of_becomes {cause : Option Event} (becomes : s.session.Becomes cause s'.session)
    (due : (s.taken action s').head? = cause) :
    s.changes action s' = [(cause, s'.session)] := by
  unfold changes
  rw [if_neg becomes.ne, due]

/-! ### Copies -/

/-- The sessions that a run from the beginning goes through, each with the event that caused it. -/
def course (capacity : Nat) (backoff : Backoff) (negotiation : Span) (actions : List Action) :
    List (Option Event × Session) :=
  (none, .new backoff) :: (new capacity backoff negotiation).along changes actions

/-- The copies that readers were shown and when, the earliest first. -/
def publications : List (Nat × Happening) → List (Nat × Snapshot)
  | [] => []
  | (instant, .published copy) :: earlier => publications earlier ++ [(instant, copy)]
  | _ :: earlier => publications earlier

/-- The copies that readers of a link with this backoff have seen, the one from before the first
attempt included. -/
def seen (backoff : Backoff) (history : List (Nat × Happening)) : List Snapshot :=
  (Session.new backoff).snapshot :: (publications history).map (·.2)

/-- The copy that readers have yet to be shown. -/
def unpublished (s : System) : List Snapshot :=
  match s.phase with
  | .abandoning .. => [s.session.snapshot]
  | .fresh | .attempting _ | .watching _ | .stopped | .crashed => []

theorem unpublished_of_elsewhere (elsewhere : ∀ cutOff delay, s.phase ≠ .abandoning cutOff delay) :
    s.unpublished = [] := by
  unfold unpublished
  split
  · rename_i cutOff delay abandoning
    exact (elsewhere cutOff delay abandoning).elim
  all_goals rfl

theorem unpublished_of_attempting {cutOff : Nat} (attempting : s.phase = .attempting cutOff) :
    s.unpublished = [] := by
  simp [unpublished, attempting]

theorem unpublished_of_watching {deadline : Option Nat} (watching : s.phase = .watching deadline) :
    s.unpublished = [] := by
  simp [unpublished, watching]

theorem TakesRequest.unpublished_eq {requests : Nat} (takes : TakesRequest s requests) :
    s.unpublished = [] := by
  cases takes with
  | first fresh => simp [unpublished, fresh]
  | queued watching => exact unpublished_of_watching watching

theorem GivesUp.unpublished_eq (givesUp : GivesUp s action) : s.unpublished = [] := by
  cases givesUp with
  | cutOff attempting => exact unpublished_of_attempting attempting
  | refused attempting => exact unpublished_of_attempting attempting
  | expired watching => exact unpublished_of_watching watching

theorem LetsGo.unpublished_eq {delay : Span} (letsGo : LetsGo s action delay) :
    s.unpublished = [s.session.snapshot] := by
  cases letsGo with
  | cutOff abandoning => simp [unpublished, abandoning]
  | returned abandoning => simp [unpublished, abandoning]

/-- The copies shown so far, and the one that is left to show. -/
def copies (s : System) : List Snapshot := (publications s.history).map (·.2) ++ s.unpublished

theorem copies_showFault (delay : Span) :
    (s.showFault delay).copies = (publications s.history).map (·.2) ++ [s.session.snapshot] := by
  simp [copies, showFault, publications, unpublished]

/-! ### Each change is shown -/

/-- Each change follows the one before it, and readers are shown them all. -/
structure Shown (first : Session) (before : List Snapshot)
    (account : List (Option Event × Session)) (s : System) : Prop where
  chain : List.IsChain (fun one next => Session.Becomes one.2 next.1 next.2)
    ((none, first) :: account)
  last : ∃ earlier cause, (none, first) :: account = earlier ++ [(cause, s.session)]
  shown : s.copies = before ++ account.map (·.2.snapshot)

namespace Shown

variable {first : Session} {before : List Snapshot} {account : List (Option Event × Session)}

theorem begin (s : System) : Shown s.session s.copies [] s :=
  ⟨List.isChain_singleton _, ⟨[], none, rfl⟩, by simp⟩

/-- A step that leaves the session as it is shows no copy, unless it was left to show. -/
theorem still (shown : Shown first before account s) (same : s'.session = s.session)
    (copies : s'.copies = s.copies) : Shown first before (account ++ s.changes action s') s' := by
  rw [changes_of_same same, List.append_nil]
  exact ⟨shown.chain, same ▸ shown.last, copies.trans shown.shown⟩

/-- A step that changes the session shows the new one, or leaves it to be shown. -/
theorem change (shown : Shown first before account s) {cause : Option Event}
    (becomes : s.session.Becomes cause s'.session) (due : (s.taken action s').head? = cause)
    (copies : s'.copies = s.copies ++ [s'.session.snapshot]) :
    Shown first before (account ++ s.changes action s') s' := by
  rw [changes_of_becomes becomes due]
  obtain ⟨chain, ⟨earlier, before, last⟩, shown⟩ := shown
  refine ⟨?_, ⟨(none, first) :: account, cause, rfl⟩, ?_⟩
  · rw [last] at chain
    have longer : (none, first) :: (account ++ [(cause, s'.session)]) =
        earlier ++ (before, s.session) :: [(cause, s'.session)] := by
      rw [← List.cons_append, last, List.append_assoc]
      rfl
    rw [longer, List.isChain_append_cons_cons]
    exact ⟨chain, becomes, List.isChain_singleton _⟩
  · rw [copies, shown]
    simp

/-- What was left to show is nothing. -/
theorem copies_eq (left : s.unpublished = []) : s.copies = (publications s.history).map (·.2) := by
  rw [copies, left, List.append_nil]

theorem step (shown : Shown first before account s) (stepped : Step s action s') :
    Shown first before (account ++ s.changes action s') s' := by
  cases stepped with
  | connected takes free =>
      refine shown.change (.begun free) (by rw [takes.taken_eq]; rfl) ?_
      rw [copies_eq takes.unpublished_eq]
      simp [copies, publications, unpublished]
  | gaveUp givesUp connecting =>
      refine shown.change (.failed connecting (Session.falls_fault _))
        (by rw [givesUp.taken_eq]; rfl) ?_
      rw [copies_eq givesUp.unpublished_eq]
      simp [copies, publications, unpublished]
  | established watching uncancelled queued connecting became =>
      subst became
      refine shown.change (.established connecting _ _ _)
        (by rw [taken_of_queued watching uncancelled queued]; rfl) ?_
      rw [copies_eq (unpublished_of_watching watching)]
      simp [copies, publications, unpublished]
  | faulted watching uncancelled queued active =>
      refine shown.change (.closed active _ (Session.falls_fault _))
        (by rw [taken_of_queued watching uncancelled queued]; rfl) ?_
      rw [copies_eq (unpublished_of_watching watching), copies_showFault]
      rfl
  | abandoned letsGo =>
      refine shown.still rfl ?_
      rw [copies_showFault, copies, letsGo.unpublished_eq]
  | connectReturned attempting | crashed attempting =>
      refine shown.still rfl ?_
      rw [copies_eq (unpublished_of_attempting attempting)]
      exact List.append_nil _
  | stopped watching =>
      refine shown.still rfl ?_
      rw [copies_eq (unpublished_of_watching watching)]
      exact List.append_nil _
  | requestIgnored | eventIgnored | driverSleeps | driverWakes | driverAsks | driverEnds
  | driverQuits | reported | unreported | requested | unrequested | cancelled | passed =>
      exact shown.still rfl rfl

end Shown

/-- The changes that a run makes follow one another, and readers are shown them all. -/
theorem shown_of_run (fits : s.Fits) (ran : s.run? actions = some s') :
    Shown s.session s.copies (s.along changes actions) s' := by
  have shown := along_keeps changes (Shown s.session s.copies)
    (fun shown _ stepped => shown.step stepped) fits (.begin s) ran
  rwa [List.nil_append] at shown

/-! ### Events -/

/-- The events that changes are due to are events that were taken, in the same order. -/
theorem sublist_taken (s : System) (actions : List Action) :
    ((s.along changes actions).filterMap (·.1)).Sublist (s.along taken actions) := by
  induction actions generalizing s with
  | nil => exact List.Sublist.refl _
  | cons action rest ih =>
      cases computed : s.next? action with
      | none => simp [along, computed]
      | some middle =>
          rw [along_cons computed, along_cons computed, List.filterMap_append]
          refine List.Sublist.append ?_ (ih middle)
          unfold changes
          split
          · exact List.nil_sublist _
          · cases took : s.taken action middle with
            | nil => exact List.nil_sublist _
            | cons e others => simp

/-- An event that a change is due to was reported in the run. -/
theorem reported_of_mem_changes (fits : s.Fits) (ran : s.run? actions = some s')
    (empty : s.events = []) {e : Event} {session : Session}
    (member : (some e, session) ∈ s.along changes actions) : .report e ∈ actions := by
  have took : e ∈ s.along taken actions :=
    (sublist_taken s actions).subset (List.mem_filterMap.mpr ⟨_, member, rfl⟩)
  have order := (ordered_of_run fits ran).taken_first
  rw [empty, List.nil_append] at order
  obtain ⟨_, action, _, among, -, entered⟩ := mem_along fits ran (order.subset took)
  rw [← eq_report_of_mem_entered entered]
  exact among

/-! ### Readers and the session -/

/-- Readers are shown the changes of the session and nothing else: from the idle one on, each is a
change of the one before it, none is left out, and but for the fault of an attempt that the engine
has not let go of, the last one is the present session. A link that comes up has the addresses of an
event that was reported, and readers see it directly after the attempt. -/
theorem publications_refine (capacity : Nat) (backoff : Backoff) (negotiation : Span)
    {actions : List Action}
    (ran : (new capacity backoff negotiation).run? actions = some s) :
    List.IsChain (fun one next => Session.Becomes one.2 next.1 next.2)
      (course capacity backoff negotiation actions) ∧
    (∀ e session, (some e, session) ∈ course capacity backoff negotiation actions →
      .report e ∈ actions) ∧
    seen backoff s.history ++ s.unpublished =
      (course capacity backoff negotiation actions).map (·.2.snapshot) ∧
    ((∀ cutOff delay, s.phase ≠ .abandoning cutOff delay) →
      (seen backoff s.history).getLast? = some s.session.snapshot) ∧
    List.IsChain (fun one next => next.state = .established → one.state = .connecting)
      (seen backoff s.history) ∧
    ∀ copy ∈ seen backoff s.history, copy.Whole := by
  have fits := fits_new capacity backoff negotiation
  obtain ⟨chain, ⟨earlier, cause, last⟩, shown⟩ :
      Shown (.new backoff) [] ((new capacity backoff negotiation).along changes actions) s :=
    shown_of_run fits ran
  have all : seen backoff s.history ++ s.unpublished =
      (course capacity backoff negotiation actions).map (·.2.snapshot) := by
    rw [seen, List.cons_append]
    exact congrArg _ shown
  refine ⟨chain, ?_, all, ?_, ?_, ?_⟩
  · intro e session member
    rcases List.mem_cons.mp member with first | later
    · cases first
    · exact reported_of_mem_changes fits ran rfl later
  · intro elsewhere
    rw [unpublished_of_elsewhere elsewhere, List.append_nil] at all
    rw [all, course, last]
    simp
  · have mapped : List.IsChain (fun one next => next.state = .established → one.state = .connecting)
        (seen backoff s.history ++ s.unpublished) := by
      rw [all, List.isChain_map]
      exact chain.imp fun one next becomes => becomes.connecting_of_established
    exact mapped.left_of_append
  · intro copy member
    have among := List.mem_append_left s.unpublished member
    rw [all, List.mem_map] at among
    obtain ⟨entry, listed, rfl⟩ := among
    refine chain.induction (fun entry => entry.2.snapshot.Whole) _
      (fun one next becomes whole => becomes.whole whole) (fun _ => ?_) entry listed
    exact Or.inr ⟨by simp [Session.new], rfl, rfl, rfl⟩

/-- The link comes up and goes down, and the next attempt is refused; the engine has not let go of
it yet. -/
def upDownRefused : List Action :=
  [.machine, .report (.up ⟨10, 0, 0, 2⟩ ⟨10, 0, 0, 1⟩ ⟨255, 255, 255, 255⟩), .connectEnds true,
    .machine, .pass 500, .report (.down "peer gone"), .machine, .driver, .pass 2000, .driver,
    .driver, .machine, .connectEnds false]

/-- Readers have yet to be shown the second fault of such a run, and the copies that they were shown
are those of its other sessions. -/
theorem refusal_left_to_show :
    ∃ s, (new 16 twoToThirty (.ofSecs 60)).run? upDownRefused = some s ∧
      (seen twoToThirty s.history).map (·.state) =
        [.idle, .connecting, .established, .faulted, .connecting] ∧
      s.unpublished = [s.session.snapshot] ∧
      seen twoToThirty s.history ++ s.unpublished =
        (course 16 twoToThirty (.ofSecs 60) upDownRefused).map (·.2.snapshot) ∧
      ∀ copy ∈ seen twoToThirty s.history, copy.Whole := by
  obtain ⟨s, ran⟩ : ∃ s, (new 16 twoToThirty (.ofSecs 60)).run? upDownRefused = some s := ⟨_, rfl⟩
  obtain ⟨states, left⟩ : (seen twoToThirty s.history).map (·.state) =
      [.idle, .connecting, .established, .faulted, .connecting] ∧
        s.unpublished = [s.session.snapshot] := by
    cases ran
    decide
  obtain ⟨-, -, all, -, -, whole⟩ := publications_refine _ _ _ ran
  exact ⟨s, ran, states, left, all, whole⟩

end System

end BridgeWarden.Link

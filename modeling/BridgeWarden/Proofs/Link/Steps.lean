import BridgeWarden.Link.System
import BridgeWarden.Proofs.Runs

/-!
The steps of the link.

`Fits` says which states of the session go with which phase of the machine. `Step` lists what an
action does in a system where the two fit, guards included: `step_of_next?` says that this is all
that `next?` does there, and `Fits.step` that they fit again afterwards. Nothing after this module
opens the machine's or the driver's moves.
-/

namespace BridgeWarden.Link

/-! ### Events and the session -/

namespace Session

variable {s : Session}

/-- An attempt is under way or has come to a link. -/
def IsActive (s : Session) : Prop := s.state = .connecting ∨ s.state = .established

theorem inactive_of_faulted (faulted : s.state = .faulted) : ¬ s.IsActive := by
  rintro (connecting | established)
  · simp [connecting] at faulted
  · simp [established] at faulted

theorem handle_up (connecting : s.state = .connecting) (address peer netmask : Ipv4) :
    s.handle (.up address peer netmask) =
      ({ state := .established, address := some address, peer := some peer
         netmask := some netmask, backoff := s.backoff.reset, consecutiveFailures := 0 },
       .established) := by
  unfold handle
  rw [connecting]

theorem handle_down (active : s.IsActive) (reason : String) :
    s.handle (.down reason) = (s.fault, .faulted s.backoff.current) := by
  unfold handle
  rcases active with connecting | established
  · rw [connecting]
  · rw [established]

/-- A session that is neither begun nor up again passes over every event. -/
theorem handle_of_faulted (faulted : s.state = .faulted) (e : Event) :
    s.handle e = (s, .ignored) := by
  unfold handle
  rw [faulted]

/-- A session that is up passes over the news that it is. -/
theorem handle_of_established (established : s.state = .established) (address peer netmask : Ipv4) :
    s.handle (.up address peer netmask) = (s, .ignored) := by
  unfold handle
  rw [established]

theorem fail?_of_active (active : s.IsActive) : s.fail? = some (s.fault, s.backoff.current) := by
  unfold fail?
  rcases active with connecting | established
  · rw [connecting]
  · rw [established]

theorem beginConnect?_of_free (free : s.state = .idle ∨ s.state = .faulted) :
    s.beginConnect? = some { s with state := .connecting } := by
  unfold beginConnect?
  rcases free with idle | faulted
  · rw [idle]
  · rw [faulted]

theorem beginConnect?_of_active (active : s.IsActive) : s.beginConnect? = none := by
  unfold beginConnect?
  rcases active with connecting | established
  · rw [connecting]
  · rw [established]

end Session

/-- The states of the session that go with a phase of the machine. -/
def Phase.Fits : Phase → State → Prop
  | .fresh, state => state = .idle
  | .attempting _, state => state = .connecting
  | .abandoning .., state => state = .faulted
  | .watching (some _), state => state = .connecting
  | .watching none, state => state = .established ∨ state = .faulted
  | .stopped, state => state ≠ .idle
  | .crashed, state => state = .connecting

/-- The instant at which the machine goes on without anybody else, if there is one. -/
def Phase.deadline? : Phase → Option Nat
  | .attempting cutOff | .abandoning cutOff _ => some cutOff
  | .watching deadline => deadline
  | .fresh | .stopped | .crashed => none

/-- A machine with a deadline is inside a call or waits for the end of a negotiation. -/
theorem Phase.cases_of_deadline? {phase : Phase} {due : Nat}
    (deadline : phase.deadline? = some due) :
    phase = .attempting due ∨ (∃ delay, phase = .abandoning due delay) ∨
      phase = .watching (some due) := by
  cases phase with
  | fresh | stopped | crashed => cases deadline
  | attempting cutOff =>
      cases deadline
      exact Or.inl rfl
  | abandoning cutOff delay =>
      cases deadline
      exact Or.inr (Or.inl ⟨delay, rfl⟩)
  | watching until_ =>
      cases deadline
      exact Or.inr (Or.inr rfl)

theorem Phase.running_of_deadline? {phase : Phase} {due : Nat}
    (deadline : phase.deadline? = some due) : phase.isOver = false := by
  rcases Phase.cases_of_deadline? deadline with rfl | ⟨delay, rfl⟩ | rfl
  · rfl
  · rfl
  · rfl

namespace System

variable {s s' : System} {action : Action}

def Fits (s : System) : Prop := s.phase.Fits s.session.state

namespace Fits

theorem idle_of_fresh (fits : s.Fits) (fresh : s.phase = .fresh) : s.session.state = .idle := by
  unfold System.Fits at fits
  rw [fresh] at fits
  exact fits

theorem connecting_of_attempting (fits : s.Fits) {cutOff : Nat}
    (attempting : s.phase = .attempting cutOff) : s.session.state = .connecting := by
  unfold System.Fits at fits
  rw [attempting] at fits
  exact fits

theorem faulted_of_abandoning (fits : s.Fits) {cutOff : Nat} {delay : Span}
    (abandoning : s.phase = .abandoning cutOff delay) : s.session.state = .faulted := by
  unfold System.Fits at fits
  rw [abandoning] at fits
  exact fits

theorem connecting_of_deadline (fits : s.Fits) {due : Nat}
    (watching : s.phase = .watching (some due)) : s.session.state = .connecting := by
  unfold System.Fits at fits
  rw [watching] at fits
  exact fits

theorem settled_of_watching (fits : s.Fits) (watching : s.phase = .watching none) :
    s.session.state = .established ∨ s.session.state = .faulted := by
  unfold System.Fits at fits
  rw [watching] at fits
  exact fits

/-- A machine has no deadline for a link that has faulted. -/
theorem unhurried_of_faulted (fits : s.Fits) {deadline : Option Nat}
    (watching : s.phase = .watching deadline) (faulted : s.session.state = .faulted) :
    s.phase = .watching none := by
  cases deadline with
  | none => exact watching
  | some due =>
      have connecting := fits.connecting_of_deadline watching
      simp [connecting] at faulted

theorem connecting_of_crashed (fits : s.Fits) (crashed : s.phase = .crashed) :
    s.session.state = .connecting := by
  unfold System.Fits at fits
  rw [crashed] at fits
  exact fits

theorem active_or_faulted (fits : s.Fits) {deadline : Option Nat}
    (watching : s.phase = .watching deadline) :
    s.session.IsActive ∨ s.session.state = .faulted := by
  cases deadline with
  | some due => exact Or.inl (Or.inl (fits.connecting_of_deadline watching))
  | none =>
      rcases fits.settled_of_watching watching with established | faulted
      · exact Or.inl (Or.inr established)
      · exact Or.inr faulted

end Fits

theorem fits_new (capacity : Nat) (backoff : Backoff) (negotiation : Span) :
    (new capacity backoff negotiation).Fits := rfl

/-! ### Waiting and faults -/

/-- Time does not pass beyond the machine's deadline. -/
theorem le_of_canWait {millis due : Nat} (waits : s.canWait millis = true)
    (deadline : s.phase.deadline? = some due) : s.now + millis ≤ due := by
  simp only [canWait, Bool.and_eq_true, List.all_eq_true, decide_eq_true_eq] at waits
  apply waits.2
  rcases Phase.cases_of_deadline? deadline with phase | ⟨delay, phase⟩ | phase
  · simp [deadlines, phase]
  · simp [deadlines, phase]
  · simp [deadlines, phase]

/-- Whether a delay would find its place free, and somebody to wait it out. -/
def accepts (s : System) : Bool := s.delay.isNone && s.driver != .stopped

/-- The link after a fault: readers see it, the delay is handed to the driver if that can be, and
the machine waits. -/
def showFault (delay : Span) (s : System) : System :=
  { s with
    phase := .watching none
    delay := if s.accepts then some delay else s.delay
    history := (s.now, .scheduled delay s.accepts) ::
      (s.now, .published s.session.snapshot) :: s.history }

theorem watch_of_settled (settled : s.session.state ≠ .connecting) (deadline : Option Nat) :
    s.watch deadline = { s with phase := .watching none } := by
  unfold watch
  rw [if_neg settled]

/-- The deadline of an attempt is kept. -/
theorem watch_some (connecting : s.session.state = .connecting) (due : Nat) :
    s.watch (some due) = { s with phase := .watching (some due) } := by
  unfold watch
  rw [if_pos connecting]

theorem watch_schedule_publish (faulted : s.session.state = .faulted) (delay : Span)
    (deadline : Option Nat) :
    (s.publish.schedule delay).watch deadline = s.showFault delay := by
  have settled : (s.publish.schedule delay).session.state ≠ .connecting := by
    have same : (s.publish.schedule delay).session = s.session := by
      unfold schedule
      split <;> rfl
    simp [same, faulted]
  rw [watch_of_settled settled]
  unfold schedule showFault accepts
  by_cases free : s.delay.isNone = true ∧ s.driver ≠ .stopped
  · have accepted : (s.delay.isNone && s.driver != .stopped) = true := by simpa using free
    have room : s.publish.delay.isNone = true ∧ s.publish.driver ≠ .stopped := free
    rw [if_pos room, accepted]
    rfl
  · have refused : (s.delay.isNone && s.driver != .stopped) = false := by simpa using free
    have taken : ¬ (s.publish.delay.isNone = true ∧ s.publish.driver ≠ .stopped) := free
    rw [if_neg taken, refused]
    rfl

/-- A wait that begins anew in an unchanged session goes on as before. -/
theorem watch_of_watching (fits : s.Fits) {deadline : Option Nat}
    (watching : s.phase = .watching deadline) (events : List Event) (requests : Nat)
    (history : List (Nat × Happening)) :
    { s with events, requests, history }.watch deadline = { s with events, requests, history } := by
  cases deadline with
  | some due =>
      have connecting := fits.connecting_of_deadline watching
      have same : { s with events, requests, history }.watch (some due) =
          { s with events, requests, history, phase := .watching (some due) } :=
        watch_some (s := { s with events, requests, history }) connecting due
      rw [same, ← watching]
  | none =>
      have settled : s.session.state ≠ .connecting := by
        rcases fits.settled_of_watching watching with established | faulted
        · simp [established]
        · simp [faulted]
      have same : { s with events, requests, history }.watch none =
          { s with events, requests, history, phase := .watching none } :=
        watch_of_settled (s := { s with events, requests, history }) settled none
      rw [same, ← watching]

/-! ### Steps -/

/-- The machine takes up a request, its own first one or one of the queue, which leaves so many. -/
inductive TakesRequest (s : System) : Nat → Prop where
  | first (fresh : s.phase = .fresh) : TakesRequest s s.requests
  | queued {deadline : Option Nat} (watching : s.phase = .watching deadline)
      (uncancelled : s.cancelled = false) (quiet : s.events = []) (asked : 0 < s.requests) :
      TakesRequest s (s.requests - 1)

/-- The machine gives up the attempt under way. -/
inductive GivesUp (s : System) : Action → Prop where
  | cutOff {cutOff : Nat} (attempting : s.phase = .attempting cutOff) (spent : cutOff ≤ s.now) :
      GivesUp s .machine
  | refused {cutOff : Nat} (attempting : s.phase = .attempting cutOff) :
      GivesUp s (.connectEnds false)
  | expired {due : Nat} (watching : s.phase = .watching (some due))
      (uncancelled : s.cancelled = false) (quiet : s.events = []) (unasked : s.requests = 0)
      (reached : due ≤ s.now) : GivesUp s .machine

/-- The engine has let go of the attempt that was given up, or has had its time for it. -/
inductive LetsGo (s : System) : Action → Span → Prop where
  | cutOff {cutOff : Nat} {delay : Span} (abandoning : s.phase = .abandoning cutOff delay)
      (spent : cutOff ≤ s.now) : LetsGo s .machine delay
  | returned {cutOff : Nat} {delay : Span} (abandoning : s.phase = .abandoning cutOff delay) :
      LetsGo s .disconnectEnds delay

theorem TakesRequest.running {requests : Nat} (takes : TakesRequest s requests) :
    s.phase.isOver = false := by
  cases takes with
  | first fresh => rw [fresh]; rfl
  | queued watching => rw [watching]; rfl

theorem GivesUp.running (givesUp : GivesUp s action) : s.phase.isOver = false := by
  cases givesUp with
  | cutOff attempting => rw [attempting]; rfl
  | refused attempting => rw [attempting]; rfl
  | expired watching => rw [watching]; rfl

theorem LetsGo.running {delay : Span} (letsGo : LetsGo s action delay) :
    s.phase.isOver = false := by
  cases letsGo with
  | cutOff abandoning => rw [abandoning]; rfl
  | returned abandoning => rw [abandoning]; rfl

theorem LetsGo.elsewhere {delay : Span} (letsGo : LetsGo s action delay) :
    s.phase ≠ .watching none := by
  cases letsGo with
  | cutOff abandoning => simp [abandoning]
  | returned abandoning => simp [abandoning]

inductive Step (s : System) : Action → System → Prop where
  | connected {requests : Nat} (takes : TakesRequest s requests)
      (free : s.session.state = .idle ∨ s.session.state = .faulted) :
      Step s .machine
        { s with
          session := { s.session with state := .connecting }, requests
          phase := .attempting (Clock.wake s.now callBound)
          history := (s.now, .connect) ::
            (s.now, .published { s.session with state := .connecting }.snapshot) :: s.history }
  | requestIgnored {deadline : Option Nat} (watching : s.phase = .watching deadline)
      (uncancelled : s.cancelled = false) (quiet : s.events = []) (asked : 0 < s.requests)
      (active : s.session.IsActive) :
      Step s .machine
        { s with
          requests := s.requests - 1
          history := (s.now, .requestIgnored) :: s.history }
  | connectReturned {cutOff due : Nat} (attempting : s.phase = .attempting cutOff)
      (told : Clock.deadline? s.now s.negotiation = some due) :
      Step s (.connectEnds true) { s with phase := .watching (some due) }
  | crashed {cutOff : Nat} (attempting : s.phase = .attempting cutOff)
      (untold : Clock.deadline? s.now s.negotiation = none) :
      Step s (.connectEnds true) { s with phase := .crashed, events := [] }
  | gaveUp {action : Action} (givesUp : GivesUp s action)
      (connecting : s.session.state = .connecting) :
      Step s action
        { s with
          session := s.session.fault
          phase := .abandoning (Clock.wake s.now callBound) s.session.backoff.current
          history := (s.now, .disconnect) :: s.history }
  | abandoned {action : Action} {delay : Span} (letsGo : LetsGo s action delay)
      (faulted : s.session.state = .faulted) : Step s action (s.showFault delay)
  | eventIgnored {deadline : Option Nat} {e : Event} {rest : List Event}
      (watching : s.phase = .watching deadline) (uncancelled : s.cancelled = false)
      (queued : s.events = e :: rest) (ignored : s.session.handle e = (s.session, .ignored)) :
      Step s .machine { s with events := rest }
  | established {deadline : Option Nat} {address peer netmask : Ipv4} {rest : List Event}
      {session : Session} (watching : s.phase = .watching deadline)
      (uncancelled : s.cancelled = false) (queued : s.events = .up address peer netmask :: rest)
      (connecting : s.session.state = .connecting)
      (became : session =
        { state := .established, address := some address, peer := some peer
          netmask := some netmask, backoff := s.session.backoff.reset
          consecutiveFailures := 0 }) :
      Step s .machine
        { s with
          session, events := rest, phase := .watching none
          history := (s.now, .published session.snapshot) :: s.history }
  | faulted {deadline : Option Nat} {reason : String} {rest : List Event}
      (watching : s.phase = .watching deadline) (uncancelled : s.cancelled = false)
      (queued : s.events = .down reason :: rest) (active : s.session.IsActive) :
      Step s .machine
        ({ s with session := s.session.fault, events := rest }.showFault s.session.backoff.current)
  | stopped {deadline : Option Nat} (watching : s.phase = .watching deadline)
      (cancelled : s.cancelled = true) : Step s .machine s.stop
  | driverSleeps {delay : Span} (waiting : s.driver = .waiting) (handed : s.delay = some delay) :
      Step s .driver { s with delay := none, driver := .sleeping (Clock.wake s.now delay) }
  | driverWakes {due : Nat} (sleeping : s.driver = .sleeping due) (reached : due ≤ s.now) :
      Step s .driver { s with driver := .sending }
  | driverAsks (sending : s.driver = .sending) (running : s.phase.isOver = false)
      (room : s.requests < requestCapacity) :
      Step s .driver { s with requests := s.requests + 1, driver := .waiting }
  | driverEnds (ended : s.phase.isOver = true) : Step s .driver { s with driver := .stopped }
  | driverQuits (cancelled : s.cancelled = true) :
      Step s .driverQuits { s with driver := .stopped }
  | reported {e : Event} (running : s.phase.isOver = false)
      (room : s.events.length < s.capacity) :
      Step s (.report e) { s with events := s.events ++ [e] }
  | unreported (e : Event) : Step s (.report e) s
  | requested (running : s.phase.isOver = false) (room : s.requests < requestCapacity) :
      Step s .request { s with requests := s.requests + 1 }
  | unrequested : Step s .request s
  | cancelled : Step s .cancel { s with cancelled := true }
  | passed {millis : Nat} (waits : s.canWait millis = true) :
      Step s (.pass millis) { s with now := s.now + millis }

/-! ### What the machine does -/

theorem step_beginConnect {deadline : Option Nat} {requests : Nat} (takes : TakesRequest s requests)
    (free : s.session.state = .idle ∨ s.session.state = .faulted) :
    Step s .machine ({ s with requests }.beginConnect deadline) := by
  have begun : { s with requests }.session.beginConnect? =
      some { s.session with state := .connecting } := Session.beginConnect?_of_free free
  unfold beginConnect
  rw [begun]
  exact .connected takes free

theorem step_failLocally {deadline : Option Nat} (givesUp : GivesUp s action)
    (connecting : s.session.state = .connecting) : Step s action (s.failLocally deadline) := by
  unfold failLocally
  rw [Session.fail?_of_active (Or.inl connecting)]
  exact .gaveUp givesUp connecting

theorem step_abandoned {delay : Span} (letsGo : LetsGo s action delay)
    (faulted : s.session.state = .faulted) : Step s action (s.abandoned delay) := by
  unfold abandoned
  rw [watch_schedule_publish faulted]
  exact .abandoned letsGo faulted

theorem handleEvent_down (active : s.session.IsActive) (deadline : Option Nat) (reason : String)
    (rest : List Event) :
    s.handleEvent deadline (.down reason) rest =
      ({ s with session := s.session.fault, events := rest }.showFault
        s.session.backoff.current) := by
  unfold handleEvent
  rw [Session.handle_down active]
  exact watch_schedule_publish rfl _ _

theorem handleEvent_up (connecting : s.session.state = .connecting) (deadline : Option Nat)
    {address peer netmask : Ipv4} {session : Session}
    (became : session =
      { state := .established, address := some address, peer := some peer
        netmask := some netmask, backoff := s.session.backoff.reset, consecutiveFailures := 0 })
    (rest : List Event) :
    s.handleEvent deadline (.up address peer netmask) rest =
      { s with
        session, events := rest, phase := .watching none
        history := (s.now, .published session.snapshot) :: s.history } := by
  have up : s.session.handle (.up address peer netmask) = (session, .established) :=
    became ▸ Session.handle_up connecting address peer netmask
  have settled : session.state ≠ .connecting := by simp [became]
  unfold handleEvent
  rw [up]
  exact watch_of_settled settled deadline

theorem step_handleEvent (fits : s.Fits) {deadline : Option Nat} {e : Event} {rest : List Event}
    (watching : s.phase = .watching deadline) (uncancelled : s.cancelled = false)
    (queued : s.events = e :: rest) : Step s .machine (s.handleEvent deadline e rest) := by
  by_cases ignored : s.session.handle e = (s.session, .ignored)
  · have calm : s.handleEvent deadline e rest = { s with events := rest } := by
      unfold handleEvent
      rw [ignored]
      exact watch_of_watching fits watching rest s.requests s.history
    rw [calm]
    exact .eventIgnored watching uncancelled queued ignored
  · rcases fits.active_or_faulted watching with active | faulted
    · cases e with
      | down reason =>
          rw [handleEvent_down active]
          exact .faulted watching uncancelled queued active
      | up address peer netmask =>
          rcases active with connecting | established
          · rw [handleEvent_up connecting deadline rfl]
            exact .established watching uncancelled queued connecting rfl
          · exact (ignored (Session.handle_of_established established _ _ _)).elim
    · exact (ignored (Session.handle_of_faulted faulted e)).elim

theorem step_request (fits : s.Fits) {deadline : Option Nat}
    (watching : s.phase = .watching deadline) (uncancelled : s.cancelled = false)
    (quiet : s.events = []) (asked : 0 < s.requests) :
    Step s .machine ({ s with requests := s.requests - 1 }.beginConnect deadline) := by
  rcases fits.active_or_faulted watching with active | faulted
  · have none : { s with requests := s.requests - 1 }.session.beginConnect? = none :=
      Session.beginConnect?_of_active active
    unfold beginConnect
    rw [none]
    have same := watch_of_watching fits watching s.events (s.requests - 1)
      ((s.now, .requestIgnored) :: s.history)
    have stepped := Step.requestIgnored watching uncancelled quiet asked active
    exact same.symm ▸ stepped
  · exact step_beginConnect (.queued watching uncancelled quiet asked) (Or.inr faulted)

theorem step_machine (fits : s.Fits) (computed : s.machine? = some s') : Step s .machine s' := by
  unfold machine? at computed
  split at computed
  · rename_i fresh
    have idle : s.session.state = .idle := fits.idle_of_fresh fresh
    cases computed
    exact step_beginConnect (.first fresh) (Or.inl idle)
  · rename_i cutOff attempting
    have connecting : s.session.state = .connecting := fits.connecting_of_attempting attempting
    rw [Option.ite_none_right_eq_some] at computed
    obtain ⟨spent, same⟩ := computed
    cases same
    exact step_failLocally (.cutOff attempting spent) connecting
  · rename_i cutOff delay abandoning
    have faulted : s.session.state = .faulted := fits.faulted_of_abandoning abandoning
    rw [Option.ite_none_right_eq_some] at computed
    obtain ⟨spent, same⟩ := computed
    cases same
    exact step_abandoned (.cutOff abandoning spent) faulted
  · rename_i deadline watching
    split at computed
    · rename_i cancelled
      cases computed
      exact .stopped watching cancelled
    · rename_i uncancelled
      rw [Bool.not_eq_true] at uncancelled
      split at computed
      · rename_i e rest queued
        cases computed
        exact step_handleEvent fits watching uncancelled queued
      · rename_i quiet
        split at computed
        · rename_i asked
          cases computed
          exact step_request fits watching uncancelled quiet asked
        · rename_i unasked
          split at computed
          · rename_i due
            have connecting := fits.connecting_of_deadline watching
            rw [Option.ite_none_right_eq_some] at computed
            obtain ⟨reached, same⟩ := computed
            cases same
            exact step_failLocally
              (.expired watching uncancelled quiet (Nat.eq_zero_of_not_pos unasked) reached)
              connecting
          · cases computed
  · cases computed
  · cases computed

/-! ### What the others do -/

theorem step_connectEnds (fits : s.Fits) {cutOff : Nat} (attempting : s.phase = .attempting cutOff)
    (ok : Bool) :
    Step s (.connectEnds ok) (if ok then s.watch none else s.failLocally none) := by
  have connecting := fits.connecting_of_attempting attempting
  cases ok with
  | false => exact step_failLocally (.refused attempting) connecting
  | true =>
      rw [if_pos rfl]
      unfold watch
      rw [if_pos connecting]
      cases told : Clock.deadline? s.now s.negotiation with
      | some due => exact .connectReturned attempting told
      | none => exact .crashed attempting told

theorem step_driver (computed : s.driver? = some s') : Step s .driver s' := by
  unfold driver? at computed
  split at computed
  · rename_i waiting
    split at computed
    · rename_i delay handed
      cases computed
      exact .driverSleeps waiting handed
    · rw [Option.ite_none_right_eq_some] at computed
      obtain ⟨ended, same⟩ := computed
      cases same
      exact .driverEnds ended
  · rename_i due sleeping
    rw [Option.ite_none_right_eq_some] at computed
    obtain ⟨reached, same⟩ := computed
    cases same
    exact .driverWakes sleeping reached
  · rename_i sending
    split at computed
    · rename_i ended
      cases computed
      exact .driverEnds ended
    · rename_i running
      rw [Option.ite_none_right_eq_some] at computed
      obtain ⟨room, same⟩ := computed
      cases same
      exact .driverAsks sending (by simpa using running) room
  · cases computed

theorem step_driverQuits (computed : s.driverQuits? = some s') : Step s .driverQuits s' := by
  unfold driverQuits? at computed
  split at computed
  · rw [Option.ite_none_right_eq_some] at computed
    obtain ⟨cancelled, same⟩ := computed
    cases same
    exact .driverQuits cancelled
  · rw [Option.ite_none_right_eq_some] at computed
    obtain ⟨cancelled, same⟩ := computed
    cases same
    exact .driverQuits cancelled
  · cases computed
  · cases computed

theorem step_report (e : Event) : Step s (.report e) (s.offerEvent e).1 := by
  unfold offerEvent
  by_cases ended : s.phase.isOver = true
  · rw [if_pos ended]
    exact .unreported e
  · rw [if_neg ended]
    by_cases room : s.events.length < s.capacity
    · rw [if_pos room]
      exact .reported (by simpa using ended) room
    · rw [if_neg room]
      exact .unreported e

theorem step_enterRequest : Step s .request s.enterRequest := by
  unfold enterRequest
  by_cases room : (!s.phase.isOver && s.requests < requestCapacity) = true
  · rw [if_pos room]
    simp only [Bool.and_eq_true, Bool.not_eq_true', decide_eq_true_eq] at room
    exact .requested room.1 room.2
  · rw [if_neg room]
    exact .unrequested

theorem step_of_next? (fits : s.Fits) (computed : s.next? action = some s') :
    Step s action s' := by
  unfold next? at computed
  cases action with
  | machine => exact step_machine fits computed
  | driver => exact step_driver computed
  | driverQuits => exact step_driverQuits computed
  | connectEnds ok =>
      cases phase : s.phase with
      | attempting cutOff =>
          simp only [phase, Option.some.injEq] at computed
          exact computed ▸ step_connectEnds fits phase ok
      | fresh | abandoning | watching | stopped | crashed => simp [phase] at computed
  | disconnectEnds =>
      cases phase : s.phase with
      | abandoning cutOff delay =>
          simp only [phase, Option.some.injEq] at computed
          exact computed ▸ step_abandoned (.returned phase) (fits.faulted_of_abandoning phase)
      | fresh | attempting | watching | stopped | crashed => simp [phase] at computed
  | report e =>
      cases computed
      exact step_report e
  | request =>
      cases computed
      exact step_enterRequest
  | cancel =>
      cases computed
      exact .cancelled
  | pass millis =>
      simp only [Option.ite_none_right_eq_some, Option.some.injEq] at computed
      obtain ⟨waits, same⟩ := computed
      exact same ▸ .passed waits

/-! ### Runs -/

namespace Fits

/-- A machine that waits has begun. -/
theorem begun_of_watching (fits : s.Fits) {deadline : Option Nat}
    (watching : s.phase = .watching deadline) : s.session.state ≠ .idle := by
  rcases fits.active_or_faulted watching with active | faulted
  · rcases active with connecting | established
    · simp [connecting]
    · simp [established]
  · simp [faulted]

theorem step (fits : s.Fits) (stepped : Step s action s') : s'.Fits := by
  cases stepped with
  | connected | gaveUp => rfl
  | connectReturned attempting => exact fits.connecting_of_attempting attempting
  | crashed attempting => exact fits.connecting_of_attempting attempting
  | abandoned letsGo faulted => exact Or.inr faulted
  | established watching uncancelled queued connecting became => exact Or.inl (became ▸ rfl)
  | faulted => exact Or.inr rfl
  | stopped watching => exact fits.begun_of_watching watching
  | requestIgnored | eventIgnored | driverSleeps | driverWakes | driverAsks | driverEnds
  | driverQuits | reported | unreported | requested | unrequested | cancelled | passed => exact fits

end Fits

theorem run?_eq_foldlM {actions : List Action} : s.run? actions = actions.foldlM next? s :=
  Runs.eq_foldlM (fun _ => rfl) fun _ _ _ => rfl

theorem run?_append {before after : List Action} :
    s.run? (before ++ after) = (s.run? before).bind (·.run? after) := by
  simp [run?_eq_foldlM]

theorem Fits.run {actions : List Action} (fits : s.Fits) (ran : s.run? actions = some s') :
    s'.Fits := by
  rw [run?_eq_foldlM] at ran
  refine Runs.keeps Fits ?_ fits ran
  intro s action s' fits _ computed
  exact fits.step (step_of_next? fits computed)

/-- What every fair step keeps, every run that ends fairly keeps. -/
theorem run?_keeps (holds fair : System → Prop) {actions : List Action} (fits : s.Fits)
    (back : ∀ {s action s'}, Step s action s' → fair s' → fair s)
    (kept : ∀ {s action s'}, holds s → s.Fits → action ∈ actions → Step s action s' → fair s →
      fair s' → holds s')
    (first : holds s) (ran : s.run? actions = some s') (last : fair s') : holds s' := by
  rw [run?_eq_foldlM] at ran
  -- Steps are known as such only where session and phase fit, so this goes along with the run.
  have both : s'.Fits ∧ (fair s' → holds s') := by
    refine Runs.keeps (fun t => t.Fits ∧ (fair t → holds t)) ?_ ⟨fits, fun _ => first⟩ ran
    rintro s action s' ⟨fits, held⟩ member computed
    have stepped := step_of_next? fits computed
    refine ⟨fits.step stepped, fun fair => ?_⟩
    have before := back stepped fair
    exact kept (held before) fits member stepped before fair
  exact both.2 last

/-- What every step keeps, every run keeps. -/
theorem Fits.keeps (fits : s.Fits) (holds : System → Prop) {actions : List Action}
    (kept : ∀ {s action s'}, holds s → Step s action s' → holds s') (first : holds s)
    (ran : s.run? actions = some s') : holds s' := by
  refine run?_keeps holds (fun _ => True) fits (fun _ _ => trivial) ?_ first ran trivial
  intro s action s' held _ _ stepped _ _
  exact kept held stepped

/-! ### What a step leaves -/

namespace Step

theorem uncancelled (stepped : Step s action s') (uncancelled : s'.cancelled = false) :
    s.cancelled = false := by
  cases stepped <;> first | exact uncancelled | cases uncancelled

/-- Only a cancellation ends the machine. -/
theorem going (stepped : Step s action s') (going : s.phase ≠ .stopped)
    (uncancelled : s.cancelled = false) : s'.phase ≠ .stopped := by
  cases stepped with
  | connected | connectReturned | crashed | gaveUp | abandoned | established | faulted =>
      rintro ⟨⟩
  | stopped _ cancelled => simp [uncancelled] at cancelled
  | requestIgnored | eventIgnored | driverSleeps | driverWakes | driverAsks | driverEnds
  | driverQuits | reported | unreported | requested | unrequested | cancelled | passed =>
      exact going

/-- A step adds to the history and takes nothing away, and what it adds has its instant. -/
theorem history (stepped : Step s action s') :
    ∃ later, s'.history = later ++ s.history ∧ ∀ entry ∈ later, entry.1 = s.now := by
  cases stepped with
  | connected | abandoned => exact ⟨[_, _], rfl, by simp⟩
  | faulted => exact ⟨[_, _], rfl, by simp⟩
  | requestIgnored | gaveUp | established => exact ⟨[_], rfl, by simp⟩
  | connectReturned | crashed | eventIgnored | stopped | driverSleeps | driverWakes | driverAsks
  | driverEnds | driverQuits | reported | unreported | requested | unrequested | cancelled
  | passed => exact ⟨[], rfl, by simp⟩

end Step

end System

end BridgeWarden.Link

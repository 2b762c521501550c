import BridgeWarden.Proofs.Link.Events
import BridgeWarden.Proofs.Link.Reconnects
import BridgeWarden.Proofs.Link.Turns

/-!
The account of a run's calls and faults.

`deeds` is the account of a run's calls into the engine, with their ends, and of its faults, with
their causes. It is one regular attempt after another, and the beginning of one more at the end
(`Accounted`). So calls do not overlap, and between two attempts there is one fault, and a call to
let the attempt go exactly if the engine did not report the fault itself
(`one_fault_between_attempts`).
-/

namespace BridgeWarden.Link

/-- The call that the machine is inside of. -/
def Phase.call? : Phase → Option Call
  | .attempting _ => some .connect
  | .abandoning .. => some .disconnect
  | .fresh | .watching _ | .stopped | .crashed => none

/-- The call that a history tells of. -/
def Happening.call? : Happening → Option Call
  | .connect => some .connect
  | .disconnect => some .disconnect
  | .published _ | .scheduled .. | .requestIgnored => none

namespace System

variable {s s' : System} {action : Action} {actions : List Action} {negotiation : Span}

/-! ### The account of deeds -/

/-- The cause of the fault that an action leads to. -/
def cause (s : System) (action : Action) : Cause :=
  match action, s.phase, s.events with
  | .connectEnds _, _, _ => .refused
  | _, .attempting _, _ => .cutOff
  | _, _, .down reason :: _ => .reported reason
  | _, _, _ => .expired

/-- The call that an action ends. -/
def ended (s : System) (action : Action) : List Deed :=
  match action with
  | .machine | .connectEnds _ | .disconnectEnds => s.phase.call?.toList.map .ends
  | _ => []

/-- The fault that a step leads to. -/
def faults (s : System) (action : Action) (s' : System) : List Deed :=
  if s.session.state ≠ .faulted ∧ s'.session.state = .faulted then [.faults (s.cause action)]
  else []

/-- The calls that a step adds to the history. -/
def begun (s s' : System) : List Deed :=
  (s'.history.take (s'.history.length - s.history.length)).reverse.filterMap
    (·.2.call?.map .begins)

/-- What a step does with the engine and the session, and when. -/
def deeds (s : System) (action : Action) (s' : System) : List (Nat × Deed) :=
  (s.ended action ++ s.faults action s' ++ s.begun s').map (s.now, ·)

theorem begun_eq {later : List (Nat × Happening)} (grown : s'.history = later ++ s.history) :
    s.begun s' = later.reverse.filterMap (·.2.call?.map .begins) := by
  unfold begun
  rw [grown, List.length_append, Nat.add_sub_cancel, List.take_left]

theorem faults_of_same (same : s'.session = s.session) : s.faults action s' = [] := by
  unfold faults
  rw [same]
  exact if_neg fun both => both.1 both.2

theorem faults_of_unfaulted (unfaulted : s'.session.state ≠ .faulted) :
    s.faults action s' = [] := if_neg fun both => unfaulted both.2

theorem faults_of_fault (active : s.session.IsActive) (faulted : s'.session.state = .faulted) :
    s.faults action s' = [.faults (s.cause action)] :=
  if_pos ⟨fun faulted => Session.inactive_of_faulted faulted active, faulted⟩

/-- The deeds of a step, from the call that it ends, its fault and what it adds to the history. -/
theorem deeds_eq (later : List (Nat × Happening)) {ends fault : List Deed}
    {does : List (Nat × Deed)} (ended : s.ended action = ends)
    (faults : s.faults action s' = fault) (grown : s'.history = later ++ s.history)
    (all : (ends ++ fault ++ later.reverse.filterMap
      (fun entry => entry.2.call?.map Deed.begins)).map (s.now, ·) = does) :
    s.deeds action s' = does := by
  rw [deeds, ended, faults, begun_eq grown]
  exact all

theorem ended_of_attempting {cutOff : Nat} (attempting : s.phase = .attempting cutOff)
    (moved : action = .machine ∨ ∃ ok, action = .connectEnds ok) :
    s.ended action = [.ends .connect] := by
  rcases moved with rfl | ⟨ok, rfl⟩
  · simp [ended, attempting, Phase.call?]
  · simp [ended, attempting, Phase.call?]

theorem ended_of_watching {deadline : Option Nat} (watching : s.phase = .watching deadline) :
    s.ended .machine = [] := by
  simp [ended, watching, Phase.call?]

theorem TakesRequest.ended_eq {requests : Nat} (takes : TakesRequest s requests) :
    s.ended .machine = [] := by
  cases takes with
  | first fresh => simp [ended, fresh, Phase.call?]
  | queued watching => exact ended_of_watching watching

theorem LetsGo.ended_eq {delay : Span} (letsGo : LetsGo s action delay) :
    s.ended action = [.ends .disconnect] := by
  cases letsGo with
  | cutOff abandoning => simp [ended, abandoning, Phase.call?]
  | returned abandoning => simp [ended, abandoning, Phase.call?]

/-! ### What a step does -/

theorem deeds_of_connected {requests : Nat} (takes : TakesRequest s requests) (phase : Phase) :
    s.deeds .machine
      { s with
        session := { s.session with state := .connecting }, requests, phase
        history := (s.now, .connect) ::
          (s.now, .published { s.session with state := .connecting }.snapshot) :: s.history } =
      [(s.now, .begins .connect)] :=
  deeds_eq [_, _] takes.ended_eq (faults_of_unfaulted (by simp)) rfl rfl

theorem deeds_of_returned {cutOff : Nat} (attempting : s.phase = .attempting cutOff)
    (phase : Phase) (events : List Event) :
    s.deeds (.connectEnds true) { s with phase, events } = [(s.now, .ends .connect)] :=
  deeds_eq [] (ended_of_attempting attempting (Or.inr ⟨true, rfl⟩))
    (faults_of_same rfl) rfl rfl

theorem deeds_of_gaveUp (connecting : s.session.state = .connecting) (phase : Phase) :
    s.deeds action
      { s with session := s.session.fault, phase, history := (s.now, .disconnect) :: s.history } =
      (s.ended action ++ [Deed.faults (s.cause action), .begins .disconnect]).map (s.now, ·) := by
  refine deeds_eq [_] rfl (faults_of_fault (Or.inl connecting) rfl) rfl ?_
  rw [List.append_assoc]
  rfl

theorem deeds_of_abandoned {delay : Span} (letsGo : LetsGo s action delay) :
    s.deeds action (s.showFault delay) = [(s.now, .ends .disconnect)] :=
  deeds_eq [_, _] letsGo.ended_eq (faults_of_same rfl) rfl rfl

theorem deeds_of_faulted {deadline : Option Nat} (watching : s.phase = .watching deadline)
    {reason : String} {rest : List Event} (queued : s.events = .down reason :: rest)
    (active : s.session.IsActive) (delay : Span) :
    s.deeds .machine ({ s with session := s.session.fault, events := rest }.showFault delay) =
      [(s.now, .faults (.reported reason))] := by
  have cause : s.cause .machine = .reported reason := by simp [cause, watching, queued]
  rw [← cause]
  exact deeds_eq [_, _] (ended_of_watching watching) (faults_of_fault active rfl) rfl rfl

theorem deeds_of_established {deadline : Option Nat} (watching : s.phase = .watching deadline)
    {session : Session} (established : session.state = .established) (phase : Phase)
    (events : List Event) :
    s.deeds .machine
      { s with
        session, events, phase, history := (s.now, .published session.snapshot) :: s.history } =
      [] :=
  deeds_eq [_] (ended_of_watching watching)
    (faults_of_unfaulted (by simp [established])) rfl rfl

theorem deeds_of_requestIgnored {deadline : Option Nat} (watching : s.phase = .watching deadline)
    (requests : Nat) :
    s.deeds .machine { s with requests, history := (s.now, .requestIgnored) :: s.history } = [] :=
  deeds_eq [_] (ended_of_watching watching) (faults_of_same rfl) rfl rfl

/-- A step that neither ends a call nor changes the session nor adds to the history does nothing. -/
theorem deeds_of_still (unended : s.ended action = []) (same : s'.session = s.session)
    (grown : s'.history = s.history) : s.deeds action s' = [] :=
  deeds_eq [] unended (faults_of_same same) grown rfl

/-! ### The beginning of an attempt -/

/-- The deeds of an attempt of a link in this state, where the machine is inside no call and waits
for no deadline. -/
def Carries (state : State) (now : Nat) (rest : List (Nat × Deed)) : Prop :=
  match state with
  | .idle | .faulted => rest = []
  | .connecting | .established =>
      ∃ begun returned, rest = opening begun returned ∧ Timely begun returned ∧ returned ≤ now

/-- The deeds of the attempt under way, if one is. -/
def Unfinished (negotiation : Span) (phase : Phase) (state : State) (now : Nat)
    (rest : List (Nat × Deed)) : Prop :=
  match phase with
  | .attempting cutOff =>
      ∃ begun, rest = [(begun, .begins .connect)] ∧ cutOff = Clock.wake begun callBound ∧
        Timely begun now
  | .watching (some due) =>
      ∃ begun returned, rest = opening begun returned ∧ Timely begun returned ∧
        Clock.deadline? returned negotiation = some due ∧ returned ≤ now ∧ now ≤ due
  | .abandoning cutOff _ =>
      ∃ begun returned faulted cause,
        rest = opening begun returned ++
          [(faulted, .faults cause), (faulted, .begins .disconnect)] ∧
        cause.isLocal = true ∧
        (∀ released, Timely faulted released →
          Attempt.Regular negotiation ⟨begun, returned, faulted, cause, released⟩) ∧
        cutOff = Clock.wake faulted callBound ∧ Timely faulted now
  | .fresh | .watching none | .stopped | .crashed => Carries state now rest

theorem carries_of_active {state : State} {now begun returned : Nat}
    (active : state = .connecting ∨ state = .established) (called : Timely begun returned)
    (since : returned ≤ now) : Carries state now (opening begun returned) := by
  rcases active with rfl | rfl
  · exact ⟨begun, returned, rfl, called, since⟩
  · exact ⟨begun, returned, rfl, called, since⟩

section Unfinished

variable {rest : List (Nat × Deed)}
variable (unfinished : Unfinished negotiation s.phase s.session.state s.now rest)

include unfinished

theorem unfinished_of_attempting {cutOff : Nat} (attempting : s.phase = .attempting cutOff) :
    ∃ begun, rest = [(begun, .begins .connect)] ∧ cutOff = Clock.wake begun callBound ∧
      Timely begun s.now := by
  rw [attempting] at unfinished
  exact unfinished

theorem unfinished_of_deadline {due : Nat} (watching : s.phase = .watching (some due)) :
    ∃ begun returned, rest = opening begun returned ∧ Timely begun returned ∧
      Clock.deadline? returned negotiation = some due ∧ returned ≤ s.now ∧ s.now ≤ due := by
  rw [watching] at unfinished
  exact unfinished

theorem unfinished_of_active {deadline : Option Nat} (watching : s.phase = .watching deadline)
    (active : s.session.IsActive) :
    ∃ begun returned, rest = opening begun returned ∧ Timely begun returned ∧
      returned ≤ s.now := by
  rw [watching] at unfinished
  cases deadline with
  | some due =>
      obtain ⟨begun, returned, same, called, -, since, -⟩ := unfinished
      exact ⟨begun, returned, same, called, since⟩
  | none =>
      have carries : Carries s.session.state s.now rest := unfinished
      rcases active with connecting | established
      · rw [connecting] at carries
        exact carries
      · rw [established] at carries
        exact carries

/-- A link that may be tried has no attempt under way. -/
theorem TakesRequest.unfinished_eq {requests : Nat} (takes : TakesRequest s requests)
    (fits : s.Fits) (free : s.session.state = .idle ∨ s.session.state = .faulted) : rest = [] := by
  have carries : Carries s.session.state s.now rest := by
    cases takes with
    | first fresh =>
        rw [fresh] at unfinished
        exact unfinished
    | queued watching =>
        rcases free with idle | faulted
        · exact (fits.begun_of_watching watching idle).elim
        · rw [fits.unhurried_of_faulted watching faulted] at unfinished
          exact unfinished
  rcases free with idle | faulted
  · rw [idle] at carries
    exact carries
  · rw [faulted] at carries
    exact carries

theorem unfinished_of_letsGo {delay : Span} (letsGo : LetsGo s action delay) :
    ∃ begun returned faulted cause,
      rest = opening begun returned ++ [(faulted, .faults cause), (faulted, .begins .disconnect)] ∧
      cause.isLocal = true ∧
      (∀ released, Timely faulted released →
        Attempt.Regular negotiation ⟨begun, returned, faulted, cause, released⟩) ∧
      Timely faulted s.now := by
  obtain ⟨cutOff, abandoning⟩ : ∃ cutOff, s.phase = .abandoning cutOff delay := by
    cases letsGo with
    | cutOff abandoning => exact ⟨_, abandoning⟩
    | returned abandoning => exact ⟨_, abandoning⟩
  rw [abandoning] at unfinished
  obtain ⟨begun, returned, faulted, cause, same, found, regular, -, timely⟩ := unfinished
  exact ⟨begun, returned, faulted, cause, same, found, regular, timely⟩

end Unfinished

/-- While the machine waits or calls, time does not go beyond the instant at which it gives up. -/
theorem unfinished_passed {rest : List (Nat × Deed)}
    (unfinished : Unfinished negotiation s.phase s.session.state s.now rest) {millis : Nat}
    (waits : s.canWait millis = true) :
    Unfinished negotiation s.phase s.session.state (s.now + millis) rest := by
  have within : ∀ due, s.phase.deadline? = some due → s.now + millis ≤ due :=
    fun due => le_of_canWait waits
  have carries : ∀ state, Carries state s.now rest → Carries state (s.now + millis) rest := by
    intro state
    cases state with
    | idle | faulted => exact id
    | connecting | established =>
        rintro ⟨begun, returned, same, called, since⟩
        exact ⟨begun, returned, same, called, Nat.le_add_right_of_le since⟩
  cases phase : s.phase with
  | attempting cutOff =>
      obtain ⟨begun, same, rfl, since, -⟩ := unfinished_of_attempting unfinished phase
      exact ⟨begun, same, rfl, Nat.le_add_right_of_le since, within _ (phase ▸ rfl)⟩
  | abandoning cutOff delay =>
      rw [phase] at unfinished
      obtain ⟨begun, returned, faulted, cause, same, found, regular, rfl, since, -⟩ := unfinished
      exact ⟨begun, returned, faulted, cause, same, found, regular, rfl,
        Nat.le_add_right_of_le since, within _ (phase ▸ rfl)⟩
  | watching deadline =>
      cases deadline with
      | some due =>
          obtain ⟨begun, returned, same, called, told, since, -⟩ :=
            unfinished_of_deadline unfinished phase
          exact ⟨begun, returned, same, called, told, Nat.le_add_right_of_le since,
            within due (phase ▸ rfl)⟩
      | none =>
          rw [phase] at unfinished
          exact carries _ unfinished
  | fresh | stopped | crashed =>
      rw [phase] at unfinished
      exact carries _ unfinished

/-- The machine gives up an attempt for a cause that fits its instants. -/
theorem unfinished_gaveUp {rest : List (Nat × Deed)}
    (unfinished : Unfinished negotiation s.phase s.session.state s.now rest)
    (givesUp : GivesUp s action) :
    ∃ begun returned cause,
      rest ++
          (s.ended action ++ [Deed.faults (s.cause action), .begins .disconnect]).map (s.now, ·) =
        opening begun returned ++ [(s.now, .faults cause), (s.now, .begins .disconnect)] ∧
      cause.isLocal = true ∧
      ∀ released, Timely s.now released →
        Attempt.Regular negotiation ⟨begun, returned, s.now, cause, released⟩ := by
  cases givesUp with
  | cutOff attempting spent =>
      obtain ⟨begun, rfl, rfl, called⟩ := unfinished_of_attempting unfinished attempting
      have cause : s.cause .machine = .cutOff := by simp [cause, attempting]
      have reached : s.now = Clock.wake begun callBound := Nat.le_antisymm called.2 spent
      rw [ended_of_attempting attempting (Or.inl rfl), cause, reached]
      exact ⟨begun, _, .cutOff, rfl, rfl, fun released letGo => .of_cutOff letGo⟩
  | refused attempting =>
      obtain ⟨begun, rfl, rfl, called⟩ := unfinished_of_attempting unfinished attempting
      have cause : s.cause (.connectEnds false) = .refused := by simp [cause]
      rw [ended_of_attempting attempting (Or.inr ⟨false, rfl⟩), cause]
      exact ⟨begun, s.now, .refused, rfl, rfl, fun released letGo => .of_refused called letGo⟩
  | expired watching _ quiet _ reached =>
      obtain ⟨begun, returned, rfl, called, told, since, ahead⟩ :=
        unfinished_of_deadline unfinished watching
      have cause : s.cause .machine = .expired := by simp [cause, watching, quiet]
      rw [ended_of_watching watching, cause]
      rw [Nat.le_antisymm reached ahead] at told
      exact ⟨begun, returned, .expired, rfl, rfl,
        fun released letGo => .of_expired called told letGo⟩

/-- An attempt goes on, or ends as a regular one. -/
theorem unfinished_step {rest : List (Nat × Deed)} (fits : s.Fits)
    (allowed : s.negotiation = negotiation)
    (unfinished : Unfinished negotiation s.phase s.session.state s.now rest)
    (stepped : Step s action s') :
    Unfinished negotiation s'.phase s'.session.state s'.now (rest ++ s.deeds action s') ∨
      ∃ a, Attempt.Regular negotiation a ∧ rest ++ s.deeds action s' = a.deeds ∧
        Unfinished negotiation s'.phase s'.session.state s'.now [] := by
  have still : s.deeds action s' = [] →
      Unfinished negotiation s'.phase s'.session.state s'.now rest →
      Unfinished negotiation s'.phase s'.session.state s'.now (rest ++ s.deeds action s') := by
    intro same unfinished
    rwa [same, List.append_nil]
  cases stepped with
  | connected takes free =>
      rw [takes.unfinished_eq unfinished fits free, deeds_of_connected takes]
      exact Or.inl ⟨s.now, rfl, rfl, .at_once _⟩
  | connectReturned attempting told =>
      obtain ⟨begun, rfl, rfl, called⟩ := unfinished_of_attempting unfinished attempting
      rw [deeds_of_returned attempting]
      rw [allowed] at told
      refine Or.inl ⟨begun, s.now, rfl, called, told, Nat.le_refl _, ?_⟩
      rw [Clock.eq_of_deadline? told]
      exact Nat.le_add_right _ _
  | crashed attempting =>
      obtain ⟨begun, rfl, rfl, called⟩ := unfinished_of_attempting unfinished attempting
      have connecting := fits.connecting_of_attempting attempting
      rw [deeds_of_returned attempting]
      exact Or.inl (carries_of_active (Or.inl connecting) called (Nat.le_refl _))
  | gaveUp givesUp connecting =>
      rw [deeds_of_gaveUp connecting]
      obtain ⟨begun, returned, cause, same, found, regular⟩ := unfinished_gaveUp unfinished givesUp
      exact Or.inl ⟨begun, returned, s.now, cause, same, found, regular, rfl, .at_once _⟩
  | abandoned letsGo faulted =>
      rw [deeds_of_abandoned letsGo]
      obtain ⟨begun, returned, given, cause, rfl, found, regular, letGo⟩ :=
        unfinished_of_letsGo unfinished letsGo
      refine Or.inr ⟨⟨begun, returned, given, cause, s.now⟩, regular s.now letGo, ?_, ?_⟩
      · simp [Attempt.deeds, Attempt.closing, found]
      · have carries : Carries s.session.state s.now [] := by rw [faulted]; rfl
        exact carries
  | established watching uncancelled queued connecting became =>
      obtain ⟨begun, returned, rfl, called, since⟩ :=
        unfinished_of_active unfinished watching (Or.inl connecting)
      have established : Session.state _ = .established := congrArg Session.state became
      rw [deeds_of_established watching established, List.append_nil]
      exact Or.inl (carries_of_active (Or.inr established) called since)
  | faulted watching uncancelled queued active =>
      obtain ⟨begun, returned, rfl, called, since⟩ :=
        unfinished_of_active unfinished watching active
      rw [deeds_of_faulted watching queued active]
      exact Or.inr ⟨_, .of_reported called since _, rfl, rfl⟩
  | stopped watching =>
      refine Or.inl (still (deeds_of_still (ended_of_watching watching) rfl rfl) ?_)
      rcases fits.active_or_faulted watching with active | faulted
      · obtain ⟨begun, returned, rfl, called, since⟩ :=
          unfinished_of_active unfinished watching active
        exact carries_of_active active called since
      · rw [fits.unhurried_of_faulted watching faulted] at unfinished
        exact unfinished
  | passed waits =>
      exact Or.inl (still (deeds_of_still rfl rfl rfl) (unfinished_passed unfinished waits))
  | requestIgnored watching =>
      exact Or.inl (still (deeds_of_requestIgnored watching _) unfinished)
  | eventIgnored watching =>
      exact Or.inl (still (deeds_of_still (ended_of_watching watching) rfl rfl) unfinished)
  | driverSleeps | driverWakes | driverAsks | driverEnds | driverQuits | reported | unreported
  | requested | unrequested | cancelled =>
      exact Or.inl (still (deeds_of_still rfl rfl rfl) unfinished)

/-- The attempt under way can end as a regular one. -/
theorem unfinished_inTurn {rest : List (Nat × Deed)}
    (unfinished : Unfinished negotiation s.phase s.session.state s.now rest) :
    InTurn negotiation rest := by
  have reportable : ∀ begun returned, rest = opening begun returned → Timely begun returned →
      InTurn negotiation rest := by
    rintro begun returned rfl called
    exact .single (.of_reported called (Nat.le_refl _) "") (List.prefix_append _ _)
  have carried : Carries s.session.state s.now rest → InTurn negotiation rest := by
    intro carries
    cases state : s.session.state with
    | idle | faulted =>
        rw [state] at carries
        cases carries
        exact .nil negotiation
    | connecting | established =>
        rw [state] at carries
        obtain ⟨begun, returned, same, called, -⟩ := carries
        exact reportable begun returned same called
  cases phase : s.phase with
  | attempting cutOff =>
      obtain ⟨begun, rfl, -⟩ := unfinished_of_attempting unfinished phase
      exact .single (.of_cutOff (.at_once _)) ⟨_, rfl⟩
  | abandoning cutOff delay =>
      rw [phase] at unfinished
      obtain ⟨begun, returned, faulted, cause, rfl, found, regular, -⟩ := unfinished
      refine .single (regular faulted (.at_once _)) ?_
      simp [Attempt.deeds, Attempt.closing, found]
  | watching deadline =>
      cases deadline with
      | some due =>
          obtain ⟨begun, returned, same, called, -⟩ := unfinished_of_deadline unfinished phase
          exact reportable begun returned same called
      | none =>
          rw [phase] at unfinished
          exact carried unfinished
  | fresh | stopped | crashed =>
      rw [phase] at unfinished
      exact carried unfinished

/-! ### One attempt after another -/

/-- The deeds are those of one regular attempt after another, and of the one under way; and each
failure that is counted is a fault among them. -/
structure Accounted (negotiation : Span) (account : List (Nat × Deed)) (s : System) : Prop where
  allowed : s.negotiation = negotiation
  attempts : ∃ (attempts : List Attempt) (rest : List (Nat × Deed)),
    account = attempts.flatMap Attempt.deeds ++ rest ∧
    (∀ a ∈ attempts, Attempt.Regular negotiation a) ∧
    Unfinished negotiation s.phase s.session.state s.now rest
  counted : s.session.consecutiveFailures ≤ faultsIn account

theorem Step.negotiation_eq (stepped : Step s action s') : s'.negotiation = s.negotiation := by
  cases stepped <;> rfl

/-- A failure is counted for a fault. -/
theorem Step.counted (stepped : Step s action s') :
    s'.session.consecutiveFailures ≤
      s.session.consecutiveFailures + faultsIn (s.deeds action s') := by
  have fault : s.session.fault.consecutiveFailures ≤ s.session.consecutiveFailures + 1 :=
    Nat.min_le_left _ _
  cases stepped with
  | gaveUp givesUp connecting =>
      rw [deeds_of_gaveUp connecting]
      refine Nat.le_trans fault (Nat.add_le_add_left ?_ _)
      simp [faultsIn, Deed.isFault]
  | faulted watching uncancelled queued active =>
      rw [deeds_of_faulted watching queued active]
      exact fault
  | established _ _ _ _ became =>
      rw [became]
      exact Nat.zero_le _
  | connected | requestIgnored | connectReturned | crashed | abandoned | eventIgnored | stopped
  | driverSleeps | driverWakes | driverAsks | driverEnds | driverQuits | reported | unreported
  | requested | unrequested | cancelled | passed => exact Nat.le_add_right _ _

namespace Accounted

variable {account : List (Nat × Deed)}

theorem new (capacity : Nat) (backoff : Backoff) (negotiation : Span) :
    Accounted negotiation [] (new capacity backoff negotiation) :=
  ⟨rfl, ⟨[], [], rfl, by simp, rfl⟩, Nat.le_refl _⟩

theorem step (accounted : Accounted negotiation account s) (fits : s.Fits)
    (stepped : Step s action s') :
    Accounted negotiation (account ++ s.deeds action s') s' := by
  obtain ⟨allowed, ⟨attempts, rest, rfl, regular, unfinished⟩, counted⟩ := accounted
  refine ⟨stepped.negotiation_eq.trans allowed, ?_, ?_⟩
  · rcases unfinished_step fits allowed unfinished stepped with still | ⟨a, fair, whole, free⟩
    · exact ⟨attempts, _, List.append_assoc _ _ _, regular, still⟩
    · refine ⟨attempts ++ [a], [], ?_, ?_, free⟩
      · rw [List.append_assoc, whole]
        simp
      · exact List.forall_mem_append.mpr ⟨regular, by simpa using fair⟩
  · have more := stepped.counted
    simp only [faultsIn, List.countP_append] at counted more ⊢
    omega

end Accounted

/-- The deeds of a run from the beginning. -/
def ledger (capacity : Nat) (backoff : Backoff) (negotiation : Span) (actions : List Action) :
    List (Nat × Deed) :=
  (new capacity backoff negotiation).along deeds actions

theorem accounted_of_run (capacity : Nat) (backoff : Backoff) (negotiation : Span)
    (ran : (new capacity backoff negotiation).run? actions = some s) :
    Accounted negotiation (ledger capacity backoff negotiation actions) s := by
  have accounted := along_keeps deeds (Accounted negotiation)
    (fun accounted fits stepped => accounted.step fits stepped) (fits_new ..) (.new _ backoff _) ran
  rwa [List.nil_append] at accounted

theorem ledger_inTurn (capacity : Nat) (backoff : Backoff) (negotiation : Span)
    (ran : (new capacity backoff negotiation).run? actions = some s) :
    InTurn negotiation (ledger capacity backoff negotiation actions) := by
  obtain ⟨attempts, rest, same, regular, unfinished⟩ :=
    (accounted_of_run capacity backoff negotiation ran).attempts
  rw [same]
  exact .after regular (unfinished_inTurn unfinished)

/-- From one call of `connect` to the next, the machine goes through one regular attempt: there is
one fault, and one call of `disconnect` if the machine found the fault by itself, and none if the
engine reported it. Every call is over before anything else is done, and what is counted as failures
in a row is no more than the attempts were. -/
theorem one_fault_between_attempts (capacity : Nat) (backoff : Backoff) (negotiation : Span)
    (ran : (new capacity backoff negotiation).run? actions = some s) :
    List.IsChain (fun one next => ∀ call, one.2 = .begins call → next.2 = .ends call)
      (ledger capacity backoff negotiation actions) ∧
    (∀ before mid after first second,
      ledger capacity backoff negotiation actions =
        before ++ (first, .begins .connect) :: (mid ++ (second, .begins .connect) :: after) →
      (∀ entry ∈ mid, entry.2 ≠ .begins .connect) →
      ∃ a, Attempt.Regular negotiation a ∧ (first, .begins .connect) :: mid = a.deeds ∧
        faultsIn mid = 1 ∧ (a.faulted, .faults a.cause) ∈ mid ∧
        callsIn .disconnect mid = if a.cause.isLocal then 1 else 0) ∧
    s.session.consecutiveFailures ≤
      callsIn .connect (ledger capacity backoff negotiation actions) := by
  obtain ⟨attempts, regular, leads⟩ := ledger_inTurn capacity backoff negotiation ran
  refine ⟨?_, ?_, ?_⟩
  · refine List.IsChain.prefix (Attempt.isChain (fun a _ => a.calls_apart) ?_) leads
    intro one next past _ call begins
    exact (past call begins).elim
  · intro before mid after first second split none
    obtain ⟨more, whole⟩ := leads
    rw [split, List.append_assoc, List.cons_append, List.append_assoc] at whole
    obtain ⟨a, member, same⟩ := Attempt.between whole.symm none
    obtain ⟨-, faults, calls⟩ := a.counts
    have fault : (a.faulted, Deed.faults a.cause) ∈ a.deeds := by
      simp [Attempt.deeds, Attempt.closing]
    rw [← same] at faults calls fault
    refine ⟨a, regular a member, same, ?_, ?_, ?_⟩
    · simpa [faultsIn, Deed.isFault] using faults
    · simpa using fault
    · simpa [callsIn] using calls
  · exact Nat.le_trans (accounted_of_run _ _ _ ran).counted (Attempt.faults_le leads)

/-- An attempt is refused, and the next one begins two seconds after the engine has let it go. -/
def refusedThenRetried : List Action :=
  [.machine, .connectEnds false, .pass 3, .disconnectEnds, .driver, .pass 2000, .driver, .driver,
    .machine]

/-- Between its two attempts there are one fault and one call of `disconnect`. -/
theorem refusal_let_go :
    ∃ s, (new 16 twoToThirty (.ofSecs 60)).run? refusedThenRetried = some s ∧
      ledger 16 twoToThirty (.ofSecs 60) refusedThenRetried =
        [(0, .begins .connect), (0, .ends .connect), (0, .faults .refused),
          (0, .begins .disconnect), (3, .ends .disconnect), (2003, .begins .connect)] ∧
      (∃ a, Attempt.Regular (.ofSecs 60) a ∧ a.cause.isLocal = true ∧
        [(0, .begins .connect), (0, .ends .connect), (0, .faults .refused),
          (0, .begins .disconnect), (3, .ends .disconnect)] = a.deeds) ∧
      s.session.consecutiveFailures ≤ callsIn .connect
        (ledger 16 twoToThirty (.ofSecs 60) refusedThenRetried) := by
  obtain ⟨s, ran⟩ : ∃ s, (new 16 twoToThirty (.ofSecs 60)).run? refusedThenRetried = some s :=
    ⟨_, rfl⟩
  have written : ledger 16 twoToThirty (.ofSecs 60) refusedThenRetried =
      [(0, .begins .connect), (0, .ends .connect), (0, .faults .refused), (0, .begins .disconnect),
        (3, .ends .disconnect), (2003, .begins .connect)] := by decide
  obtain ⟨-, between, counted⟩ := one_fault_between_attempts _ _ _ ran
  obtain ⟨a, regular, same, -, fault, -⟩ := between [] [(0, .ends .connect), (0, .faults .refused),
    (0, .begins .disconnect), (3, .ends .disconnect)] [] 0 2003 written (by decide)
  refine ⟨s, ran, written, ⟨a, regular, ?_, same⟩, counted⟩
  simp only [List.mem_cons, Prod.mk.injEq, Deed.faults.injEq, reduceCtorEq, and_false, false_or,
    or_false, List.not_mem_nil] at fault
  rw [fault.2]
  rfl

end System

end BridgeWarden.Link

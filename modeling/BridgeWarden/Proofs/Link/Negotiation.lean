import BridgeWarden.Proofs.Link.Waiting

/-!
The end of a negotiation.

An attempt can take the time of one call, that of the negotiation, and that of one more call
(`settledBy`). At every state of a run the machine's deadline leaves enough of that time
(`Hurried`), so readers are shown in time that the link is up or has faulted; and as the deadline
comes by itself, they are shown it whatever the engine does. A negotiation that the machine hears
nothing of faults neither before nor after its deadline (`Expires`), and an event that is queued
then is taken first. All of this is put together in `negotiation_ends`.

Requests may be queued at the instant of the deadline without end, and each is passed over before
the fault. What is said of the tasks' own steps is said of those that nobody else gets in between.
-/

namespace BridgeWarden.Link

/-- The instant by which an attempt is settled: a call, the negotiation and another call after it
began. -/
def settledBy (negotiation : Span) (begun : Nat) : Nat :=
  begun + callBound.ceilMillis + negotiation.ceilMillis + callBound.ceilMillis

/-- The clock can tell the instant by which an attempt is settled. -/
def Foreseen (negotiation : Span) (begun : Nat) : Prop :=
  (Clock.deadline? (begun + callBound.ceilMillis + negotiation.ceilMillis) callBound).isSome = true

/-- How long an attempt can go on after the machine's deadline. -/
def Phase.left (negotiation : Span) : Phase → Nat
  | .attempting _ => negotiation.ceilMillis + callBound.ceilMillis
  | .watching _ => callBound.ceilMillis
  | .fresh | .abandoning .. | .stopped | .crashed => 0

/-- The machine has ended, or its deadline leaves an attempt enough time to be settled. -/
def Hurried (negotiation : Span) (begun : Nat) (phase : Phase) (now : Nat) : Prop :=
  phase = .stopped ∨ ∃ due, phase.deadline? = some due ∧ now ≤ due ∧
    due + phase.left negotiation ≤ settledBy negotiation begun

/-- Readers who were shown an attempt are shown in time that it is settled. -/
def Answers (negotiation : Span) (one next : Nat × Snapshot) : Prop :=
  one.2.state = .connecting → Foreseen negotiation one.1 →
    (next.2.state = .established ∨ next.2.state = .faulted) ∧
      next.1 ≤ settledBy negotiation one.1

namespace Foreseen

variable {negotiation : Span} {begun now : Nat}

/-- A call that begins early enough is cut off in time. -/
theorem wake_eq (foreseen : Foreseen negotiation begun)
    (early : now ≤ begun + callBound.ceilMillis + negotiation.ceilMillis) :
    Clock.wake now callBound = now + callBound.ceilMillis :=
  Clock.wake_of_isSome (Clock.deadline?_isSome_mono early (Nat.le_refl _) foreseen)

/-- The end of a negotiation that begins early enough can be told. -/
theorem told (foreseen : Foreseen negotiation begun) (early : now ≤ begun + callBound.ceilMillis) :
    (Clock.deadline? now negotiation).isSome :=
  Clock.deadline?_isSome_mono early (Nat.le_refl _) (Clock.deadline?_isSome_of_after foreseen)

end Foreseen

namespace System

variable {s s' : System} {action : Action} {actions : List Action} {negotiation : Span}
variable {begun : Nat}

/-! ### In time -/

/-- The engine has enough time to let go of an attempt that the machine gives up. -/
theorem GivesUp.hurried (givesUp : GivesUp s action) (foreseen : Foreseen negotiation begun)
    (hurried : Hurried negotiation begun s.phase s.now) (delay : Span) :
    Hurried negotiation begun (.abandoning (Clock.wake s.now callBound) delay) s.now := by
  rcases hurried with stopped | ⟨due, deadline, ahead, within⟩
  · have running := givesUp.running
    simp [stopped, Phase.isOver] at running
  · refine Or.inr ⟨_, rfl, Clock.le_wake _ _, ?_⟩
    unfold settledBy at within ⊢
    have early : s.now ≤ begun + callBound.ceilMillis + negotiation.ceilMillis := by
      cases givesUp with
      | cutOff attempting | refused attempting =>
          simp only [attempting, Phase.left] at within
          omega
      | expired watching =>
          simp only [watching, Phase.left] at within
          omega
    rw [foreseen.wake_eq early, Phase.left]
    omega

/-- While the phase stays the same, a hurried machine stays hurried as long as time goes no further
than its deadline. -/
theorem hurried_passed (hurried : Hurried negotiation begun s.phase s.now) {millis : Nat}
    (waits : s.canWait millis = true) :
    Hurried negotiation begun s.phase (s.now + millis) := by
  rcases hurried with stopped | ⟨due, deadline, -, left⟩
  · exact Or.inl stopped
  · exact Or.inr ⟨due, deadline, le_of_canWait waits deadline, left⟩

/-- Readers are shown in time that an attempt is settled, and the machine's deadline leaves enough
time for the one that they have been shown last. -/
structure Prompt (negotiation : Span) (s : System) : Prop where
  allowed : s.negotiation = negotiation
  answered : List.IsChain (Answers negotiation) (publications s.history)
  hurried : ∀ entry ∈ (publications s.history).getLast?, entry.2.state = .connecting →
    Foreseen negotiation entry.1 → Hurried negotiation entry.1 s.phase s.now

namespace Prompt

theorem new (capacity : Nat) (backoff : Backoff) (negotiation : Span) :
    Prompt negotiation (new capacity backoff negotiation) :=
  ⟨rfl, List.isChain_nil, by rintro entry ⟨⟩⟩

/-- A step that shows readers nothing leaves an attempt enough time. -/
theorem still (prompt : Prompt negotiation s) (stepped : Step s action s')
    (same : publications s'.history = publications s.history)
    (on : ∀ begun, Foreseen negotiation begun → Hurried negotiation begun s.phase s.now →
      Hurried negotiation begun s'.phase s'.now) : Prompt negotiation s' := by
  refine ⟨stepped.negotiation_eq.trans prompt.allowed, same ▸ prompt.answered, ?_⟩
  intro entry last connecting foreseen
  rw [same] at last
  exact on entry.1 foreseen (prompt.hurried entry last connecting foreseen)

/-- A step that shows readers a copy of the session settles the attempt that they were shown last,
if there was one. -/
theorem publish (prompt : Prompt negotiation s) (stepped : Step s action s') (copy : Snapshot)
    (grown : publications s'.history = publications s.history ++ [(s.now, copy)])
    (settles : ∀ begun, Hurried negotiation begun s.phase s.now →
      (copy.state = .established ∨ copy.state = .faulted) ∧
        s.now ≤ settledBy negotiation begun)
    (begins : copy.state = .connecting → Foreseen negotiation s.now →
      Hurried negotiation s.now s'.phase s'.now) : Prompt negotiation s' := by
  refine ⟨stepped.negotiation_eq.trans prompt.allowed, ?_, ?_⟩
  · rw [grown]
    refine prompt.answered.append (List.isChain_singleton _) ?_
    intro one last next first connecting foreseen
    cases first
    exact settles one.1 (prompt.hurried one last connecting foreseen)
  · intro entry last
    rw [grown, List.getLast?_append_of_ne_nil _ (List.cons_ne_nil _ _),
      List.getLast?_singleton] at last
    cases last
    exact begins

/-- A machine that takes up a request is not hurried. -/
theorem unhurried_of_free {requests : Nat} (takes : TakesRequest s requests) (fits : s.Fits)
    (free : s.session.state = .idle ∨ s.session.state = .faulted) :
    ¬ Hurried negotiation begun s.phase s.now := by
  rintro (stopped | ⟨due, deadline, -, -⟩)
  · have running := takes.running
    simp [stopped, Phase.isOver] at running
  · cases takes with
    | first fresh =>
        rw [fresh] at deadline
        cases deadline
    | queued watching =>
        rw [watching] at deadline
        cases deadline
        have connecting := fits.connecting_of_deadline watching
        simp [connecting] at free

/-- A hurried machine that waits has not gone beyond the end of the negotiation. -/
theorem now_le (hurried : Hurried negotiation begun s.phase s.now)
    (running : s.phase.isOver = false) : s.now ≤ settledBy negotiation begun := by
  rcases hurried with stopped | ⟨due, -, ahead, left⟩
  · simp [stopped, Phase.isOver] at running
  · exact Nat.le_trans ahead (Nat.le_trans (Nat.le_add_right _ _) left)

theorem step (prompt : Prompt negotiation s) (fits : s.Fits) (stepped : Step s action s') :
    Prompt negotiation s' := by
  have whole := stepped
  cases stepped with
  | connected takes free =>
      refine prompt.publish whole _ rfl ?_ ?_
      · intro begun hurried
        exact (unhurried_of_free takes fits free hurried).elim
      · intro _ foreseen
        refine Or.inr ⟨_, rfl, Clock.le_wake _ _, ?_⟩
        rw [foreseen.wake_eq (by omega)]
        simp only [Phase.left, settledBy]
        omega
  | connectReturned attempting told =>
      refine prompt.still whole rfl ?_
      rintro begun foreseen (stopped | ⟨cutOff, deadline, ahead, left⟩)
      · simp [stopped] at attempting
      · have due := Clock.eq_of_deadline? told
        rw [attempting] at deadline left
        cases deadline
        simp only [Phase.left, prompt.allowed] at left due
        refine Or.inr ⟨_, rfl, ?_, ?_⟩
        · simp only
          omega
        · simp only [Phase.left]
          omega
  | crashed attempting untold =>
      refine prompt.still whole rfl ?_
      rintro begun foreseen (stopped | ⟨cutOff, deadline, ahead, left⟩)
      · simp [stopped] at attempting
      · rw [attempting] at deadline left
        cases deadline
        simp only [Phase.left, settledBy] at left
        have told : (Clock.deadline? s.now negotiation).isSome := foreseen.told (by omega)
        rw [prompt.allowed] at untold
        simp [untold] at told
  | gaveUp givesUp connecting =>
      refine prompt.still whole rfl ?_
      intro begun foreseen hurried
      exact givesUp.hurried foreseen hurried _
  | abandoned letsGo faulted =>
      refine prompt.publish whole s.session.snapshot ?_ ?_ ?_
      · simp [showFault, publications]
      · intro begun hurried
        exact ⟨Or.inr faulted, now_le hurried letsGo.running⟩
      · intro connecting
        have same : s.session.state = .connecting := connecting
        simp [faulted] at same
  | established watching uncancelled queued connecting became =>
      have running : s.phase.isOver = false := by rw [watching]; rfl
      subst became
      refine prompt.publish whole _ rfl ?_ ?_
      · intro begun hurried
        exact ⟨Or.inl rfl, now_le hurried running⟩
      · rintro ⟨⟩
  | faulted watching uncancelled queued active =>
      have running : s.phase.isOver = false := by rw [watching]; rfl
      refine prompt.publish whole s.session.fault.snapshot ?_ ?_ ?_
      · simp [showFault, publications]
      · intro begun hurried
        exact ⟨Or.inr rfl, now_le hurried running⟩
      · rintro ⟨⟩
  | stopped watching cancelled => exact prompt.still whole rfl fun _ _ _ => Or.inl rfl
  | passed waits =>
      exact prompt.still whole rfl fun _ _ hurried => hurried_passed hurried waits
  | requestIgnored | eventIgnored | driverSleeps | driverWakes | driverAsks | driverEnds
  | driverQuits | reported | unreported | requested | unrequested | cancelled =>
      exact prompt.still whole rfl fun _ _ => id

theorem run (prompt : Prompt negotiation s) (fits : s.Fits) (ran : s.run? actions = some s') :
    Prompt negotiation s' := by
  induction actions generalizing s with
  | nil =>
      cases ran
      exact prompt
  | cons action rest ih =>
      obtain ⟨middle, computed, ran⟩ := run?_cons.mp ran
      have stepped := step_of_next? fits computed
      exact ih (prompt.step fits stepped) (fits.step stepped) ran

/-- What readers are shown after an attempt. -/
theorem answers (prompt : Prompt negotiation s) {earlier after : List (Nat × Snapshot)}
    {one next : Nat × Snapshot}
    (shown : publications s.history = earlier ++ one :: next :: after) :
    Answers negotiation one next := by
  have chain := prompt.answered
  rw [shown, List.isChain_append_cons_cons] at chain
  exact chain.2.1

end Prompt

/-! ### Events come first -/

/-- The machine takes an event that is queued during a negotiation, whatever the time is, and with
it the negotiation is over. -/
theorem next_of_queued (fits : s.Fits) {due : Nat} (watching : s.phase = .watching (some due))
    (uncancelled : s.cancelled = false) {e : Event} {rest : List Event}
    (queued : s.events = e :: rest) :
    ∃ s', s.next? .machine = some s' ∧ s'.events = rest ∧ s'.session = (s.session.handle e).1 ∧
      (s'.session.state = .established ∨ s'.session.state = .faulted) ∧
      (∀ entry ∈ s.deeds .machine s', entry.2 ≠ .faults .expired) ∧
      publications s'.history = publications s.history ++ [(s.now, s'.session.snapshot)] := by
  have connecting := fits.connecting_of_deadline watching
  have computed : s.next? .machine = some (s.handleEvent (some due) e rest) := by
    simp [next?, machine?, watching, uncancelled, queued]
  cases e with
  | down reason =>
      have active : s.session.IsActive := Or.inl connecting
      rw [handleEvent_down active] at computed
      refine ⟨_, computed, rfl, ?_, Or.inr rfl, ?_, ?_⟩
      · rw [Session.handle_down active]
        rfl
      · rw [deeds_of_faulted watching queued active]
        simp
      · simp [showFault, publications]
  | up address peer netmask =>
      rw [handleEvent_up connecting _ rfl] at computed
      refine ⟨_, computed, rfl, ?_, Or.inl rfl, ?_, rfl⟩
      · rw [Session.handle_up connecting]
      · rw [deeds_of_established watching rfl]
        simp

/-! ### The attempt is settled by itself -/

/-- Whatever the engine does, readers of a machine that is hurried are shown something more. -/
theorem shows_next (fits : s.Fits) (going : s.phase ≠ .stopped) (uncancelled : s.cancelled = false)
    (hurried : Hurried negotiation begun s.phase s.now) :
    ∃ s' next, Leads Action.isOwn s s' ∧
      publications s'.history = publications s.history ++ [next] := by
  obtain ⟨due, deadline, ahead, -⟩ := hurried.resolve_left going
  by_cases quiet : ∀ deadline, s.phase = .watching deadline → s.events = []
  · have idles : s.Idles due := ⟨deadline, fits, uncancelled, ahead, quiet⟩
    rcases idles.state with connecting | faulted
    · obtain ⟨t, cutOff, leads, idle, faulted, same⟩ := idles.comes_to_give_up connecting
      obtain ⟨s', next, further, shown⟩ := idle.comes_to_show faulted
      exact ⟨s', next, leads.trans further, by rw [shown, same]⟩
    · exact idles.comes_to_show faulted
  · obtain ⟨until_, watching, heard⟩ : ∃ until_, s.phase = .watching until_ ∧ s.events ≠ [] := by
      simpa using quiet
    rw [watching] at deadline
    cases deadline
    obtain ⟨e, rest, queued⟩ := List.exists_cons_of_ne_nil heard
    obtain ⟨s', computed, -, -, -, -, shown⟩ := next_of_queued fits watching uncancelled queued
    exact ⟨s', _, .next computed rfl, shown⟩

/-! ### Neither before nor after -/

/-- As long as the engine reports nothing and nobody cancels, whoever asks for a connection, the
next deed is the end of the negotiation at the instant: until then the machine waits, and time does
not go further without it; and it comes by itself. -/
def Expires (s : System) (due : Nat) : Prop :=
  ∀ later t, s.run? later = some t → (∀ e, .report e ∉ later) → .cancel ∉ later →
    (∃ more, s.along deeds later = (due, .faults .expired) :: more) ∨
      (s.along deeds later = [] ∧ t.session = s.session ∧ t.phase = s.phase ∧ t.now ≤ due ∧
        ∃ own t', (∀ action ∈ own, action.isOwn = true) ∧ t.run? own = some t' ∧
          t.along deeds own = [(due, .faults .expired), (due, .begins .disconnect)] ∧
          t'.session = s.session.fault)

namespace Idles

variable {due : Nat}

/-- A negotiation that the machine hears nothing of goes on until its deadline. -/
theorem step (idles : s.Idles due) (watching : s.phase = .watching (some due))
    (stepped : Step s action s') (unheard : ∀ e, action ≠ .report e) (kept : action ≠ .cancel) :
    (s'.Idles due ∧ s'.phase = s.phase ∧ s'.session = s.session ∧ s.deeds action s' = []) ∨
      s.deeds action s' = [(due, .faults .expired), (due, .begins .disconnect)] := by
  have connecting := idles.fits.connecting_of_deadline watching
  have quiet := idles.quiet _ watching
  have still : s'.phase = s.phase → s'.session = s.session → s'.events = s.events →
      s'.cancelled = s.cancelled → s'.now ≤ due → s.deeds action s' = [] →
      (s'.Idles due ∧ s'.phase = s.phase ∧ s'.session = s.session ∧ s.deeds action s' = []) ∨
        s.deeds action s' = [(due, .faults .expired), (due, .begins .disconnect)] := by
    intro phase session events cancelled ahead nothing
    exact Or.inl ⟨idles.on phase session events cancelled ahead, phase, session, nothing⟩
  cases stepped with
  | connected _ free => simp [connecting] at free
  | requestIgnored watching' =>
      exact still rfl rfl rfl rfl idles.ahead (deeds_of_requestIgnored watching' _)
  | connectReturned attempting | crashed attempting => simp [attempting] at watching
  | abandoned _ faulted => simp [connecting] at faulted
  | eventIgnored _ _ queued | established _ _ queued | faulted _ _ queued =>
      simp [quiet] at queued
  | stopped _ cancelled => simp [idles.uncancelled] at cancelled
  | gaveUp givesUp =>
      cases givesUp with
      | cutOff attempting | refused attempting => simp [attempting] at watching
      | expired watching' _ _ _ reached =>
          rw [watching] at watching'
          cases watching'
          have cause : s.cause .machine = .expired := by simp [cause, watching, quiet]
          right
          rw [deeds_of_gaveUp connecting, ended_of_watching watching, cause,
            Nat.le_antisymm idles.ahead reached]
          rfl
  | reported | unreported => exact (unheard _ rfl).elim
  | cancelled => exact (kept rfl).elim
  | passed waits =>
      exact still rfl rfl rfl rfl (le_of_canWait waits idles.deadline) (deeds_of_still rfl rfl rfl)
  | driverSleeps | driverWakes | driverAsks | driverEnds | driverQuits | requested
  | unrequested => exact still rfl rfl rfl rfl idles.ahead (deeds_of_still rfl rfl rfl)

theorem expires (idles : s.Idles due) (watching : s.phase = .watching (some due)) :
    s.Expires due := by
  intro later t ran unheard kept
  induction later generalizing s with
  | nil =>
      cases ran
      obtain ⟨own, t', allowed, ranOn, does, fault⟩ := idles.comes_to_expire watching
      exact Or.inr ⟨rfl, rfl, rfl, idles.ahead, own, t', allowed, ranOn, does, fault⟩
  | cons action rest ih =>
      obtain ⟨middle, computed, ranOn⟩ := run?_cons.mp ran
      have stepped := step_of_next? idles.fits computed
      rw [along_cons computed]
      rcases idles.step watching stepped (fun e same => unheard e (same ▸ List.mem_cons_self))
        (fun same => kept (same ▸ List.mem_cons_self))
        with ⟨still, phase, session, nothing⟩ | settled
      · rw [nothing, List.nil_append, ← phase, ← session]
        exact ih still (phase.trans watching) ranOn
          (fun e member => unheard e (List.mem_cons_of_mem _ member))
          fun member => kept (List.mem_cons_of_mem _ member)
      · rw [settled]
        exact Or.inl ⟨_, rfl⟩

end Idles

/-! ### Each attempt has its own deadline -/

/-- A negotiation that is over when the machine's deadline has come began directly before that, and
had its time. -/
def HadItsTime (negotiation : Span) (one next : Nat × Deed) : Prop :=
  next.2 = .faults .expired →
    one.2 = .ends .connect ∧ Clock.deadline? one.1 negotiation = some next.1

theorem had_its_time {a : Attempt} (regular : Attempt.Regular negotiation a) :
    List.IsChain (HadItsTime negotiation) a.deeds := by
  have expired := regular.expired
  cases found : a.cause.isLocal with
  | true => simpa [Attempt.deeds, Attempt.closing, opening, found, HadItsTime] using expired
  | false => simpa [Attempt.deeds, Attempt.closing, opening, found, HadItsTime] using expired

/-- No deadline reaches from one attempt into another. -/
theorem had_their_time {account : List (Nat × Deed)} (inTurn : InTurn negotiation account) :
    List.IsChain (HadItsTime negotiation) account := by
  obtain ⟨attempts, regular, leads⟩ := inTurn
  have whole : List.IsChain (HadItsTime negotiation) (attempts.flatMap Attempt.deeds) := by
    apply Attempt.isChain
    · intro a member
      exact had_its_time (regular a member)
    · intro one next _ begins expired
      rw [begins] at expired
      cases expired
  exact whole.prefix leads

/-! ### The end of a negotiation -/

section Run

variable (capacity : Nat) (backoff : Backoff) (negotiation : Span)
variable (ran : (new capacity backoff negotiation).run? actions = some s)

include ran

theorem prompt_of_run : Prompt negotiation s :=
  (Prompt.new capacity backoff negotiation).run (fits_new capacity backoff negotiation) ran

theorem going_of_run (uncancelled : s.cancelled = false) : s.phase ≠ .stopped := by
  have fresh : (new capacity backoff negotiation).phase ≠ .stopped := by rintro ⟨⟩
  exact run?_keeps (fun s => s.phase ≠ .stopped) (fun s => s.cancelled = false)
    (fits_new capacity backoff negotiation) (fun stepped => stepped.uncancelled)
    (fun going _ _ stepped uncancelled _ => stepped.going going uncancelled) fresh ran uncancelled

/-- While readers see an attempt, it can be settled in time, and it is settled by itself. -/
theorem settles_of_run {earlier : List (Nat × Snapshot)} {begun : Nat} {copy : Snapshot}
    (shown : publications s.history = earlier ++ [(begun, copy)])
    (connecting : copy.state = .connecting) (foreseen : Foreseen negotiation begun)
    (uncancelled : s.cancelled = false) :
    s.now ≤ settledBy negotiation begun ∧
      ∃ s' next, Leads Action.isOwn s s' ∧
        publications s'.history = publications s.history ++ [next] ∧
        (next.2.state = .established ∨ next.2.state = .faulted) ∧
        next.1 ≤ settledBy negotiation begun := by
  have fits := (fits_new capacity backoff negotiation).run ran
  have prompt := prompt_of_run capacity backoff negotiation ran
  have going := going_of_run capacity backoff negotiation ran uncancelled
  have hurried := prompt.hurried (begun, copy) (by simp [shown]) connecting foreseen
  obtain ⟨due, deadline, -, -⟩ := hurried.resolve_left going
  refine ⟨Prompt.now_le hurried (Phase.running_of_deadline? deadline), ?_⟩
  obtain ⟨s', next, ⟨own, allowed, ranOn⟩, more⟩ := shows_next fits going uncancelled hurried
  have answers : Answers negotiation (begun, copy) next := by
    apply (prompt.run fits ranOn).answers
    rw [more, shown, List.append_assoc]
    rfl
  obtain ⟨settled, intime⟩ := answers connecting foreseen
  exact ⟨s', next, ⟨own, allowed, ranOn⟩, more, settled, intime⟩

/-- Once the engine has taken up the attempt, its negotiation has its time. -/
theorem expires_of_run {due : Nat} (told : Clock.deadline? s.now negotiation = some due)
    (quiet : s.events = []) (uncancelled : s.cancelled = false)
    (computed : s.next? (.connectEnds true) = some s') : s'.Expires due := by
  have fits := (fits_new capacity backoff negotiation).run ran
  have allowed := (prompt_of_run capacity backoff negotiation ran).allowed
  have stepped := step_of_next? fits computed
  have fits' := fits.step stepped
  cases stepped with
  | connectReturned attempting told' =>
      rw [allowed, told] at told'
      cases told'
      have ahead : s.now ≤ due := Clock.eq_of_deadline? told ▸ Nat.le_add_right _ _
      have idles : Idles { s with phase := .watching (some due) } due :=
        ⟨rfl, fits', uncancelled, ahead, fun _ _ => quiet⟩
      exact idles.expires rfl
  | crashed _ untold =>
      rw [allowed, told] at untold
      cases untold
  | gaveUp givesUp => cases givesUp
  | abandoned letsGo => cases letsGo

end Run

/-- Readers who are shown an attempt are shown in time that the link is up or has faulted, whatever
the engine does, unless the machine is cancelled before or the clock cannot tell that instant. If
the engine has taken up the attempt and reports nothing more, the fault comes at the end of the
negotiation's time, however many requests come in; but an event that is queued then is taken before.
No attempt faults on account of a deadline that is not its own. -/
theorem negotiation_ends (capacity : Nat) (backoff : Backoff) (negotiation : Span)
    (ran : (new capacity backoff negotiation).run? actions = some s) :
    (∀ earlier begun copy after,
      publications s.history = earlier ++ (begun, copy) :: after → copy.state = .connecting →
      Foreseen negotiation begun →
      (∀ next ∈ after.head?, (next.2.state = .established ∨ next.2.state = .faulted) ∧
        next.1 ≤ settledBy negotiation begun) ∧
      (after = [] → s.cancelled = false → s.now ≤ settledBy negotiation begun ∧
        ∃ s' next, Leads Action.isOwn s s' ∧
          publications s'.history = publications s.history ++ [next] ∧
          (next.2.state = .established ∨ next.2.state = .faulted) ∧
          next.1 ≤ settledBy negotiation begun)) ∧
    (∀ due s', Clock.deadline? s.now negotiation = some due → s.events = [] →
      s.cancelled = false → s.next? (.connectEnds true) = some s' → s'.Expires due) ∧
    (∀ due e rest, s.phase = .watching (some due) → s.cancelled = false → s.events = e :: rest →
      (∀ millis, s.next? (.pass millis) = none) ∧
      ∃ s', s.next? .machine = some s' ∧ s'.events = rest ∧
        s'.session = (s.session.handle e).1 ∧
        (s'.session.state = .established ∨ s'.session.state = .faulted) ∧
        ∀ entry ∈ s.deeds .machine s', entry.2 ≠ .faults .expired) ∧
    List.IsChain (HadItsTime negotiation) (ledger capacity backoff negotiation actions) := by
  have fits := (fits_new capacity backoff negotiation).run ran
  refine ⟨?_, ?_, ?_, had_their_time (ledger_inTurn capacity backoff negotiation ran)⟩
  · intro earlier begun copy after shown connecting foreseen
    constructor
    · intro next first
      obtain ⟨others, rfl⟩ := List.head?_eq_some_iff.mp (Option.mem_def.mp first)
      exact (prompt_of_run capacity backoff negotiation ran).answers shown connecting foreseen
    · rintro rfl uncancelled
      exact settles_of_run capacity backoff negotiation ran shown connecting foreseen uncancelled
  · intro due s' told quiet uncancelled computed
    exact expires_of_run capacity backoff negotiation ran told quiet uncancelled computed
  · intro due e rest watching uncancelled queued
    obtain ⟨s', computed, left, session, settled, unexpired, -⟩ :=
      next_of_queued fits watching uncancelled queued
    refine ⟨fun millis => ?_, s', computed, left, session, settled, unexpired⟩
    have moves : s.machine? = some s' := computed
    simp [next?, canWait, moves]

/-- The engine is a second into the call. -/
def silentEngine : List Action := [.machine, .pass 1000]

/-- If the call returns now, the negotiation is over a minute later; and readers are shown in time
that it is over, also if the call does not return. -/
theorem silent_engine_expires :
    ∃ s s' copy, (new 16 twoToThirty (.ofSecs 60)).run? silentEngine = some s ∧
      publications s.history = [(0, copy)] ∧ copy.state = .connecting ∧
      Foreseen (.ofSecs 60) 0 ∧ settledBy (.ofSecs 60) 0 = 70000 ∧ s.cancelled = false ∧
      s.now ≤ 70000 ∧
      (∃ t next, Leads Action.isOwn s t ∧
        publications t.history = publications s.history ++ [next] ∧ next.1 ≤ 70000) ∧
      s.next? (.connectEnds true) = some s' ∧ s'.Expires 61000 := by
  obtain ⟨s, ran⟩ : ∃ s, (new 16 twoToThirty (.ofSecs 60)).run? silentEngine = some s := ⟨_, rfl⟩
  obtain ⟨s', computed⟩ : ∃ s', s.next? (.connectEnds true) = some s' := by
    cases ran
    exact ⟨_, rfl⟩
  obtain ⟨copy, shown, connecting, uncancelled, quiet, told⟩ :
      ∃ copy, publications s.history = [(0, copy)] ∧ copy.state = .connecting ∧
        s.cancelled = false ∧ s.events = [] ∧
        Clock.deadline? s.now (.ofSecs 60) = some 61000 := by
    cases ran
    exact ⟨_, rfl, rfl, rfl, rfl, by decide⟩
  have foreseen : Foreseen (.ofSecs 60) 0 := by unfold Foreseen; decide
  have limit : settledBy (.ofSecs 60) 0 = 70000 := by decide
  obtain ⟨settles, expires, -, -⟩ := negotiation_ends _ _ _ ran
  obtain ⟨intime, t, next, leads, more, -, early⟩ :=
    (settles [] 0 copy [] shown connecting foreseen).2 rfl uncancelled
  rw [limit] at intime early
  exact ⟨s, s', copy, ran, shown, connecting, foreseen, limit, uncancelled, intime,
    ⟨t, next, leads, more, early⟩, computed, expires 61000 s' told quiet uncancelled computed⟩

end System

end BridgeWarden.Link

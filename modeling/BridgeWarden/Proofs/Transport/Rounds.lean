import BridgeWarden.Proofs.Transport.Stream
import BridgeWarden.Settings.Check

/-!
How often a pump goes round for nothing.

A round of the pump goes from the instant at which it begins to wait for bytes to the one at which
it does so anew, or ends. It is idle if the engine was given nothing in it: the pump has waited in
vain, or has met an error and paused after it. Both take as long as the pump is set to wait, so the
starts of idle rounds lie that far apart, whatever stands between them (`spaced_of_run`), and only
so many of them fit into a stretch of time (`length_le_of_spaced`).

Nobody asks that this time is not zero. Where it is, idle rounds take no time at all, and settings
that say so are accepted like any others (`never_spins_iff`, `restless_spins`).
-/

namespace BridgeWarden.Transport.Pump

variable {p p' last : Pump} {action : Action} {actions lap : List Action}
variable {began gap given n : Nat}

/-! ### Rounds -/

/-- A round of the pump: when it began, and how many pieces the engine was given in it. -/
structure Round where
  began : Nat
  pieces : Nat
  deriving DecidableEq

def Round.isIdle (r : Round) : Bool := r.pieces == 0

/-- Whether the action makes the pump wait anew. -/
def Action.waitsAnew : Action → Bool
  | .timeOut | .resume | .taken => true
  | .arrive _ | .read | .close | .fail | .stop | .cancel | .pass _ => false

/-- Whether a step ends a round: the pump begins to wait anew, or ends. -/
def endsRound (p : Pump) (action : Action) (p' : Pump) : Bool :=
  action.waitsAnew || (p.result?.isNone && p'.result?.isSome)

/-- The rounds that end in a run. The first one began at an instant at which the engine had been
given so many pieces. -/
def roundsFrom (began given : Nat) (p : Pump) : List Action → List Round
  | [] => []
  | action :: rest =>
      match p.next? action with
      | none => []
      | some p' =>
          if endsRound p action p' then
            ⟨began, p'.chunks.length - given⟩ :: roundsFrom p'.now p'.chunks.length p' rest
          else roundsFrom began given p' rest

/-- The instants at which the idle rounds of a run began. -/
def idleStarts (p : Pump) (actions : List Action) : List Nat :=
  ((roundsFrom p.now p.chunks.length p actions).filter Round.isIdle).map Round.began

/-! ### What a round keeps -/

/-- A round that began then is under way: its wait, or its pause, lasts at least the gap, and until
it feeds the engine there is no further piece. -/
structure Underway (gap began given : Nat) (p : Pump) : Prop where
  past : began ≤ p.now
  reading : ∀ cutOff, p.phase = .reading cutOff → began + gap ≤ cutOff ∧ p.chunks.length = given
  pausing : ∀ due, p.phase = .pausing due → began + gap ≤ due ∧ p.chunks.length = given
  feeding : p.phase = .feeding → p.chunks.length = given + 1

/-- A wait that begins now lasts at least the gap. -/
def Patient (gap : Nat) (p : Pump) : Prop := p.now + gap ≤ Clock.wake p.now p.readTimeout

theorem underway_listen (patient : Patient gap p) :
    Underway gap p.now p.chunks.length p.listen where
  past := Nat.le_refl _
  reading := by
    rintro cutOff ⟨⟩
    exact ⟨patient, rfl⟩
  pausing := by rintro due ⟨⟩
  feeding := by rintro ⟨⟩

/-- What a step makes of a round under way. -/
inductive Continues (gap began given : Nat) (p : Pump) (action : Action) (p' : Pump) : Prop where
  | goesOn (within : endsRound p action p' = false) (under : Underway gap began given p')
  /-- The round has ended, and another one has begun. -/
  | anew (ends : endsRound p action p' = true)
      (spaced : p'.chunks.length ≤ given → began + gap ≤ p'.now)
      (under : Underway gap p'.now p'.chunks.length p')
  /-- The round has ended, and there is no other. -/
  | stops (ends : endsRound p action p' = true) (ended : p'.result?.isSome)

theorem Underway.step (under : Underway gap began given p) (step : Step p action p')
    (patient : Patient gap p') : Continues gap began given p action p' := by
  obtain ⟨past, reading, pausing, feeding⟩ := under
  cases step with
  | arrived | cancelled =>
      refine .goesOn ?_ ⟨past, reading, pausing, feeding⟩
      simp [endsRound, Action.waitsAnew, result?]
  | passed =>
      refine .goesOn ?_ ⟨Nat.le_add_right_of_le past, reading, pausing, feeding⟩
      simp [endsRound, Action.waitsAnew, result?]
  | read inRead =>
      refine .goesOn (by simp [endsRound, Action.waitsAnew, result?]) ⟨past, ?_, ?_, ?_⟩
      · rintro cutOff ⟨⟩
      · rintro due ⟨⟩
      · rintro -
        rw [List.length_cons, (reading _ inRead).2]
  | failed inRead =>
      refine .goesOn (by simp [endsRound, Action.waitsAnew, result?]) ⟨past, ?_, ?_, ?_⟩
      · rintro cutOff ⟨⟩
      · rintro due ⟨⟩
        exact ⟨Nat.le_trans (Nat.add_le_add_right past gap) patient, (reading _ inRead).2⟩
      · rintro ⟨⟩
  | starved inRead | closed inRead => exact .stops (by simp [endsRound, result?, inRead]) rfl
  | stopped going =>
      refine .stops ?_ rfl
      rw [endsRound, going]
      rfl
  | timedOut inRead due =>
      refine .anew rfl ?_ (underway_listen patient)
      exact fun _ => Nat.le_trans (reading _ inRead).1 due
  | resumed inPause due =>
      refine .anew rfl ?_ (underway_listen patient)
      exact fun _ => Nat.le_trans (pausing _ inPause).1 due
  | taken inFeed =>
      refine .anew rfl ?_ (underway_listen patient)
      intro none
      have one := feeding inFeed
      have same : p.chunks.length ≤ given := none
      omega

/-! ### Runs -/

/-- Time does not go back, and the time to wait stays as it is. -/
theorem le_of_step (step : Step p action p') :
    p.now ≤ p'.now ∧ p'.readTimeout = p.readTimeout := by
  cases step with
  | passed => exact ⟨Nat.le_add_right _ _, rfl⟩
  | arrived | read | starved | closed | failed | timedOut | resumed | taken | stopped
  | cancelled => exact ⟨Nat.le_refl _, rfl⟩

theorem le_of_run (ran : p.run? actions = some last) : p.now ≤ last.now :=
  Runs.keeps (fun other => p.now ≤ other.now)
    (fun held _ computed => Nat.le_trans held (le_of_step (step_of_next? computed)).1)
    (Nat.le_refl _) (run?_eq_foldlM ▸ ran)

/-- A pump that has ended makes no further round. -/
theorem roundsFrom_of_ended (ended : p.result?.isSome) :
    roundsFrom began given p actions = [] := by
  induction actions generalizing p with
  | nil => rfl
  | cons action rest ih =>
      cases computed : p.next? action with
      | none => rw [roundsFrom, computed]
      | some p' =>
          obtain ⟨result, same⟩ := Option.isSome_iff_exists.mp ended
          have step := step_of_next? computed
          have still := (final_of_step same step).1
          have within : endsRound p action p' = false := by
            cases step with
            | timedOut waits | resumed waits | taken waits => simp [result?, waits] at same
            | arrived | read | starved | closed | failed | stopped | cancelled | passed =>
                simp [endsRound, Action.waitsAnew, same]
          simp only [roundsFrom, computed, within, Bool.false_eq_true, if_false]
          exact ih (by rw [still]; rfl)

/-- From the start of an idle round to that of any later one it takes at least the gap. -/
theorem spaced_of_run (under : Underway gap began given p) (ran : p.run? actions = some last)
    (patient : ∀ t ≤ last.now, t + gap ≤ Clock.wake t p.readTimeout) :
    (∀ r ∈ roundsFrom began given p actions, began ≤ r.began) ∧
      (roundsFrom began given p actions).Pairwise
        fun r r' => r.isIdle = true → r.began + gap ≤ r'.began := by
  -- The round under way goes along as the invariant; where a step ends it, another one takes over.
  induction actions generalizing p began given with
  | nil => simp [roundsFrom]
  | cons action rest ih =>
      obtain ⟨p', computed, ran⟩ := Option.bind_eq_some_iff.mp ran
      have step := step_of_next? computed
      obtain ⟨later, kept⟩ := le_of_step step
      rw [← kept] at patient
      have past : began ≤ p'.now := Nat.le_trans under.past later
      simp only [roundsFrom, computed]
      cases under.step step (patient _ (le_of_run ran)) with
      | goesOn within under =>
          rw [within]
          exact ih under ran patient
      | anew ends spaced under =>
          obtain ⟨since, apart⟩ := ih under ran patient
          rw [if_pos ends, List.forall_mem_cons, List.pairwise_cons]
          refine ⟨⟨Nat.le_refl _, fun r member => Nat.le_trans past (since r member)⟩, ?_, apart⟩
          intro r member idle
          have nothing : p'.chunks.length ≤ given := by
            simpa [Round.isIdle, Nat.sub_eq_zero_iff_le] using idle
          exact Nat.le_trans (spaced nothing) (since r member)
      | stops ends ended =>
          rw [if_pos ends, roundsFrom_of_ended ended]
          simp

/-- Idle rounds begin at least the gap apart. -/
theorem spaced_idleStarts {readTimeout : Span} {size : Nat}
    (ran : (new readTimeout size).run? actions = some p)
    (patient : ∀ t ≤ p.now, t + gap ≤ Clock.wake t readTimeout) :
    (idleStarts (new readTimeout size) actions).Pairwise fun a b => a + gap ≤ b := by
  have under : Underway gap 0 0 (new readTimeout size) :=
    underway_listen (p := new readTimeout size) (patient 0 (Nat.zero_le _))
  rw [idleStarts, List.pairwise_map, List.pairwise_filter]
  exact (spaced_of_run under ran patient).2.imp fun spaced idle _ => spaced idle

/-- So many instants, a gap between neighbours, fit into a stretch of time. -/
theorem length_le_of_spaced {instants : List Nat} (start length : Nat) (positive : 0 < gap)
    (spaced : instants.Pairwise fun a b => a + gap ≤ b)
    (within : ∀ t ∈ instants, start ≤ t ∧ t ≤ start + length) :
    instants.length ≤ length / gap + 1 := by
  induction instants generalizing start length with
  | nil => exact Nat.zero_le _
  | cons first later ih =>
      rw [List.pairwise_cons] at spaced
      rw [List.forall_mem_cons] at within
      cases later with
      | nil => exact Nat.le_add_left _ _
      | cons second rest =>
          have next := spaced.1 second List.mem_cons_self
          have bounds := within.2 second List.mem_cons_self
          -- Those after the first one lie in a stretch that is shorter by the gap.
          have shorter : (second :: rest).length ≤ (length - gap) / gap + 1 := by
            refine ih (start + gap) _ spaced.2 fun t member => ?_
            have after := spaced.1 t member
            have before := within.2 t member
            omega
          rw [Nat.div_eq_sub_div positive (by omega : gap ≤ length)]
          exact Nat.succ_le_succ shorter

/-! ### The pump that settings start -/

/-- The pump that carries a link with the settings. -/
def ofLink (s : LinkSettings) : Pump := new s.readTimeout s.readChunkSize.toNat

/-- A wait of so many milliseconds lasts that long, if it is at most thirty years or the clock can
tell its end. -/
theorem patient_of_foreseen {millis horizon : Nat}
    (foreseen : millis ≤ Clock.farAhead ∨ (Clock.deadline? horizon (.ofMillis millis)).isSome) :
    ∀ t ≤ horizon, t + millis ≤ Clock.wake t (.ofMillis millis) := by
  intro t within
  rcases foreseen with short | told
  · have long := Clock.add_min_le_wake t (.ofMillis millis)
    rwa [Span.ceilMillis_ofMillis, Nat.min_eq_left short] at long
  · have told' := Clock.deadline?_isSome_mono within (Nat.le_refl _) told
    exact Nat.le_of_eq (by rw [Clock.wake_of_isSome told', Span.ceilMillis_ofMillis])

/-- A pump that a lap of actions leads back to where it was, in one idle round that takes no time,
goes round as often as the laps do. -/
theorem spins (loops : ∀ rest, p.run? (lap ++ rest) = p.run? rest)
    (idle : ∀ rest, roundsFrom p.now p.chunks.length p (lap ++ rest) =
      ⟨p.now, 0⟩ :: roundsFrom p.now p.chunks.length p rest) (n : Nat) :
    p.run? (List.replicate n lap).flatten = some p ∧
      p.idleStarts (List.replicate n lap).flatten = List.replicate n p.now := by
  have rounds : p.run? (List.replicate n lap).flatten = some p ∧
      roundsFrom p.now p.chunks.length p (List.replicate n lap).flatten =
        List.replicate n ⟨p.now, 0⟩ := by
    induction n with
    | zero => exact ⟨rfl, rfl⟩
    | succ n ih =>
        rw [List.replicate_succ, List.flatten_cons, loops, idle, ih.2]
        exact ⟨ih.1, rfl⟩
  refine ⟨rounds.1, ?_⟩
  rw [idleStarts, rounds.2, List.filter_replicate_of_pos rfl, List.map_replicate]

/-- Without a time to wait, the pump is back at once whether nothing comes or the channel fails. -/
theorem spins_of_zero (size n : Nat) :
    ∀ lap ∈ [[.timeOut], [.fail, .resume]],
      (new (.ofMillis 0) size).run? (List.replicate n lap).flatten =
        some (new (.ofMillis 0) size) ∧
      (new (.ofMillis 0) size).idleStarts (List.replicate n lap).flatten = List.replicate n 0 := by
  have timedOut : (new (.ofMillis 0) size).next? .timeOut = some (new (.ofMillis 0) size) := rfl
  have failed : (new (.ofMillis 0) size).next? .fail =
      some { new (.ofMillis 0) size with phase := .pausing (Clock.wake 0 (.ofMillis 0)) } := rfl
  have resumed : { new (.ofMillis 0) size with
        phase := .pausing (Clock.wake 0 (.ofMillis 0)) }.next? .resume =
      some (new (.ofMillis 0) size) := rfl
  intro lap member
  rw [List.mem_pair] at member
  rcases member with rfl | rfl
  · apply spins
    · simp [run?, timedOut]
    · simp [roundsFrom, timedOut, endsRound, Action.waitsAnew]
  · apply spins
    · simp [run?, failed, resumed]
    · simp [roundsFrom, failed, resumed, endsRound, Action.waitsAnew, result?]

/-- Whether settings are accepted does not depend on the time that the pump is to wait. Two idle
rounds never begin at the same instant exactly if this time is not zero. Then no more of them begin
in a stretch of time than it has room for, as long as the clock can tell the end of a wait or the
wait is at most thirty years. If it is zero, the pump makes any number of them at the first instant,
both on a channel without bytes and on one that fails at every read. -/
theorem never_spins_iff (s : Settings) :
    (∀ millis, { s with link := { s.link with readTimeoutMs := millis } }.complaint? =
      s.complaint?) ∧
    ((∀ actions p, (ofLink s.link).run? actions = some p →
      ((ofLink s.link).idleStarts actions).Pairwise (· < ·)) ↔ s.link.readTimeoutMs ≠ 0) ∧
    (s.link.readTimeoutMs ≠ 0 → ∀ actions p start length, (ofLink s.link).run? actions = some p →
      (s.link.readTimeoutMs.toNat ≤ Clock.farAhead ∨
        (Clock.deadline? p.now s.link.readTimeout).isSome) →
      (((ofLink s.link).idleStarts actions).filter
        fun t => start ≤ t ∧ t ≤ start + length).length ≤
          length / s.link.readTimeoutMs.toNat + 1) ∧
    (s.link.readTimeoutMs = 0 → ∀ lap ∈ [[.timeOut], [.fail, .resume]], ∀ n,
      (ofLink s.link).run? (List.replicate n lap).flatten = some (ofLink s.link) ∧
      (ofLink s.link).idleStarts (List.replicate n lap).flatten = List.replicate n 0) := by
  have spinning : s.link.readTimeoutMs = 0 → ∀ lap ∈ [[.timeOut], [.fail, .resume]], ∀ n,
      (ofLink s.link).run? (List.replicate n lap).flatten = some (ofLink s.link) ∧
      (ofLink s.link).idleStarts (List.replicate n lap).flatten = List.replicate n 0 := by
    intro zero lap member n
    rw [ofLink, LinkSettings.readTimeout, zero]
    exact spins_of_zero _ n lap member
  have positive : s.link.readTimeoutMs ≠ 0 → 0 < s.link.readTimeoutMs.toNat := by
    intro nonzero
    refine Nat.pos_of_ne_zero fun zero => nonzero ?_
    exact UInt64.toNat_inj.mp zero
  refine ⟨fun _ => rfl, ⟨?_, ?_⟩, ?_, spinning⟩
  · intro never zero
    obtain ⟨ran, starts⟩ := spinning zero [.timeOut] List.mem_cons_self 2
    have apart := never _ _ ran
    rw [starts] at apart
    exact absurd apart (by decide)
  · intro nonzero actions p ran
    have short : 1 ≤ min (Span.ceilMillis s.link.readTimeout) Clock.farAhead := by
      rw [LinkSettings.readTimeout, Span.ceilMillis_ofMillis]
      exact Nat.le_min.mpr ⟨positive nonzero, by decide⟩
    have spaced : ((ofLink s.link).idleStarts actions).Pairwise fun a b => a + 1 ≤ b := by
      refine spaced_idleStarts ran fun t _ => ?_
      exact Nat.le_trans (Nat.add_le_add_left short t) (Clock.add_min_le_wake t s.link.readTimeout)
    exact spaced
  · intro nonzero actions p start length ran foreseen
    have spaced := spaced_idleStarts ran (patient_of_foreseen foreseen)
    refine length_le_of_spaced start length (positive nonzero) (spaced.filter _) fun t member => ?_
    simpa using (List.mem_filter.mp member).2

/-- A wait in vain, a failure at once and a failure after some time. -/
def mixed : List Action :=
  [.pass 100, .timeOut, .fail, .pass 100, .resume, .pass 40, .fail, .pass 100, .resume]

/-- With the default settings they begin at 0, 100 and 200, as many as fit in 240 milliseconds. -/
theorem mixed_rounds_bounded :
    (ofLink ({} : Settings).link).idleStarts mixed = [0, 100, 200] ∧
      (((ofLink ({} : Settings).link).idleStarts mixed).filter
        fun t => 0 ≤ t ∧ t ≤ 0 + 240).length ≤ 240 / 100 + 1 := by
  obtain ⟨-, -, bounded, -⟩ := never_spins_iff {}
  have runs : ((ofLink ({} : Settings).link).run? mixed).isSome := by decide +kernel
  obtain ⟨p, ran⟩ := Option.isSome_iff_exists.mp runs
  exact ⟨rfl, bounded (by decide) mixed p 0 240 ran (Or.inl (by decide))⟩

/-- Accepted settings with which the pump is not to wait at all. -/
def restless : Settings := { link := { readTimeoutMs := 0 } }

/-- Two reads that fail take two rounds at the same instant. -/
theorem restless_spins :
    restless.complaint? = .ok none ∧
    ∃ p, (ofLink restless.link).run?
        [.fail, .resume, .fail, .resume, .arrive [120], .read] = some p ∧
      p.chunks = [(0, [120])] ∧
      (ofLink restless.link).idleStarts
        [.fail, .resume, .fail, .resume, .arrive [120], .read] = [0, 0] ∧
      ¬ ((ofLink restless.link).idleStarts
        [.fail, .resume, .fail, .resume, .arrive [120], .read]).Pairwise (· < ·) := by
  have starts : (ofLink restless.link).idleStarts
      [.fail, .resume, .fail, .resume, .arrive [120], .read] = [0, 0] := rfl
  refine ⟨by decide, _, rfl, rfl, starts, ?_⟩
  rw [starts]
  decide

end BridgeWarden.Transport.Pump

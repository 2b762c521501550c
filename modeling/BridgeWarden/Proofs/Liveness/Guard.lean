import BridgeWarden.Liveness.Guard

/-!
A guard that has not tripped.

`Standing` says what a guard in software is set to while its sentry is at work: its timeout, its
deadline, and that a sentry that is not signalled has read that deadline. Every use of the
confirming half leads from one standing to another, and the sentry trips only at a deadline that has
passed (`Standing.sentryWakes`). Whatever a guard is set to, its sentry has little to do at one
instant (`settles`), and then lets time pass (`canWait_of_settled`).
-/

namespace BridgeWarden.Liveness.Guard

structure Standing (g : Guard) (timeout : Option Span) (deadline : Option Nat) : Prop where
  configured : g.timeout = timeout
  scheduled : g.deadline = deadline
  awake : g.sentry = .reading ∨ ∃ read, g.sentry = .watching read ∧
    (g.signalled = false → read = deadline)

variable {g g' : Guard} {now : Nat}

theorem new_standing : Standing new none none :=
  ⟨rfl, rfl, Or.inl rfl⟩

/-- A timer that is configured has its first deadline, where the clock can tell it. -/
theorem standing_of_configure {timeout : Span}
    (configured : new.configure timeout now = .ok g) :
    Standing g (some timeout) (some (now + timeout.ceilMillis)) := by
  simp only [configure, arm] at configured
  split at configured
  · cases configured
  · split at configured
    · rename_i deadline told
      have known : (Clock.deadline? now timeout).isSome := by simp [told]
      rw [Clock.deadline?_of_isSome known, Option.some.injEq] at told
      cases configured
      exact ⟨rfl, by simp [setDeadline, told], Or.inl rfl⟩
    · cases configured

theorem eq_of_sentryReads? (reads : g.sentryReads? = some g') :
    g' = { g with signalled := false, sentry := .watching g.deadline } := by
  cases sentry : g.sentry with
  | reading => simpa [sentryReads?, sentry] using reads.symm
  | watching last =>
      simp only [sentryReads?, sentry, Option.ite_none_right_eq_some, Option.some.injEq] at reads
      exact reads.2.symm
  | tripped instant => simp [sentryReads?, sentry] at reads
  | stopped => simp [sentryReads?, sentry] at reads

/-- A sentry that has read the deadline does not read it again at once. -/
theorem sentryReads?_twice (reads : g.sentryReads? = some g') : g'.sentryReads? = none := by
  simp [eq_of_sentryReads? reads, sentryReads?]

/-- A sentry that wakes trips or is about to read the deadline. -/
theorem eq_of_sentryWakes? (wakes : g.sentryWakes? now = some g') :
    g' = { g with sentry := .tripped now } ∨ g' = { g with sentry := .reading } := by
  unfold sentryWakes? at wakes
  split at wakes
  · rw [Option.ite_none_right_eq_some] at wakes
    obtain ⟨-, wakes⟩ := wakes
    split at wakes
    · exact Or.inl (Option.some.inj wakes).symm
    · exact Or.inr (Option.some.inj wakes).symm
  · cases wakes

/-- The sentry does all that it can do now. -/
inductive Settles (now : Nat) : Guard → Guard → Prop where
  | settled {g : Guard} (read : g.sentryReads? = none) (asleep : g.sentryWakes? now = none) :
      Settles now g g
  | reads {g g' last : Guard} (reads : g.sentryReads? = some g') (rest : Settles now g' last) :
      Settles now g last
  | wakes {g g' last : Guard} (wakes : g.sentryWakes? now = some g')
      (rest : Settles now g' last) : Settles now g last

/-- A sentry that has just read the deadline trips if it has passed, and sleeps if not. -/
theorem settles_of_read (now : Nat) (reads : g.sentryReads? = some g') :
    ∃ last, Settles now g' last := by
  have read := sentryReads?_twice reads
  obtain rfl := eq_of_sentryReads? reads
  by_cases passed : g.deadline.any (· ≤ now) = true
  · obtain ⟨due, deadline, reached⟩ := (Option.any_eq_true _ _).mp passed
    have reached : due ≤ now := by simpa using reached
    have wakes : { g with signalled := false, sentry := .watching g.deadline }.sentryWakes? now =
        some { g with signalled := false, sentry := .tripped now } := by
      simp [sentryWakes?, deadline, reached]
    exact ⟨_, .wakes wakes (.settled rfl rfl)⟩
  · refine ⟨_, .settled read ?_⟩
    cases deadline : g.deadline with
    | none => simp [sentryWakes?]
    | some due =>
        have ahead : ¬ due ≤ now := by simpa [deadline] using passed
        simp [sentryWakes?, ahead]

/-- The sentry has little to do at one instant. -/
theorem settles (g : Guard) (now : Nat) : ∃ last, Settles now g last := by
  cases reads : g.sentryReads? with
  | some g' =>
      obtain ⟨last, rest⟩ := settles_of_read now reads
      exact ⟨last, .reads reads rest⟩
  | none =>
      cases wakes : g.sentryWakes? now with
      | none => exact ⟨g, .settled reads wakes⟩
      | some g' =>
          rcases eq_of_sentryWakes? wakes with rfl | rfl
          · exact ⟨_, .wakes wakes (.settled rfl rfl)⟩
          · have again : { g with sentry := .reading }.sentryReads? =
                some { g with signalled := false, sentry := .watching g.deadline } := rfl
            obtain ⟨last, rest⟩ := settles_of_read now again
            exact ⟨last, .wakes wakes (.reads again rest)⟩

/-- A sentry that sleeps has its wake-up ahead. -/
theorem lt_of_asleep {due : Nat} (asleep : g.sentryWakes? now = none) (waits : g.due? = some due) :
    now < due := by
  unfold due? at waits
  split at waits
  · rename_i watching
    subst waits
    refine Nat.lt_of_not_le fun reached => ?_
    cases passed : g.deadline.any (· ≤ now) <;>
      simp [sentryWakes?, watching, reached, passed] at asleep
  · cases waits

/-- A guard whose sentry has nothing to do lets time pass until the sentry wakes. -/
theorem canWait_of_settled {millis : Nat} (read : g.sentryReads? = none)
    (asleep : g.sentryWakes? now = none) (ahead : ∀ due, g.due? = some due → now + millis ≤ due) :
    g.canWait now millis false = true := by
  have goesOn : g.sentryStops? false = none := by
    unfold sentryStops?
    split <;> simp
  have within : g.due?.all (now + millis ≤ ·) = true := by
    cases waits : g.due? with
    | none => rfl
    | some due => simpa using ahead due waits
  simp only [canWait, read, asleep, goesOn, within, Option.isNone_none, Bool.and_self]

namespace Standing

variable {timeout : Option Span} {deadline : Option Nat}

theorem untripped (standing : Standing g timeout deadline) : g.trippedAt? = none := by
  rcases standing.awake with reading | ⟨read, watching, -⟩
  · simp [trippedAt?, reading]
  · simp [trippedAt?, watching]

/-- Whatever the deadline is set to, the sentry is told. -/
theorem setDeadline (standing : Standing g timeout deadline) (later : Option Nat) :
    Standing (g.setDeadline later) timeout later := by
  refine ⟨standing.configured, rfl, ?_⟩
  rcases standing.awake with reading | ⟨read, watching, -⟩
  · exact Or.inl reading
  · exact Or.inr ⟨read, watching, by simp [Guard.setDeadline]⟩

theorem confirm {span : Span} (standing : Standing g (some span) deadline)
    (told : (Clock.deadline? now span).isSome) :
    ∃ g', g.confirm now = .ok g' ∧ Standing g' (some span) (some (now + span.ceilMillis)) := by
  refine ⟨_, ?_, standing.setDeadline _⟩
  simp [Guard.confirm, standing.configured, arm, Clock.deadline?_of_isSome told]

theorem disarm (standing : Standing g timeout deadline) : Standing g.disarm none none := by
  have cleared := standing.setDeadline none
  exact ⟨rfl, cleared.scheduled, cleared.awake⟩

theorem sentryReads (standing : Standing g timeout deadline)
    (reads : g.sentryReads? = some g') : Standing g' timeout deadline := by
  obtain rfl := eq_of_sentryReads? reads
  refine ⟨standing.configured, standing.scheduled, Or.inr ⟨g.deadline, rfl, fun _ => ?_⟩⟩
  exact standing.scheduled

/-- A sentry that wakes before the deadline reads it again. -/
theorem sentryWakes (standing : Standing g timeout deadline)
    (wakes : g.sentryWakes? now = some g') (early : ∀ due, deadline = some due → now < due) :
    Standing g' timeout deadline := by
  have before : g.deadline.any (· ≤ now) = false := by
    rw [standing.scheduled]
    cases deadline with
    | none => rfl
    | some due => simpa using early due rfl
  rcases standing.awake with reading | ⟨read, watching, -⟩
  · simp [sentryWakes?, reading] at wakes
  · simp only [sentryWakes?, watching, before] at wakes
    split at wakes
    · simp only [Bool.false_eq_true, if_false, Option.ite_none_right_eq_some,
        Option.some.injEq] at wakes
      rw [← wakes.2]
      exact ⟨standing.configured, standing.scheduled, Or.inl rfl⟩
    · cases wakes

/-- A sentry that has read a deadline to come lets time pass until then. -/
theorem canWait {due millis : Nat} {span : Option Span} (standing : Standing g span (some due))
    (read : g.sentryReads? = none) (before : now < due) (within : now + millis ≤ due) :
    g.canWait now millis false = true := by
  rcases standing.awake with reading | ⟨last, watching, known⟩
  · simp [sentryReads?, reading] at read
  · have quiet : g.signalled = false := by simpa [sentryReads?, watching] using read
    obtain rfl := known quiet
    refine canWait_of_settled read ?_ ?_
    · simp [sentryWakes?, watching, Nat.not_le.mpr before]
    · intro other waits
      simp only [due?, watching, Option.some.injEq] at waits
      exact waits ▸ within

end Standing

end BridgeWarden.Liveness.Guard

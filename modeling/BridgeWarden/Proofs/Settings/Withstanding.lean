import BridgeWarden.Proofs.Link.Crash
import BridgeWarden.Proofs.Liveness.Crash
import BridgeWarden.Proofs.Liveness.Progress
import BridgeWarden.Transport.Pump

/-!
What accepted settings can break.

Settings that are accepted have a backoff and a period that the components take. They have three
numbers of which nobody asks that they be small enough: the time of a negotiation and the timeout of
a guard in software, which the clock has to be able to add to the present instant, and the size of
the pump's buffer. Nothing breaks down up to an instant exactly when these three are in range there
(`accepted_withstands_iff`); `boundless` is accepted and breaks everything.
-/

namespace BridgeWarden.Settings

variable {s : Settings} {horizon : Nat}

/-- Nothing that is built from the settings breaks down at an instant up to the horizon, neither
when it is made nor later. -/
structure Withstands (s : Settings) (horizon : Nat) : Prop where
  backoff : ∃ backoff, s.link.backoff = .ok backoff
  link : ∀ backoff actions l, s.link.backoff = .ok backoff →
    (Link.System.new Link.eventCapacity backoff s.link.negotiationTimeout).run? actions = some l →
    l.now ≤ horizon → l.phase ≠ .crashed
  launch : ∀ epoch start, start ≤ horizon → ∃ first, s.supervisor? epoch start = .ok first
  supervisor : ∀ epoch start first actions t, s.supervisor? epoch start = .ok first →
    first.run? actions = some t → t.now ≤ horizon → t.phase ≠ .crashed
  pump : ∃ pump, Transport.Pump.make? s.link.readTimeout s.link.readChunkSize.toNat = .ok pump

/-! ### The link -/

/-- The link's machine holds up to the horizon where a negotiation that begins then has an end. -/
theorem link_unbroken_iff {capacity : Nat} (room : 0 < capacity) {backoff : Link.Backoff}
    {negotiation : Span} :
    (∀ actions l, (Link.System.new capacity backoff negotiation).run? actions = some l →
      l.now ≤ horizon → l.phase ≠ .crashed) ↔ (Clock.deadline? horizon negotiation).isSome := by
  constructor
  · intro unbroken
    by_contra told
    rw [Option.not_isSome_iff_eq_none] at told
    obtain ⟨actions, l, ran, within, crashed⟩ := Link.System.crashes_of_untold room backoff told
    exact unbroken actions l ran within crashed
  · intro told actions l ran within crashed
    have untold := Link.System.untold_of_crashed _ _ _ ran crashed
    rw [Clock.untold_of_le within untold] at told
    cases told

/-! ### The supervisor -/

/-- Only a guard in software is set to a timeout, and to that of the settings. -/
theorem span?_of_supervisor? {epoch start : Nat} {first : Liveness.Supervisor}
    (launched : s.supervisor? epoch start = .ok first) {span : Span}
    (set : first.span? = some span) :
    s.liveness.watchdog = .software ∧ span = s.liveness.timeout := by
  obtain ⟨guard, rfl, armed⟩ := Liveness.new_of_supervisor? launched
  obtain ⟨g, rfl, timeout⟩ := Option.bind_eq_some_iff.mp set
  have standing := (armed g rfl).configured
  rw [timeout, Option.some.injEq] at standing
  refine ⟨?_, standing⟩
  cases kind : s.liveness.watchdog with
  | software => rfl
  | device => simp [supervisor?, kind, Liveness.Supervisor.new] at launched

/-- Accepted settings launch a supervisor, unless a guard in software cannot be armed. -/
theorem launches_iff (accepted : s.complaint? = .ok none) {epoch start : Nat} :
    (∃ first, s.supervisor? epoch start = .ok first) ↔
      (s.liveness.watchdog = .software → (Clock.deadline? start s.liveness.timeout).isSome) := by
  have nonzero : s.liveness.timeout.isZero = false :=
    Span.isZero_ofSecs (Nat.zero_lt_of_lt (periodSecs_lt_timeoutSecs accepted))
  cases kind : s.liveness.watchdog with
  | device => simp [supervisor?, kind]
  | software =>
      have armed : s.supervisor? epoch start =
          (Liveness.Guard.new.configure s.liveness.timeout start).map fun guard =>
            .new s.liveness.rhythm s.reach s.telemetry.staleAfter (some guard) epoch start := by
        simp only [supervisor?, kind, Liveness.Supervisor.armed?]
      have configured :
          (∃ guard, Liveness.Guard.new.configure s.liveness.timeout start = .ok guard) ↔
            (Clock.deadline? start s.liveness.timeout).isSome :=
        Liveness.Guard.configured_iff nonzero
      rw [armed, ← configured]
      cases Liveness.Guard.new.configure s.liveness.timeout start with
      | error refusal => simp [Except.map]
      | ok guard => simp [Except.map]

/-- Once launched, the supervisor of accepted settings breaks down only where the clock cannot tell
the deadline of a guard in software. -/
theorem supervisor_unbroken (accepted : s.complaint? = .ok none)
    (told : s.liveness.watchdog = .software → (Clock.deadline? horizon s.liveness.timeout).isSome)
    {epoch start : Nat} {first t : Liveness.Supervisor} {actions : List Liveness.Action}
    (launched : s.supervisor? epoch start = .ok first) (ran : first.run? actions = some t)
    (within : t.now ≤ horizon) : t.phase ≠ .crashed := by
  intro crashed
  obtain ⟨guard, same, -⟩ := Liveness.new_of_supervisor? launched
  have regular : first.rhythm.period.isZero = false := by
    rw [same]
    exact (Liveness.keeps_of_accepted accepted).regular
  have going : first.phase ≠ .crashed := by
    rw [same]
    rintro ⟨⟩
  obtain ⟨span, set, untold⟩ := Liveness.Supervisor.untold_of_crashed regular going ran crashed
  obtain ⟨software, rfl⟩ := span?_of_supervisor? launched set
  have late := told software
  rw [Clock.untold_of_le within untold] at late
  cases late

/-! ### The pump -/

theorem pump_made_iff {readTimeout : Span} {size : Nat} :
    (∃ pump, Transport.Pump.make? readTimeout size = .ok pump) ↔
      size ≤ Transport.Pump.bufferLimit := by
  unfold Transport.Pump.make?
  by_cases large : Transport.Pump.bufferLimit < size
  · simp [large]
  · simp [large, Nat.le_of_not_lt large]

/-! ### All of them -/

/-- Accepted settings give a backoff that is in order and a period that is not zero. Nothing that is
built from them breaks down up to an instant exactly when the clock can tell, there, the end of a
negotiation and the deadline of a guard in software, and a buffer of the size can be had. -/
theorem accepted_withstands_iff (s : Settings) (horizon : Nat)
    (accepted : s.complaint? = .ok none) :
    (∃ backoff, s.link.backoff = .ok backoff) ∧ s.liveness.period.isZero = false ∧
    (s.Withstands horizon ↔
      (Clock.deadline? horizon s.link.negotiationTimeout).isSome ∧
      (s.liveness.watchdog = .software → (Clock.deadline? horizon s.liveness.timeout).isSome) ∧
      s.link.readChunkSize.toNat ≤ Transport.Pump.bufferLimit) := by
  obtain ⟨backoff, made⟩ := backoff_of_accepted accepted
  have room : 0 < Link.eventCapacity := by decide
  refine ⟨⟨backoff, made⟩, Span.isZero_ofSecs (periodSecs_pos accepted), ?_⟩
  constructor
  · intro withstands
    refine ⟨?_, ?_, pump_made_iff.mp withstands.pump⟩
    · apply (link_unbroken_iff room).mp
      intro actions l
      exact withstands.link backoff actions l made
    · exact (launches_iff accepted).mp (withstands.launch 0 horizon (Nat.le_refl _))
  · rintro ⟨negotiation, timer, buffer⟩
    refine ⟨⟨backoff, made⟩, ?_, ?_, ?_, pump_made_iff.mpr buffer⟩
    · intro other actions l _ ran within
      exact (link_unbroken_iff room).mpr negotiation actions l ran within
    · intro epoch start within
      apply (launches_iff accepted).mpr
      intro software
      exact Clock.deadline?_isSome_mono within (Nat.le_refl _) (timer software)
    · intro epoch start first actions t launched ran within
      exact supervisor_unbroken accepted timer launched ran within

/-- The default settings with a guard in software withstand a thousand years. -/
theorem software_defaults_withstand :
    Liveness.softwareDefaults.complaint? = .ok none ∧
      Liveness.softwareDefaults.Withstands (1000 * 365 * 86400000) := by
  have accepted : Liveness.softwareDefaults.complaint? = .ok none := by decide
  obtain ⟨-, -, exactly⟩ :=
    accepted_withstands_iff Liveness.softwareDefaults (1000 * 365 * 86400000) accepted
  exact ⟨accepted, exactly.mpr (by decide)⟩

/-- Accepted settings with three numbers out of range. -/
def boundless : Settings :=
  { link := { negotiationTimeoutSecs := 9223372036854775808, readChunkSize := 9223372036854775808 }
    liveness := { watchdog := .software, timeoutSecs := 9223372036854775808 } }

/-- At the first instant the link's machine crashes with the first negotiation, the guard cannot be
armed, and the pump has no buffer. -/
theorem boundless_breaks_down :
    boundless.complaint? = .ok none ∧
    (∃ backoff l, boundless.link.backoff = .ok backoff ∧
      (Link.System.new Link.eventCapacity backoff boundless.link.negotiationTimeout).run?
        Link.System.takenUp = some l ∧ l.now = 0 ∧ l.phase = .crashed) ∧
    boundless.supervisor? 0 0 = .error (.breach .instantOverflow) ∧
    Transport.Pump.make? boundless.link.readTimeout boundless.link.readChunkSize.toNat =
      .error .bufferOverflow := by
  refine ⟨by decide, ⟨_, _, rfl, rfl, rfl, rfl⟩, rfl, rfl⟩

end BridgeWarden.Settings

import BridgeWarden.Proofs.Runs
import BridgeWarden.Transport.Pump
import Mathlib.Data.List.Basic

/-!
What a pump carries of the channel's stream.

`Step` lists what an action does, guards included. What the engine was given and what waits to be
read make up what has arrived, byte for byte (`carried_of_run`), and no step takes a byte away
without giving it to the engine. A pump that is not cancelled can always give the engine the rest
(`drains`), and it ends in two ways only: at the end of the channel, when nothing waits to be read,
or cancelled (`ending_of_run`).
-/

namespace BridgeWarden.Transport.Pump

open Text (Bytes)

/-- What an action brings to the channel. -/
def Action.data : Action → Bytes
  | .arrive data => data
  | _ => []

/-- What the channel has produced. -/
def arrived (actions : List Action) : Bytes := actions.flatMap Action.data

/-- What the engine was given. -/
def delivered (p : Pump) : Bytes := p.chunks.reverse.flatMap Prod.snd

/-- What the pump returned, if it has ended. -/
def result? (p : Pump) : Option (Except Fault Unit) :=
  match p.phase with
  | .stopped => some (.ok ())
  | .closed => some (.error endOfStream)
  | .reading _ | .pausing _ | .feeding => none

/-- Whether the action is neither the channel's nor a cancellation. -/
def Action.isInner : Action → Bool
  | .read | .timeOut | .resume | .taken | .pass _ => true
  | .arrive _ | .close | .fail | .stop | .cancel => false

variable {p p' : Pump} {action : Action} {actions : List Action}

/-! ### Steps -/

inductive Step (p : Pump) : Action → Pump → Prop where
  | arrived {data : Bytes} : Step p (.arrive data) { p with waiting := p.waiting ++ data }
  | read {cutOff : Nat} (reading : p.phase = .reading cutOff) (sized : 0 < p.chunkSize)
      (something : p.waiting ≠ []) :
      Step p .read
        { p with
          phase := .feeding
          waiting := p.waiting.drop p.chunkSize
          chunks := (p.now, p.waiting.take p.chunkSize) :: p.chunks }
  /-- A buffer of no size takes nothing, as if the channel were at its end. -/
  | starved {cutOff : Nat} (reading : p.phase = .reading cutOff) (unsized : p.chunkSize = 0) :
      Step p .read { p with phase := .closed }
  | closed {cutOff : Nat} (reading : p.phase = .reading cutOff) (nothing : p.waiting = []) :
      Step p .close { p with phase := .closed }
  | failed {cutOff : Nat} (reading : p.phase = .reading cutOff) :
      Step p .fail { p with phase := .pausing (Clock.wake p.now p.readTimeout) }
  | timedOut {cutOff : Nat} (reading : p.phase = .reading cutOff) (due : cutOff ≤ p.now) :
      Step p .timeOut p.listen
  | resumed {due : Nat} (pausing : p.phase = .pausing due) (past : due ≤ p.now) :
      Step p .resume p.listen
  | taken (feeding : p.phase = .feeding) : Step p .taken p.listen
  | stopped (going : p.result? = none) (cancelled : p.cancelled = true) :
      Step p .stop { p with phase := .stopped }
  | cancelled : Step p .cancel { p with cancelled := true }
  | passed {millis : Nat} (waits : p.canWait millis = true) :
      Step p (.pass millis) { p with now := p.now + millis }

theorem step_of_next? (computed : p.next? action = some p') : Step p action p' := by
  cases action with
  | arrive data =>
      cases computed
      exact .arrived
  | read =>
      simp only [next?] at computed
      split at computed
      · rename_i cutOff reading
        split at computed
        · rename_i unsized
          cases computed
          exact .starved reading unsized
        · rename_i sized
          simp only [List.isEmpty_iff, Option.ite_none_left_eq_some, Option.some.injEq] at computed
          obtain ⟨something, rfl⟩ := computed
          exact .read reading (Nat.pos_of_ne_zero sized) something
      · cases computed
  | close =>
      simp only [next?] at computed
      split at computed
      · rename_i cutOff reading
        simp only [List.isEmpty_iff, Option.ite_none_right_eq_some, Option.some.injEq] at computed
        obtain ⟨nothing, rfl⟩ := computed
        exact .closed reading nothing
      · cases computed
  | fail =>
      simp only [next?] at computed
      split at computed
      · rename_i cutOff reading
        cases computed
        exact .failed reading
      · cases computed
  | timeOut =>
      simp only [next?] at computed
      split at computed
      · rename_i cutOff reading
        simp only [Option.ite_none_right_eq_some, Option.some.injEq] at computed
        obtain ⟨due, rfl⟩ := computed
        exact .timedOut reading due
      · cases computed
  | resume =>
      simp only [next?] at computed
      split at computed
      · rename_i due pausing
        simp only [Option.ite_none_right_eq_some, Option.some.injEq] at computed
        obtain ⟨past, rfl⟩ := computed
        exact .resumed pausing past
      · cases computed
  | taken =>
      simp only [next?] at computed
      split at computed
      · rename_i feeding
        cases computed
        exact .taken feeding
      · cases computed
  | stop =>
      simp only [next?] at computed
      split at computed
      · rename_i due awake
        simp only [Option.ite_none_right_eq_some, Option.some.injEq] at computed
        obtain ⟨cancelled, rfl⟩ := computed
        exact .stopped (by simp [result?, awake]) cancelled
      · rename_i due awake
        simp only [Option.ite_none_right_eq_some, Option.some.injEq] at computed
        obtain ⟨cancelled, rfl⟩ := computed
        exact .stopped (by simp [result?, awake]) cancelled
      · cases computed
  | cancel =>
      cases computed
      exact .cancelled
  | pass millis =>
      simp only [next?, Option.ite_none_right_eq_some, Option.some.injEq] at computed
      obtain ⟨waits, rfl⟩ := computed
      exact .passed waits

theorem run?_eq_foldlM : p.run? actions = actions.foldlM next? p :=
  Runs.eq_foldlM (fun _ => rfl) fun _ _ _ => rfl

theorem run?_append {rest : List Action} :
    p.run? (actions ++ rest) = (p.run? actions).bind (run? · rest) := by
  rw [run?_eq_foldlM, run?_eq_foldlM, List.foldlM_append]
  congr 1
  funext middle
  exact run?_eq_foldlM.symm

/-! ### What every step keeps -/

/-- No byte is lost, made up or moved. -/
theorem carried_of_step (step : Step p action p') :
    p'.delivered ++ p'.waiting = p.delivered ++ p.waiting ++ action.data := by
  cases step with
  | arrived => exact (List.append_assoc ..).symm
  | read =>
      simp only [delivered, List.reverse_cons, List.flatMap_append, List.flatMap_singleton,
        List.append_assoc, List.take_append_drop, Action.data, List.append_nil]
  | starved | closed | failed | timedOut | resumed | taken | stopped | cancelled | passed =>
      exact (List.append_nil _).symm

theorem carried_of_run (ran : p.run? actions = some p') :
    p'.delivered ++ p'.waiting = p.delivered ++ p.waiting ++ arrived actions := by
  induction actions generalizing p with
  | nil =>
      cases ran
      exact (List.append_nil _).symm
  | cons action rest ih =>
      obtain ⟨middle, computed, ran⟩ := Option.bind_eq_some_iff.mp ran
      rw [ih ran, carried_of_step (step_of_next? computed), List.append_assoc]
      rfl

/-- A pump with a buffer of the size, the pieces of which fit it. -/
structure Fits (chunkSize : Nat) (p : Pump) : Prop where
  size : p.chunkSize = chunkSize
  filled : ∀ chunk ∈ p.chunks, 0 < chunk.2.length
  bounded : ∀ chunk ∈ p.chunks, chunk.2.length ≤ chunkSize

theorem Fits.step {chunkSize : Nat} (fits : p.Fits chunkSize) (step : Step p action p') :
    p'.Fits chunkSize := by
  obtain ⟨size, filled, bounded⟩ := fits
  cases step with
  | read reading sized something =>
      refine ⟨size, List.forall_mem_cons.mpr ⟨?_, filled⟩, List.forall_mem_cons.mpr ⟨?_, bounded⟩⟩
      · have waits := List.length_pos_iff.mpr something
        simp only [List.length_take]
        exact Nat.lt_min.mpr ⟨sized, waits⟩
      · exact size ▸ List.length_take_le ..
  | arrived | starved | closed | failed | timedOut | resumed | taken | stopped | cancelled
  | passed => exact ⟨size, filled, bounded⟩

theorem Fits.run {chunkSize : Nat} (fits : p.Fits chunkSize) (ran : p.run? actions = some p') :
    p'.Fits chunkSize :=
  Runs.keeps (Fits chunkSize) (fun held _ computed => held.step (step_of_next? computed)) fits
    (run?_eq_foldlM ▸ ran)

/-- Only a cancellation cancels. -/
theorem cancelled_of_run (ran : p.run? actions = some p') (cancelled : p'.cancelled = true) :
    p.cancelled = true ∨ .cancel ∈ actions := by
  induction actions generalizing p with
  | nil =>
      cases ran
      exact Or.inl cancelled
  | cons action rest ih =>
      obtain ⟨middle, computed, ran⟩ := Option.bind_eq_some_iff.mp ran
      rcases ih ran with before | member
      · cases step_of_next? computed with
        | cancelled => exact Or.inr List.mem_cons_self
        | arrived | read | starved | closed | failed | timedOut | resumed | taken | stopped
        | passed => exact Or.inl before
      · exact Or.inr (List.mem_cons_of_mem _ member)

/-! ### How it ends -/

/-- How an action ends a pump, and with what. -/
inductive Ends (p : Pump) : Action → Except Fault Unit → Prop where
  | closed (nothing : p.waiting = []) : Ends p .close (.error endOfStream)
  | stopped (cancelled : p.cancelled = true) : Ends p .stop (.ok ())

variable {result : Except Fault Unit}

theorem ends_of_step (sized : 0 < p.chunkSize) (going : p.result? = none)
    (step : Step p action p') (ended : p'.result? = some result) :
    Ends p action result ∧ p'.chunks = p.chunks := by
  cases step with
  | closed reading nothing =>
      cases ended
      exact ⟨.closed nothing, rfl⟩
  | stopped going cancelled =>
      cases ended
      exact ⟨.stopped cancelled, rfl⟩
  | starved reading unsized => exact (Nat.ne_of_gt sized unsized).elim
  | arrived | cancelled | passed =>
      have same : p.result? = some result := ended
      simp [going] at same
  | read | failed | timedOut | resumed | taken => cases ended

/-- A pump that has ended gives the engine nothing more. -/
theorem final_of_step (ended : p.result? = some result) (step : Step p action p') :
    p'.result? = some result ∧ p'.chunks = p.chunks := by
  cases step with
  | arrived | cancelled | passed => exact ⟨ended, rfl⟩
  | read reading | starved reading | closed reading | failed reading | timedOut reading =>
      simp [result?, reading] at ended
  | resumed pausing => simp [result?, pausing] at ended
  | taken feeding => simp [result?, feeding] at ended
  | stopped going => simp [going] at ended

theorem final_of_run (ended : p.result? = some result) (ran : p.run? actions = some p') :
    p'.result? = some result ∧ p'.chunks = p.chunks := by
  refine Runs.keeps (fun other => other.result? = some result ∧ other.chunks = p.chunks) ?_
    ⟨ended, rfl⟩ (run?_eq_foldlM ▸ ran)
  intro s action s' held _ computed
  have final := final_of_step held.1 (step_of_next? computed)
  exact ⟨final.1, final.2.trans held.2⟩

/-- A pump that has ended did so at some action. -/
theorem ending_of_run (sized : 0 < p.chunkSize) (going : p.result? = none)
    (ran : p.run? actions = some p') (ended : p'.result? = some result) :
    ∃ before action after middle, actions = before ++ action :: after ∧
      p.run? before = some middle ∧ Ends middle action result ∧ p'.chunks = middle.chunks := by
  induction actions generalizing p with
  | nil =>
      cases ran
      simp [going] at ended
  | cons action rest ih =>
      obtain ⟨next, computed, ran⟩ := Option.bind_eq_some_iff.mp ran
      have step := step_of_next? computed
      cases goesOn : next.result? with
      | none =>
          have same : next.chunkSize = p.chunkSize := by cases step <;> rfl
          obtain ⟨before, last, after, middle, rfl, ranBefore, ends, chunks⟩ :=
            ih (same ▸ sized) goesOn ran
          refine ⟨action :: before, last, after, middle, rfl, ?_, ends, chunks⟩
          exact Option.bind_eq_some_iff.mpr ⟨next, computed, ranBefore⟩
      | some returned =>
          obtain ⟨ends, chunks⟩ := ends_of_step sized going step goesOn
          obtain ⟨final, still⟩ := final_of_run goesOn ran
          obtain rfl : returned = result := Option.some.inj (final.symm.trans ended)
          exact ⟨[], action, rest, p, rfl, rfl, ends, still.trans chunks⟩

/-! ### What it can do -/

/-- A pump that goes on comes to wait for bytes again. -/
theorem listens (going : p.result? = none) (uncancelled : p.cancelled = false) :
    ∃ rest p' cutOff, p.run? rest = some p' ∧ (∀ action ∈ rest, action.isInner = true) ∧
      p'.phase = .reading cutOff ∧ p'.waiting = p.waiting ∧ p'.cancelled = false ∧
      p'.chunkSize = p.chunkSize := by
  cases phase : p.phase with
  | reading cutOff => exact ⟨[], p, cutOff, rfl, by simp, phase, rfl, uncancelled, rfl⟩
  | feeding =>
      refine ⟨[.taken], p.listen, _, ?_, by simp [Action.isInner], rfl, rfl, uncancelled, rfl⟩
      simp [run?, next?, phase]
  | pausing due =>
      by_cases past : due ≤ p.now
      · refine ⟨[.resume], p.listen, _, ?_, by simp [Action.isInner], rfl, rfl, uncancelled, rfl⟩
        simp [run?, next?, phase, past]
      · have waits : p.canWait (due - p.now) = true := by
          simp only [canWait, phase, uncancelled, Bool.not_false, Bool.true_and, Bool.and_eq_true,
            decide_eq_true_eq]
          omega
        have then' : p.now + (due - p.now) = due := by omega
        refine ⟨[.pass (due - p.now), .resume], { p with now := due }.listen, _, ?_,
          by simp [Action.isInner], rfl, rfl, uncancelled, rfl⟩
        simp [run?, next?, phase, waits, then']
  | stopped | closed => simp [result?, phase] at going

/-- A pump that goes on can give the engine all that waits. -/
theorem drains (sized : 0 < p.chunkSize) (going : p.result? = none)
    (uncancelled : p.cancelled = false) :
    ∃ rest p', p.run? rest = some p' ∧ (∀ action ∈ rest, action.isInner = true) ∧
      p'.waiting = [] := by
  obtain ⟨length, bounded⟩ : ∃ length, p.waiting.length ≤ length := ⟨_, Nat.le_refl _⟩
  induction length generalizing p with
  | zero => exact ⟨[], p, rfl, by simp, List.length_eq_zero_iff.mp (Nat.le_zero.mp bounded)⟩
  | succ length ih =>
      obtain ⟨wait, q, cutOff, waited, inner, reading, waiting, goesOn, size⟩ :=
        listens going uncancelled
      by_cases nothing : q.waiting = []
      · exact ⟨wait, q, waited, inner, nothing⟩
      · -- The piece that is read shortens what waits.
        have unsized : q.chunkSize ≠ 0 := by omega
        have something : q.waiting.isEmpty = false := by simpa using nothing
        obtain ⟨q', read, feeding, left, goesOn', size'⟩ : ∃ q', q.next? .read = some q' ∧
            q'.phase = .feeding ∧ q'.waiting = q.waiting.drop q.chunkSize ∧
            q'.cancelled = false ∧ q'.chunkSize = q.chunkSize := by
          simp [next?, reading, unsized, something, goesOn]
        have shorter : q'.waiting.length ≤ length := by
          rw [left, List.length_drop, waiting]
          omega
        obtain ⟨rest, p', drained, innerRest, empty⟩ :=
          ih (size' ▸ Nat.pos_of_ne_zero unsized) (by simp [result?, feeding]) goesOn' shorter
        refine ⟨wait ++ .read :: rest, p', ?_, ?_, empty⟩
        · rw [run?_append, waited, Option.bind_some, run?, read, Option.bind_some, drained]
        · intro action member
          rcases List.mem_append.mp member with before | after
          · exact inner action before
          · rcases List.mem_cons.mp after with rfl | later
            · rfl
            · exact innerRest action later

theorem arrived_of_inner (inner : ∀ action ∈ actions, action.isInner = true) :
    arrived actions = [] := by
  refine List.flatMap_eq_nil_iff.mpr ?_
  intro action member
  have quiet := inner action member
  cases action with
  | arrive data => cases quiet
  | read | close | fail | timeOut | resume | taken | stop | cancel | pass => rfl

/-! ### The stream -/

theorem carried_of_new {readTimeout : Span} {chunkSize : Nat}
    (ran : (new readTimeout chunkSize).run? actions = some p) :
    p.delivered ++ p.waiting = arrived actions :=
  carried_of_run ran

/-- Whatever the channel, the engine and a cancellation do, and whenever: what the engine was given
and what waits to be read are what the channel has produced, in pieces that fit the buffer, and a
pump that waits for bytes has given all of it. As long as it goes on uncancelled, the rest can
follow; errors of the channel do not end it. It returns a fault only at the end of the channel, once
everything before that was given, and otherwise only when cancelled. -/
theorem stream_carried (readTimeout : Span) {chunkSize : Nat} (sized : 0 < chunkSize)
    {actions : List Action} {p : Pump}
    (ran : (new readTimeout chunkSize).run? actions = some p) :
    p.delivered ++ p.waiting = arrived actions ∧
    (∀ chunk ∈ p.chunks, 0 < chunk.2.length ∧ chunk.2.length ≤ chunkSize) ∧
    (∀ cutOff millis, p.phase = .reading cutOff → p.canWait millis = true →
      p.delivered = arrived actions) ∧
    (p.result? = none → p.cancelled = false →
      ∃ rest p', p.run? rest = some p' ∧ (∀ action ∈ rest, action.isInner = true) ∧
        p'.delivered = arrived actions) ∧
    (∀ fault, p.result? = some (.error fault) →
      fault = endOfStream ∧
        ∃ before after, actions = before ++ .close :: after ∧ p.delivered = arrived before) ∧
    (p.result? = some (.ok ()) → .cancel ∈ actions) ∧
    (.close ∉ actions → .cancel ∉ actions → p.result? = none) := by
  have carried := carried_of_new ran
  have fits : p.Fits chunkSize := Fits.run ⟨rfl, by simp [new], by simp [new]⟩ ran
  have closed : ∀ fault, p.result? = some (.error fault) →
      fault = endOfStream ∧
        ∃ before after, actions = before ++ .close :: after ∧ p.delivered = arrived before := by
    intro fault ended
    obtain ⟨before, action, after, middle, rfl, ranBefore, ends, chunks⟩ :=
      ending_of_run sized rfl ran ended
    cases ends with
    | closed nothing =>
        have carriedBefore := carried_of_new ranBefore
        rw [nothing, List.append_nil] at carriedBefore
        refine ⟨rfl, before, after, rfl, ?_⟩
        rw [delivered, chunks]
        exact carriedBefore
  have stopped : p.result? = some (.ok ()) → .cancel ∈ actions := by
    intro ended
    obtain ⟨before, action, after, middle, rfl, ranBefore, ends, -⟩ :=
      ending_of_run sized rfl ran ended
    cases ends with
    | stopped cancelled =>
        rcases cancelled_of_run ranBefore cancelled with first | member
        · cases first
        · exact List.mem_append_left _ member
  refine ⟨carried, fun chunk member => ⟨fits.filled chunk member, fits.bounded chunk member⟩,
    ?_, ?_, closed, stopped, ?_⟩
  · intro cutOff millis reading waits
    have nothing : p.waiting = [] := by
      simp only [canWait, reading, Bool.and_eq_true, List.isEmpty_iff] at waits
      exact waits.1.1.1.2
    rw [← carried, nothing, List.append_nil]
  · intro going uncancelled
    obtain ⟨rest, p', drained, inner, nothing⟩ := drains (fits.size ▸ sized) going uncancelled
    refine ⟨rest, p', drained, inner, ?_⟩
    have carriedOn := carried_of_run drained
    rwa [nothing, arrived_of_inner inner, List.append_nil, List.append_nil, carried] at carriedOn
  · intro unclosed uncancelled
    cases ended : p.result? with
    | none => rfl
    | some result =>
        cases result with
        | ok => exact (uncancelled (stopped ended)).elim
        | error fault =>
            obtain ⟨-, before, after, rfl, -⟩ := closed fault ended
            exact (unclosed (by simp)).elim

/-- Bytes that do not fit the buffer, an error of the channel between them, and its end. -/
def interrupted : List Action :=
  [.arrive [1, 2, 3], .read, .taken, .fail, .arrive [4], .pass 5, .resume, .read, .taken, .close]

/-- The bytes arrive in two pieces, and the end is found after them. -/
theorem interrupted_carried :
    ∃ p, (new (.ofMillis 5) 2).run? interrupted = some p ∧
      p.chunks = [(5, [3, 4]), (0, [1, 2])] ∧ p.result? = some (.error endOfStream) ∧
      p.delivered ++ p.waiting = [1, 2, 3, 4] := by
  have ran : ∃ p, (new (.ofMillis 5) 2).run? interrupted = some p ∧
      p.chunks = [(5, [3, 4]), (0, [1, 2])] ∧ p.result? = some (.error endOfStream) :=
    ⟨_, rfl, rfl, rfl⟩
  obtain ⟨p, ran, chunks, ended⟩ := ran
  obtain ⟨carried, -⟩ := stream_carried (.ofMillis 5) (by decide : 0 < 2) ran
  exact ⟨p, ran, chunks, ended, carried⟩

end BridgeWarden.Transport.Pump

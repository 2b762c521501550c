import BridgeWarden.Link.System
import Mathlib.Data.List.Chain

/-!
Attempts at a link, one after another.

A `Deed` is what a run does with the engine and the session: a call begins or ends, or the session
faults. An `Attempt` is regular if its instants fit together: no call outlasts its bound, and a
fault comes when its cause says. Deeds that are `InTurn` are those of one regular attempt after
another, up to some point. What holds within each attempt and from one to the next holds throughout
(`Attempt.isChain`), and from the beginning of one attempt to that of the next are the deeds of the
one (`Attempt.between`).
-/

namespace BridgeWarden.Link

/-! ### Calls and faults -/

/-- A call into the engine. -/
inductive Call where
  | connect
  | disconnect
  deriving DecidableEq

/-- Why a session faults. -/
inductive Cause where
  /-- The engine's `connect` failed. -/
  | refused
  /-- The engine's `connect` did not return in time. -/
  | cutOff
  /-- The negotiation took too long. -/
  | expired
  /-- The engine reported that the link is down. -/
  | reported (reason : String)
  deriving DecidableEq

/-- Whether the machine found the fault by itself. -/
def Cause.isLocal : Cause → Bool
  | .refused | .cutOff | .expired => true
  | .reported _ => false

/-- What a run does with the engine and the session. -/
inductive Deed where
  | begins (call : Call)
  /-- The engine returns from a call, or the machine drops it. -/
  | ends (call : Call)
  /-- The session faults. -/
  | faults (cause : Cause)
  deriving DecidableEq

def Deed.isFault : Deed → Bool
  | .faults _ => true
  | .begins _ | .ends _ => false

/-! ### Attempts -/

/-- An attempt: when `connect` was called and when the call ended, when and why the session faulted,
and when the engine had let go of it, if the machine had to ask for that. -/
structure Attempt where
  begun : Nat
  returned : Nat
  faulted : Nat
  cause : Cause
  released : Nat

/-- The deeds of an attempt up to its fault. -/
def opening (begun returned : Nat) : List (Nat × Deed) :=
  [(begun, .begins .connect), (returned, .ends .connect)]

namespace Attempt

/-- The deeds of an attempt from its fault on. -/
def closing (a : Attempt) : List (Nat × Deed) :=
  (a.faulted, .faults a.cause) ::
    if a.cause.isLocal then [(a.faulted, .begins .disconnect), (a.released, .ends .disconnect)]
    else []

/-- The deeds of an attempt. -/
def deeds (a : Attempt) : List (Nat × Deed) := opening a.begun a.returned ++ a.closing

end Attempt

/-- A call that begins and ends then has not outlasted its bound. -/
def Timely (begun returned : Nat) : Prop := begun ≤ returned ∧ returned ≤ Clock.wake begun callBound

theorem Timely.at_once (begun : Nat) : Timely begun begun := ⟨Nat.le_refl _, Clock.le_wake _ _⟩

theorem Timely.at_last (begun : Nat) : Timely begun (Clock.wake begun callBound) :=
  ⟨Clock.le_wake _ _, Nat.le_refl _⟩

/-- The instants of an attempt fit together. -/
structure Attempt.Regular (negotiation : Span) (a : Attempt) : Prop where
  called : Timely a.begun a.returned
  refused : a.cause = .refused → a.faulted = a.returned
  cutOff : a.cause = .cutOff → a.faulted = a.returned ∧ a.returned = Clock.wake a.begun callBound
  expired : a.cause = .expired → Clock.deadline? a.returned negotiation = some a.faulted
  reported : ∀ reason, a.cause = .reported reason → a.returned ≤ a.faulted
  letGo : Timely a.faulted a.released

namespace Attempt.Regular

variable {negotiation : Span} {begun returned faulted released : Nat}

theorem of_refused (called : Timely begun returned) (letGo : Timely returned released) :
    Regular negotiation ⟨begun, returned, returned, .refused, released⟩ :=
  ⟨called, fun _ => rfl, by simp, by simp, by simp, letGo⟩

theorem of_cutOff (letGo : Timely (Clock.wake begun callBound) released) :
    Regular negotiation
      ⟨begun, Clock.wake begun callBound, Clock.wake begun callBound, .cutOff, released⟩ :=
  ⟨.at_last begun, by simp, fun _ => ⟨rfl, rfl⟩, by simp, by simp, letGo⟩

theorem of_expired (called : Timely begun returned)
    (told : Clock.deadline? returned negotiation = some faulted)
    (letGo : Timely faulted released) :
    Regular negotiation ⟨begun, returned, faulted, .expired, released⟩ :=
  ⟨called, by simp, by simp, fun _ => told, by simp, letGo⟩

/-- The machine need not ask for an attempt to be let go that the engine has reported. -/
theorem of_reported (called : Timely begun returned) (since : returned ≤ faulted)
    (reason : String) :
    Regular negotiation ⟨begun, returned, faulted, .reported reason, faulted⟩ :=
  ⟨called, by simp, by simp, by simp, fun _ _ => since, .at_once faulted⟩

end Attempt.Regular

/-! ### One attempt after another -/

/-- How many faults the deeds tell of. -/
def faultsIn (account : List (Nat × Deed)) : Nat := account.countP (·.2.isFault)

/-- How many calls the deeds tell of. -/
def callsIn (call : Call) (account : List (Nat × Deed)) : Nat :=
  account.countP (·.2 == .begins call)

namespace Attempt

variable {attempts : List Attempt}

/-- The beginning of an attempt is the only one among its deeds. -/
theorem begins_once (a : Attempt) :
    ∃ tail, a.deeds = (a.begun, .begins .connect) :: tail ∧
      ∀ entry ∈ tail, entry.2 ≠ .begins .connect := by
  refine ⟨(a.returned, .ends .connect) :: a.closing, rfl, ?_⟩
  unfold closing
  cases a.cause.isLocal with
  | true => simp
  | false => simp

/-- An attempt is one call of `connect`, one fault, and one call of `disconnect` if the engine did
not report the fault. -/
theorem counts (a : Attempt) :
    callsIn .connect a.deeds = 1 ∧ faultsIn a.deeds = 1 ∧
      callsIn .disconnect a.deeds = if a.cause.isLocal then 1 else 0 := by
  cases found : a.cause.isLocal with
  | true => simp [callsIn, faultsIn, deeds, closing, opening, found, Deed.isFault]
  | false => simp [callsIn, faultsIn, deeds, closing, opening, found, Deed.isFault]

/-- Up to any point there were no more faults than attempts. -/
theorem faults_le {account : List (Nat × Deed)} (leads : account <+: attempts.flatMap deeds) :
    faultsIn account ≤ callsIn .connect account := by
  induction attempts generalizing account with
  | nil =>
      rw [List.prefix_nil.mp leads]
      exact Nat.le_refl _
  | cons a rest ih =>
      obtain ⟨one, fault, -⟩ := a.counts
      obtain ⟨after, whole⟩ := leads
      rw [List.flatMap_cons] at whole
      rcases List.append_eq_append_iff.mp whole with ⟨more, cut, -⟩ | ⟨more, rfl, others⟩
      · cases account with
        | nil => exact Nat.le_refl _
        | cons entry account =>
            obtain ⟨tail, unfolded, -⟩ := a.begins_once
            rw [cut, List.cons_append] at unfolded
            obtain ⟨rfl, -⟩ := List.cons.inj unfolded
            have most : faultsIn ((a.begun, .begins .connect) :: account) ≤ faultsIn a.deeds :=
              (cut ▸ List.sublist_append_left _ _).countP_le
            have some : 0 < callsIn .connect ((a.begun, .begins .connect) :: account) := by
              simp [callsIn]
            omega
      · have fewer := ih ⟨after, others.symm⟩
        simp only [faultsIn, callsIn, List.countP_append] at one fault fewer ⊢
        omega

/-- A call is over before anything else is done. -/
theorem calls_apart (a : Attempt) :
    List.IsChain (fun one next => ∀ call, one.2 = .begins call → next.2 = .ends call) a.deeds := by
  cases found : a.cause.isLocal with
  | true => simp [deeds, closing, opening, found]
  | false => simp [deeds, closing, opening, found]

/-- An attempt ends with a fault or with a call that is over. -/
theorem over_of_getLast? {a : Attempt} {entry : Nat × Deed}
    (last : a.deeds.getLast? = some entry) (call : Call) : entry.2 ≠ .begins call := by
  unfold deeds closing opening at last
  cases found : a.cause.isLocal with
  | true =>
      simp only [found, if_true, List.cons_append, List.nil_append, List.getLast?_cons_cons,
        List.getLast?_singleton, Option.some.injEq] at last
      simp [← last]
  | false =>
      simp only [found, Bool.false_eq_true, if_false, List.cons_append, List.nil_append,
        List.getLast?_cons_cons, List.getLast?_singleton, Option.some.injEq] at last
      simp [← last]

/-- Attempts begin with a call of `connect`. -/
theorem begins_of_flatMap {entry : Nat × Deed} {more : List (Nat × Deed)}
    (whole : attempts.flatMap deeds = entry :: more) : entry.2 = .begins .connect := by
  cases attempts with
  | nil => cases whole
  | cons a rest =>
      rw [List.flatMap_cons] at whole
      cases whole
      rfl

/-- From the beginning of an attempt to that of the next one are its deeds. -/
theorem between {before mid after : List (Nat × Deed)} {first second : Nat}
    (whole : attempts.flatMap deeds =
      before ++ (first, .begins .connect) :: (mid ++ (second, .begins .connect) :: after))
    (none : ∀ entry ∈ mid, entry.2 ≠ .begins .connect) :
    ∃ a ∈ attempts, (first, .begins .connect) :: mid = a.deeds := by
  induction attempts generalizing before with
  | nil => simp at whole
  | cons a rest ih =>
      obtain ⟨tail, unfolded, alone⟩ := a.begins_once
      rw [List.flatMap_cons, unfolded, List.cons_append] at whole
      cases before with
      | nil =>
          simp only [List.nil_append, List.cons.injEq, Prod.mk.injEq, and_true] at whole
          obtain ⟨rfl, whole⟩ := whole
          refine ⟨a, List.mem_cons_self, ?_⟩
          rw [unfolded]
          rcases List.append_eq_append_iff.mp whole with
            ⟨more, longer, others⟩ | ⟨more, longer, others⟩
          · cases more with
            | nil => rw [longer, List.append_nil]
            | cons entry more =>
                exact (none entry (by simp [longer]) (begins_of_flatMap others)).elim
          · cases more with
            | nil => rw [longer, List.append_nil]
            | cons entry more =>
                obtain ⟨rfl, -⟩ := List.cons.inj others
                exact (alone (second, .begins .connect) (by simp [longer]) rfl).elim
      | cons entry before =>
          simp only [List.cons_append, List.cons.injEq] at whole
          have later : ∀ before, rest.flatMap deeds =
              before ++ (first, .begins .connect) :: (mid ++ (second, .begins .connect) :: after) →
              ∃ b ∈ a :: rest, (first, .begins .connect) :: mid = b.deeds := by
            intro before whole
            obtain ⟨b, member, same⟩ := ih whole
            exact ⟨b, List.mem_cons_of_mem _ member, same⟩
          rcases List.append_eq_append_iff.mp whole.2 with
            ⟨more, longer, others⟩ | ⟨more, longer, others⟩
          · exact later more others
          · cases more with
            | nil => exact later [] others.symm
            | cons entry more =>
                obtain ⟨rfl, -⟩ := List.cons.inj others
                exact (alone (first, .begins .connect) (by simp [longer]) rfl).elim

/-- What holds from deed to deed within an attempt, and from the end of one to the beginning of
another, holds throughout. -/
theorem isChain {R : Nat × Deed → Nat × Deed → Prop}
    (within : ∀ a ∈ attempts, List.IsChain R a.deeds)
    (across : ∀ one next, (∀ call, one.2 ≠ .begins call) → next.2 = .begins .connect → R one next) :
    List.IsChain R (attempts.flatMap deeds) := by
  induction attempts with
  | nil => exact List.isChain_nil
  | cons a rest ih =>
      rw [List.flatMap_cons]
      refine (within a List.mem_cons_self).append
        (ih fun b member => within b (List.mem_cons_of_mem _ member)) ?_
      intro one last next first
      obtain ⟨more, others⟩ := List.head?_eq_some_iff.mp (Option.mem_def.mp first)
      exact across one next (over_of_getLast? (Option.mem_def.mp last)) (begins_of_flatMap others)

end Attempt

/-- The deeds are those of one regular attempt after another, up to some point. -/
def InTurn (negotiation : Span) (account : List (Nat × Deed)) : Prop :=
  ∃ attempts : List Attempt, (∀ a ∈ attempts, Attempt.Regular negotiation a) ∧
    account <+: attempts.flatMap Attempt.deeds

namespace InTurn

variable {negotiation : Span} {account rest : List (Nat × Deed)}

theorem nil (negotiation : Span) : InTurn negotiation [] := ⟨[], by simp, List.nil_prefix⟩

/-- An attempt that can end as a regular one. -/
theorem single {a : Attempt} (regular : Attempt.Regular negotiation a)
    (begins : account <+: a.deeds) : InTurn negotiation account :=
  ⟨[a], by simpa using regular, by simpa using begins⟩

/-- Attempts, and what comes after them. -/
theorem after {attempts : List Attempt} (regular : ∀ a ∈ attempts, Attempt.Regular negotiation a)
    (further : InTurn negotiation rest) :
    InTurn negotiation (attempts.flatMap Attempt.deeds ++ rest) := by
  obtain ⟨others, fair, begins⟩ := further
  refine ⟨attempts ++ others, List.forall_mem_append.mpr ⟨regular, fair⟩, ?_⟩
  rw [List.flatMap_append]
  exact (List.prefix_append_right_inj _).mpr begins

end InTurn

end BridgeWarden.Link

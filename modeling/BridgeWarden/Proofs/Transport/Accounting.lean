import BridgeWarden.Proofs.Transport.Turns

/-!
What the channel has accepted, call by call.

The account is kept by one fact about the order of turns (`Orderly.holder`): bytes are accepted of
the call whose turn began last and of no other, so that they lengthen the last part. A call that has
not had a turn has no part yet. Nothing is said of calls that the channel has accepted bytes of and
that are still under way, except that their part ends where the channel has come to.
-/

namespace BridgeWarden.Transport

open Text (Bytes)

namespace Writer

variable {w w' : Writer} {action : Action} {actions : List Action} {number : Nat} {s : Send}

/-- What the channel has accepted of the call with the number; nothing where none has been made. -/
def part (w : Writer) (number : Nat) : Bytes :=
  ((w.sends[number]?).map Send.taken).getD []

theorem part_of_present (present : w.sends[number]? = some s) : w.part number = s.taken := by
  rw [part, present, Option.map_some, Option.getD_some]

structure Accounted (w : Writer) : Prop where
  within : ∀ (number : Nat) (s : Send), w.sends[number]? = some s → s.written ≤ s.data.length
  untouched : ∀ (number : Nat) (s : Send), w.sends[number]? = some s → number ∉ w.turns →
    s.written = 0
  parts : w.accepted = w.turns.flatMap w.part

namespace Accounted

theorem new (timeout : Span) : Accounted (new timeout) := by
  constructor <;> simp [Writer.new]

/-- A further call has no part in what has been accepted. -/
theorem call (accounted : Accounted w) (orderly : Orderly w) {x : Send} (fresh : x.written = 0)
    (queue : List Nat) : Accounted { w with sends := w.sends ++ [x], queue } := by
  refine ⟨?_, ?_, ?_⟩
  · intro number s called
    rcases getElem?_append_eq_some_iff.mp called with ⟨-, rfl⟩ | called
    · rw [fresh]
      exact Nat.zero_le _
    · exact accounted.within number s called
  · intro number s called begun
    rcases getElem?_append_eq_some_iff.mp called with ⟨-, rfl⟩ | called
    · exact fresh
    · exact accounted.untouched number s called begun
  · rw [accounted.parts]
    apply List.flatMap_congr
    intro turn member
    have made := (orderly.before turn member).1
    unfold part
    rw [List.getElem?_append_left made]

/-- The account after one of the calls has changed: the others' parts are what they were. -/
theorem set (accounted : Accounted w) {s' : Send} {turns : List Nat} {accepted : Bytes}
    (present : w.sends[number]? = some s) (within : s'.written ≤ s'.data.length)
    (untouched : number ∉ turns → s'.written = 0) (further : w.turns ⊆ turns)
    (parts : ∀ part : Nat → Bytes, part number = s'.taken →
      (∀ other, other ≠ number → part other = w.part other) → accepted = turns.flatMap part)
    (queue : List Nat) :
    Accounted { w with sends := w.sends.set number s', queue, turns, accepted } := by
  refine ⟨?_, ?_, ?_⟩
  · intro other t called
    rcases (getElem?_set_eq_some_iff present).mp called with ⟨-, rfl⟩ | ⟨-, called⟩
    · exact within
    · exact accounted.within other t called
  · intro other t called begun
    rcases (getElem?_set_eq_some_iff present).mp called with ⟨rfl, rfl⟩ | ⟨-, called⟩
    · exact untouched begun
    · exact accounted.untouched other t called fun member => begun (further member)
  · apply parts
    · exact part_of_present ((getElem?_set_eq_some_iff present).mpr (Or.inl ⟨rfl, rfl⟩))
    · intro other apart
      unfold part
      rw [List.getElem?_set_ne (Ne.symm apart)]

/-- A call of which nothing more is accepted changes no part. -/
theorem set_same (accounted : Accounted w) (present : w.sends[number]? = some s) {stage : Stage}
    (queue : List Nat) :
    Accounted { w with sends := w.sends.set number { s with stage }, queue } := by
  have within : Send.written { s with stage } ≤ s.data.length := accounted.within number s present
  refine accounted.set present within (accounted.untouched number s present) (List.Subset.refl _)
    ?_ queue
  intro part own others
  rw [accounted.parts]
  apply List.flatMap_congr
  intro turn _
  by_cases same : turn = number
  · subst same
    rw [own, part_of_present present]
    rfl
  · exact (others turn same).symm

theorem began (accounted : Accounted w) (orderly : Orderly w) (present : w.sends[number]? = some s)
    (waiting : s.stage = .waiting) :
    Accounted { w with
      sends := w.sends.set number { s with stage := .writing }
      turns := w.turns ++ [number] } := by
  have fresh := orderly.waiting number s present waiting
  have nothing : s.written = 0 := accounted.untouched number s present fresh
  have within : Send.written { s with stage := .writing } ≤ s.data.length :=
    accounted.within number s present
  refine accounted.set present within (fun _ => nothing) (List.subset_append_left _ _) ?_ w.queue
  intro part own others
  have before : w.turns.flatMap part = w.turns.flatMap w.part := by
    apply List.flatMap_congr
    intro turn member
    apply others
    rintro rfl
    exact fresh member
  rw [List.flatMap_append, List.flatMap_singleton, own, before, ← accounted.parts, Send.taken]
  simp only [nothing, List.take_zero, List.append_nil]

/-- Bytes accepted lengthen the part of the turn that began last. -/
theorem accepted (accounted : Accounted w) (orderly : Orderly w) {count : Nat} {stage : Stage}
    (present : w.sends[number]? = some s) (writing : s.stage = .writing)
    (offered : count ≤ s.offered.length) :
    Accounted { w with
      sends := w.sends.set number { s with written := s.written + count, stage }
      accepted := w.accepted ++ s.offered.take count } := by
  have within := accounted.within number s present
  -- The call has had the last turn and no earlier one, so the other parts stay as they are.
  obtain ⟨earlier, turns⟩ :=
    List.getLast?_eq_some_iff.mp (orderly.holder number s present (Or.inl writing)).2
  have member : number ∈ w.turns := by simp [turns]
  have begun := orderly.begun
  rw [turns, List.pairwise_append] at begun
  have apart : ∀ turn ∈ earlier, turn ≠ number := by
    intro turn before
    exact Nat.ne_of_lt (begun.2.2 turn before number (List.mem_singleton_self _))
  refine accounted.set present ?_ (fun absent => (absent member).elim) (List.Subset.refl _) ?_
    w.queue
  · rw [Send.offered, List.length_drop] at offered
    show s.written + count ≤ s.data.length
    omega
  · intro part own others
    have before : earlier.flatMap part = earlier.flatMap w.part := by
      apply List.flatMap_congr
      intro turn before
      exact others turn (apart turn before)
    have longer : s.taken ++ s.offered.take count = s.data.take (s.written + count) :=
      List.take_add.symm
    calc w.accepted ++ s.offered.take count
        = earlier.flatMap w.part ++ w.part number ++ s.offered.take count := by
          rw [accounted.parts, turns, List.flatMap_append, List.flatMap_singleton]
      _ = earlier.flatMap part ++ part number := by
          rw [part_of_present present, List.append_assoc, longer, own, before, Send.taken]
      _ = w.turns.flatMap part := by
          rw [turns, List.flatMap_append, List.flatMap_singleton]

theorem step (accounted : Accounted w) (orderly : Orderly w) (stepped : Step w action w') :
    Accounted w' := by
  cases stepped with
  | answered => exact accounted.call orderly rfl w.queue
  | queued => exact accounted.call orderly rfl _
  | began first waiting =>
      exact accounted.began orderly (first?_eq_some_iff.mp first).2 waiting
  | accepted first writing _ offered =>
      exact accounted.accepted orderly (first?_eq_some_iff.mp first).2 writing offered
  | ended ends => exact accounted.set_same ends.present _
  | passed => exact ⟨accounted.within, accounted.untouched, accounted.parts⟩

theorem of_run {timeout : Span} (ran : (Writer.new timeout).run? actions = some w) :
    Accounted w := by
  have both : Orderly w ∧ Accounted w := by
    refine run?_keeps (fun w => Orderly w ∧ Accounted w) ?_ ⟨.new timeout, new timeout⟩ ran
    rintro w action w' ⟨orderly, accounted⟩ stepped
    exact ⟨orderly.step stepped, accounted.step orderly stepped⟩
  exact both.2

end Accounted

end Writer

end BridgeWarden.Transport

import BridgeWarden.Proofs.Transport.Calls

/-!
Whose turn it is.

`Orderly` is the order of the calls: those that have not returned are queued as they were made, only
the first of them may have begun its turn, and then that is the last turn so far. A call that ends,
also one that never had its turn, leaves the order of the others as it is.
-/

namespace BridgeWarden.Transport

open Text (Bytes)

namespace Writer

variable {w w' : Writer} {action : Action} {actions : List Action} {number : Nat} {s : Send}

/-- A call that has been made and has not returned. -/
def Outstanding (w : Writer) (number : Nat) : Prop :=
  ∃ s, w.sends[number]? = some s ∧ s.result? = none

structure Orderly (w : Writer) : Prop where
  queued : ∀ number, number ∈ w.queue ↔ w.Outstanding number
  inOrder : w.queue.Pairwise (· < ·)
  begun : w.turns.Pairwise (· < ·)
  /-- Nobody is overtaken. -/
  before : ∀ turn ∈ w.turns, turn < w.sends.length ∧ ∀ number ∈ w.queue, turn ≤ number
  waiting : ∀ number s, w.sends[number]? = some s → s.stage = .waiting → number ∉ w.turns
  /-- A call in its turn is the first one queued, and no turn has begun after it. -/
  holder : ∀ number s, w.sends[number]? = some s → s.stage = .writing ∨ s.stage = .flushing →
    w.queue.head? = some number ∧ w.turns.getLast? = some number

/-- A call that goes on is as outstanding as before. -/
theorem outstanding_set {s' : Send} (present : w.sends[number]? = some s)
    (unreturned : s.result? = none) (still : s'.result? = none) {other : Nat} :
    Outstanding { w with sends := w.sends.set number s' } other ↔ w.Outstanding other := by
  constructor
  · rintro ⟨t, called, outstanding⟩
    rcases (getElem?_set_eq_some_iff present).mp called with ⟨rfl, -⟩ | ⟨-, called⟩
    · exact ⟨s, present, unreturned⟩
    · exact ⟨t, called, outstanding⟩
  · rintro ⟨t, called, outstanding⟩
    by_cases same : other = number
    · subst same
      exact ⟨s', (getElem?_set_eq_some_iff present).mpr (Or.inl ⟨rfl, rfl⟩), still⟩
    · exact ⟨t, (getElem?_set_eq_some_iff present).mpr (Or.inr ⟨same, called⟩), outstanding⟩

namespace Orderly

theorem new (timeout : Span) : Orderly (new timeout) := by
  constructor <;> simp [Writer.new, Outstanding]

theorem lt_length (orderly : Orderly w) (queued : number ∈ w.queue) :
    number < w.sends.length := by
  obtain ⟨s, present, -⟩ := (orderly.queued number).mp queued
  exact (List.getElem?_eq_some_iff.mp present).1

/-- The first call queued came before all the others. -/
theorem first_le (orderly : Orderly w) (first : w.first? = some (number, s)) :
    ∀ other ∈ w.queue, number ≤ other := by
  obtain ⟨⟨rest, queue⟩, -⟩ := first?_eq_some_iff.mp first
  have inOrder := orderly.inOrder
  rw [queue, List.pairwise_cons] at inOrder
  intro other member
  rw [queue] at member
  rcases List.mem_cons.mp member with rfl | later
  · exact Nat.le_refl _
  · exact Nat.le_of_lt (inOrder.1 other later)

theorem answered (orderly : Orderly w) {x : Send} {instant : Nat}
    (finished : x.stage = .over instant) : Orderly { w with sends := w.sends ++ [x] } := by
  have returned : x.result? ≠ none := by simp [Send.result?, finished]
  refine ⟨?_, orderly.inOrder, orderly.begun, ?_, ?_, ?_⟩
  · intro number
    rw [orderly.queued number]
    constructor
    · rintro ⟨s, called, unreturned⟩
      exact ⟨s, getElem?_append_eq_some_iff.mpr (Or.inr called), unreturned⟩
    · rintro ⟨s, called, unreturned⟩
      rcases getElem?_append_eq_some_iff.mp called with ⟨-, rfl⟩ | called
      · exact (returned unreturned).elim
      · exact ⟨s, called, unreturned⟩
  · intro turn member
    obtain ⟨made, ahead⟩ := orderly.before turn member
    refine ⟨?_, ahead⟩
    rw [List.length_append]
    exact Nat.lt_add_right _ made
  · intro number s called waiting
    rcases getElem?_append_eq_some_iff.mp called with ⟨-, rfl⟩ | called
    · simp [finished] at waiting
    · exact orderly.waiting number s called waiting
  · intro number s called turn
    rcases getElem?_append_eq_some_iff.mp called with ⟨-, rfl⟩ | called
    · simp [finished] at turn
    · exact orderly.holder number s called turn

theorem add (orderly : Orderly w) {x : Send} (waiting : x.stage = .waiting) :
    Orderly { w with sends := w.sends ++ [x], queue := w.queue ++ [w.sends.length] } := by
  refine ⟨?_, ?_, orderly.begun, ?_, ?_, ?_⟩
  · intro number
    rw [List.mem_append, List.mem_singleton, orderly.queued number]
    constructor
    · rintro (⟨s, called, unreturned⟩ | last)
      · exact ⟨s, getElem?_append_eq_some_iff.mpr (Or.inr called), unreturned⟩
      · refine ⟨x, getElem?_append_eq_some_iff.mpr (Or.inl ⟨last, rfl⟩), ?_⟩
        simp [Send.result?, waiting]
    · rintro ⟨s, called, unreturned⟩
      rcases getElem?_append_eq_some_iff.mp called with ⟨last, -⟩ | called
      · exact Or.inr last
      · exact Or.inl ⟨s, called, unreturned⟩
  · rw [List.pairwise_append]
    refine ⟨orderly.inOrder, List.pairwise_singleton _ _, ?_⟩
    intro number member last here
    rw [List.mem_singleton.mp here]
    exact orderly.lt_length member
  · intro turn member
    obtain ⟨made, ahead⟩ := orderly.before turn member
    refine ⟨?_, ?_⟩
    · rw [List.length_append]
      exact Nat.lt_add_right _ made
    · intro number queued
      rcases List.mem_append.mp queued with queued | last
      · exact ahead number queued
      · rw [List.mem_singleton.mp last]
        exact Nat.le_of_lt made
  · intro number s called stage begun
    rcases getElem?_append_eq_some_iff.mp called with ⟨rfl, -⟩ | called
    · exact Nat.lt_irrefl _ (orderly.before _ begun).1
    · exact orderly.waiting number s called stage begun
  · intro number s called turn
    rcases getElem?_append_eq_some_iff.mp called with ⟨-, rfl⟩ | called
    · simp [waiting] at turn
    · obtain ⟨first, last⟩ := orderly.holder number s called turn
      refine ⟨?_, last⟩
      rw [List.head?_append, first]
      rfl

theorem began (orderly : Orderly w) (first : w.first? = some (number, s))
    (waiting : s.stage = .waiting) :
    Orderly { w with
      sends := w.sends.set number { s with stage := .writing }
      turns := w.turns ++ [number] } := by
  obtain ⟨⟨rest, queue⟩, present⟩ := first?_eq_some_iff.mp first
  have queued : number ∈ w.queue := by simp [queue]
  have unreturned : s.result? = none := by simp [Send.result?, waiting]
  have still : Send.result? { s with stage := .writing } = none := rfl
  have fresh := orderly.waiting number s present waiting
  refine ⟨?_, orderly.inOrder, ?_, ?_, ?_, ?_⟩
  · intro other
    rw [orderly.queued other]
    exact (outstanding_set present unreturned still).symm
  · rw [List.pairwise_append]
    refine ⟨orderly.begun, List.pairwise_singleton _ _, ?_⟩
    intro turn member last here
    rw [List.mem_singleton.mp here]
    have behind := (orderly.before turn member).2 number queued
    exact Nat.lt_of_le_of_ne behind fun same => fresh (same ▸ member)
  · intro turn member
    rw [List.length_set]
    rcases List.mem_append.mp member with member | last
    · exact orderly.before turn member
    · rw [List.mem_singleton.mp last]
      exact ⟨orderly.lt_length queued, orderly.first_le first⟩
  · intro other t called stage begun
    rcases (getElem?_set_eq_some_iff present).mp called with ⟨-, rfl⟩ | ⟨apart, called⟩
    · cases stage
    · rcases List.mem_append.mp begun with begun | last
      · exact orderly.waiting other t called stage begun
      · exact apart (List.mem_singleton.mp last)
  · intro other t called turn
    rcases (getElem?_set_eq_some_iff present).mp called with ⟨rfl, -⟩ | ⟨apart, called⟩
    · exact ⟨by rw [queue]; rfl, List.getLast?_concat⟩
    · obtain ⟨head, -⟩ := orderly.holder other t called turn
      rw [queue] at head
      exact (apart (Option.some.inj head).symm).elim

theorem accepted (orderly : Orderly w) (first : w.first? = some (number, s))
    (writing : s.stage = .writing) {written : Nat} {stage : Stage}
    (further : stage = .writing ∨ stage = .flushing) (bytes : Bytes) :
    Orderly { w with
      sends := w.sends.set number { s with written, stage }
      accepted := bytes } := by
  obtain ⟨⟨rest, queue⟩, present⟩ := first?_eq_some_iff.mp first
  have unreturned : s.result? = none := by simp [Send.result?, writing]
  have still : Send.result? { s with written, stage } = none := by
    rcases further with rfl | rfl
    · rfl
    · rfl
  refine ⟨?_, orderly.inOrder, orderly.begun, ?_, ?_, ?_⟩
  · intro other
    rw [orderly.queued other]
    exact (outstanding_set present unreturned still).symm
  · rw [List.length_set]
    exact orderly.before
  · intro other t called waits
    rcases (getElem?_set_eq_some_iff present).mp called with ⟨-, rfl⟩ | ⟨-, called⟩
    · rcases further with rfl | rfl
      · cases waits
      · cases waits
    · exact orderly.waiting other t called waits
  · intro other t called turn
    rcases (getElem?_set_eq_some_iff present).mp called with ⟨rfl, -⟩ | ⟨-, called⟩
    · exact orderly.holder other s present (Or.inl writing)
    · exact orderly.holder other t called turn

theorem ended (orderly : Orderly w) (present : w.sends[number]? = some s) (instant : Nat) :
    Orderly { w with
      sends := w.sends.set number { s with stage := .over instant }
      queue := w.queue.filter (· ≠ number) } := by
  have left : ∀ other, other ∈ w.queue.filter (· ≠ number) ↔ other ∈ w.queue ∧ other ≠ number := by
    intro other
    simp
  refine ⟨?_, orderly.inOrder.filter _, orderly.begun, ?_, ?_, ?_⟩
  · intro other
    rw [left, orderly.queued other]
    constructor
    · rintro ⟨⟨t, called, unreturned⟩, apart⟩
      exact ⟨t, (getElem?_set_eq_some_iff present).mpr (Or.inr ⟨apart, called⟩), unreturned⟩
    · rintro ⟨t, called, unreturned⟩
      rcases (getElem?_set_eq_some_iff present).mp called with ⟨-, rfl⟩ | ⟨apart, called⟩
      · cases unreturned
      · exact ⟨⟨t, called, unreturned⟩, apart⟩
  · intro turn member
    obtain ⟨made, ahead⟩ := orderly.before turn member
    rw [List.length_set]
    exact ⟨made, fun other queued => ahead other ((left other).mp queued).1⟩
  · intro other t called waits
    rcases (getElem?_set_eq_some_iff present).mp called with ⟨-, rfl⟩ | ⟨-, called⟩
    · cases waits
    · exact orderly.waiting other t called waits
  · intro other t called turn
    rcases (getElem?_set_eq_some_iff present).mp called with ⟨-, rfl⟩ | ⟨apart, called⟩
    · simp at turn
    · obtain ⟨head, last⟩ := orderly.holder other t called turn
      obtain ⟨rest, queue⟩ := List.head?_eq_some_iff.mp head
      refine ⟨?_, last⟩
      simp [queue, apart]

theorem step (orderly : Orderly w) (stepped : Step w action w') : Orderly w' := by
  cases stepped with
  | answered => exact orderly.answered rfl
  | queued => exact orderly.add rfl
  | began first waiting => exact orderly.began first waiting
  | accepted first writing further => exact orderly.accepted first writing further _
  | ended ends => exact orderly.ended ends.present _
  | passed => exact ⟨orderly.queued, orderly.inOrder, orderly.begun, orderly.before,
      orderly.waiting, orderly.holder⟩

theorem of_run {timeout : Span} (ran : (Writer.new timeout).run? actions = some w) : Orderly w :=
  run?_keeps Orderly (fun orderly stepped => orderly.step stepped) (new timeout) ran

end Orderly

end Writer

end BridgeWarden.Transport

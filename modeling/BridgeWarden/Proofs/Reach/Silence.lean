import BridgeWarden.Proofs.Reach.Answers
import Mathlib.Data.List.Basic

/-!
What a survey makes of a silent client.

A `Roll` is a list of clients in which every one before a silent client answers or has no lease.
`Roll.told` lists what a survey of it is told and when. `Expects` says of a survey on its way which
of these answers are still to come: each answer leads to a survey that expects the ones after it,
and the last one finds the silent client (`Expects.answered`).
-/

namespace BridgeWarden.Reach

structure Roll where
  /-- The clients before the silent one, with the lease of each. -/
  before : List (Mac × Option Ipv4)
  silent : Mac
  address : Ipv4
  after : List Mac

namespace Roll

def clients (roll : Roll) : List Mac := roll.before.map Prod.fst ++ roll.silent :: roll.after

/-- What is answered about a client that is not silent. -/
def replies : Option Ipv4 → List Answer
  | none => [.lease (.ok none)]
  | some address => [.lease (.ok (some address)), .probe (.ok true)]

/-- The answers after the list: those about some clients that are not silent and the silent one's
lease at one instant, and its probe at another. -/
def heard (roll : Roll) (listed missed : Nat) (before : List (Mac × Option Ipv4)) :
    List (Nat × Answer) :=
  let prompt := before.flatMap (fun client => replies client.2) ++
    [.lease (.ok (some roll.address))]
  prompt.map (listed, ·) ++ [(missed, .probe (.ok false))]

/-- All answers: the list itself and everything else at one instant, but for the silent client's
probe. -/
def told (roll : Roll) (listed missed : Nat) : List (Nat × Answer) :=
  (listed, .clients (.ok roll.clients)) :: roll.heard listed missed roll.before

/-- The clients that are visited include the silent one. -/
theorem take_clients {roll : Roll} {count : Nat} (few : roll.before.length < count) :
    ∃ after, roll.clients.take count = roll.before.map Prod.fst ++ roll.silent :: after := by
  obtain ⟨more, rfl⟩ := Nat.exists_eq_add_of_lt few
  refine ⟨roll.after.take more, ?_⟩
  have length : roll.before.length + more + 1 =
      (roll.before.map Prod.fst).length + (more + 1) := by
    rw [List.length_map, Nat.add_assoc]
  rw [clients, length, List.take_length_add_append, List.take_succ_cons]

variable {roll : Roll} {listed missed : Nat}

theorem heard_nil : roll.heard listed missed [] =
    [(listed, .lease (.ok (some roll.address))), (missed, .probe (.ok false))] := rfl

theorem heard_unresolved {client : Mac} {before : List (Mac × Option Ipv4)} :
    roll.heard listed missed ((client, none) :: before) =
      (listed, .lease (.ok none)) :: roll.heard listed missed before := rfl

theorem heard_resolved {client : Mac} {address : Ipv4} {before : List (Mac × Option Ipv4)} :
    roll.heard listed missed ((client, some address) :: before) =
      (listed, .lease (.ok (some address))) :: (listed, .probe (.ok true)) ::
        roll.heard listed missed before := rfl

end Roll

namespace Survey

variable {m : Monitor} {roll : Roll} {listed missed : Nat} {survey : Survey}

/-- The answers that a survey of the roll still expects. -/
inductive Expects (roll : Roll) (listed missed : Nat) : Survey → List (Nat × Answer) → Prop where
  | listing : Expects roll listed missed .listing (roll.told listed missed)
  | visiting {before : List (Mac × Option Ipv4)} {after : List Mac} {probed unresolved : Nat} :
      Expects roll listed missed
        (visit (before.map Prod.fst ++ roll.silent :: after) probed unresolved)
        (roll.heard listed missed before)
  | probing {client : Mac} {address : Ipv4} {before : List (Mac × Option Ipv4)}
      {after : List Mac} {probed unresolved : Nat} :
      Expects roll listed missed
        (.probing client address (before.map Prod.fst ++ roll.silent :: after) probed unresolved)
        ((listed, .probe (.ok true)) :: roll.heard listed missed before)
  | missing {rest : List Mac} {probed unresolved : Nat} :
      Expects roll listed missed (.probing roll.silent roll.address rest probed unresolved)
        [(missed, .probe (.ok false))]

namespace Expects

variable {answers left : List (Nat × Answer)} {instant : Nat} {answer : Answer}

/-- A survey that expects an answer is not done. -/
theorem outcome?_eq_none (expects : Expects roll listed missed survey answers) :
    survey.outcome? = none := by
  cases expects with
  | listing | probing | missing => rfl
  | @visiting before => cases before <;> rfl

theorem ne_nil (expects : Expects roll listed missed survey answers) : answers ≠ [] := by
  cases expects with
  | listing | probing | missing => exact List.cons_ne_nil _ _
  | visiting => simp [Roll.heard]

theorem instants (expects : Expects roll listed missed survey answers) :
    ∀ expected ∈ answers, expected.1 = listed ∨ expected.1 = missed := by
  have heard : ∀ before, ∀ expected ∈ roll.heard listed missed before,
      expected.1 = listed ∨ expected.1 = missed := by
    intro before expected member
    simp only [Roll.heard, List.mem_append, List.mem_map, List.mem_singleton] at member
    rcases member with ⟨_, -, rfl⟩ | rfl
    · exact Or.inl rfl
    · exact Or.inr rfl
  cases expects with
  | listing | probing => exact List.forall_mem_cons.mpr ⟨Or.inl rfl, heard _⟩
  | visiting => exact heard _
  | missing => simp

/-- The answer that is expected is one to the question asked. -/
theorem answered (few : roll.before.length < m.maxClients)
    (expects : Expects roll listed missed survey ((instant, answer) :: left)) :
    ∃ next, survey.answer? m answer = some next ∧
      (instant = listed ∧ Expects roll listed missed next left ∨
        instant = missed ∧ left = [] ∧
          next = .done (.unreachable roll.silent roll.address)) := by
  generalize same : (instant, answer) :: left = answers at expects
  cases expects with
  | listing =>
      rw [Roll.told, List.cons.injEq, Prod.mk.injEq] at same
      obtain ⟨⟨rfl, rfl⟩, rfl⟩ := same
      obtain ⟨after, visited⟩ := Roll.take_clients few
      have somebody : roll.clients ≠ [] := by simp [Roll.clients]
      refine ⟨_, rfl, Or.inl ⟨rfl, ?_⟩⟩
      have listed : Survey.listed m (.ok roll.clients) =
          visit (roll.before.map Prod.fst ++ roll.silent :: after) 0 0 := by
        rw [← visited]
        cases clients : roll.clients with
        | nil => exact (somebody clients).elim
        | cons first rest => rfl
      rw [listed]
      exact .visiting
  | @visiting before after probed unresolved =>
      cases before with
      | nil =>
          rw [Roll.heard_nil, List.cons.injEq, Prod.mk.injEq] at same
          obtain ⟨⟨rfl, rfl⟩, rfl⟩ := same
          exact ⟨_, rfl, Or.inl ⟨rfl, .missing⟩⟩
      | cons first before =>
          obtain ⟨client, lease⟩ := first
          cases lease with
          | none =>
              rw [Roll.heard_unresolved, List.cons.injEq, Prod.mk.injEq] at same
              obtain ⟨⟨rfl, rfl⟩, rfl⟩ := same
              exact ⟨_, rfl, Or.inl ⟨rfl, .visiting⟩⟩
          | some address =>
              rw [Roll.heard_resolved, List.cons.injEq, Prod.mk.injEq] at same
              obtain ⟨⟨rfl, rfl⟩, rfl⟩ := same
              exact ⟨_, rfl, Or.inl ⟨rfl, .probing⟩⟩
  | probing =>
      rw [List.cons.injEq, Prod.mk.injEq] at same
      obtain ⟨⟨rfl, rfl⟩, rfl⟩ := same
      exact ⟨_, rfl, Or.inl ⟨rfl, .visiting⟩⟩
  | missing =>
      rw [List.cons.injEq, Prod.mk.injEq] at same
      obtain ⟨⟨rfl, rfl⟩, rfl⟩ := same
      exact ⟨_, rfl, Or.inr ⟨rfl, rfl, rfl⟩⟩

/-- The answers are expected in the order of their instants. -/
theorem first_le (few : roll.before.length < m.maxClients) (inOrder : listed ≤ missed)
    (expects : Expects roll listed missed survey ((instant, answer) :: left)) :
    ∀ expected ∈ (instant, answer) :: left, instant ≤ expected.1 := by
  obtain ⟨next, -, ⟨rfl, -⟩ | ⟨-, rfl, -⟩⟩ := expects.answered few
  · intro expected member
    rcases expects.instants expected member with same | same
    · exact Nat.le_of_eq same.symm
    · exact same ▸ inOrder
  · simp

end Expects

end Survey

end BridgeWarden.Reach

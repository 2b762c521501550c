import BridgeWarden.Link.Dialer
import BridgeWarden.Proofs.Runs

/-!
The steps of the link engine's sessions.

`Step` lists what an action does, guards included, and `step_of_next?` says that this is all that
`next?` does. `Orderly` says that no session has a number beyond the current one, and that reports
wait only where the queue's room is taken or promised; so that what is held up can enter the queue
in its order (`Orderly.drains`).
-/

namespace BridgeWarden.Link.Dialer

variable {d d' : Dialer} {action : Action} {actions : List Action}

/-- The reports that were made while their session was the current one and have not entered the
queue yet, in the order in which they are let in. -/
def blocked (d : Dialer) : List Report := d.admitted ++ d.waiting

/-- Whether an action abandons the session before it. -/
def Action.supersedes : Action → Bool
  | .connect _ | .disconnect => true
  | .report _ | .enter _ | .receive => false

/-- Whether an action takes events out of the queue or lets them in. -/
def Action.isDelivery : Action → Bool
  | .enter _ | .receive => true
  | .connect _ | .disconnect | .report _ => false

inductive Step (d : Dialer) : Action → Dialer → Prop where
  | began :
      Step d (.connect true)
        { d with
          number := d.number + 1, line := some (d.number + 1)
          begun := d.begun ++ [d.number + 1] }
  | abandoned {action : Action} (unsucceeded : action = .connect false ∨ action = .disconnect) :
      Step d action { d with number := d.number + 1, line := none }
  | silenced {r : Report} (stale : r.session ≠ d.number) :
      Step d (.report r) { d with spoken := (r.session, r.event.isUp) :: d.spoken }
  | put {r : Report} (begun : r.session ∈ d.begun) (current : r.session = d.number)
      (room : d.hasRoom = true) :
      Step d (.report r)
        { d with
          spoken := (r.session, r.event.isUp) :: d.spoken
          queue := d.queue ++ [r], entered := d.entered ++ [r] }
  | heldUp {r : Report} (begun : r.session ∈ d.begun) (current : r.session = d.number)
      (full : d.hasRoom = false) :
      Step d (.report r)
        { d with
          spoken := (r.session, r.event.isUp) :: d.spoken, waiting := d.waiting ++ [r] }
  | entered {place : Nat} {r : Report} (here : d.admitted[place]? = some r) :
      Step d (.enter place)
        { d with
          admitted := d.admitted.eraseIdx place
          queue := d.queue ++ [r], entered := d.entered ++ [r] }
  | taken {first : Report} {queue : List Report} (queued : d.queue = first :: queue)
      (alone : d.waiting = []) : Step d .receive { d with queue }
  | admitted {first r : Report} {queue waiting : List Report} (queued : d.queue = first :: queue)
      (held : d.waiting = r :: waiting) :
      Step d .receive { d with queue, waiting, admitted := d.admitted ++ [r] }

theorem step_report {r : Report} (allowed : d.mayReport r = true) :
    Step d (.report r) (d.report r) := by
  have begun : r.session ∈ d.begun := by
    rw [mayReport, Bool.and_eq_true] at allowed
    exact List.contains_iff_mem.mp allowed.1
  by_cases current : r.session = d.number
  · have passed : d.report r =
        if d.hasRoom then { d with spoken := (r.session, r.event.isUp) :: d.spoken }.put r
        else { d with
          spoken := (r.session, r.event.isUp) :: d.spoken, waiting := d.waiting ++ [r] } :=
      if_neg (not_not_intro current)
    cases room : d.hasRoom with
    | true =>
        rw [passed, if_pos room]
        exact .put begun current room
    | false =>
        rw [passed, room]
        exact .heldUp begun current room
  · have passed : d.report r = { d with spoken := (r.session, r.event.isUp) :: d.spoken } :=
      if_pos current
    rw [passed]
    exact .silenced current

theorem step_receive (computed : d.receive? = some d') : Step d .receive d' := by
  unfold receive? at computed
  split at computed
  · cases computed
  · rename_i first queue queued alone
    cases computed
    exact .taken queued alone
  · rename_i first queue r waiting queued held
    cases computed
    exact .admitted queued held

theorem step_of_next? (computed : d.next? action = some d') : Step d action d' := by
  cases action with
  | connect starts =>
      cases computed
      cases starts with
      | true => exact .began
      | false => exact .abandoned (Or.inl rfl)
  | disconnect =>
      cases computed
      exact .abandoned (Or.inr rfl)
  | report r =>
      simp only [next?, Option.ite_none_right_eq_some, Option.some.injEq] at computed
      exact computed.2 ▸ step_report computed.1
  | enter place =>
      simp only [next?, Option.map_eq_some_iff] at computed
      obtain ⟨r, here, rfl⟩ := computed
      exact .entered here
  | receive => exact step_receive computed

theorem run?_eq_foldlM : d.run? actions = actions.foldlM next? d :=
  Runs.eq_foldlM (fun _ => rfl) fun _ _ _ => rfl

theorem run?_append {before after : List Action} :
    d.run? (before ++ after) = (d.run? before).bind (·.run? after) := by
  simp [run?_eq_foldlM]

/-- What every step with one of the actions keeps, every run of them keeps. -/
theorem run?_keeps (holds : Dialer → Prop)
    (kept : ∀ {d action d'}, holds d → action ∈ actions → Step d action d' → holds d')
    (first : holds d) (ran : d.run? actions = some d') : holds d' := by
  rw [run?_eq_foldlM] at ran
  exact Runs.keeps holds (fun held member computed => kept held member (step_of_next? computed))
    first ran

/-! ### Numbers and room -/

structure Orderly (d : Dialer) : Prop where
  begun : ∀ session ∈ d.begun, session ≤ d.number
  blocked : ∀ r ∈ d.blocked, r.session ≤ d.number
  positive : 0 < d.capacity
  crowded : d.waiting ≠ [] → d.capacity ≤ d.queue.length + d.admitted.length

theorem hasRoom_iff : d.hasRoom = true ↔ d.queue.length + d.admitted.length < d.capacity := by
  simp [hasRoom]

theorem mem_blocked {r : Report} : r ∈ d.blocked ↔ r ∈ d.admitted ∨ r ∈ d.waiting :=
  List.mem_append

namespace Orderly

theorem new {capacity : Nat} (positive : 0 < capacity) : Orderly (new capacity) := by
  refine ⟨?_, ?_, positive, ?_⟩
  · simp [Dialer.new]
  · simp [Dialer.new, Dialer.blocked]
  · simp [Dialer.new]

theorem step (orderly : Orderly d) (stepped : Step d action d') : Orderly d' := by
  obtain ⟨begun, blocked, positive, crowded⟩ := orderly
  cases stepped with
  | began =>
      refine ⟨?_, ?_, positive, crowded⟩
      · intro session member
        rcases List.mem_append.mp member with before | last
        · exact Nat.le_succ_of_le (begun session before)
        · exact Nat.le_of_eq (List.mem_singleton.mp last)
      · intro r held
        exact Nat.le_succ_of_le (blocked r held)
  | abandoned =>
      refine ⟨?_, ?_, positive, crowded⟩
      · intro session member
        exact Nat.le_succ_of_le (begun session member)
      · intro r held
        exact Nat.le_succ_of_le (blocked r held)
  | silenced => exact ⟨begun, blocked, positive, crowded⟩
  | put _ _ room =>
      refine ⟨begun, blocked, positive, fun held => ?_⟩
      have full := crowded held
      have free := hasRoom_iff.mp room
      omega
  | heldUp _ current full =>
      refine ⟨begun, ?_, positive, fun _ => ?_⟩
      · intro r held
        rcases mem_blocked.mp held with here | there
        · exact blocked r (mem_blocked.mpr (Or.inl here))
        · rcases List.mem_append.mp there with before | last
          · exact blocked r (mem_blocked.mpr (Or.inr before))
          · rw [List.mem_singleton.mp last]
            exact Nat.le_of_eq current
      · rw [← Bool.not_eq_true, hasRoom_iff] at full
        exact Nat.le_of_not_lt full
  | @entered place r here =>
      refine ⟨begun, ?_, positive, fun held => ?_⟩
      · intro other held
        rcases mem_blocked.mp held with left | there
        · exact blocked other (mem_blocked.mpr (Or.inl (List.mem_of_mem_eraseIdx left)))
        · exact blocked other (mem_blocked.mpr (Or.inr there))
      · have full := crowded held
        obtain ⟨within, -⟩ := List.getElem?_eq_some_iff.mp here
        have fewer : (d.admitted.eraseIdx place).length = d.admitted.length - 1 :=
          List.length_eraseIdx_of_lt within
        rw [List.length_append, List.length_singleton, fewer]
        show d.capacity ≤ d.queue.length + 1 + (d.admitted.length - 1)
        omega
  | taken _ alone => exact ⟨begun, blocked, positive, fun held => (held alone).elim⟩
  | @admitted first r queue waiting queued held =>
      refine ⟨begun, ?_, positive, fun _ => ?_⟩
      · intro other here
        apply blocked
        rw [Dialer.blocked, held]
        simpa [Dialer.blocked, List.append_assoc] using here
      · have full := crowded (by simp [held])
        simp only [queued, List.length_cons, List.length_append, List.length_nil] at full ⊢
        omega

theorem run (orderly : Orderly d) (ran : d.run? actions = some d') : Orderly d' :=
  run?_keeps Orderly (fun orderly _ stepped => orderly.step stepped) orderly ran

/-- The report that was held up first can be let in, once room is made for it if need be. -/
theorem next_in (orderly : Orderly d) {r : Report} {rest : List Report}
    (held : d.blocked = r :: rest) :
    ∃ actions d', (∀ action ∈ actions, action.isDelivery = true) ∧ d.run? actions = some d' ∧
      d'.entered = d.entered ++ [r] ∧ d'.blocked = rest := by
  cases admitted : d.admitted with
  | cons first others =>
      rw [Dialer.blocked, admitted, List.cons_append, List.cons.injEq] at held
      obtain ⟨rfl, rest⟩ := held
      refine ⟨[.enter 0], { d with admitted := others }.put first, by simp [Action.isDelivery],
        ?_, rfl, ?_⟩
      · simp [run?, next?, admitted]
      · exact rest
  | nil =>
      rw [Dialer.blocked, admitted, List.nil_append] at held
      -- Nobody is admitted, so those who wait do so for the queue itself, which is not empty.
      have full := orderly.crowded (by simp [held])
      cases queued : d.queue with
      | nil =>
          have positive := orderly.positive
          simp only [queued, admitted, List.length_nil] at full
          omega
      | cons first queue =>
          refine ⟨[.receive, .enter 0], { d with queue, waiting := rest }.put r,
            by simp [Action.isDelivery], ?_, rfl, ?_⟩
          · simp [run?, next?, receive?, queued, held, admitted]
          · simp [Dialer.blocked, Dialer.put, admitted]

/-- All that is held up can be let in, in its order and without anything else. -/
theorem drains (orderly : Orderly d) :
    ∃ actions d', (∀ action ∈ actions, action.isDelivery = true) ∧ d.run? actions = some d' ∧
      d'.entered = d.entered ++ d.blocked := by
  generalize held : d.blocked = reports
  induction reports generalizing d with
  | nil => exact ⟨[], d, by simp, rfl, (List.append_nil _).symm⟩
  | cons r rest ih =>
      obtain ⟨actions, middle, deliveries, ran, one, left⟩ := orderly.next_in held
      obtain ⟨more, d', furtherDeliveries, ranOn, all⟩ := ih (orderly.run ran) left
      refine ⟨actions ++ more, d', List.forall_mem_append.mpr ⟨deliveries, furtherDeliveries⟩, ?_,
        ?_⟩
      · rw [run?_append, ran]
        exact ranOn
      · rw [all, one, List.append_assoc]
        rfl

end Orderly

end BridgeWarden.Link.Dialer

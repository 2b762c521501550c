import BridgeWarden.Proofs.Link.Dialing

/-!
What is heard of a session that was superseded.

A session tests whether it is the current one when it reports, and not again when its report is let
into the queue. So a call that begins or abandons a session silences what the sessions before it
report from then on (`Since`), but not what they reported before and what was held up by a full
queue: that enters afterwards, whenever somebody takes events. The call does what it promises
exactly when nothing is held up as it returns (`superseded_silenced_iff`).
-/

namespace BridgeWarden.Link.Dialer

variable {d d' d'' first : Dialer} {action : Action} {actions : List Action} {n : Nat}

/-- Nothing that a session up to the number reports enters the queue from here on. -/
def Silences (n : Nat) (d : Dialer) : Prop :=
  ∀ after d', d.run? after = some d' →
    ∃ added, d'.entered = d.entered ++ added ∧ ∀ r ∈ added, n < r.session

/-- Nothing at all enters the queue before the next session has begun. -/
def Mute (d : Dialer) : Prop :=
  ∀ after d', d.run? after = some d' → .connect true ∉ after → d'.entered = d.entered

/-! ### After a call -/

/-- Since the number was left behind, only later sessions' reports and some earlier ones have
entered the queue or are held up. -/
structure Since (n : Nat) (earlier : List Report) (first d : Dialer) : Prop where
  behind : n < d.number
  added : ∃ added, d.entered = first.entered ++ added ∧ ∀ r ∈ added, n < r.session ∨ r ∈ earlier
  blocked : ∀ r ∈ d.blocked, n < r.session ∨ r ∈ earlier

namespace Since

variable {earlier : List Report}

/-- A report that may enter the queue enters it. -/
theorem enters (since : Since n earlier first d) {r : Report}
    (later : n < r.session ∨ r ∈ earlier) :
    ∃ added, d.entered ++ [r] = first.entered ++ added ∧
      ∀ r ∈ added, n < r.session ∨ r ∈ earlier := by
  obtain ⟨added, entered, allowed⟩ := since.added
  refine ⟨added ++ [r], by rw [entered, List.append_assoc], ?_⟩
  intro other member
  rcases List.mem_append.mp member with before | last
  · exact allowed other before
  · rw [List.mem_singleton.mp last]
    exact later

theorem step (since : Since n earlier first d) (stepped : Step d action d') :
    Since n earlier first d' := by
  obtain ⟨behind, added, held⟩ := since
  cases stepped with
  | began | abandoned => exact ⟨Nat.lt_succ_of_lt behind, added, held⟩
  | silenced | taken => exact ⟨behind, added, held⟩
  | put _ current =>
      exact ⟨behind, enters ⟨behind, added, held⟩ (Or.inl (current ▸ behind)), held⟩
  | heldUp _ current =>
      refine ⟨behind, added, ?_⟩
      intro r here
      rcases mem_blocked.mp here with admitted | waiting
      · exact held r (mem_blocked.mpr (Or.inl admitted))
      · rcases List.mem_append.mp waiting with before | last
        · exact held r (mem_blocked.mpr (Or.inr before))
        · rw [List.mem_singleton.mp last, current]
          exact Or.inl behind
  | @entered place r here =>
      have later := held r (mem_blocked.mpr (Or.inl (List.mem_of_getElem? here)))
      refine ⟨behind, enters ⟨behind, added, held⟩ later, ?_⟩
      intro other left
      rcases mem_blocked.mp left with admitted | waiting
      · exact held other (mem_blocked.mpr (Or.inl (List.mem_of_mem_eraseIdx admitted)))
      · exact held other (mem_blocked.mpr (Or.inr waiting))
  | @admitted front r queue waiting queued here =>
      refine ⟨behind, added, ?_⟩
      intro other member
      apply held
      rw [Dialer.blocked, here]
      simpa [Dialer.blocked, List.append_assoc] using member

theorem run (since : Since n earlier first d) (ran : d.run? actions = some d') :
    Since n earlier first d' :=
  run?_keeps (Since n earlier first) (fun since _ stepped => since.step stepped) since ran

end Since

/-- No session is current, and nothing is held up. -/
structure Hushed (first d : Dialer) : Prop where
  begun : ∀ session ∈ d.begun, session < d.number
  blocked : d.blocked = []
  entered : d.entered = first.entered

namespace Hushed

theorem step (hushed : Hushed first d) (stepped : Step d action d')
    (unbegun : action ≠ .connect true) : Hushed first d' := by
  obtain ⟨begun, blocked, entered⟩ := hushed
  obtain ⟨unadmitted, alone⟩ := List.append_eq_nil_iff.mp blocked
  cases stepped with
  | began => exact (unbegun rfl).elim
  | abandoned =>
      refine ⟨?_, blocked, entered⟩
      intro session member
      exact Nat.lt_succ_of_lt (begun session member)
  | silenced | taken => exact ⟨begun, blocked, entered⟩
  | put spoke current | heldUp spoke current =>
      exact absurd current (Nat.ne_of_lt (begun _ spoke))
  | entered here => simp [unadmitted] at here
  | admitted _ held => simp [alone] at held

theorem run (hushed : Hushed first d) (ran : d.run? actions = some d')
    (unbegun : .connect true ∉ actions) : Hushed first d' := by
  refine run?_keeps (Hushed first) ?_ hushed ran
  intro d action d' hushed member stepped
  exact hushed.step stepped fun same => unbegun (same ▸ member)

end Hushed

/-! ### The promise of a call -/

/-- What a call leaves of the sessions before it. -/
structure Superseded (d d' : Dialer) : Prop where
  number : d'.number = d.number + 1
  blocked : d'.blocked = d.blocked
  entered : d'.entered = d.entered
  orderly : Orderly d'

theorem superseded_of_next? (orderly : Orderly d) (supersedes : action.supersedes = true)
    (called : d.next? action = some d') : Superseded d d' := by
  have stepped := step_of_next? called
  have orderly' := orderly.step stepped
  cases stepped with
  | began | abandoned => exact ⟨rfl, rfl, rfl, orderly'⟩
  | silenced | put | heldUp | entered | taken | admitted => cases supersedes

namespace Superseded

/-- Of the sessions before the call only what was held up enters the queue afterwards. -/
theorem added_of_run (superseded : Superseded d d') (ran : d'.run? actions = some d'') :
    ∃ added, d''.entered = d'.entered ++ added ∧
      ∀ r ∈ added, r.session ≤ d.number → r ∈ d.blocked := by
  have since : Since d.number d.blocked d' d' := by
    refine ⟨superseded.number ▸ Nat.lt_succ_self _, ⟨[], by simp, by simp⟩, ?_⟩
    intro r held
    rw [superseded.blocked] at held
    exact Or.inr held
  obtain ⟨added, entered, allowed⟩ := (since.run ran).added
  refine ⟨added, entered, ?_⟩
  intro r member old
  exact (allowed r member).resolve_left (Nat.not_lt.mpr old)

/-- What was held up can enter the queue after the call, without anything else. -/
theorem drains (superseded : Superseded d d') :
    ∃ after d'', (∀ action ∈ after, action.isDelivery = true) ∧ d'.run? after = some d'' ∧
      d''.entered = d'.entered ++ d.blocked := by
  obtain ⟨after, d'', deliveries, ran, entered⟩ := superseded.orderly.drains
  rw [superseded.blocked] at entered
  exact ⟨after, d'', deliveries, ran, entered⟩

theorem silences_iff (superseded : Superseded d d') (orderly : Orderly d) :
    d'.Silences d.number ↔ d.blocked = [] := by
  constructor
  · intro silences
    obtain ⟨after, d'', -, ran, entered⟩ := superseded.drains
    obtain ⟨added, entered', later⟩ := silences after d'' ran
    rw [entered, List.append_cancel_left_eq] at entered'
    apply List.eq_nil_iff_forall_not_mem.mpr
    intro r held
    exact absurd (later r (entered' ▸ held)) (Nat.not_lt.mpr (orderly.blocked r held))
  · intro free after d'' ran
    obtain ⟨added, entered, late⟩ := superseded.added_of_run ran
    refine ⟨added, entered, ?_⟩
    intro r member
    apply Nat.lt_of_not_le
    intro old
    have held := late r member old
    rw [free] at held
    exact List.not_mem_nil held

theorem mute_iff (superseded : Superseded d d') (orderly : Orderly d)
    (unbegun : d'.begun = d.begun) :
    d'.Mute ↔ d.blocked = [] := by
  constructor
  · intro mute
    obtain ⟨after, d'', deliveries, ran, entered⟩ := superseded.drains
    have none : .connect true ∉ after := by
      intro member
      cases deliveries _ member
    rw [mute after d'' ran none] at entered
    exact List.self_eq_append_right.mp entered
  · intro free after d'' ran none
    have hushed : Hushed d' d' := by
      refine ⟨?_, superseded.blocked.trans free, rfl⟩
      intro session member
      rw [unbegun] at member
      rw [superseded.number]
      exact Nat.lt_succ_of_le (orderly.begun session member)
    exact (hushed.run ran none).entered

end Superseded

theorem begun_of_next? (called : d.next? action = some d') (supersedes : action.supersedes = true)
    (unbegun : action ≠ .connect true) : d'.begun = d.begun := by
  cases step_of_next? called with
  | began => exact (unbegun rfl).elim
  | abandoned => rfl
  | silenced | put | heldUp | entered | taken | admitted => cases supersedes

/-- A call that begins or abandons a session silences the sessions before it exactly when none of
their reports is held up by a full queue; and so with the silence until the next session begins,
where the call begins none. What is held up, and nothing else of those sessions, can enter the queue
after the call. -/
theorem superseded_silenced_iff {capacity : Nat} (positive : 0 < capacity)
    (ran : (new capacity).run? actions = some d) (supersedes : action.supersedes = true)
    (called : d.next? action = some d') :
    (d'.Silences d.number ↔ d.blocked = []) ∧
    (action ≠ .connect true → (d'.Mute ↔ d.blocked = [])) ∧
    (∀ after d'', d'.run? after = some d'' →
      ∃ added, d''.entered = d'.entered ++ added ∧
        ∀ r ∈ added, r.session ≤ d.number → r ∈ d.blocked) ∧
    ∃ after d'', (∀ action ∈ after, action.isDelivery = true) ∧ d'.run? after = some d'' ∧
      d''.entered = d'.entered ++ d.blocked := by
  have orderly := (Orderly.new positive).run ran
  have superseded := superseded_of_next? orderly supersedes called
  refine ⟨superseded.silences_iff orderly, ?_, ?_, superseded.drains⟩
  · intro unbegun
    exact superseded.mute_iff orderly (begun_of_next? called supersedes unbegun)
  · intro after d'' ranOn
    exact superseded.added_of_run ranOn

/-- A session reports that the link is up, and the event is taken. -/
def heardAndTaken : List Action :=
  [.connect true, .report ⟨1, .up default default default⟩, .receive]

/-- Where all reports have been let in, the abandoned session is not heard of again. -/
theorem taken_session_silenced :
    ∃ d d', (new 1).run? heardAndTaken = some d ∧ d.next? .disconnect = some d' ∧
      d.number = 1 ∧ d'.Silences 1 ∧ d'.Mute := by
  obtain ⟨d, ran⟩ : ∃ d, (new 1).run? heardAndTaken = some d := ⟨_, rfl⟩
  obtain ⟨d', called⟩ : ∃ d', d.next? .disconnect = some d' := ⟨_, rfl⟩
  obtain ⟨number, free⟩ : d.number = 1 ∧ d.blocked = [] := by
    cases ran
    exact ⟨rfl, rfl⟩
  obtain ⟨silences, mute, -⟩ := superseded_silenced_iff Nat.one_pos ran rfl called
  rw [number] at silences
  exact ⟨d, d', ran, called, number, silences.mpr free, (mute (by rintro ⟨⟩)).mpr free⟩

/-- A session reports that the link is up, which fills the queue, and ends, which is held up. -/
def exitHeldUp : List Action :=
  [.connect true, .report ⟨1, .up default default default⟩, .report ⟨1, .down "exited"⟩]

/-- The end of that session enters the queue after it has been abandoned or superseded. -/
theorem held_up_exit_enters :
    ∃ d, (new 1).run? exitHeldUp = some d ∧ d.number = 1 ∧
      ∀ call ∈ [Action.disconnect, .connect false, .connect true],
        ∃ d' d'', d.next? call = some d' ∧ d'.number = 2 ∧
          d'.run? [.receive, .enter 0] = some d'' ∧
          d''.entered = d'.entered ++ [⟨1, .down "exited"⟩] ∧ ¬ d'.Silences 1 := by
  refine ⟨_, rfl, rfl, ?_⟩
  intro call member
  have heard : ∀ {d' d'' : Dialer}, d'.run? [.receive, .enter 0] = some d'' →
      d''.entered = d'.entered ++ [⟨1, .down "exited"⟩] → ¬ d'.Silences 1 := by
    intro d' d'' ran entered silences
    obtain ⟨added, entered', later⟩ := silences _ d'' ran
    rw [entered, List.append_cancel_left_eq] at entered'
    exact Nat.lt_irrefl 1 (later ⟨1, .down "exited"⟩ (entered' ▸ List.mem_singleton_self _))
  simp only [List.mem_cons, List.not_mem_nil, or_false] at member
  rcases member with rfl | rfl | rfl
  · exact ⟨_, _, rfl, rfl, rfl, rfl, heard rfl rfl⟩
  · exact ⟨_, _, rfl, rfl, rfl, rfl, heard rfl rfl⟩
  · exact ⟨_, _, rfl, rfl, rfl, rfl, heard rfl rfl⟩

end BridgeWarden.Link.Dialer

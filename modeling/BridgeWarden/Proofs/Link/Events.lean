import BridgeWarden.Proofs.Link.Steps

/-!
Accounts of a run, and the queue of events.

`along view` is the account of a run: what each of its steps adds, read off the state before, the
action and the state after. What a step keeps of an account, a run keeps (`along_keeps`).

`entered` and `taken` are the accounts of the engine's events at the two ends of their queue.
`Ordered` ties them together: events are taken in the order in which they entered, and as long as
the machine runs, all that entered and was not taken is in the queue.
-/

namespace BridgeWarden.Link.System

variable {s s' s'' : System} {action : Action} {actions : List Action} {α : Type}
variable {view : System → Action → System → List α}

/-! ### Accounts -/

/-- What the steps of a run add to an account. -/
def along (view : System → Action → System → List α) (s : System) : List Action → List α
  | [] => []
  | action :: rest =>
      match s.next? action with
      | some s' => view s action s' ++ along view s' rest
      | none => []

theorem along_cons (computed : s.next? action = some s') (rest : List Action) :
    s.along view (action :: rest) = view s action s' ++ s'.along view rest := by
  rw [along, computed]

theorem run?_cons {rest : List Action} :
    s.run? (action :: rest) = some s'' ↔
      ∃ s', s.next? action = some s' ∧ s'.run? rest = some s'' := by
  rw [run?, Option.bind_eq_some_iff]

theorem along_append {before after : List Action} (ran : s.run? before = some s') :
    s.along view (before ++ after) = s.along view before ++ s'.along view after := by
  induction before generalizing s with
  | nil =>
      cases ran
      rfl
  | cons action rest ih =>
      obtain ⟨middle, computed, ran⟩ := run?_cons.mp ran
      rw [List.cons_append, along_cons computed, along_cons computed, ih ran, List.append_assoc]

/-- What is on an account was added by a step of the run. -/
theorem mem_along (fits : s.Fits) (ran : s.run? actions = some s') {entry : α}
    (member : entry ∈ s.along view actions) :
    ∃ before action after, action ∈ actions ∧ Step before action after ∧
      entry ∈ view before action after := by
  induction actions generalizing s with
  | nil => cases member
  | cons action rest ih =>
      obtain ⟨middle, computed, ran⟩ := run?_cons.mp ran
      have stepped := step_of_next? fits computed
      rw [along_cons computed, List.mem_append] at member
      rcases member with here | later
      · exact ⟨s, action, middle, List.mem_cons_self, stepped, here⟩
      · obtain ⟨before, other, after, among, others⟩ := ih (fits.step stepped) ran later
        exact ⟨before, other, after, List.mem_cons_of_mem _ among, others⟩

/-- What every step keeps of an account and the state it leads to, every run keeps. -/
theorem along_keeps (view : System → Action → System → List α) (holds : List α → System → Prop)
    (kept : ∀ {account s action s'}, holds account s → s.Fits → Step s action s' →
      holds (account ++ view s action s') s')
    {account : List α} (fits : s.Fits) (first : holds account s)
    (ran : s.run? actions = some s') : holds (account ++ s.along view actions) s' := by
  induction actions generalizing s account with
  | nil =>
      cases ran
      rw [along, List.append_nil]
      exact first
  | cons action rest ih =>
      obtain ⟨middle, computed, ran⟩ := run?_cons.mp ran
      have stepped := step_of_next? fits computed
      rw [along_cons computed, ← List.append_assoc]
      exact ih (fits.step stepped) (kept first fits stepped) ran

/-! ### The two ends of the queue -/

/-- The event that an action puts into the queue. -/
def entered (s : System) (action : Action) (s' : System) : List Event :=
  match action with
  | .report e => if s'.events = s.events ++ [e] then [e] else []
  | _ => []

/-- The event that the machine takes from the queue. -/
def taken (s : System) (action : Action) (_ : System) : List Event :=
  match action, s.phase with
  | .machine, .watching _ => if s.cancelled then [] else s.events.take 1
  | _, _ => []

theorem taken_of_elsewhere (elsewhere : ∀ deadline, s.phase ≠ .watching deadline) :
    s.taken action s' = [] := by
  unfold taken
  split
  · rename_i deadline watching
    exact (elsewhere deadline watching).elim
  · rfl

theorem taken_of_unmoved (unmoved : action ≠ .machine) : s.taken action s' = [] := by
  unfold taken
  split
  · exact (unmoved rfl).elim
  · rfl

theorem taken_of_quiet (quiet : s.events = []) : s.taken action s' = [] := by
  unfold taken
  split
  · rw [quiet]
    exact ite_self _
  · rfl

theorem taken_of_cancelled (cancelled : s.cancelled = true) : s.taken action s' = [] := by
  unfold taken
  split
  · exact if_pos cancelled
  · rfl

theorem taken_of_queued {deadline : Option Nat} (watching : s.phase = .watching deadline)
    (uncancelled : s.cancelled = false) {e : Event} {rest : List Event}
    (queued : s.events = e :: rest) : s.taken .machine s' = [e] := by
  simp [taken, watching, uncancelled, queued]

theorem entered_of_unreported (unreported : ∀ e, action ≠ .report e) :
    s.entered action s' = [] := by
  unfold entered
  split
  · rename_i e
    exact (unreported e rfl).elim
  · rfl

/-- An event in the queue was reported. -/
theorem eq_report_of_mem_entered {e : Event} (member : e ∈ s.entered action s') :
    action = .report e := by
  unfold entered at member
  split at member
  · rename_i other
    by_cases added : s'.events = s.events ++ [other]
    · rw [if_pos added, List.mem_singleton] at member
      rw [member]
    · rw [if_neg added] at member
      cases member
  · cases member

theorem TakesRequest.taken_eq {requests : Nat} (takes : TakesRequest s requests) :
    s.taken .machine s' = [] := by
  cases takes with
  | first fresh => exact taken_of_elsewhere (by simp [fresh])
  | queued _ _ quiet => exact taken_of_quiet quiet

theorem GivesUp.taken_eq (givesUp : GivesUp s action) : s.taken action s' = [] := by
  cases givesUp with
  | cutOff attempting => exact taken_of_elsewhere (by simp [attempting])
  | refused => exact taken_of_unmoved (by simp)
  | expired _ _ quiet => exact taken_of_quiet quiet

theorem LetsGo.taken_eq {delay : Span} (letsGo : LetsGo s action delay) :
    s.taken action s' = [] := by
  cases letsGo with
  | cutOff abandoning => exact taken_of_elsewhere (by simp [abandoning])
  | returned => exact taken_of_unmoved (by simp)

theorem GivesUp.entered_eq (givesUp : GivesUp s action) : s.entered action s' = [] := by
  cases givesUp with
  | cutOff | refused | expired => rfl

theorem LetsGo.entered_eq {delay : Span} (letsGo : LetsGo s action delay) :
    s.entered action s' = [] := by
  cases letsGo with
  | cutOff | returned => rfl

/-! ### First in, first out -/

/-- The events that were taken, and after them those in the queue, are the ones that were there at
the start and those that entered, in this order; only a machine that has ended drops some. -/
def Ordered (first takenSoFar enteredSoFar : List Event) (s : System) : Prop :=
  ∃ dropped, first ++ enteredSoFar = takenSoFar ++ s.events ++ dropped ∧
    (s.phase.isOver = false → dropped = [])

namespace Ordered

variable {first takenSoFar enteredSoFar : List Event}

theorem begin (s : System) : Ordered s.events [] [] s := ⟨[], by simp, fun _ => rfl⟩

/-- A machine that goes on drops nothing. -/
theorem whole (ordered : Ordered first takenSoFar enteredSoFar s)
    (running : s.phase.isOver = false) :
    first ++ enteredSoFar = takenSoFar ++ s.events := by
  obtain ⟨dropped, same, kept⟩ := ordered
  rw [same, kept running, List.append_nil]

theorem taken_first (ordered : Ordered first takenSoFar enteredSoFar s) :
    takenSoFar <+: first ++ enteredSoFar := by
  obtain ⟨dropped, same, -⟩ := ordered
  rw [same, List.append_assoc]
  exact List.prefix_append _ _

/-- A step that neither takes an event nor lets one in leaves the queue in order. -/
theorem still (ordered : Ordered first takenSoFar enteredSoFar s) (untaken : s.taken action s' = [])
    (unentered : s.entered action s' = []) (same : s'.events = s.events)
    (running : s'.phase.isOver = false → s.phase.isOver = false) :
    Ordered first (takenSoFar ++ s.taken action s') (enteredSoFar ++ s.entered action s') s' := by
  rw [untaken, unentered, List.append_nil, List.append_nil]
  obtain ⟨dropped, whole, kept⟩ := ordered
  exact ⟨dropped, same ▸ whole, fun still => kept (running still)⟩

/-- The machine takes the first event of the queue. -/
theorem take (ordered : Ordered first takenSoFar enteredSoFar s) {deadline : Option Nat}
    (watching : s.phase = .watching deadline) (uncancelled : s.cancelled = false) {e : Event}
    {rest : List Event} (queued : s.events = e :: rest) (left : s'.events = rest) :
    Ordered first (takenSoFar ++ s.taken .machine s') (enteredSoFar ++ s.entered .machine s')
      s' := by
  have running : s.phase.isOver = false := by rw [watching]; rfl
  have whole := ordered.whole running
  rw [taken_of_queued watching uncancelled queued, entered_of_unreported (by simp),
    List.append_nil]
  refine ⟨[], ?_, fun _ => rfl⟩
  rw [whole, queued, left]
  simp

/-- A machine that ends drops what is in the queue. -/
theorem close (ordered : Ordered first takenSoFar enteredSoFar s) (untaken : s.taken action s' = [])
    (unentered : s.entered action s' = []) (emptied : s'.events = [])
    (ended : s'.phase.isOver = true) :
    Ordered first (takenSoFar ++ s.taken action s') (enteredSoFar ++ s.entered action s') s' := by
  rw [untaken, unentered, List.append_nil, List.append_nil]
  obtain ⟨dropped, same, -⟩ := ordered
  refine ⟨s.events ++ dropped, ?_, fun running => ?_⟩
  · rw [same, emptied, List.append_nil, List.append_assoc]
  · simp [ended] at running

theorem step (ordered : Ordered first takenSoFar enteredSoFar s) (stepped : Step s action s') :
    Ordered first (takenSoFar ++ s.taken action s') (enteredSoFar ++ s.entered action s') s' := by
  cases stepped with
  | connected takes => exact ordered.still takes.taken_eq rfl rfl fun _ => takes.running
  | requestIgnored watching _ quiet => exact ordered.still (taken_of_quiet quiet) rfl rfl id
  | connectReturned attempting =>
      exact ordered.still (taken_of_unmoved (by simp)) rfl rfl fun _ => by rw [attempting]; rfl
  | crashed => exact ordered.close (taken_of_unmoved (by simp)) rfl rfl rfl
  | gaveUp givesUp =>
      exact ordered.still givesUp.taken_eq givesUp.entered_eq rfl fun _ => givesUp.running
  | abandoned letsGo =>
      exact ordered.still letsGo.taken_eq letsGo.entered_eq rfl fun _ => letsGo.running
  | eventIgnored watching uncancelled queued | established watching uncancelled queued
  | faulted watching uncancelled queued => exact ordered.take watching uncancelled queued rfl
  | stopped _ cancelled => exact ordered.close (taken_of_cancelled cancelled) rfl rfl rfl
  | reported running =>
      rw [taken_of_unmoved (by simp), List.append_nil]
      refine ⟨[], ?_, fun _ => rfl⟩
      rw [← List.append_assoc, ordered.whole running]
      simp [entered]
  | unreported e =>
      exact ordered.still (taken_of_unmoved (by simp)) (by simp [entered]) rfl id
  | driverSleeps | driverWakes | driverAsks | driverEnds | driverQuits | requested | unrequested
  | cancelled | passed => exact ordered.still (taken_of_unmoved (by simp)) rfl rfl id

theorem run (ordered : Ordered first takenSoFar enteredSoFar s) (fits : s.Fits)
    (ran : s.run? actions = some s') :
    Ordered first (takenSoFar ++ s.along taken actions) (enteredSoFar ++ s.along entered actions)
      s' := by
  induction actions generalizing s takenSoFar enteredSoFar with
  | nil =>
      cases ran
      simpa [along] using ordered
  | cons action rest ih =>
      obtain ⟨middle, computed, ran⟩ := run?_cons.mp ran
      have stepped := step_of_next? fits computed
      rw [along_cons computed, along_cons computed, ← List.append_assoc, ← List.append_assoc]
      exact ih (ordered.step stepped) (fits.step stepped) ran

end Ordered

/-- The order of the events of a run. -/
theorem ordered_of_run (fits : s.Fits) (ran : s.run? actions = some s') :
    Ordered s.events (s.along taken actions) (s.along entered actions) s' :=
  (Ordered.begin s).run fits ran

end BridgeWarden.Link.System

/-!
Runs of a partial step.

A system runs through a list of actions as `List.foldlM` does. What every step keeps, every run
keeps (`keeps`). Where a step keeps it only among states that the world around the system treats
fairly, it is enough that the last state of the run is such a state, as long as a state is whenever
the one after it is (`keeps_fairly`).
-/

namespace BridgeWarden.Runs

variable {State Action : Type} {next? : State → Action → Option State} {s s' : State}
variable {actions : List Action}

/-- A function that goes through the actions one by one is such a run. -/
theorem eq_foldlM {run? : State → List Action → Option State} (nil : ∀ s, run? s [] = some s)
    (cons : ∀ s action rest, run? s (action :: rest) = (next? s action).bind (run? · rest)) :
    run? s actions = actions.foldlM next? s := by
  induction actions generalizing s with
  | nil => exact nil s
  | cons action rest ih =>
      rw [cons, List.foldlM_cons, Option.bind_eq_bind]
      congr 1
      funext middle
      exact ih

/-- What a step back keeps, a run back keeps. -/
theorem back {fair : State → Prop}
    (back : ∀ {s action s'}, next? s action = some s' → fair s' → fair s)
    (ran : actions.foldlM next? s = some s') (last : fair s') : fair s := by
  induction actions generalizing s with
  | nil =>
      simp only [List.foldlM_nil, Option.pure_def, Option.some.injEq] at ran
      exact ran ▸ last
  | cons action rest ih =>
      simp only [List.foldlM_cons, Option.bind_eq_bind, Option.bind_eq_some_iff] at ran
      obtain ⟨middle, computed, ran⟩ := ran
      exact back computed (ih ran)

theorem keeps_fairly (holds fair : State → Prop)
    (fairBack : ∀ {s action s'}, next? s action = some s' → fair s' → fair s)
    (kept : ∀ {s action s'}, holds s → action ∈ actions → next? s action = some s' → fair s →
      fair s' → holds s')
    (first : holds s) (ran : actions.foldlM next? s = some s') (last : fair s') : holds s' := by
  induction actions generalizing s with
  | nil =>
      simp only [List.foldlM_nil, Option.pure_def, Option.some.injEq] at ran
      exact ran ▸ first
  | cons action rest ih =>
      simp only [List.foldlM_cons, Option.bind_eq_bind, Option.bind_eq_some_iff] at ran
      obtain ⟨middle, computed, ran⟩ := ran
      have fairMiddle : fair middle := back fairBack ran last
      have held := kept first List.mem_cons_self computed (fairBack computed fairMiddle) fairMiddle
      exact ih (fun held member => kept held (List.mem_cons_of_mem _ member)) held ran

theorem keeps (holds : State → Prop)
    (kept : ∀ {s action s'}, holds s → action ∈ actions → next? s action = some s' → holds s')
    (first : holds s) (ran : actions.foldlM next? s = some s') : holds s' :=
  keeps_fairly holds (fun _ => True) (fun _ _ => trivial)
    (fun held member computed _ _ => kept held member computed) first ran trivial

end BridgeWarden.Runs

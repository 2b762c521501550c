import BridgeWarden.Liveness.Supervisor

/-!
Rhythmic histories.

`confirmations` and `publications` are the instants at which the timer was confirmed and at which
readers saw a report. `Rhythmic` says of a history that the timer was confirmed once a period from
the start on, and that each of these ticks was reported on within the budget. The lemmas say what
each kind of happening does to the two views, so that nothing after them opens these.
-/

namespace BridgeWarden.Liveness

/-- Periods and budgets, in milliseconds, that a timer of a timeout outlasts. -/
structure Rhythm.Keeps (r : Rhythm) (period budget : Nat) (timeout : Span) : Prop where
  periodMillis : r.period.ceilMillis = period
  budgetMillis : r.budget.ceilMillis = budget
  regular : r.period.isZero = false
  positive : 0 < budget
  brief : budget < period
  outlasted : period < timeout.ceilMillis
  period_le : r.period.nanos ≤ timeout.nanos
  budget_le : r.budget.nanos ≤ timeout.nanos

namespace Rhythm.Keeps

variable {r : Rhythm} {period budget now : Nat} {timeout : Span}

theorem wake_budget (keeps : r.Keeps period budget timeout)
    (told : (Clock.deadline? now timeout).isSome) : Clock.wake now r.budget = now + budget := by
  rw [Clock.wake_of_isSome (Clock.deadline?_isSome_mono (Nat.le_refl _) keeps.budget_le told),
    keeps.budgetMillis]

/-- After a tick in time the next one is due a period later. -/
theorem nextTick (keeps : r.Keeps period budget timeout)
    (told : (Clock.deadline? now timeout).isSome) : r.nextTick now now = now + period := by
  have prompt : ¬ now + tickSlack < now := by omega
  rw [Rhythm.nextTick, if_neg prompt,
    Clock.wake_of_isSome (Clock.deadline?_isSome_mono (Nat.le_refl _) keeps.period_le told),
    keeps.periodMillis]

end Rhythm.Keeps

namespace Supervisor

/-! ### Views on a history -/

/-- When things of a kind happened, the earliest first. -/
def instants (kind : Happening → Bool) : List (Nat × Happening) → List Nat
  | [] => []
  | (instant, h) :: earlier =>
      if kind h then instants kind earlier ++ [instant] else instants kind earlier

/-- When the timer was confirmed. -/
def confirmations : List (Nat × Happening) → List Nat := instants (· matches .confirmed)

/-- When readers saw a new report. -/
def publications : List (Nat × Happening) → List Nat := instants (· matches .published _)

/-- How often the timer was confirmed. -/
def ticks (history : List (Nat × Happening)) : Nat := (confirmations history).length

/-- How many reports readers saw. -/
def reports (history : List (Nat × Happening)) : Nat := (publications history).length

/-- A happening that neither confirms the timer nor shows a report. -/
def Silent (h : Happening) : Prop := h ≠ .confirmed ∧ ∀ report, h ≠ .published report

section Views

variable {now : Nat} {history : List (Nat × Happening)} {h : Happening} {report : Recovery.Report}

theorem confirmations_confirmed :
    confirmations ((now, .confirmed) :: history) = confirmations history ++ [now] := rfl

theorem publications_published :
    publications ((now, .published report) :: history) = publications history ++ [now] := rfl

theorem confirmations_silent (silent : Silent h) :
    confirmations ((now, h) :: history) = confirmations history := by
  cases h with
  | confirmed => exact (silent.1 rfl).elim
  | _ => rfl

theorem publications_silent (silent : Silent h) :
    publications ((now, h) :: history) = publications history := by
  cases h with
  | published report => exact (silent.2 report rfl).elim
  | _ => rfl

@[simp] theorem ticks_confirmed : ticks ((now, .confirmed) :: history) = ticks history + 1 := by
  simp [ticks, confirmations_confirmed]

@[simp] theorem reports_confirmed : reports ((now, .confirmed) :: history) = reports history := rfl

@[simp] theorem ticks_published : ticks ((now, .published report) :: history) = ticks history := rfl

@[simp] theorem reports_published :
    reports ((now, .published report) :: history) = reports history + 1 := by
  simp [reports, publications_published]

theorem ticks_silent (silent : Silent h) : ticks ((now, h) :: history) = ticks history := by
  rw [ticks, confirmations_silent silent, ticks]

theorem reports_silent (silent : Silent h) : reports ((now, h) :: history) = reports history := by
  rw [reports, publications_silent silent, reports]

theorem ticks_append (later : List (Nat × Happening)) :
    ticks history ≤ ticks (later ++ history) := by
  induction later with
  | nil => exact Nat.le_refl _
  | cons entry later ih =>
      rcases entry with ⟨instant, h⟩
      cases h with
      | confirmed =>
          rw [List.cons_append, ticks_confirmed]
          exact Nat.le_succ_of_le ih
      | _ => exact ih

end Views

/-! ### A rhythmic history -/

structure Rhythmic (start period budget : Nat) (history : List (Nat × Happening)) : Prop where
  confirmed : confirmations history = (List.range (ticks history)).map (start + · * period)
  prompt : ∀ k instant, (publications history)[k]? = some instant →
    start + k * period ≤ instant ∧ instant ≤ start + k * period + budget

namespace Rhythmic

variable {start period budget now : Nat} {history : List (Nat × Happening)}

theorem nil : Rhythmic start period budget [] :=
  ⟨rfl, by simp [publications, instants]⟩

/-- A confirmation at the next tick. -/
theorem confirm (rhythmic : Rhythmic start period budget history)
    (tick : now = start + ticks history * period) :
    Rhythmic start period budget ((now, .confirmed) :: history) := by
  refine ⟨?_, rhythmic.prompt⟩
  rw [ticks_confirmed, List.range_succ, List.map_append, ← rhythmic.confirmed,
    confirmations_confirmed, tick]
  rfl

/-- The next report, within the budget of its tick. -/
theorem publish (rhythmic : Rhythmic start period budget history) {report : Recovery.Report}
    (since : start + reports history * period ≤ now)
    (within : now ≤ start + reports history * period + budget) :
    Rhythmic start period budget ((now, .published report) :: history) := by
  refine ⟨rhythmic.confirmed, ?_⟩
  intro k instant shown
  rw [publications_published] at shown
  rcases Nat.lt_or_ge k (reports history) with known | new
  · rw [List.getElem?_append_left known] at shown
    exact rhythmic.prompt k instant shown
  · rw [List.getElem?_append_right new] at shown
    obtain ⟨same, rfl⟩ : k - (publications history).length = 0 ∧ now = instant := by
      simpa [List.getElem?_singleton] using shown
    have last : k = reports history := Nat.le_antisymm (Nat.le_of_sub_eq_zero same) new
    exact last ▸ ⟨since, within⟩

theorem silent (rhythmic : Rhythmic start period budget history) {h : Happening}
    (silent : Silent h) : Rhythmic start period budget ((now, h) :: history) := by
  refine ⟨?_, ?_⟩
  · rw [confirmations_silent silent, ticks_silent silent]
    exact rhythmic.confirmed
  · rw [publications_silent silent]
    exact rhythmic.prompt

end Rhythmic

end Supervisor

end BridgeWarden.Liveness

import BridgeWarden.Time.Span

/-!
Instants on a clock of whole milliseconds, and the deadlines set on it. A deadline too far ahead
for the clock is either refused (`deadline?`), where the program itself adds a span to an instant,
or put off for thirty years (`wake`), where it merely goes to sleep.
-/

namespace BridgeWarden.Clock

/-- The last second that an instant may name. -/
def lastSecond : Nat := UInt64.size / 2 - 1

/-- Nanoseconds in a millisecond's instant. -/
def nanos (now : Nat) : Nat := Span.nanosPerMilli * now

/-- The exact instant, in nanoseconds, a span after `now`; none beyond the clock's last second. -/
def instant? (now : Nat) (d : Span) : Option Nat :=
  let at_ := nanos now + d.nanos
  if at_ / Span.nanosPerSecond ≤ lastSecond then some at_ else none

/-- The millisecond at which the deadline a span after `now` has passed; none beyond the clock. -/
def deadline? (now : Nat) (d : Span) : Option Nat :=
  (instant? now d).map fun _ => now + d.ceilMillis

/-- How long a sleep lasts that the clock cannot measure: thirty years. -/
def farAhead : Nat := 86400 * 365 * 30 * 1000

/-- The millisecond at which a sleep of the span, begun now, is over. -/
def wake (now : Nat) (d : Span) : Nat :=
  (deadline? now d).getD (now + farAhead)

/-- Whether at most the span has gone by from `since` to `now`. -/
def within (since now : Nat) (d : Span) : Bool := nanos (now - since) ≤ d.nanos

/-- Whole seconds from `since` to `now`. -/
def secondsSince (since now : Nat) : Nat := (now - since) / 1000

theorem deadline?_of_le {now : Nat} {d : Span}
    (h : (nanos now + d.nanos) / Span.nanosPerSecond ≤ lastSecond) :
    deadline? now d = some (now + d.ceilMillis) := by
  simp [deadline?, instant?, h]

theorem deadline?_isSome_iff {now : Nat} {d : Span} :
    (deadline? now d).isSome ↔ (nanos now + d.nanos) / Span.nanosPerSecond ≤ lastSecond := by
  simp [deadline?, instant?]

theorem deadline?_of_isSome {now : Nat} {d : Span} (told : (deadline? now d).isSome) :
    deadline? now d = some (now + d.ceilMillis) :=
  deadline?_of_le (deadline?_isSome_iff.mp told)

/-- A clock that can tell a deadline can tell every earlier one. -/
theorem deadline?_isSome_mono {earlier later : Nat} {shorter longer : Span}
    (before : earlier ≤ later) (within : shorter.nanos ≤ longer.nanos)
    (told : (deadline? later longer).isSome) : (deadline? earlier shorter).isSome := by
  rw [deadline?_isSome_iff] at told ⊢
  refine Nat.le_trans (Nat.div_le_div_right ?_) told
  exact Nat.add_le_add (Nat.mul_le_mul_left _ before) within

/-- A deadline that the clock cannot tell it cannot tell later either. -/
theorem untold_of_le {earlier later : Nat} {d : Span} (before : earlier ≤ later)
    (untold : deadline? earlier d = none) : deadline? later d = none := by
  rw [← Option.not_isSome_iff_eq_none] at untold ⊢
  exact fun told => untold (deadline?_isSome_mono before (Nat.le_refl _) told)

/-- A clock that can tell a deadline set when a span is over can tell the end of the span. -/
theorem deadline?_isSome_of_after {now : Nat} {d further : Span}
    (told : (deadline? (now + d.ceilMillis) further).isSome) : (deadline? now d).isSome := by
  rw [deadline?_isSome_iff] at told ⊢
  refine Nat.le_trans (Nat.div_le_div_right ?_) told
  calc nanos now + d.nanos ≤ nanos now + Span.nanosPerMilli * d.ceilMillis :=
        Nat.add_le_add_left d.nanos_le_ceilMillis _
    _ = nanos (now + d.ceilMillis) := (Nat.mul_add _ _ _).symm
    _ ≤ nanos (now + d.ceilMillis) + further.nanos := Nat.le_add_right _ _

theorem wake_of_isSome {now : Nat} {d : Span} (told : (deadline? now d).isSome) :
    wake now d = now + d.ceilMillis := by
  rw [wake, deadline?_of_isSome told, Option.getD_some]

theorem eq_of_deadline? {now due : Nat} {d : Span} (told : deadline? now d = some due) :
    due = now + d.ceilMillis := by
  obtain ⟨_, _, same⟩ := Option.map_eq_some_iff.mp told
  exact same.symm

/-- Nobody wakes before going to sleep. -/
theorem le_wake (now : Nat) (d : Span) : now ≤ wake now d := by
  unfold wake
  cases told : deadline? now d with
  | none => exact Nat.le_add_right _ _
  | some due => exact eq_of_deadline? told ▸ Nat.le_add_right _ _

/-- A sleep is not too short, unless it is to be longer than one that the clock cannot measure. -/
theorem add_min_le_wake (now : Nat) (d : Span) : now + min d.ceilMillis farAhead ≤ wake now d := by
  unfold wake
  cases told : deadline? now d with
  | none => exact Nat.add_le_add_left (Nat.min_le_right _ _) now
  | some due =>
      rw [eq_of_deadline? told, Option.getD_some]
      exact Nat.add_le_add_left (Nat.min_le_left _ _) now

/-- A sleep of which the clock can tell the end, thirty years ahead if need be, is not too long. -/
theorem wake_le {now : Nat} {d : Span}
    (told : (deadline? now d).isSome ∨ (deadline? now (.ofMillis farAhead)).isSome) :
    wake now d ≤ now + d.ceilMillis := by
  by_cases short : (deadline? now d).isSome
  · exact Nat.le_of_eq (wake_of_isSome short)
  · have far := told.resolve_left short
    have untold : deadline? now d = none := Option.not_isSome_iff_eq_none.mp short
    rw [wake, untold, Option.getD_none]
    refine Nat.add_le_add_left (Nat.le_of_not_lt fun shorter => short ?_) now
    refine deadline?_isSome_mono (Nat.le_refl now) ?_ far
    calc d.nanos ≤ Span.nanosPerMilli * d.ceilMillis := d.nanos_le_ceilMillis
      _ ≤ Span.nanosPerMilli * farAhead := Nat.mul_le_mul_left _ (Nat.le_of_lt shorter)

end BridgeWarden.Clock

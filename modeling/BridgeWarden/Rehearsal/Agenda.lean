/-!
An order for tasks that take turns. Tasks that can move wait in a queue, first come, first served.
A task may have alarms, each with a label of the task's own; alarms of one instant wake their
tasks in the order in which they were set. Time stands still while a task can move.
-/

namespace BridgeWarden.Rehearsal

structure Alarm (τ : Type) where
  owner : τ
  label : Nat
  due : Nat

structure Agenda (τ : Type) where
  now : Nat
  /-- Tasks that can move, the next one first. -/
  ready : List τ
  /-- Alarms, the oldest first. -/
  alarms : List (Alarm τ)

/-- What a turn asks of the agenda. -/
inductive Order (τ : Type) where
  /-- Let the task have a turn. -/
  | wake (task : τ)
  /-- Set an alarm, in place of one of the same owner and label. -/
  | arm (owner : τ) (label due : Nat)
  /-- Take an alarm back. -/
  | disarm (owner : τ) (label : Nat)

/-- The order for a task that stands for another. -/
def Order.map {σ τ : Type} (f : σ → τ) : Order σ → Order τ
  | .wake t => .wake (f t)
  | .arm t label due => .arm (f t) label due
  | .disarm t label => .disarm (f t) label

namespace Agenda

variable {τ : Type} [DecidableEq τ]

def new : Agenda τ := ⟨0, [], []⟩

def wake (a : Agenda τ) (t : τ) : Agenda τ :=
  if t ∈ a.ready then a else { a with ready := a.ready ++ [t] }

def disarm (a : Agenda τ) (t : τ) (label : Nat) : Agenda τ :=
  { a with alarms := a.alarms.filter fun x => !(x.owner = t && x.label = label) }

def arm (a : Agenda τ) (t : τ) (label due : Nat) : Agenda τ :=
  let a := a.disarm t label
  { a with alarms := a.alarms ++ [⟨t, label, due⟩] }

def obey (a : Agenda τ) : Order τ → Agenda τ
  | .wake t => a.wake t
  | .arm t label due => a.arm t label due
  | .disarm t label => a.disarm t label

/-- Takes a task and all of its alarms off the agenda. -/
def dismiss (a : Agenda τ) (t : τ) : Agenda τ :=
  { a with ready := a.ready.filter (· ≠ t), alarms := a.alarms.filter (·.owner ≠ t) }

/-- The instant of the next alarm. -/
def nextDue? (a : Agenda τ) : Option Nat :=
  (a.alarms.map (·.due)).min?

/-- Goes on to an instant and wakes the tasks whose alarms are due by then. -/
def ring (a : Agenda τ) (instant : Nat) : Agenda τ :=
  let due := a.alarms.filter (·.due ≤ instant)
  due.foldl (fun a x => a.wake x.owner)
    { a with now := max a.now instant, alarms := a.alarms.filter fun x => !(x.due ≤ instant) }

end Agenda

/-- A stage on which tasks take turns: its agenda, and what one turn of a task does. -/
class Stage (σ τ : Type) where
  agenda : σ → Agenda τ
  withAgenda : σ → Agenda τ → σ
  turn : τ → σ → σ

variable {σ τ : Type} [DecidableEq τ] [Stage σ τ]

/-- Gives turns and lets alarms ring until no task can move and no alarm is due by an instant. The
fuel bounds the number of turns and rings. -/
def playUntil (τ : Type) [DecidableEq τ] [Stage σ τ] (instant : Nat) : Nat → σ → σ
  | 0, s => s
  | fuel + 1, s =>
      let a : Agenda τ := Stage.agenda s
      match a.ready with
      | t :: rest =>
          playUntil τ instant fuel (Stage.turn t (Stage.withAgenda s { a with ready := rest }))
      | [] =>
          match a.nextDue? with
          | some due =>
              if due ≤ instant then
                playUntil τ instant fuel (Stage.withAgenda s (a.ring due))
              else s
          | none => s

/-- How many turns and rings one millisecond of a stage may take. -/
def turnsPerMilli : Nat := 100000

/-- Plays on for some milliseconds, all that happens at the last instant included. -/
def play (τ : Type) [DecidableEq τ] [Stage σ τ] (millis : Nat) (s : σ) : σ :=
  let a : Agenda τ := Stage.agenda s
  let s := playUntil τ (a.now + millis) ((millis + 1) * turnsPerMilli) s
  let b : Agenda τ := Stage.agenda s
  Stage.withAgenda s { b with now := a.now + millis }

end BridgeWarden.Rehearsal

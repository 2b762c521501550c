import BridgeWarden.Liveness.Guard
import BridgeWarden.Rehearsal.Agenda

/-!
A guard in software and its sentry under a script.
-/

namespace BridgeWarden.Rehearsal

open Liveness

inductive WatchStep where
  | configure (d : Span)
  | confirm
  | disarm
  | abandon
  | cancel
  | advance (d : Span)

inductive WatchResult where
  | done
  | refused (r : Refusal)
  /-- There is nothing left to use. -/
  | gone
  | nothing

structure WatchFrame where
  now : Nat
  result : WatchResult
  trippedAt : Option Nat
  sentryRuns : Bool

structure WatchStage where
  agenda : Agenda Unit
  vigil : Vigil

namespace WatchStage

/-- All the moves that the sentry can make now. -/
def sentryMoves (cancelled : Bool) (now : Nat) : Nat → Guard → Guard
  | 0, g => g
  | fuel + 1, g =>
      match g.sentryStops? cancelled <|> g.sentryReads? <|> g.sentryWakes? now with
      | some next => sentryMoves cancelled now fuel next
      | none => g

/-- More moves than a sentry makes in one turn. -/
def sentryFuel : Nat := 8

instance : Stage WatchStage Unit where
  agenda := WatchStage.agenda
  withAgenda s agenda := { s with agenda }
  turn _ s :=
    let guard := sentryMoves s.vigil.cancelled s.agenda.now sentryFuel s.vigil.guard
    let agenda := match guard.due? with
      | some due => s.agenda.arm () 0 due
      | none => s.agenda.disarm () 0
    { agenda, vigil := { s.vigil with guard } }

def use (result : Except Refusal Guard) (s : WatchStage) : WatchStage × WatchResult :=
  if s.vigil.abandoned then (s, .gone)
  else match result with
    | .ok guard => ({ agenda := s.agenda.wake (), vigil := { s.vigil with guard } }, .done)
    | .error r => (s, .refused r)

def act (step : WatchStep) (s : WatchStage) : WatchStage × WatchResult :=
  match step with
  | .configure d => s.use (s.vigil.guard.configure d s.agenda.now)
  | .confirm => s.use (s.vigil.guard.confirm s.agenda.now)
  | .disarm => s.use (.ok s.vigil.guard.disarm)
  | .abandon => ({ s with vigil := { s.vigil with abandoned := true } }, .nothing)
  | .cancel =>
      ({ agenda := s.agenda.wake (), vigil := { s.vigil with cancelled := true } }, .nothing)
  | .advance d => (play Unit d.ceilMillis s, .nothing)

def steps (s : WatchStage) : List WatchStep → List WatchFrame
  | [] => []
  | step :: rest =>
      let (acted, result) := s.act step
      let after := play Unit 0 acted
      { now := after.agenda.now, result, trippedAt := after.vigil.guard.trippedAt?
        sentryRuns := after.vigil.guard.isWatched } :: steps after rest

end WatchStage

def runWatch (script : List WatchStep) : List WatchFrame :=
  WatchStage.steps ⟨Agenda.new.wake (), .new⟩ script

end BridgeWarden.Rehearsal

import BridgeWarden.Rehearsal.Agenda
import BridgeWarden.Transport.Pump
import BridgeWarden.Transport.Writer

/-!
Channels that follow a script: writes to one from several tasks, and the pump that reads from one.
A hold in a script lasts from the first attempt that meets it, also when that attempt is given
up.
-/

namespace BridgeWarden.Rehearsal

open Text (Bytes)
open Transport

/-- What a channel does on one attempt, or for some time. -/
inductive Act (α : Type) where
  | give (a : α)
  | fail
  | hold (d : Span)
  | stall

structure Script (α : Type) where
  acts : List (Act α)
  /-- When the first act, a hold that was met, is over. -/
  heldUntil : Option Nat

/-- What an attempt meets. -/
inductive Attempt (α : Type) where
  | given (a : α)
  | failed
  /-- Nothing until the instant, or for ever. -/
  | held (due : Option Nat)
  /-- The script is over. -/
  | over

namespace Script

variable {α : Type}

def ofList (acts : List (Act α)) : Script α := ⟨acts, none⟩

/-- An attempt at an instant. Holds that are over are passed by. -/
def attempt (now : Nat) (heldUntil : Option Nat) : List (Act α) → Attempt α × Script α
  | [] => (.over, ⟨[], none⟩)
  | .give a :: rest => (.given a, ⟨rest, none⟩)
  | .fail :: rest => (.failed, ⟨rest, none⟩)
  | .stall :: rest => (.held none, ⟨.stall :: rest, none⟩)
  | .hold d :: rest =>
      let due := heldUntil.getD (Clock.wake now d)
      if due ≤ now then attempt now none rest else (.held (some due), ⟨.hold d :: rest, some due⟩)

/-- An attempt at an instant that one act decides: a hold that is over ends it well. -/
def attemptOne (now : Nat) (s : Script α) : Attempt α × Script α :=
  match s.acts with
  | .hold d :: rest =>
      let due := s.heldUntil.getD (Clock.wake now d)
      if due ≤ now then (.over, ⟨rest, none⟩) else (.held (some due), { s with heldUntil := due })
  | acts => attempt now none acts

end Script

/-! ### Writing -/

/-- Calls that are to be made, tasks by number, and the channel. -/
structure SendStage where
  agenda : Agenda Nat
  writer : Writer
  script : Script Nat
  flushes : Script Unit
  /-- When each call is to be made, and with which bytes. -/
  plan : List (Nat × Bytes)
  /-- The place of each task's call, once it was made. -/
  calls : List (Option Nat)

namespace SendStage

def order (o : Order Nat) (s : SendStage) : SendStage := { s with agenda := s.agenda.obey o }

def act (a : Writer.Action) (s : SendStage) : SendStage :=
  match { s.writer with now := s.agenda.now }.next? a with
  | some writer => { s with writer }
  | none => s

/-- Whether a call has returned. -/
def isOver (call : Nat) (s : SendStage) : Bool := (s.writer.sends[call]?).any Writer.isOver

/-- The task of a call. -/
def taskOf? (call : Nat) (s : SendStage) : Option Nat := s.calls.findIdx? (· == some call)

/-- One attempt of the call whose turn it is; when it is held up, until when. -/
def attempt (send : Send) (s : SendStage) : SendStage × Option (Option Nat) :=
  match send.stage with
  | .waiting => (s.act .take, none)
  | .writing =>
      let (attempt, script) := Script.attempt s.agenda.now s.script.heldUntil s.script.acts
      let s := { s with script }
      match attempt with
      | .given 0 | .failed => (s.act .refuse, none)
      | .given count => (s.act (.accept (min count send.offered.length)), none)
      | .over => (s.act (.accept send.offered.length), none)
      | .held due => (s, some due)
  | .flushing =>
      let (attempt, flushes) := s.flushes.attemptOne s.agenda.now
      let s := { s with flushes }
      match attempt with
      | .held due => (s, some due)
      | _ => (s.act .flushed, none)
  | .over _ => (s, none)

/-- A call whose time is up ends; else it waits, for the channel too if it has it. -/
def await (task call : Nat) (due : Option Nat) (s : SendStage) : SendStage :=
  match s.writer.sends[call]? with
  | some send =>
      if send.deadline ≤ s.agenda.now then s.act (.expire call)
      else
        let s := match due with
          | some due => s.order (.arm task 0 due)
          | none => s
        s.order (.arm task 1 send.deadline)
  | none => s

/-- All the moves that a call can make now; the fuel bounds them. -/
def moves (task call : Nat) : Nat → SendStage → SendStage
  | 0, s => s
  | fuel + 1, s =>
      if s.isOver call then s
      else match s.writer.first? with
        | some (number, send) =>
            if number = call then
              match s.attempt send with
              | (s, none) => moves task call fuel s
              | (s, some due) => s.await task call due
            else s.await task call none
        | none => s

/-- Lets the next call in the queue have its turn when this one is over. -/
def handOver (task call : Nat) (s : SendStage) : SendStage :=
  if s.isOver call then
    let s := { s with agenda := s.agenda.dismiss task }
    match s.writer.queue.head?.bind s.taskOf? with
    | some next => s.order (.wake next)
    | none => s
  else s

def movesPerTurn (s : SendStage) : Nat :=
  s.script.acts.length + s.flushes.acts.length + s.plan.foldl (fun n p => n + p.2.length) 8

def turn (task : Nat) (s : SendStage) : SendStage :=
  match s.plan[task]?, (s.calls[task]?).join with
  | some (due, data), none =>
      if due ≤ s.agenda.now then
        let call := s.writer.sends.length
        let s := { s.act (.send data) with calls := s.calls.set task (some call) }
        (moves task call s.movesPerTurn s).handOver task call
      else s.order (.arm task 0 due)
  | _, some call => (moves task call s.movesPerTurn s).handOver task call
  | none, none => s

instance : Stage SendStage Nat where
  agenda := SendStage.agenda
  withAgenda s agenda := { s with agenda }
  turn := turn

end SendStage

/-- What a call wrote and when it returned. -/
structure SendFrame where
  written : Nat
  doneAt : Option Nat

/-- Longer than any of the calls takes. -/
def longEnough : Nat := Clock.farAhead

/-- Makes the calls and gives what each of them wrote, and all that the channel accepted. -/
def runSends (timeout : Span) (script : List (Act Nat)) (flushes : List (Act Unit))
    (plan : List (Nat × Bytes)) : List SendFrame × Bytes :=
  let tasks := List.range plan.length
  let s := play Nat longEnough
    { agenda := tasks.foldl Agenda.wake Agenda.new, writer := .new timeout
      script := .ofList script, flushes := .ofList flushes, plan
      calls := tasks.map fun _ => none : SendStage }
  let frame (task : Nat) : SendFrame :=
    match ((s.calls[task]?).join).bind (s.writer.sends[·]?) with
    | some send => ⟨send.written, match send.stage with
      | .over instant => some instant
      | _ => none⟩
    | none => ⟨0, none⟩
  (tasks.map frame, s.writer.accepted)

/-! ### Reading -/

/-- How a pump ended and when, and the pieces given to the engine, oldest first. -/
structure PumpFrame where
  result : Option Fault
  now : Nat
  chunks : List (Nat × Bytes)

namespace PumpRun

def next (a : Pump.Action) (p : Pump) : Pump := (p.next? a).getD p

/-- Lets time go on to an instant. -/
def goTo (instant : Nat) (p : Pump) : Pump := { p with now := max p.now instant }

/-- The earlier of two instants of which either may never come. -/
def earlier (a : Nat) : Option Nat → Nat
  | some b => min a b
  | none => a

/-- Lets what is given arrive and be read. -/
def give (data : Bytes) (p : Pump) : Pump := next .read (next (.arrive data) p)

/-- Runs the pump until it ends. The fuel bounds its moves. -/
def run (engineDelay : Span) (cancelAt : Option Nat) : Nat → Script Bytes → Pump → Pump
  | 0, _, p => p
  | fuel + 1, script, p =>
      let p := if cancelAt.any (· ≤ p.now) then next .cancel p else p
      match p.phase with
      | .stopped | .closed => p
      | .feeding =>
          run engineDelay cancelAt fuel script
            (next .taken (goTo (Clock.wake p.now engineDelay) p))
      | .pausing due =>
          if p.cancelled then run engineDelay cancelAt fuel script (next .stop p)
          else if due ≤ p.now then run engineDelay cancelAt fuel script (next .resume p)
          else run engineDelay cancelAt fuel script (goTo (earlier due cancelAt) p)
      | .reading cutOff =>
          if p.cancelled then run engineDelay cancelAt fuel script (next .stop p)
          else if p.chunkSize = 0 || !p.waiting.isEmpty then
            run engineDelay cancelAt fuel script (next .read p)
          else
            let (attempt, script) := Script.attempt p.now script.heldUntil script.acts
            match attempt with
            | .given data => run engineDelay cancelAt fuel script (give data p)
            | .failed => run engineDelay cancelAt fuel script (next .fail p)
            | .over => run engineDelay cancelAt fuel script (next .close p)
            | .held due =>
                if cutOff ≤ p.now then run engineDelay cancelAt fuel script (next .timeOut p)
                else run engineDelay cancelAt fuel script
                  (goTo (earlier (earlier cutOff due) cancelAt) p)

end PumpRun

/-- More moves than any rehearsal of a pump takes. -/
def pumpFuel : Nat := 1000000000

def runPump (readTimeout : Span) (chunkSize : Nat) (script : List (Act Bytes))
    (engineDelay : Span) (cancelAt : Option Nat) : Except Breach PumpFrame := do
  let p := PumpRun.run engineDelay cancelAt pumpFuel (.ofList script)
    (← Pump.make? readTimeout chunkSize)
  return { result := if p.phase = .closed then some Pump.endOfStream else none
           now := p.now, chunks := p.chunks.reverse }

end BridgeWarden.Rehearsal

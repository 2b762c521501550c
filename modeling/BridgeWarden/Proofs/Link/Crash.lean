import BridgeWarden.Proofs.Link.Steps

/-!
When the machine breaks down.

It does so at one place only, where a negotiation begins whose end the clock cannot tell
(`untold_of_crashed`), and it does not get past that place: as long as the clock runs far enough, a
link that is up can go down and be asked for anew at any instant (`crashes_of_untold`).
-/

namespace BridgeWarden.Link.System

variable {s s' : System} {action : Action} {actions : List Action} {negotiation : Span}

/-- A machine that has crashed has its reason. -/
structure Excused (negotiation : Span) (s : System) : Prop where
  allowed : s.negotiation = negotiation
  untold : s.phase = .crashed → Clock.deadline? s.now negotiation = none

namespace Excused

theorem new (capacity : Nat) (backoff : Backoff) (negotiation : Span) :
    Excused negotiation (new capacity backoff negotiation) :=
  ⟨rfl, by rintro ⟨⟩⟩

theorem step (excused : Excused negotiation s) (stepped : Step s action s') :
    Excused negotiation s' := by
  have untold := excused.untold
  cases stepped with
  | crashed _ untold' =>
      rw [excused.allowed] at untold'
      exact ⟨excused.allowed, fun _ => untold'⟩
  | passed =>
      refine ⟨excused.allowed, ?_⟩
      intro crashed
      exact Clock.untold_of_le (Nat.le_add_right _ _) (untold crashed)
  | connected | connectReturned | gaveUp | abandoned | established | faulted | stopped =>
      exact ⟨excused.allowed, by rintro ⟨⟩⟩
  | requestIgnored | eventIgnored | driverSleeps | driverWakes | driverAsks | driverEnds
  | driverQuits | reported | unreported | requested | unrequested | cancelled =>
      exact ⟨excused.allowed, untold⟩

theorem run (excused : Excused negotiation s) (fits : s.Fits) (ran : s.run? actions = some s') :
    Excused negotiation s' := by
  apply fits.keeps (Excused negotiation) ?_ excused ran
  intro s action s' excused stepped
  exact excused.step stepped

end Excused

theorem untold_of_crashed (capacity : Nat) (backoff : Backoff) (negotiation : Span)
    (ran : (new capacity backoff negotiation).run? actions = some s)
    (crashed : s.phase = .crashed) :
    Clock.deadline? s.now negotiation = none :=
  ((Excused.new capacity backoff negotiation).run (fits_new ..) ran).untold crashed

/-- The first attempt is taken up. -/
def takenUp : List Action := [.machine, .connectEnds true]

/-- The first attempt comes to a link, which goes down at the instant and is asked for again. -/
def upUntil (instant : Nat) : List Action :=
  takenUp ++ [.report (.up default default default), .machine, .pass instant, .report (.down ""),
    .machine, .request, .machine, .connectEnds true]

/-- Where the clock cannot tell the end of a negotiation that begins at an instant, one that begins
then or before makes the machine crash, if the engine can report anything. -/
theorem crashes_of_untold {capacity : Nat} (room : 0 < capacity) (backoff : Backoff) {instant : Nat}
    (untold : Clock.deadline? instant negotiation = none) :
    ∃ actions s, (new capacity backoff negotiation).run? actions = some s ∧ s.now ≤ instant ∧
      s.phase = .crashed := by
  cases told : Clock.deadline? 0 negotiation with
  | none =>
      refine ⟨takenUp, ?_⟩
      simp [takenUp, run?, next?, new, machine?, beginConnect, Session.new, Session.beginConnect?,
        publish, note, watch, told]
  | some due =>
      -- The first negotiation has its deadline, and a link that is up has none to keep time back.
      refine ⟨upUntil instant, ?_⟩
      simp [upUntil, takenUp, run?, next?, new, machine?, beginConnect, Session.new,
        Session.beginConnect?, publish, note, watch, told, offerEvent, Phase.isOver, room,
        handleEvent, Session.handle, canWait, driver?, driverQuits?, deadlines, schedule,
        Session.fault, enterRequest, requestCapacity, untold]

end BridgeWarden.Link.System

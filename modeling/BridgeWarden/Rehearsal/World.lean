import BridgeWarden.Reach.Survey
import BridgeWarden.Time.Clock

/-!
An access point and a prober that follow properties set for them. A call takes its delay and is
then answered from the properties as they are by then, faults first.
-/

namespace BridgeWarden.Rehearsal

structure World where
  clients : List Mac
  leases : List (Mac × Ipv4)
  leaseFaults : List (Mac × Fault)
  dead : List Ipv4
  probeFaults : List (Ipv4 × Fault)
  listFault : Option Fault
  listDelay : Span
  leaseDelay : Span
  probeDelay : Span
  restartDelay : Span
  restartFault : Option Fault
  restartPanics : Bool
  restartKeepsClients : Bool

/-- What the world is called for, and what it says of itself. -/
inductive WorldCall where
  | asked (query : Reach.Query)
  | restart
  /-- A restart has come to its end. -/
  | restarted

namespace World

/-- A world without clients, faults and delays. -/
def quiet : World :=
  { clients := [], leases := [], leaseFaults := [], dead := [], probeFaults := []
    listFault := none, listDelay := .zero, leaseDelay := .zero, probeDelay := .zero
    restartDelay := .zero, restartFault := none, restartPanics := false
    restartKeepsClients := false }

/-- How long a call takes. -/
def delay (w : World) : Reach.Query → Span
  | .list => w.listDelay
  | .lease _ => w.leaseDelay
  | .probe _ _ => w.probeDelay

/-- A fault in front of a value. -/
def orFault {α : Type} (fault : Option Fault) (value : α) : Except Fault α :=
  match fault with
  | some f => .error f
  | none => .ok value

def answer (w : World) : Reach.Query → Reach.Answer
  | .list => .clients (orFault w.listFault w.clients)
  | .lease client => .lease (orFault (w.leaseFaults.lookup client) (w.leases.lookup client))
  | .probe address _ => .probe (orFault (w.probeFaults.lookup address) (!w.dead.contains address))

/-- The world after a restart that comes to its end. -/
def restarted (w : World) : World :=
  if w.restartFault.isSome || w.restartKeepsClients then w else { w with clients := [] }

end World

/-! ### One survey -/

/-- A survey's outcome, when it was found, and its calls, oldest first. -/
structure SurveyFrame where
  outcome : Reach.Outcome
  now : Nat
  calls : List (Nat × Reach.Query)

/-- Asks the world until the survey is done; the fuel bounds the questions. -/
def askWorld (m : Reach.Monitor) (w : World) : Nat → Reach.Survey → Nat → SurveyFrame
  | 0, _, now => ⟨.noClients, now, []⟩
  | fuel + 1, survey, now =>
      match survey.outcome?, survey.query? m with
      | some outcome, _ => ⟨outcome, now, []⟩
      | none, some query =>
          let later := Clock.wake now (w.delay query)
          let rest := askWorld m w fuel ((survey.answer? m (w.answer query)).getD survey) later
          { rest with calls := (now, query) :: rest.calls }
      | none, none => ⟨.noClients, now, []⟩

/-- More questions than any survey of the world's clients asks. -/
def World.questions (w : World) : Nat := 2 * w.clients.length + 3

def runSurvey (m : Reach.Monitor) (w : World) : SurveyFrame :=
  askWorld m w w.questions .listing 0

end BridgeWarden.Rehearsal

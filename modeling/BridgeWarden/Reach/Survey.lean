import BridgeWarden.Fault.Basic
import BridgeWarden.Reach.Outcome
import BridgeWarden.Time.Span

/-!
One round of checking the access point's clients, as a conversation. A survey asks one thing at a
time, and its outcome depends on nothing but the answers: first the list of clients, then for each
of the first few of them, in order, its address and whether that address answers. The first
client that does not answer ends the survey, and so does the first question that cannot be
answered.
-/

namespace BridgeWarden.Reach

/-- How a survey is made. -/
structure Monitor where
  probeTimeout : Span
  maxClients : Nat
  deriving DecidableEq, Inhabited

/-- What a survey asks. -/
inductive Query where
  | list
  | lease (client : Mac)
  | probe (address : Ipv4) (timeout : Span)
  deriving DecidableEq, Inhabited

instance decidableEqExcept {ε α : Type} [DecidableEq ε] [DecidableEq α] :
    DecidableEq (Except ε α)
  | .ok a, .ok b => decidable_of_decidable_of_eq (Except.ok.injEq a b).symm
  | .error e, .error f => decidable_of_decidable_of_eq (Except.error.injEq e f).symm
  | .ok _, .error _ => isFalse nofun
  | .error _, .ok _ => isFalse nofun

/-- What a survey is told. -/
inductive Answer where
  | clients (result : Except Fault (List Mac))
  | lease (result : Except Fault (Option Ipv4))
  | probe (result : Except Fault Bool)
  deriving DecidableEq, Inhabited

/-- Where a survey stands. `rest` are the clients still to be visited after the present one. -/
inductive Survey where
  | listing
  | resolving (client : Mac) (rest : List Mac) (probed unresolved : Nat)
  | probing (client : Mac) (address : Ipv4) (rest : List Mac) (probed unresolved : Nat)
  | done (outcome : Outcome)
  deriving DecidableEq, Inhabited

namespace Survey

/-- What the survey asks now. -/
def query? (m : Monitor) : Survey → Option Query
  | .listing => some .list
  | .resolving client .. => some (.lease client)
  | .probing _ address .. => some (.probe address m.probeTimeout)
  | .done _ => none

def outcome? : Survey → Option Outcome
  | .done outcome => some outcome
  | _ => none

/-- The survey that cannot go on. -/
def failed (f : Fault) : Survey := .done (.indeterminate f.message)

/-- Goes on to the next client. -/
def visit : List Mac → Nat → Nat → Survey
  | [], probed, unresolved => .done (.reachable probed unresolved)
  | client :: rest, probed, unresolved => .resolving client rest probed unresolved

/-- The survey after the list of clients. -/
def listed (m : Monitor) : Except Fault (List Mac) → Survey
  | .error f => failed f
  | .ok [] => .done .noClients
  | .ok clients => visit (clients.take m.maxClients) 0 0

/-- The survey after an answer; none for an answer to another question. -/
def answer? (m : Monitor) : Survey → Answer → Option Survey
  | .listing, .clients result => some (listed m result)
  | .resolving client rest probed unresolved, .lease result =>
      some (match result with
        | .error f => failed f
        | .ok none => visit rest probed (unresolved + 1)
        | .ok (some address) => .probing client address rest probed unresolved)
  | .probing client address rest probed unresolved, .probe result =>
      some (match result with
        | .error f => failed f
        | .ok false => .done (.unreachable client address)
        | .ok true => visit rest (probed + 1) unresolved)
  | _, _ => none

end Survey

end BridgeWarden.Reach

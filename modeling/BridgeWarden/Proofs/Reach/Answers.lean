import BridgeWarden.Reach.Survey

/-!
What a survey does with an answer.

`Moves` lists every answer that a survey takes and where it leads (`moves_of_answer?`). Only one of
them, a probe without an answer, calls for recovery (`Moves.needsRecovery`).
-/

namespace BridgeWarden.Reach.Survey

variable {m : Monitor} {survey next : Survey} {answer : Answer}

inductive Moves (m : Monitor) : Survey → Answer → Survey → Prop where
  | unlisted (f : Fault) : Moves m .listing (.clients (.error f)) (failed f)
  | nobody : Moves m .listing (.clients (.ok [])) (.done .noClients)
  | listed {clients : List Mac} (somebody : clients ≠ []) :
      Moves m .listing (.clients (.ok clients)) (visit (clients.take m.maxClients) 0 0)
  | leaseless (f : Fault) {client : Mac} {rest : List Mac} {probed unresolved : Nat} :
      Moves m (.resolving client rest probed unresolved) (.lease (.error f)) (failed f)
  | unresolved {client : Mac} {rest : List Mac} {probed unresolved : Nat} :
      Moves m (.resolving client rest probed unresolved) (.lease (.ok none))
        (visit rest probed (unresolved + 1))
  | resolved (address : Ipv4) {client : Mac} {rest : List Mac} {probed unresolved : Nat} :
      Moves m (.resolving client rest probed unresolved) (.lease (.ok (some address)))
        (.probing client address rest probed unresolved)
  | unprobed (f : Fault) {client : Mac} {address : Ipv4} {rest : List Mac}
      {probed unresolved : Nat} :
      Moves m (.probing client address rest probed unresolved) (.probe (.error f)) (failed f)
  | reachable {client : Mac} {address : Ipv4} {rest : List Mac} {probed unresolved : Nat} :
      Moves m (.probing client address rest probed unresolved) (.probe (.ok true))
        (visit rest (probed + 1) unresolved)
  | silent {client : Mac} {address : Ipv4} {rest : List Mac} {probed unresolved : Nat} :
      Moves m (.probing client address rest probed unresolved) (.probe (.ok false))
        (.done (.unreachable client address))

theorem moves_of_answer? (told : survey.answer? m answer = some next) :
    Moves m survey answer next := by
  cases survey <;> cases answer <;> simp only [answer?, Option.some.injEq, reduceCtorEq] at told
  case listing.clients result =>
      subst told
      cases result with
      | error f => exact .unlisted f
      | ok clients =>
          cases clients with
          | nil => exact .nobody
          | cons client rest => exact .listed (by simp)
  case resolving.lease result =>
      subst told
      cases result with
      | error f => exact .leaseless f
      | ok address =>
          cases address with
          | none => exact .unresolved
          | some address => exact .resolved address
  case probing.probe result =>
      subst told
      cases result with
      | error f => exact .unprobed f
      | ok answered =>
          cases answered with
          | true => exact .reachable
          | false => exact .silent

/-- A survey asks as long as it is not done. -/
theorem query?_isSome (survey : Survey) : (survey.query? m).isSome = survey.outcome?.isNone := by
  cases survey <;> rfl

/-- A survey that cannot go on asks nothing. -/
@[simp] theorem query?_failed (f : Fault) : (failed f).query? m = none := rfl

/-- A survey that goes on to the next client, if there is one, is not alarmed. -/
theorem outcome?_visit {clients : List Mac} {probed unresolved : Nat} {outcome : Outcome}
    (settled : (visit clients probed unresolved).outcome? = some outcome) :
    outcome = .reachable probed unresolved := by
  cases clients with
  | nil => simpa [visit, outcome?] using settled.symm
  | cons client rest => simp [visit, outcome?] at settled

theorem outcome?_failed {f : Fault} {outcome : Outcome}
    (settled : (failed f).outcome? = some outcome) : outcome = .indeterminate f.message := by
  simpa [failed, outcome?] using settled.symm

/-- Only the answer "no" to a probe calls for recovery. -/
theorem Moves.needsRecovery (moves : Moves m survey answer next) {outcome : Outcome}
    (settled : next.outcome? = some outcome) (needs : outcome.needsRecovery = true) :
    ∃ client address rest probed unresolved,
      survey = .probing client address rest probed unresolved ∧ answer = .probe (.ok false) ∧
        outcome = .unreachable client address := by
  cases moves with
  | unlisted f => simp [outcome?_failed settled, Outcome.needsRecovery] at needs
  | nobody =>
      simp only [outcome?, Option.some.injEq] at settled
      simp [← settled, Outcome.needsRecovery] at needs
  | listed somebody => simp [outcome?_visit settled, Outcome.needsRecovery] at needs
  | leaseless f => simp [outcome?_failed settled, Outcome.needsRecovery] at needs
  | unresolved => simp [outcome?_visit settled, Outcome.needsRecovery] at needs
  | resolved address => simp [outcome?] at settled
  | unprobed f => simp [outcome?_failed settled, Outcome.needsRecovery] at needs
  | reachable => simp [outcome?_visit settled, Outcome.needsRecovery] at needs
  | @silent client address rest probed unresolved =>
      simp only [outcome?, Option.some.injEq] at settled
      exact ⟨client, address, rest, probed, unresolved, rfl, rfl, settled.symm⟩

end BridgeWarden.Reach.Survey

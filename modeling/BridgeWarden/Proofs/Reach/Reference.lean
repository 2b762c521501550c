import BridgeWarden.Proofs.Reach.Answers
import Mathlib.Data.List.Basic

/-!
What a survey asks, and what it finds.

`Replies` say how each question is answered: the list of clients once, and for each visit of a
client its lease and its probe. A client that is listed twice is visited twice, and the visits may
be answered differently. From the replies alone one can tell which visits are made, what is asked in
them and what comes of it (`questions`, `outcome`); `surveys_by_reference` says that this is what
every survey asks and finds. The survey that does so is built client by client (`conducted_visit`),
and a survey has no choice (`Conducted.isPrefix`).
-/

namespace BridgeWarden.Reach

/-- How the questions of a survey are answered. Visits are numbered from 1 on. -/
structure Replies where
  list : Except Fault (List Mac)
  lease (visit : Nat) (client : Mac) : Except Fault (Option Ipv4)
  probe (visit : Nat) (address : Ipv4) : Except Fault Bool

namespace Replies

variable (m : Monitor) (r : Replies)

/-! ### What a survey should ask and find -/

/-- What ends the survey with the visit of a client; none if the next one follows. -/
def verdict? (visit : Mac × Nat) : Option Outcome :=
  match r.lease visit.2 visit.1 with
  | .error f => some (.indeterminate f.message)
  | .ok none => none
  | .ok (some address) =>
      match r.probe visit.2 address with
      | .error f => some (.indeterminate f.message)
      | .ok false => some (.unreachable visit.1 address)
      | .ok true => none

def hasLease (visit : Mac × Nat) : Bool :=
  match r.lease visit.2 visit.1 with
  | .ok (some _) => true
  | _ => false

def lacksLease (visit : Mac × Nat) : Bool :=
  match r.lease visit.2 visit.1 with
  | .ok none => true
  | _ => false

/-- What is asked in the visit of a client. -/
def asks (visit : Mac × Nat) : List Query :=
  .lease visit.1 ::
    match r.lease visit.2 visit.1 with
    | .ok (some address) => [.probe address m.probeTimeout]
    | _ => []

/-- The visits up to the first one that ends the survey. -/
def made (visits : List (Mac × Nat)) : List (Mac × Nat) :=
  visits.take (visits.findIdx (fun visit => (r.verdict? visit).isSome) + 1)

/-- What comes of visits, after so many clients that answered and so many without a lease. -/
def found (probed unresolved : Nat) (visits : List (Mac × Nat)) : Outcome :=
  (visits.findSome? r.verdict?).getD
    (.reachable (probed + visits.countP r.hasLease)
      (unresolved + visits.countP r.lacksLease))

/-- The visits that there are to make. -/
def visits : List (Mac × Nat) :=
  match r.list with
  | .ok clients => (clients.take m.maxClients).zipIdx 1
  | .error _ => []

def questions : List Query := .list :: (r.made (r.visits m)).flatMap (r.asks m)

def outcome : Outcome :=
  match r.list with
  | .error f => .indeterminate f.message
  | .ok [] => .noClients
  | .ok _ => r.found 0 0 (r.visits m)

variable {m r} {visit : Mac × Nat} {visits : List (Mac × Nat)} {probed unresolved : Nat}
variable {ending : Outcome}

theorem made_of_verdict (ends : r.verdict? visit = some ending) :
    r.made (visit :: visits) = [visit] := by
  simp [made, List.findIdx_cons, ends]

theorem made_cons (goesOn : r.verdict? visit = none) :
    r.made (visit :: visits) = visit :: r.made visits := by
  simp [made, List.findIdx_cons, goesOn]

theorem found_of_verdict (ends : r.verdict? visit = some ending) :
    r.found probed unresolved (visit :: visits) = ending := by
  simp [found, ends]

/-- A visit after which the next one follows is of a client with a lease, or of one without. -/
theorem lacksLease_eq (goesOn : r.verdict? visit = none) :
    r.lacksLease visit = !r.hasLease visit := by
  unfold verdict? at goesOn
  unfold lacksLease hasLease
  split at goesOn
  · cases goesOn
  · rename_i lease
    rw [lease]
    rfl
  · rename_i address lease
    rw [lease]
    rfl

theorem found_of_lease (goesOn : r.verdict? visit = none) (lease : r.hasLease visit = true) :
    r.found probed unresolved (visit :: visits) = r.found (probed + 1) unresolved visits := by
  simp [found, goesOn, lacksLease_eq goesOn, lease, Nat.add_assoc, Nat.add_comm 1]

theorem found_of_unresolved (goesOn : r.verdict? visit = none) (lease : r.hasLease visit = false) :
    r.found probed unresolved (visit :: visits) = r.found probed (unresolved + 1) visits := by
  simp [found, goesOn, lacksLease_eq goesOn, lease, Nat.add_assoc, Nat.add_comm 1]

end Replies

namespace Survey

variable {m : Monitor} {r : Replies} {asked : List Query} {survey : Survey}

/-! ### Conversations -/

/-- The visits that have begun. -/
def begun (asked : List Query) : Nat :=
  asked.countP fun
    | .lease _ => true
    | .list | .probe .. => false

/-- The answer to a question after others. -/
def reply (r : Replies) (asked : List Query) : Query → Answer
  | .list => .clients r.list
  | .lease client => .lease (r.lease (begun asked + 1) client)
  | .probe address _ => .probe (r.probe (begun asked) address)

/-- A survey that has asked these questions, in this order. -/
inductive Conducted (m : Monitor) (r : Replies) : List Query → Survey → Prop where
  | new : Conducted m r [] .listing
  | asked {asked : List Query} {query : Query} {survey next : Survey}
      (conducted : Conducted m r asked survey) (asks : survey.query? m = some query)
      (told : survey.answer? m (reply r asked query) = some next) :
      Conducted m r (asked ++ [query]) next

theorem begun_lease {client : Mac} : begun (asked ++ [.lease client]) = begun asked + 1 := by
  simp [begun]

/-! ### A survey asks what it should -/

section Visits

variable {client : Mac} {rest : List Mac} {probed unresolved : Nat}

/-- The next visit, if it is of the client. -/
abbrev next (asked : List Query) (client : Mac) : Mac × Nat := (client, begun asked + 1)

/-- A visit has ended the survey, or the next one follows. -/
inductive Visited (m : Monitor) (r : Replies) (visited : Mac × Nat) (rest : List Mac)
    (probed unresolved : Nat) (asked : List Query) : Prop where
  | ended {ending : Outcome} (verdict : r.verdict? visited = some ending)
      (conducted : Conducted m r asked (.done ending))
  | answered (goesOn : r.verdict? visited = none) (lease : r.hasLease visited = true)
      (conducted : Conducted m r asked (visit rest (probed + 1) unresolved))
  | unresolved (goesOn : r.verdict? visited = none) (lease : r.hasLease visited = false)
      (conducted : Conducted m r asked (visit rest probed (unresolved + 1)))

/-- A visit asks what it should. -/
theorem Conducted.visited
    (conducted : Conducted m r asked (.resolving client rest probed unresolved)) :
    begun (asked ++ r.asks m (next asked client)) = begun asked + 1 ∧
      Visited m r (next asked client) rest probed unresolved
        (asked ++ r.asks m (next asked client)) := by
  have question : (Survey.resolving client rest probed unresolved).query? m =
      some (.lease client) := rfl
  have leased := conducted.asked question rfl
  cases lease : r.lease (begun asked + 1) client with
  | error f =>
      have asks : r.asks m (next asked client) = [.lease client] := by simp [Replies.asks, lease]
      have verdict : r.verdict? (next asked client) = some (.indeterminate f.message) := by
        simp [Replies.verdict?, lease]
      rw [asks]
      exact ⟨begun_lease, .ended verdict (by simpa [lease, failed] using leased)⟩
  | ok address =>
      cases address with
      | none =>
          have asks : r.asks m (next asked client) = [.lease client] := by
            simp [Replies.asks, lease]
          rw [asks]
          refine ⟨begun_lease, .unresolved ?_ ?_ ?_⟩
          · simp [Replies.verdict?, lease]
          · simp [Replies.hasLease, lease]
          · simpa [lease] using leased
      | some address =>
          have asks : r.asks m (next asked client) =
              [.lease client, .probe address m.probeTimeout] := by
            simp [Replies.asks, lease]
          simp only [lease] at leased
          have question : (Survey.probing client address rest probed unresolved).query? m =
              some (.probe address m.probeTimeout) := rfl
          have answered := leased.asked question rfl
          rw [List.append_assoc, begun_lease] at answered
          rw [asks]
          refine ⟨by simp [begun], ?_⟩
          cases answer : r.probe (begun asked + 1) address with
          | error f =>
              have verdict : r.verdict? (next asked client) =
                  some (.indeterminate f.message) := by
                simp [Replies.verdict?, lease, answer]
              exact .ended verdict (by simpa [answer, failed] using answered)
          | ok reached =>
              cases reached with
              | false =>
                  have verdict : r.verdict? (next asked client) =
                      some (.unreachable client address) := by
                    simp [Replies.verdict?, lease, answer]
                  exact .ended verdict (by simpa [answer] using answered)
              | true =>
                  refine .answered ?_ ?_ ?_
                  · simp [Replies.verdict?, lease, answer]
                  · simp [Replies.hasLease, lease]
                  · simpa [answer] using answered

/-- From any client on, a survey can ask what is left, and finds what comes of it. -/
theorem conducted_visit {clients : List Mac}
    (conducted : Conducted m r asked (visit clients probed unresolved)) :
    Conducted m r
      (asked ++ (r.made (clients.zipIdx (begun asked + 1))).flatMap (r.asks m))
      (.done (r.found probed unresolved (clients.zipIdx (begun asked + 1)))) := by
  -- The counts and what was asked grow with the visits, and what is left gets shorter.
  induction clients generalizing asked probed unresolved with
  | nil => simpa [Replies.made, Replies.found, visit] using conducted
  | cons client rest ih =>
      obtain ⟨begun, visited⟩ := Conducted.visited conducted
      rw [List.zipIdx_cons]
      cases visited with
      | ended verdict conducted =>
          rw [Replies.made_of_verdict verdict, Replies.found_of_verdict verdict,
            List.flatMap_singleton]
          exact conducted
      | answered goesOn lease conducted =>
          rw [Replies.made_cons goesOn, Replies.found_of_lease goesOn lease, List.flatMap_cons,
            ← List.append_assoc, ← begun]
          exact ih conducted
      | unresolved goesOn lease conducted =>
          rw [Replies.made_cons goesOn, Replies.found_of_unresolved goesOn lease,
            List.flatMap_cons, ← List.append_assoc, ← begun]
          exact ih conducted

end Visits

/-- There is a survey that asks and finds what it should. -/
theorem conducted_questions : Conducted m r (r.questions m) (.done (r.outcome m)) := by
  have question : Survey.listing.query? m = some .list := rfl
  have listed := (Conducted.new (r := r)).asked question rfl
  simp only [Survey.listed, List.nil_append] at listed
  cases list : r.list with
  | error f =>
      simpa [Replies.questions, Replies.outcome, Replies.visits, Replies.made, list, failed]
        using listed
  | ok clients =>
      simp only [list] at listed
      cases clients with
      | nil =>
          simpa [Replies.questions, Replies.outcome, Replies.visits, Replies.made, list]
            using listed
      | cons client rest =>
          have conducted := conducted_visit listed
          simpa [Replies.questions, Replies.outcome, Replies.visits, list, begun] using conducted

/-! ### A survey has no choice -/

theorem Conducted.eq_of_conducted {other : Survey} (conducted : Conducted m r asked survey)
    (again : Conducted m r asked other) : survey = other := by
  induction conducted generalizing other with
  | new =>
      generalize nothing : ([] : List Query) = questions at again
      cases again with
      | new => rfl
      | asked => simp at nothing
  | @asked asked query survey next conducted asks told ih =>
      generalize questions : asked ++ [query] = all at again
      cases again with
      | new => simp at questions
      | @asked asked' query' survey' next' conducted' asks' told' =>
          obtain ⟨rfl, same⟩ := List.append_inj' questions rfl
          obtain rfl : query = query' := by simpa using same
          obtain rfl := ih conducted'
          exact Option.some.inj (told.symm.trans told')

/-- At each question the survey was where it asks that. -/
theorem Conducted.asked_at {before after : List Query} {query : Query}
    (conducted : Conducted m r asked survey) (question : asked = before ++ query :: after) :
    ∃ earlier, Conducted m r before earlier ∧ earlier.query? m = some query := by
  induction conducted generalizing after with
  | new => simp at question
  | @asked asked last survey next conducted asks told ih =>
      rcases List.eq_nil_or_concat after with rfl | ⟨after, final, rfl⟩
      · obtain ⟨rfl, same⟩ := List.append_inj' question rfl
        obtain rfl : last = query := by simpa using same
        exact ⟨survey, conducted, asks⟩
      · have shape : asked ++ [last] = (before ++ query :: after) ++ [final] := by
          simpa using question
        exact ih (List.append_inj' shape rfl).1

/-- A survey is on the way to any one that is done. -/
theorem Conducted.isPrefix {all : List Query} {ending : Outcome}
    (conducted : Conducted m r asked survey) (done : Conducted m r all (.done ending)) :
    asked <+: all := by
  -- What is left of `all` begins with the next question, since the survey there is the same one.
  induction conducted with
  | new => exact List.nil_prefix
  | @asked asked query survey next conducted asks told ih =>
      obtain ⟨further, rfl⟩ := ih
      cases further with
      | nil =>
          rw [List.append_nil] at done
          obtain rfl := conducted.eq_of_conducted done
          cases asks
      | cons first further =>
          obtain ⟨earlier, conducted', asks'⟩ := done.asked_at rfl
          obtain rfl := conducted.eq_of_conducted conducted'
          obtain rfl : query = first := Option.some.inj (asks.symm.trans asks')
          exact ⟨further, by simp⟩

end Survey

namespace Replies

variable {m : Monitor} {r : Replies}

theorem verdict?_ne_reachable {visit : Mac × Nat} {probed unresolved : Nat} :
    r.verdict? visit ≠ some (.reachable probed unresolved) := by
  unfold verdict?
  split
  · simp
  · simp
  · split <;> simp

/-- A survey that finds everybody reachable has made every visit. -/
theorem counted_of_reachable {probed unresolved : Nat}
    (reachable : r.outcome m = .reachable probed unresolved) :
    ∃ clients, r.list = .ok clients ∧ probed + unresolved = min clients.length m.maxClients ∧
      unresolved = (r.visits m).countP r.lacksLease := by
  cases list : r.list with
  | error f => simp [outcome, list] at reachable
  | ok clients =>
      refine ⟨clients, rfl, ?_⟩
      have found : r.found 0 0 (r.visits m) = .reachable probed unresolved := by
        cases clients with
        | nil => simp [outcome, list] at reachable
        | cons client rest => simpa [outcome, list] using reachable
      have length : (r.visits m).length = min clients.length m.maxClients := by
        simp [visits, list, Nat.min_comm]
      have goOn : (r.visits m).findSome? r.verdict? = none := by
        cases first : (r.visits m).findSome? r.verdict? with
        | none => rfl
        | some ending =>
            obtain ⟨before, visit, after, -, ends, -⟩ := List.findSome?_eq_some_iff.mp first
            simp only [Replies.found, first, Option.getD_some] at found
            exact (verdict?_ne_reachable (found ▸ ends)).elim
      simp only [Replies.found, goOn, Option.getD_none, Outcome.reachable.injEq,
        Nat.zero_add] at found
      obtain ⟨rfl, rfl⟩ := found
      refine ⟨?_, rfl⟩
      rw [← length, List.length_eq_countP_add_countP r.hasLease, Nat.add_left_cancel_iff]
      refine List.countP_congr fun visit member => ?_
      rw [lacksLease_eq (List.findSome?_eq_none_iff.mp goOn visit member)]
      simp

end Replies

/-- Whatever is replied, and however many clients are listed, a survey asks what its reference asks,
in that order, and nothing after it, and comes to the same outcome. If that is that everybody can be
reached, each client that was to be visited was counted once. -/
theorem surveys_by_reference (m : Monitor) (r : Replies) :
    (∀ asked outcome, Survey.Conducted m r asked (.done outcome) ↔
      asked = r.questions m ∧ outcome = r.outcome m) ∧
    (∀ asked survey, Survey.Conducted m r asked survey →
      asked <+: r.questions m ∧ survey.query? m = (r.questions m)[asked.length]?) ∧
    ∀ probed unresolved, r.outcome m = .reachable probed unresolved →
      ∃ clients, r.list = .ok clients ∧ probed + unresolved = min clients.length m.maxClients ∧
        unresolved = (r.visits m).countP r.lacksLease := by
  have reference := Survey.conducted_questions (m := m) (r := r)
  refine ⟨?_, ?_, fun probed unresolved => Replies.counted_of_reachable⟩
  · intro asked outcome
    constructor
    · intro conducted
      obtain rfl : asked = r.questions m :=
        (conducted.isPrefix reference).eq_of_length_le (reference.isPrefix conducted).length_le
      have ends := conducted.eq_of_conducted reference
      exact ⟨rfl, Survey.done.inj ends⟩
    · rintro ⟨rfl, rfl⟩
      exact reference
  · intro asked survey conducted
    obtain ⟨further, shape⟩ := conducted.isPrefix reference
    refine ⟨⟨further, shape⟩, ?_⟩
    cases further with
    | nil =>
        rw [List.append_nil] at shape
        subst shape
        rw [conducted.eq_of_conducted reference, List.getElem?_eq_none (Nat.le_refl _)]
        rfl
    | cons query further =>
        obtain ⟨earlier, conducted', asks⟩ := reference.asked_at shape.symm
        rw [conducted.eq_of_conducted conducted', asks, ← shape]
        simp

/-- A client that is listed twice and answers the first time only, and between its visits one
without a lease. -/
def relisted : Replies where
  list := .ok [⟨2, 0, 0, 0, 0, 1⟩, ⟨2, 0, 0, 0, 0, 2⟩, ⟨2, 0, 0, 0, 0, 1⟩, ⟨2, 0, 0, 0, 0, 3⟩]
  lease visit _ := if visit = 2 then .ok none else .ok (some ⟨10, 0, 0, 1⟩)
  probe visit _ := .ok (visit = 1)

/-- The second visit is made and ends the survey, and the last client is not visited. -/
theorem relisted_found_silent :
    Survey.Conducted ⟨.ofMillis 500, 8⟩ relisted
      [.list, .lease ⟨2, 0, 0, 0, 0, 1⟩, .probe ⟨10, 0, 0, 1⟩ (.ofMillis 500),
        .lease ⟨2, 0, 0, 0, 0, 2⟩, .lease ⟨2, 0, 0, 0, 0, 1⟩,
        .probe ⟨10, 0, 0, 1⟩ (.ofMillis 500)]
      (.done (.unreachable ⟨2, 0, 0, 0, 0, 1⟩ ⟨10, 0, 0, 1⟩)) :=
  ((surveys_by_reference ⟨.ofMillis 500, 8⟩ relisted).1 _ _).mpr ⟨by decide, by decide⟩

end BridgeWarden.Reach

import BridgeWarden.Proofs.Recovery.Exclusion
import BridgeWarden.Proofs.Text.Cuts

/-!
When the remote site keeps the clients from being checked.

`received` is the account of the payloads of a run, read off its actions. `LastReports` holds of the
last of them only: it is one of some words and has not gone stale, the last instant at which it
counts included. The state that is believed of the remote site follows it, and so does whether a
cycle reports that nothing was checked; a payload that is none of the words counts as unknown, and
what came before it counts no more (`suppressed_by_last_report`).
-/

namespace BridgeWarden

/-! ### Payloads and their last report -/

namespace Remote

namespace Suppression

variable {inner payload : List Char} {state : Suppression}

/-- A payload is one of some words, in either case of ASCII letters and with blanks around it. -/
def Writes (words : List String) (payload : List Char) : Prop :=
  ∃ inner, Text.IsTrimOf inner payload ∧ ∃ word ∈ words, inner.map Char.toLower = word.toList

theorem ofWord?_eq_some_iff :
    ofWord? inner = some state ↔
      ∃ word ∈ state.spellings, inner.map Char.toLower = word.toList := by
  constructor
  · intro found
    have spelled := List.find?_some (ofWord?.eq_1 inner ▸ found)
    obtain ⟨word, member, same⟩ := List.any_eq_true.mp spelled
    exact ⟨word, member, (beq_iff_eq.mp same).symm⟩
  · rintro ⟨word, member, same⟩
    have apart : ∀ state, ∀ word ∈ spellings state,
        (all.find? fun state => state.spellings.any fun w => w.toList == word.toList) =
          some state := by
      rintro (_ | _ | _) <;> decide
    rw [ofWord?, same]
    exact apart state word member

theorem ofPayload_eq_iff (known : state ≠ .unknown) :
    ofPayload payload = state ↔ Writes state.spellings payload := by
  have read : ofPayload payload = state ↔ ofWord? (Text.trim payload) = some state := by
    unfold ofPayload
    cases ofWord? (Text.trim payload) with
    | none => simp [known.symm]
    | some other => simp
  rw [read, ofWord?_eq_some_iff]
  constructor
  · rintro ⟨word, member, same⟩
    exact ⟨_, Text.isTrimOf_trim payload, word, member, same⟩
  · rintro ⟨inner, trims, word, member, same⟩
    exact ⟨word, member, trims.trim_eq ▸ same⟩

end Suppression

theorem Telemetry.state_eq_iff {t : Telemetry} {now : Nat} {state : Suppression}
    (known : state ≠ .unknown) :
    t.state now = state ↔
      ∃ since, t.last = some (state, since) ∧ Clock.within since now t.staleAfter = true := by
  unfold Telemetry.state
  cases t.last with
  | none => simp [known.symm]
  | some report =>
      obtain ⟨said, since⟩ := report
      by_cases fresh : Clock.within since now t.staleAfter = true
      · simp [fresh]
      · simp only [if_neg fresh]
        constructor
        · exact fun unknown => (known unknown.symm).elim
        · rintro ⟨_, same, present⟩
          cases same
          exact (fresh present).elim

end Remote

namespace Recovery.Course

open Remote.Suppression (Writes)

/-! ### The account of the payloads -/

/-- How long an action takes. -/
def Action.millis : Action → Nat
  | .pass millis => millis
  | _ => 0

/-- The payload that an action brings. -/
def Action.payload? : Action → Option (List Char)
  | .receive payload => some payload
  | _ => none

/-- The payloads that actions bring when the first of them is done at an instant, each with the
instant of its arrival. -/
def received (now : Nat) : List Action → List (Nat × List Char)
  | [] => []
  | action :: rest =>
      (action.payload?.map fun payload => (now, payload)).toList ++
        received (now + action.millis) rest

/-- The last payload on an account is one of some words and came at most the span ago. -/
def LastReports (account : List (Nat × List Char)) (staleAfter : Span) (now : Nat)
    (words : List String) : Prop :=
  ∃ since payload, account.getLast? = some (since, payload) ∧ Writes words payload ∧
    Clock.nanos now ≤ Clock.nanos since + staleAfter.nanos

variable {c c' : Course} {action : Action} {actions : List Action} {staleAfter : Span}
variable {account : List (Nat × List Char)}

theorem lastReports_append {now : Nat} {words others : List String} :
    LastReports account staleAfter now (words ++ others) ↔
      LastReports account staleAfter now words ∨ LastReports account staleAfter now others := by
  constructor
  · rintro ⟨since, payload, last, ⟨inner, trims, word, member, same⟩, fresh⟩
    rcases List.mem_append.mp member with first | second
    · exact Or.inl ⟨since, payload, last, ⟨inner, trims, word, first, same⟩, fresh⟩
    · exact Or.inr ⟨since, payload, last, ⟨inner, trims, word, second, same⟩, fresh⟩
  · rintro (⟨since, payload, last, ⟨inner, trims, word, member, same⟩, fresh⟩ |
      ⟨since, payload, last, ⟨inner, trims, word, member, same⟩, fresh⟩)
    · have among := List.mem_append_left others member
      exact ⟨since, payload, last, ⟨inner, trims, word, among, same⟩, fresh⟩
    · have among := List.mem_append_right words member
      exact ⟨since, payload, last, ⟨inner, trims, word, among, same⟩, fresh⟩

theorem Step.now_eq (stepped : Step c action c') : c'.now = c.now + action.millis := by
  cases stepped <;> rfl

theorem Step.telemetry_eq (stepped : Step c action c') :
    c'.telemetry =
      (action.payload?.map fun payload => c.telemetry.receive payload c.now).getD c.telemetry := by
  cases stepped <;> rfl

/-- The telemetry holds the last payload on an account, which is none from the future. -/
structure Hears (staleAfter : Span) (account : List (Nat × List Char)) (c : Course) : Prop where
  stale : c.telemetry.staleAfter = staleAfter
  last : c.telemetry.last =
    account.getLast?.map fun report => (Remote.Suppression.ofPayload report.2, report.1)
  past : ∀ report ∈ account.getLast?, report.1 ≤ c.now

namespace Hears

theorem new (m : Reach.Monitor) (staleAfter : Span) (epoch : Nat) :
    Hears staleAfter [] (new m staleAfter epoch) :=
  ⟨rfl, rfl, by simp⟩

theorem step (hears : Hears staleAfter account c) (stepped : Step c action c') :
    Hears staleAfter
      (account ++ (action.payload?.map fun payload => (c.now, payload)).toList) c' := by
  have later : c.now ≤ c'.now := stepped.now_eq ▸ Nat.le_add_right _ _
  have heard := stepped.telemetry_eq
  cases brings : action.payload? with
  | none =>
      rw [brings, Option.map_none, Option.getD_none] at heard
      rw [Option.map_none, Option.toList_none, List.append_nil]
      refine ⟨heard ▸ hears.stale, heard ▸ hears.last, ?_⟩
      exact fun report member => Nat.le_trans (hears.past report member) later
  | some payload =>
      rw [brings, Option.map_some, Option.getD_some] at heard
      rw [Option.map_some, Option.toList_some]
      refine ⟨by rw [heard]; exact hears.stale, ?_, ?_⟩
      · rw [heard, List.getLast?_concat]
        rfl
      · rw [List.getLast?_concat]
        rintro report ⟨⟩
        exact later

theorem run (hears : Hears staleAfter account c) (ran : c.run? actions = some c') :
    Hears staleAfter (account ++ received c.now actions) c' := by
  induction actions generalizing c account with
  | nil =>
      cases ran
      rwa [received, List.append_nil]
  | cons action rest ih =>
      obtain ⟨middle, computed, ran⟩ := Option.bind_eq_some_iff.mp ran
      have stepped := step_of_next? computed
      rw [received, ← List.append_assoc, ← stepped.now_eq]
      exact ih (hears.step stepped) ran

theorem state_iff (hears : Hears staleAfter account c) {state : Remote.Suppression}
    (known : state ≠ .unknown) :
    c.telemetry.state c.now = state ↔ LastReports account staleAfter c.now state.spellings := by
  rw [Remote.Telemetry.state_eq_iff known, hears.last, hears.stale]
  have fresh : ∀ {since}, since ≤ c.now →
      (Clock.within since c.now staleAfter = true ↔
        Clock.nanos c.now ≤ Clock.nanos since + staleAfter.nanos) := by
    intro since before
    simp only [Clock.within, decide_eq_true_eq, Clock.nanos, Nat.mul_sub]
    omega
  constructor
  · rintro ⟨since, same, within⟩
    simp only [Option.map_eq_some_iff, Prod.mk.injEq, Prod.exists] at same
    obtain ⟨_, payload, last, reads, rfl⟩ := same
    exact ⟨_, payload, last, (Remote.Suppression.ofPayload_eq_iff known).mp reads,
      (fresh (hears.past _ last)).mp within⟩
  · rintro ⟨since, payload, last, writes, within⟩
    have reads := (Remote.Suppression.ofPayload_eq_iff known).mpr writes
    exact ⟨since, by simp [last, reads], (fresh (hears.past _ last)).mpr within⟩

end Hears

/-! ### What a cycle reports -/

/-- Only the beginning of a cycle reports that the remote site suppresses it. -/
theorem Step.unsuppressed (stepped : Step c action c') (further : action ≠ .begin) :
    ∃ shown, c'.history = shown ++ c.history ∧ .reported .suppressed ∉ shown.map Prod.snd := by
  cases stepped with
  | inFlight => exact (further rfl).elim
  | suppressed => exact (further rfl).elim
  | listing => exact (further rfl).elim
  | further => exact ⟨[_, _], rfl, by simp⟩
  | settled => exact ⟨[_, _], rfl, by simp⟩
  | alarmed => exact ⟨[_, _, _], rfl, by simp⟩
  | dropped => exact ⟨[_], rfl, by simp⟩
  | restartCalled => exact ⟨[_], rfl, by simp⟩
  | restartEnded => exact ⟨[_], rfl, by simp⟩
  | finish | finished | received | passed => exact ⟨[], rfl, by simp⟩

theorem unsuppressed_of_run (further : .begin ∉ actions) (ran : c.run? actions = some c') :
    ∃ shown, c'.history = shown ++ c.history ∧ .reported .suppressed ∉ shown.map Prod.snd := by
  refine Runs.keeps (fun s : Course => ∃ shown, s.history = shown ++ c.history ∧
    .reported .suppressed ∉ shown.map Prod.snd) ?_ ⟨[], rfl, by simp⟩ (run?_eq_foldlM ▸ ran)
  rintro s action s' ⟨shown, same, none⟩ member computed
  obtain ⟨more, shows, noneMore⟩ :=
    (step_of_next? computed).unsuppressed fun begins => further (begins ▸ member)
  refine ⟨more ++ shown, by rw [shows, same, List.append_assoc], ?_⟩
  rw [List.map_append, List.mem_append, not_or]
  exact ⟨noneMore, none⟩

/-- A cycle that enters with no restart going on reports at once that it is suppressed, if the
remote site is believed to be online, and never otherwise. -/
theorem suppressed_iff_online (free : c.coordinator.isBusy = false) (further : .begin ∉ actions)
    (ran : c.enter.run? actions = some c') :
    ∃ shown, c'.history = shown ++ c.history ∧
      (.reported .suppressed ∈ shown.map Prod.snd ↔ c.remote = .online) := by
  obtain ⟨later, shows, none⟩ := unsuppressed_of_run further ran
  have suppresses : c.remote.suppresses = true ↔ c.remote = .online := by
    simp [Remote.Suppression.suppresses]
  cases online : c.remote.suppresses with
  | true =>
      rw [enter_of_suppressed free online] at shows
      refine ⟨later ++ [_, _, _], by simpa using shows, ?_⟩
      simp [suppresses.mp online]
  | false =>
      rw [enter_of_free free online] at shows
      refine ⟨later ++ [_, _, _], by simpa using shows, ?_⟩
      rw [online] at suppresses
      simpa [← suppresses] using none

/-- The state believed of the remote site is what the last payload says as long as it is fresh, and
otherwise unknown. A cycle that begins with no restart pending reports that it is suppressed exactly
if that payload says online, whatever happens before the next cycle. -/
theorem suppressed_by_last_report (m : Reach.Monitor) (staleAfter : Span) (epoch : Nat)
    (actions : List Action) (c : Course) (ran : (new m staleAfter epoch).run? actions = some c) :
    (c.telemetry.state c.now = .online ↔
      LastReports (received 0 actions) staleAfter c.now ["online", "1", "true"]) ∧
    (c.telemetry.state c.now = .offline ↔
      LastReports (received 0 actions) staleAfter c.now ["offline", "0", "false"]) ∧
    (c.telemetry.state c.now = .unknown ↔
      ¬ LastReports (received 0 actions) staleAfter c.now
        ["online", "1", "true", "offline", "0", "false"]) ∧
    (c.isIdle = true → pending c.events = [] →
      ∃ c', c.next? .begin = some c' ∧
        ∀ later c'', .begin ∉ later → c'.run? later = some c'' →
          ∃ shown, c''.history = shown ++ c.history ∧
            (.reported .suppressed ∈ shown.map Prod.snd ↔
              LastReports (received 0 actions) staleAfter c.now ["online", "1", "true"])) := by
  have hears : Hears staleAfter (received 0 actions) c :=
    (Hears.new m staleAfter epoch).run ran
  have online : c.telemetry.state c.now = .online ↔ _ := hears.state_iff (by decide)
  have offline : c.telemetry.state c.now = .offline ↔ _ := hears.state_iff (by decide)
  refine ⟨online, offline, ?_, fun idle cleared => ?_⟩
  · have either : LastReports (received 0 actions) staleAfter c.now
          (Remote.Suppression.online.spellings ++ Remote.Suppression.offline.spellings) ↔ _ :=
      lastReports_append
    rw [← online, ← offline] at either
    refine Iff.trans ?_ (not_congr either).symm
    cases c.telemetry.state c.now <;> simp
  · have exclusive := (Exclusive.new m staleAfter epoch).run? ran
    have gone : c.coordinator.restarts = [] := by simpa [exclusive.pending] using cleared
    have free : c.coordinator.isBusy = false := by
      simpa [gone] using exclusive.sound.isBusy_iff idle
    refine ⟨c.enter, next?_begin idle, fun later c'' further ran => ?_⟩
    obtain ⟨shown, same, reports⟩ := suppressed_iff_online free further ran
    exact ⟨shown, same, reports.trans online⟩

/-- A report of the other kind, and then one of the site being online that is as old as it may
be. -/
def onlineAtLast : List Action :=
  [.receive "offline".toList, .pass 1000, .receive " OnLine\n".toList, .pass 30000]

/-- A report with blanks around it and in mixed case suppresses the cycle at the last instant at
which it counts. -/
theorem last_instant_suppresses :
    ∃ c c', (new ⟨.ofSecs 1, 4⟩ (.ofSecs 30) 0).run? onlineAtLast = some c ∧
      c.next? .begin = some c' ∧ .reported .suppressed ∈ c'.events := by
  obtain ⟨-, -, -, begins⟩ :=
    suppressed_by_last_report ⟨.ofSecs 1, 4⟩ (.ofSecs 30) 0 onlineAtLast _ rfl
  obtain ⟨c', computed, reports⟩ := begins (by decide) (by decide)
  obtain ⟨shown, same, suppressed⟩ := reports [] c' List.not_mem_nil rfl
  refine ⟨_, c', rfl, computed, ?_⟩
  rw [events, same, List.map_append]
  refine List.mem_append_left _ (suppressed.mpr ⟨1000, " OnLine\n".toList, rfl, ?_, by decide⟩)
  exact ⟨"OnLine".toList, Text.trim_eq_iff.mp (by decide), "online", by decide, by decide⟩

end Recovery.Course

end BridgeWarden

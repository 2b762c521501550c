import BridgeWarden.Link.Log

/-!
The addresses that the lines of a log name.

The most recent address of each side counts. `Completes` picks out the line after which both are
known for the first time, with the announcement that the lines up to it allow for. There is one such
line at most, and there is one exactly when both sides are named (`namesBoth_iff`,
`exists_completes`, `Completes.unique`).
-/

namespace BridgeWarden.Link

namespace LogLine

/-- The two ends of the link. -/
inductive Side where
  | here
  | peer

/-- The line that names the address of an end. -/
def naming : Side → Ipv4 → LogLine
  | .here => .localAddress
  | .peer => .remoteAddress

/-- The address of an end, if the line names it. -/
def named? : Side → LogLine → Option Ipv4
  | .here, .localAddress a | .peer, .remoteAddress a => some a
  | .here, .remoteAddress _ | .peer, .localAddress _ | _, .other => none

/-- The most recent address of an end. -/
def last (side : Side) (lines : List LogLine) : Option Ipv4 :=
  (lines.filterMap (named? side)).getLast?

/-- The announcement of a link between two addresses, if both are known. -/
def up? (here peer : Option Ipv4) : Option Event := do
  return .up (← here) (← peer) Ipv4.broadcast

/-- The announcement that lines allow for. -/
def upAfter? (lines : List LogLine) : Option Event := up? (last .here lines) (last .peer lines)

/-- The line of the number `k` is the first one after which both addresses are known, and `e`
announces the most recent ones up to it. -/
structure Completes (lines : List LogLine) (k : Nat) (e : Event) : Prop where
  unknown : upAfter? (lines.take k) = none
  known : upAfter? (lines.take (k + 1)) = some e

/-- Both ends are named. -/
def NamesBoth (lines : List LogLine) : Prop := ∀ side, ∃ a, naming side a ∈ lines

variable {lines : List LogLine} {line : LogLine} {side : Side} {j k m n : Nat} {e e' : Event}

theorem last_append (side : Side) (before after : List LogLine) :
    last side (before ++ after) = (last side after).or (last side before) := by
  unfold last
  rw [List.filterMap_append, List.getLast?_append]

theorem named?_eq_some_iff {a : Ipv4} : named? side line = some a ↔ line = naming side a := by
  cases side with
  | here | peer => cases line with
    | localAddress | remoteAddress | other => simp [named?, naming]

theorem last_isSome_iff : (last side lines).isSome ↔ ∃ a, naming side a ∈ lines := by
  rw [last, List.getLast?_isSome]
  constructor
  · intro named
    obtain ⟨a, member⟩ := List.exists_mem_of_ne_nil _ named
    obtain ⟨line, member, same⟩ := List.mem_filterMap.mp member
    exact ⟨a, named?_eq_some_iff.mp same ▸ member⟩
  · rintro ⟨a, member⟩
    have named : a ∈ lines.filterMap (named? side) :=
      List.mem_filterMap.mpr ⟨_, member, named?_eq_some_iff.mpr rfl⟩
    exact List.ne_nil_of_mem named

theorem upAfter?_isSome_iff : (upAfter? lines).isSome ↔ ∀ side, (last side lines).isSome := by
  have both : (upAfter? lines).isSome ↔ (last .here lines).isSome ∧ (last .peer lines).isSome := by
    unfold upAfter? up?
    cases last .here lines with
    | none => simp
    | some => cases last .peer lines with
      | none | some => simp
  rw [both]
  constructor
  · rintro ⟨here, peer⟩ side
    cases side with
    | here => exact here
    | peer => exact peer
  · exact fun known => ⟨known .here, known .peer⟩

theorem namesBoth_iff : NamesBoth lines ↔ (upAfter? lines).isSome := by
  rw [upAfter?_isSome_iff]
  exact forall_congr' fun side => last_isSome_iff.symm

/-- What is known stays known. -/
theorem upAfter?_mono (known : (upAfter? (lines.take m)).isSome) (later : m ≤ n) :
    (upAfter? (lines.take n)).isSome := by
  obtain ⟨rest, more⟩ := List.take_prefix_take_left (l := lines) later
  rw [upAfter?_isSome_iff] at known ⊢
  intro side
  rw [← more, last_append, Option.isSome_or, known side, Bool.or_true]

namespace Completes

theorem lt_length (completes : Completes lines k e) : k < lines.length := by
  apply Nat.lt_of_not_le
  intro beyond
  obtain ⟨unknown, known⟩ := completes
  rw [List.take_of_length_le beyond] at unknown
  rw [List.take_of_length_le (Nat.le_succ_of_le beyond), unknown] at known
  cases known

theorem not_lt (first : Completes lines m e) (second : Completes lines n e') : ¬ m < n := by
  intro before
  have known : (upAfter? (lines.take (m + 1))).isSome := by rw [first.known]; rfl
  have still := upAfter?_mono known before
  rw [second.unknown] at still
  cases still

theorem unique (first : Completes lines m e) (second : Completes lines n e') :
    m = n ∧ e = e' := by
  have same : m = n := Nat.le_antisymm (Nat.not_lt.mp (second.not_lt first))
    (Nat.not_lt.mp (first.not_lt second))
  subst same
  exact ⟨rfl, Option.some.inj (first.known.symm.trans second.known)⟩

end Completes

theorem completes_take : Completes (lines.take j) k e ↔ k < j ∧ Completes lines k e := by
  by_cases within : k < j
  · have first : (lines.take j).take k = lines.take k := by
      rw [List.take_take, Nat.min_eq_left (Nat.le_of_lt within)]
    have next : (lines.take j).take (k + 1) = lines.take (k + 1) := by
      rw [List.take_take, Nat.min_eq_left within]
    constructor
    · rintro ⟨unknown, known⟩
      exact ⟨within, first ▸ unknown, next ▸ known⟩
    · rintro ⟨-, unknown, known⟩
      exact ⟨first.symm ▸ unknown, next.symm ▸ known⟩
  · constructor
    · intro completes
      have short := completes.lt_length
      rw [List.length_take] at short
      omega
    · rintro ⟨before, -⟩
      exact (within before).elim

/-- Lines after which both addresses are known were completed by one of them. -/
theorem exists_completes (known : (upAfter? lines).isSome) : ∃ k e, Completes lines k e := by
  -- going back from the end, the first step after which something is missing
  have some_of : ∀ n, (upAfter? (lines.take n)).isSome → ∃ k e, Completes lines k e := by
    intro n
    induction n with
    | zero => exact fun known => by cases known
    | succ n ih =>
        intro known
        by_cases earlier : (upAfter? (lines.take n)).isSome
        · exact ih earlier
        · obtain ⟨e, up⟩ := Option.isSome_iff_exists.mp known
          exact ⟨n, e, Option.not_isSome_iff_eq_none.mp earlier, up⟩
  apply some_of lines.length
  rw [List.take_length]
  exact known

theorem known_of_completes (completes : Completes lines k e) : (upAfter? lines).isSome := by
  have known : (upAfter? (lines.take (k + 1))).isSome := by rw [completes.known]; rfl
  have whole := upAfter?_mono known completes.lt_length
  rwa [List.take_length] at whole

/-- One more line completes what was completed before it, or else what it makes known itself. -/
theorem completes_concat : Completes (lines ++ [line]) k e ↔
    Completes lines k e ∨
      k = lines.length ∧ upAfter? lines = none ∧ upAfter? (lines ++ [line]) = some e := by
  have before : (lines ++ [line]).take lines.length = lines := List.take_left
  have whole : (lines ++ [line]).take (lines.length + 1) = lines ++ [line] := by
    apply List.take_of_length_le
    simp
  have earlier : Completes lines k e ↔ k < lines.length ∧ Completes (lines ++ [line]) k e := by
    rw [← completes_take, before]
  rw [earlier]
  constructor
  · intro completes
    have short := completes.lt_length
    rw [List.length_append, List.length_singleton] at short
    by_cases within : k < lines.length
    · exact Or.inl ⟨within, completes⟩
    · have last : k = lines.length := by omega
      obtain ⟨unknown, known⟩ := completes
      rw [last, before] at unknown
      rw [last, whole] at known
      exact Or.inr ⟨last, unknown, known⟩
  · rintro (⟨-, completes⟩ | ⟨rfl, unknown, known⟩)
    · exact completes
    · exact ⟨before.symm ▸ unknown, whole.symm ▸ known⟩

theorem upAfter?_other (lines : List LogLine) : upAfter? (lines ++ [.other]) = upAfter? lines := by
  unfold upAfter?
  rw [last_append, last_append]
  rfl

/-- A line that names no address completes nothing. -/
theorem completes_other : Completes (lines ++ [.other]) k e ↔ Completes lines k e := by
  rw [completes_concat, upAfter?_other]
  constructor
  · rintro (completes | ⟨-, unknown, known⟩)
    · exact completes
    · rw [unknown] at known
      cases known
  · exact Or.inl

theorem Completes.ne_other (completes : Completes lines k e) : lines[k]? ≠ some .other := by
  intro other
  have next : lines.take (k + 1) = lines.take k ++ [.other] := by
    rw [List.take_add_one, other, Option.toList_some]
  obtain ⟨unknown, known⟩ := completes
  rw [next, upAfter?_other, unknown] at known
  cases known

end LogLine

end BridgeWarden.Link

import BridgeWarden.AccessPoint.Leases
import BridgeWarden.Proofs.Address.Dotted
import BridgeWarden.Proofs.Address.Spelling
import BridgeWarden.Proofs.Text.Words

/-!
Which lease of a client counts.

A line gives an address to a client if its second word spells the client and its third one is the
address in dotted form (`Gives`); nothing else in it matters. The last such line of a text decides
(`findLease?_eq_some_iff`), so no other line does: neither one of another client nor one that gives
nothing, wherever it stands (`findLease?_eq_of_filter_eq`).
-/

namespace BridgeWarden.AccessPoint

variable {client : Mac} {a : Ipv4} {line text said : List Char} {lines : List (List Char)}

/-! ### Lines -/

/-- The line gives the address to the client. -/
inductive Gives (client : Mac) (a : Ipv4) (line : List Char) : Prop where
  | mk {expiry mac address : List Char} {more : List (List Char)}
      (words : Text.Worded line (expiry :: mac :: address :: more)) (spelled : client.Spelled mac)
      (dotted : Ipv4.Dotted address a) : Gives client a line

/-- The line gives the client some address. -/
def Concerns (client : Mac) (line : List Char) : Prop := ∃ a, Gives client a line

/-- The address that a line gives to a client, if it gives one. -/
def givenTo? (client : Mac) (line : List Char) : Option Ipv4 :=
  ((Lease.ofLine? line).filter (·.client = client)).map (·.address)

theorem ofLine?_eq_some_iff : Lease.ofLine? line = some ⟨client, a⟩ ↔ Gives client a line := by
  constructor
  · intro read
    unfold Lease.ofLine? at read
    split at read
    · next words =>
      simp only [Option.bind_eq_bind, Option.bind_eq_some_iff, Option.pure_def, Option.some.injEq,
        Lease.mk.injEq] at read
      obtain ⟨_, spelled, _, dotted, rfl, rfl⟩ := read
      exact ⟨Text.words_eq_iff.mp words, Mac.parse?_eq_some_iff.mp spelled,
        Ipv4.parse?_eq_some_iff.mp dotted⟩
    · cases read
  · rintro ⟨words, spelled, dotted⟩
    simp only [Lease.ofLine?, words.words_eq, Mac.parse?_eq_some_iff.mpr spelled,
      Ipv4.parse?_eq_some_iff.mpr dotted]
    rfl

theorem givenTo?_eq_some_iff : givenTo? client line = some a ↔ Gives client a line := by
  rw [← ofLine?_eq_some_iff, givenTo?]
  simp only [Option.map_eq_some_iff, Option.filter_eq_some_iff, decide_eq_true_eq]
  constructor
  · rintro ⟨lease, ⟨read, rfl⟩, rfl⟩
    exact read
  · intro read
    exact ⟨_, ⟨read, rfl⟩, rfl⟩

theorem givenTo?_isSome_iff : (givenTo? client line).isSome ↔ Concerns client line := by
  simp only [Option.isSome_iff_exists, givenTo?_eq_some_iff, Concerns]

instance (client : Mac) (line : List Char) : Decidable (Concerns client line) :=
  decidable_of_iff _ givenTo?_isSome_iff

theorem givenTo?_eq_none_iff : givenTo? client line = none ↔ ¬ Concerns client line := by
  rw [← givenTo?_isSome_iff, Option.not_isSome_iff_eq_none]

/-! ### Texts -/

theorem findLease?_eq (text : List Char) (client : Mac) :
    findLease? text client = ((Text.lines text).filterMap (givenTo? client)).getLast? := by
  rw [findLease?, leases, ← List.getLast?_map, List.filter_filterMap, List.map_filterMap]
  rfl

/-- The last line that gives the client an address decides. -/
theorem findLease?_eq_some_iff (lined : Text.Lined text lines) : findLease? text client = some a ↔
    ∃ before line after, lines = before ++ line :: after ∧ Gives client a line ∧
      ∀ other ∈ after, ¬ Concerns client other := by
  simp only [findLease?_eq, lined.lines_eq, List.getLast?_filterMap, List.findSome?_eq_some_iff,
    givenTo?_eq_some_iff, givenTo?_eq_none_iff]
  -- The search goes backwards: the lines that it has passed over are those after, last one first.
  constructor
  · rintro ⟨after, line, before, same, gives, later⟩
    refine ⟨before.reverse, line, after.reverse, ?_, gives, ?_⟩
    · rw [← List.reverse_reverse lines, same]
      simp
    · exact fun other member => later other (List.mem_reverse.mp member)
  · rintro ⟨before, line, after, rfl, gives, later⟩
    refine ⟨after.reverse, line, before.reverse, by simp, gives, ?_⟩
    exact fun other member => later other (List.mem_reverse.mp member)

theorem findLease?_eq_none_iff (lined : Text.Lined text lines) :
    findLease? text client = none ↔ ∀ line ∈ lines, ¬ Concerns client line := by
  simp only [findLease?_eq, lined.lines_eq, List.getLast?_eq_none_iff, List.filterMap_eq_nil_iff,
    givenTo?_eq_none_iff]

/-- Only the lines that give the client an address matter. -/
theorem findLease?_eq_of_filter_eq {text' : List Char} {lines' : List (List Char)}
    (lined : Text.Lined text lines) (lined' : Text.Lined text' lines')
    (same : lines.filter (Concerns client ·) = lines'.filter (Concerns client ·)) :
    findLease? text client = findLease? text' client := by
  have concerned : ∀ lines : List (List Char), (lines.filter (Concerns client ·)).filterMap
      (givenTo? client) = lines.filterMap (givenTo? client) := by
    intro lines
    rw [List.filterMap_filter]
    congr 1
    funext line
    by_cases concerns : Concerns client line
    · simp [concerns]
    · simp [concerns, givenTo?_eq_none_iff.mpr concerns]
  rw [findLease?_eq, findLease?_eq, lined.lines_eq, lined'.lines_eq, ← concerned lines, same,
    concerned lines']

theorem findLease?_append (ended : ∀ c ∈ text.getLast?, c = '\n')
    (lined : Text.Lined said [line]) (gives : Gives client a line) :
    findLease? (text ++ said) client = some a := by
  rw [findLease?_eq, Text.lines_append ended, lined.lines_eq, List.filterMap_append,
    List.filterMap_cons_some (givenTo?_eq_some_iff.mpr gives)]
  simp

/-- Each text has its lines. The address last given to a client is the one of the last line that
gives it one, and there is none exactly if no line does. So texts with the same lines that give the
client an address, in the same order, agree on it whatever their other lines are, and a further line
that gives it one decides. -/
theorem last_lease_counts (client : Mac) :
    (∀ text, ∃! lines, Text.Lined text lines) ∧
    (∀ text lines a, Text.Lined text lines → (findLease? text client = some a ↔
      ∃ before line after, lines = before ++ line :: after ∧ Gives client a line ∧
        ∀ other ∈ after, ¬ Concerns client other)) ∧
    (∀ text lines, Text.Lined text lines →
      (findLease? text client = none ↔ ∀ line ∈ lines, ¬ Concerns client line)) ∧
    (∀ text text' lines lines', Text.Lined text lines → Text.Lined text' lines' →
      lines.filter (Concerns client ·) = lines'.filter (Concerns client ·) →
      findLease? text client = findLease? text' client) ∧
    (∀ text said line a, (∀ c ∈ text.getLast?, c = '\n') → Text.Lined said [line] →
      Gives client a line → findLease? (text ++ said) client = some a) := by
  refine ⟨?_, fun _ _ _ => findLease?_eq_some_iff, fun _ _ => findLease?_eq_none_iff,
    fun _ _ _ _ => findLease?_eq_of_filter_eq, fun _ _ _ _ => findLease?_append⟩
  exact fun text => ⟨Text.lines text, Text.lined_lines text, fun _ lined => lined.lines_eq.symm⟩

/-- Two leases of one client, the second one in another spelling. -/
def twoLeases : List Char :=
  "1 a4:83:e7:aa:bb:cc 10.0.0.3 *\n2 A4-83-E7-AA-BB-CC\u300010.0.0.9\n".toList

/-- The same two lines among others: one that is no lease, a lease of version 6, and one of another
client. -/
def crowded : List Char :=
  "1 a4:83:e7:aa:bb:cc 10.0.0.3 *\nduid 00:01\n2 A4-83-E7-AA-BB-CC\u300010.0.0.9\n".toList ++
    "3 a4:83:e7:aa:bb:cc fd00::5\r\n4 3c:22:fb:01:02:03 10.0.0.2\n".toList

/-- The lines around the two change nothing, and a third lease takes the place of both. -/
theorem crowded_lease_counts :
    let client : Mac := ⟨0xa4, 0x83, 0xe7, 0xaa, 0xbb, 0xcc⟩
    findLease? crowded client = findLease? twoLeases client ∧
      findLease? twoLeases client = some ⟨10, 0, 0, 9⟩ ∧
      findLease? (crowded ++ "5 a4:83:e7:aa:bb:cc 10.0.0.7\r\n".toList) client =
        some ⟨10, 0, 0, 7⟩ := by
  intro client
  obtain ⟨-, last, -, agree, append⟩ := last_lease_counts client
  have same : (Text.lines crowded).filter (Concerns client ·) =
      (Text.lines twoLeases).filter (Concerns client ·) := by decide +kernel
  have two : Text.lines twoLeases = ["1 a4:83:e7:aa:bb:cc 10.0.0.3 *".toList] ++
      "2 A4-83-E7-AA-BB-CC\u300010.0.0.9".toList :: [] := by decide +kernel
  have second : givenTo? client "2 A4-83-E7-AA-BB-CC\u300010.0.0.9".toList =
      some ⟨10, 0, 0, 9⟩ := by decide +kernel
  have third : givenTo? client "5 a4:83:e7:aa:bb:cc 10.0.0.7".toList = some ⟨10, 0, 0, 7⟩ := by
    decide +kernel
  have single : Text.lines "5 a4:83:e7:aa:bb:cc 10.0.0.7\r\n".toList =
      ["5 a4:83:e7:aa:bb:cc 10.0.0.7".toList] := by decide +kernel
  have ended : crowded.getLast? = some '\n' := by decide +kernel
  refine ⟨agree _ _ _ _ (Text.lined_lines _) (Text.lined_lines _) same, ?_, ?_⟩
  · refine (last _ _ _ (Text.lines_eq_iff.mp two)).mpr ⟨_, _, [], rfl, ?_, by simp⟩
    exact givenTo?_eq_some_iff.mp second
  · refine append _ _ _ _ ?_ (Text.lines_eq_iff.mp single) (givenTo?_eq_some_iff.mp third)
    rw [ended]
    rintro _ ⟨⟩
    rfl

end BridgeWarden.AccessPoint

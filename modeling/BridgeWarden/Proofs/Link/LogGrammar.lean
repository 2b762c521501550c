import BridgeWarden.Proofs.Address.Dotted
import BridgeWarden.Proofs.Link.LogAddresses

/-!
Which lines of a log name an address.

`LogLine.Names` is the grammar: a word for the end of the link, the words "IP address" and an
address in dotted form, with gaps between the three and blanks around the whole. It says nothing of
how a line is trimmed or searched. Reading a line agrees with it on every line, and what the grammar
leaves out tells nothing (`told_by_grammar`).

The pattern that the log is searched with asks for groups of digits where the address stands, of
whatever writing system, and only then are they read as an address. Reading does without the groups:
an address in dotted form consists of them (`grouped_of_dotted`), so a line tells what the pattern
finds in it (`parse_of_found`), and nothing where the pattern finds nothing (`parse_of_unfound`).
-/

namespace BridgeWarden.Link.LogLine

variable {side other : Side} {a b : Ipv4} {line lead inner rest s : List Char}

/-! ### The grammar -/

/-- The word of a log for an end of the link. -/
def Side.word : Side → List Char
  | .here => "local".toList
  | .peer => "remote".toList

/-- Blanks, at least one, that keep two words apart. -/
structure IsGap (gap : List Char) : Prop where
  something : gap ≠ []
  blank : ∀ c ∈ gap, Text.isBlank c = true

/-- The line names the address of an end. -/
inductive Names (side : Side) (a : Ipv4) : List Char → Prop where
  | mk {before first second dotted after : List Char}
      (blankBefore : ∀ c ∈ before, Text.isBlank c = true) (gap : IsGap first)
      (gap' : IsGap second) (address : Ipv4.Dotted dotted a)
      (blankAfter : ∀ c ∈ after, Text.isBlank c = true) :
      Names side a
        (before ++ side.word ++ first ++ "IP address".toList ++ second ++ dotted ++ after)

/-! ### A word and the gap after it -/

theorem afterWord?_eq_some_iff : afterWord? lead s = some rest ↔
    ∃ gap, s = lead ++ gap ++ rest ∧ IsGap gap ∧ ∀ c ∈ rest.head?, Text.isBlank c = false := by
  constructor
  · intro found
    unfold afterWord? at found
    split at found
    · next begins =>
      obtain ⟨tail, rfl⟩ := List.isPrefixOf_iff_prefix.mp begins
      rw [List.drop_left] at found
      cases tail with
      | nil => cases found
      | cons c tail =>
          simp only [Option.ite_none_right_eq_some, Option.some.injEq] at found
          obtain ⟨blank, rfl⟩ := found
          obtain ⟨gap, same, blanks, first⟩ := Text.exists_trimStart tail
          refine ⟨c :: gap, ?_, ⟨by simp, List.forall_mem_cons.mpr ⟨blank, blanks⟩⟩, first⟩
          rw [List.append_assoc, List.cons_append, ← same]
    · cases found
  · rintro ⟨gap, rfl, ⟨something, blanks⟩, first⟩
    cases gap with
    | nil => exact (something rfl).elim
    | cons c gap =>
        rw [List.forall_mem_cons] at blanks
        have begins : lead.isPrefixOf (lead ++ c :: gap ++ rest) = true := by
          rw [List.isPrefixOf_iff_prefix, List.append_assoc]
          exact List.prefix_append _ _
        rw [afterWord?, if_pos begins, List.append_assoc, List.drop_left, List.cons_append]
        simp only [blanks.1, if_true]
        rw [Text.trimStart_append blanks.2, Text.trimStart_of_head first]

/-- No blank stands at the start of a word for an end, and more follows. -/
theorem Side.head_word (side : Side) (rest : List Char) :
    ∀ c ∈ (side.word ++ rest).head?, Text.isBlank c = false := by
  cases side with
  | here | peer =>
      rintro c ⟨⟩
      rfl

/-! ### Whole lines -/

/-- The line names an end, with the text where the address should stand. -/
inductive Laid (side : Side) (inner : List Char) : List Char → Prop where
  | mk {before first second after : List Char}
      (blankBefore : ∀ c ∈ before, Text.isBlank c = true) (gap : IsGap first)
      (gap' : IsGap second) (blankAfter : ∀ c ∈ after, Text.isBlank c = true) :
      Laid side inner
        (before ++ side.word ++ first ++ "IP address".toList ++ second ++ inner ++ after)

theorem names_iff_laid :
    Names side a line ↔ ∃ inner, Laid side inner line ∧ Ipv4.Dotted inner a := by
  constructor
  · rintro ⟨blankBefore, gap, gap', address, blankAfter⟩
    exact ⟨_, .mk blankBefore gap gap' blankAfter, address⟩
  · rintro ⟨inner, ⟨blankBefore, gap, gap', blankAfter⟩, address⟩
    exact .mk blankBefore gap gap' address blankAfter

/-- What stands in a line where the address should. -/
def inner? (side line : List Char) : Option (List Char) :=
  ((afterWord? side (Text.trimStart line)).bind (afterWord? phrase)).map Text.trimEnd

theorem addressOf?_eq (side line : List Char) :
    addressOf? side line = (inner? side line).bind Ipv4.parse? := by
  rw [inner?, Option.bind_map, Option.bind_assoc]
  rfl

theorem laid_of_inner? (found : inner? side.word line = some inner) : Laid side inner line := by
  simp only [inner?, Option.map_eq_some_iff, Option.bind_eq_some_iff,
    afterWord?_eq_some_iff] at found
  obtain ⟨rest, ⟨_, ⟨first, start, gap, -⟩, second, rfl, gap', -⟩, rfl⟩ := found
  obtain ⟨before, whole, blankBefore, -⟩ := Text.exists_trimStart line
  obtain ⟨after, sameEnd, blankAfter, -⟩ := Text.exists_trimEnd rest
  -- What the reading has skipped are the gaps and the blanks around, in the order of the line.
  have split : line = before ++ side.word ++ first ++ "IP address".toList ++ second ++
      Text.trimEnd rest ++ after := by
    rw [List.append_assoc _ (Text.trimEnd rest), ← sameEnd, whole, start]
    simp only [List.append_assoc]
    rfl
  rw [split]
  exact .mk blankBefore gap gap' blankAfter

/-- A text without blanks is found where it stands. -/
theorem Laid.inner?_eq (laid : Laid side inner line) (something : inner ≠ [])
    (unblank : ∀ c ∈ inner, Text.isBlank c = false) : inner? side.word line = some inner := by
  obtain ⟨blankBefore, gap, gap', blankAfter⟩ := laid
  rename_i before first second after
  have ends : Text.trimEnd (inner ++ after) = inner := by
    rw [Text.trimEnd_append blankAfter, Text.trimEnd_of_last]
    exact fun c last => unblank c (List.mem_of_mem_getLast? last)
  have begins : ∀ c ∈ (inner ++ after).head?, Text.isBlank c = false := by
    obtain ⟨c, others, rfl⟩ := List.exists_cons_of_ne_nil something
    rintro _ ⟨⟩
    exact unblank c List.mem_cons_self
  simp only [inner?, Option.map_eq_some_iff, Option.bind_eq_some_iff, afterWord?_eq_some_iff]
  refine ⟨inner ++ after, ⟨"IP address".toList ++ second ++ (inner ++ after),
    ⟨first, ?_, gap, ?_⟩, second, rfl, gap', begins⟩, ends⟩
  · simp only [List.append_assoc]
    rw [Text.trimStart_append blankBefore, Text.trimStart_of_head (side.head_word _)]
  · rintro c ⟨⟩
    rfl

/-- A line names one end only: the words for the ends begin with different letters. -/
theorem Laid.only {inner' : List Char} (laid : Laid side inner line)
    (laid' : Laid other inner' line) : other = side := by
  have begins : ∀ {side inner}, Laid side inner line →
      (Text.trimStart line).head? = side.word.head? := by
    rintro side inner ⟨blankBefore, -, -, -⟩
    simp only [List.append_assoc]
    rw [Text.trimStart_append blankBefore, Text.trimStart_of_head (side.head_word _)]
    cases side with
    | here | peer => rfl
  have same := (begins laid').symm.trans (begins laid)
  cases side with
  | here | peer => cases other with
    | here | peer => first | rfl | cases same

theorem addressOf?_eq_some_iff : addressOf? side.word line = some a ↔ Names side a line := by
  simp only [addressOf?_eq, names_iff_laid, Option.bind_eq_some_iff, Ipv4.parse?_eq_some_iff]
  constructor
  · rintro ⟨inner, found, address⟩
    exact ⟨inner, laid_of_inner? found, address⟩
  · rintro ⟨inner, laid, address⟩
    exact ⟨inner, laid.inner?_eq address.ne_nil address.unblank, address⟩

theorem Names.only (names : Names side a line) (names' : Names other b line) : other = side := by
  obtain ⟨_, laid, -⟩ := names_iff_laid.mp names
  obtain ⟨_, laid', -⟩ := names_iff_laid.mp names'
  exact laid.only laid'

theorem parse_of_names (names : Names side a line) : parse line = naming side a := by
  cases side with
  | here =>
      have here : addressOf? "local".toList line = some a := addressOf?_eq_some_iff.mpr names
      rw [parse, here]
      rfl
  | peer =>
      have here : addressOf? "local".toList line = none := by
        rw [Option.eq_none_iff_forall_ne_some]
        intro b found
        have names' : Names .here b line := addressOf?_eq_some_iff.mp found
        cases names.only names'
      have peer : addressOf? "remote".toList line = some a := addressOf?_eq_some_iff.mpr names
      rw [parse, here, peer]
      rfl

theorem names_of_parse (told : parse line = naming side a) : Names side a line := by
  apply addressOf?_eq_some_iff.mp
  unfold parse at told
  split at told
  · next here =>
    cases side with
    | here =>
        cases told
        exact here
    | peer => cases told
  · next here peer =>
    cases side with
    | here => cases told
    | peer =>
        cases told
        exact peer
  · cases side with
    | here | peer => cases told

theorem parse_eq_naming_iff : parse line = naming side a ↔ Names side a line :=
  ⟨names_of_parse, parse_of_names⟩

theorem parse_eq_other_iff : parse line = .other ↔ ∀ side a, ¬ Names side a line := by
  constructor
  · intro nothing side a names
    rw [parse_of_names names] at nothing
    cases side with
    | here | peer => cases nothing
  · intro unnamed
    cases told : parse line with
    | localAddress a => exact (unnamed .here a (names_of_parse told)).elim
    | remoteAddress a => exact (unnamed .peer a (names_of_parse told)).elim
    | other => rfl

/-! ### The pattern of the log -/

section Pattern

-- Which characters are digits is left open. Those of ASCII are, and no blank is.
variable {digit : Char → Prop} {groups groups' : List Char}

/-- One to three digits. -/
structure IsGroup (digit : Char → Prop) (group : List Char) : Prop where
  something : group ≠ []
  short : group.length ≤ 3
  digits : ∀ c ∈ group, digit c

/-- Four groups of digits, a dot between neighbours. -/
def Grouped (digit : Char → Prop) (groups : List Char) : Prop :=
  Text.Joined (fun group (_ : Unit) => IsGroup digit group) Ipv4.Separator groups [(), (), (), ()]

/-- What the pattern finds in a line: an end of the link, and groups of digits. -/
structure Found (digit : Char → Prop) (side : Side) (groups line : List Char) : Prop where
  laid : Laid side groups line
  grouped : Grouped digit groups

/-- An address in dotted form consists of groups of digits. -/
theorem grouped_of_dotted (ascii : ∀ c, c.isDigit = true → digit c)
    (dotted : Ipv4.Dotted groups a) : Grouped digit groups := by
  refine dotted.map (f := fun _ => ()) fun octet => ?_
  exact ⟨octet.written, octet.short, fun c member => ascii c (octet.digit c member)⟩

theorem Grouped.ne_nil (grouped : Grouped digit groups) : groups ≠ [] := by
  cases grouped with
  | more group => simp

theorem Grouped.unblank (grouped : Grouped digit groups)
    (unblank : ∀ c, digit c → Text.isBlank c = false) : ∀ c ∈ groups, Text.isBlank c = false := by
  refine Text.Joined.avoids grouped (fun group c member => unblank c (group.digits c member)) ?_
  rintro c rfl
  rfl

/-- The pattern leaves no choice of what to find. -/
theorem Found.unique (unblank : ∀ c, digit c → Text.isBlank c = false)
    (found : Found digit side groups line) (found' : Found digit other groups' line) :
    other = side ∧ groups' = groups := by
  have same := found.laid.only found'.laid
  subst same
  have first := found.laid.inner?_eq found.grouped.ne_nil (found.grouped.unblank unblank)
  have second := found'.laid.inner?_eq found'.grouped.ne_nil (found'.grouped.unblank unblank)
  rw [first, Option.some.injEq] at second
  exact ⟨rfl, second.symm⟩

theorem found_of_names (ascii : ∀ c, c.isDigit = true → digit c) (names : Names side a line) :
    ∃ groups, Found digit side groups line ∧ Ipv4.parse? groups = some a := by
  obtain ⟨groups, laid, dotted⟩ := names_iff_laid.mp names
  exact ⟨groups, ⟨laid, grouped_of_dotted ascii dotted⟩, Ipv4.parse?_eq_some_iff.mpr dotted⟩

/-- Where the pattern finds groups of digits, a line tells the address that is read off them, and
nothing if none is. -/
theorem parse_of_found (ascii : ∀ c, c.isDigit = true → digit c)
    (unblank : ∀ c, digit c → Text.isBlank c = false) (found : Found digit side groups line) :
    parse line = ((Ipv4.parse? groups).map (naming side)).getD .other := by
  cases read : Ipv4.parse? groups with
  | some a =>
      apply parse_of_names
      exact names_iff_laid.mpr ⟨groups, found.laid, Ipv4.parse?_eq_some_iff.mp read⟩
  | none =>
      apply parse_eq_other_iff.mpr
      intro other a names
      obtain ⟨groups', found', read'⟩ := found_of_names ascii names
      obtain ⟨rfl, rfl⟩ := found.unique unblank found'
      rw [read] at read'
      cases read'

/-- Where the pattern finds nothing, a line tells nothing. -/
theorem parse_of_unfound (ascii : ∀ c, c.isDigit = true → digit c)
    (unfound : ∀ side groups, ¬ Found digit side groups line) : parse line = .other := by
  apply parse_eq_other_iff.mpr
  intro side a names
  obtain ⟨groups, found, -⟩ := found_of_names ascii names
  exact unfound side groups found

end Pattern

/-! ### Reading by the grammar -/

/-- A line tells the address of an end exactly if it names it, and every other line tells nothing.
Whatever the address, a line that names it as it is shown tells it. -/
theorem told_by_grammar :
    (∀ line a, parse line = .localAddress a ↔ Names .here a line) ∧
    (∀ line a, parse line = .remoteAddress a ↔ Names .peer a line) ∧
    (∀ line, parse line = .other ↔ ∀ side a, ¬ Names side a line) ∧
    (∀ (side : Side) (a : Ipv4) before first second after,
      (∀ c ∈ before, Text.isBlank c = true) → IsGap first → IsGap second →
      (∀ c ∈ after, Text.isBlank c = true) →
      parse (before ++ side.word ++ first ++ "IP address".toList ++ second ++ a.render ++ after) =
        naming side a) := by
  have exactly : ∀ (side : Side) line a, parse line = naming side a ↔ Names side a line :=
    fun _ _ _ => parse_eq_naming_iff
  refine ⟨exactly .here, exactly .peer, fun line => parse_eq_other_iff, ?_⟩
  intro side a before first second after blankBefore gap gap' blankAfter
  exact parse_of_names (.mk blankBefore gap gap' a.dotted_render blankAfter)

/-- The gaps may be blanks beyond ASCII, and a carriage return at the end is one of the blanks. -/
theorem widely_spaced_told :
    IsGap "\u3000 ".toList ∧ IsGap "\u00a0".toList ∧
      parse "\tremote\u3000 IP address\u00a010.0.200.1 \r".toList =
        .remoteAddress ⟨10, 0, 200, 1⟩ := by
  have blank : ∀ s ∈ ["\u3000 ", "\u00a0", "\t", " \r"], ∀ c ∈ s.toList, Text.isBlank c = true := by
    simp only [← List.all_eq_true]
    decide
  have wide : IsGap "\u3000 ".toList := ⟨by decide, blank _ (by decide)⟩
  have narrow : IsGap "\u00a0".toList := ⟨by decide, blank _ (by decide)⟩
  have told := told_by_grammar.2.2.2 .peer ⟨10, 0, 200, 1⟩ "\t".toList _ _ " \r".toList
    (blank _ (by decide)) wide narrow (blank _ (by decide))
  exact ⟨wide, narrow, told⟩

end BridgeWarden.Link.LogLine

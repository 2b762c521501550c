import BridgeWarden.Text.Blank
import Mathlib.Data.List.TakeWhile

/-!
What trimming and cutting make of a text, said of the text alone.

`IsTrimOf inner s` holds of just one text for each `s`, the one that `trim` gives
(`trim_eq_iff`). `Joined` is what becomes of pieces that are written with separators between them,
and reading the pieces of a text undoes it (`mapM_splitOn_eq_some_iff`). The lines of a text come
off its start one by one (`linewise`, `lines_lineFeed`); `Lined` says which they are, and it leaves
no choice either (`lines_eq_iff`).
-/

namespace BridgeWarden.Text

variable {s inner line rest piece text : List Char} {found : List (List Char)} {cut : Char → Bool}

/-! ### Blanks at the ends -/

/-- The second text is the first one with blanks around it; the first one has none at its ends. -/
structure IsTrimOf (inner s : List Char) : Prop where
  around : ∃ before after, s = before ++ inner ++ after ∧ (∀ c ∈ before, isBlank c = true) ∧
    ∀ c ∈ after, isBlank c = true
  first : ∀ c ∈ inner.head?, isBlank c = false
  last : ∀ c ∈ inner.getLast?, isBlank c = false

theorem trimStart_append {before : List Char} (blank : ∀ c ∈ before, isBlank c = true)
    (s : List Char) : trimStart (before ++ s) = trimStart s :=
  List.dropWhile_append_of_pos blank

theorem trimStart_of_head (first : ∀ c ∈ s.head?, isBlank c = false) : trimStart s = s := by
  cases s with
  | nil => rfl
  | cons c rest => exact List.dropWhile_cons_of_neg (by simp [first c rfl])

/-- Blanks at the end of a text are those at the start of its reversal. -/
theorem trimEnd_eq (s : List Char) : trimEnd s = (trimStart s.reverse).reverse := rfl

theorem trimEnd_append {after : List Char} (blank : ∀ c ∈ after, isBlank c = true)
    (s : List Char) : trimEnd (s ++ after) = trimEnd s := by
  rw [trimEnd_eq, List.reverse_append, trimStart_append, ← trimEnd_eq]
  exact fun c member => blank c (List.mem_reverse.mp member)

theorem trimEnd_of_last (last : ∀ c ∈ s.getLast?, isBlank c = false) : trimEnd s = s := by
  rw [trimEnd_eq, trimStart_of_head, List.reverse_reverse]
  rwa [List.head?_reverse]

theorem IsTrimOf.trim_eq (trims : IsTrimOf inner s) : trim s = inner := by
  obtain ⟨before, after, rfl, blankBefore, blankAfter⟩ := trims.around
  unfold trim
  rw [List.append_assoc, trimStart_append blankBefore]
  cases inner with
  | nil =>
      have nothing : trimStart after = [] := by
        have whole := trimStart_append blankAfter []
        rwa [List.append_nil] at whole
      rw [List.nil_append, nothing]
      rfl
  | cons c rest =>
      rw [trimStart_of_head, trimEnd_append blankAfter, trimEnd_of_last trims.last]
      exact trims.first

theorem exists_trimStart (s : List Char) :
    ∃ before, s = before ++ trimStart s ∧ (∀ c ∈ before, isBlank c = true) ∧
      ∀ c ∈ (trimStart s).head?, isBlank c = false := by
  refine ⟨s.takeWhile isBlank, List.takeWhile_append_dropWhile.symm, ?_, ?_⟩
  · exact fun c member => List.mem_takeWhile_imp member
  · intro c first
    have stopped := List.head?_dropWhile_not isBlank s
    rw [← trimStart.eq_def, Option.mem_def.mp first] at stopped
    simpa using stopped

theorem exists_trimEnd (s : List Char) :
    ∃ after, s = trimEnd s ++ after ∧ (∀ c ∈ after, isBlank c = true) ∧
      ∀ c ∈ (trimEnd s).getLast?, isBlank c = false := by
  obtain ⟨before, same, blank, first⟩ := exists_trimStart s.reverse
  refine ⟨before.reverse, ?_, fun c member => blank c (List.mem_reverse.mp member), ?_⟩
  · rw [trimEnd_eq, ← List.reverse_append, ← same, List.reverse_reverse]
  · rwa [trimEnd_eq, List.getLast?_reverse]

theorem isTrimOf_trim (s : List Char) : IsTrimOf (trim s) s := by
  obtain ⟨before, sameStart, blankBefore, first⟩ := exists_trimStart s
  obtain ⟨after, sameEnd, blankAfter, last⟩ := exists_trimEnd (trimStart s)
  rw [← trim.eq_def] at sameEnd last
  refine ⟨⟨before, after, ?_, blankBefore, blankAfter⟩, ?_, last⟩
  · rw [List.append_assoc, ← sameEnd]
    exact sameStart
  · intro c begins
    apply first
    rw [sameEnd, List.head?_append, Option.mem_def.mp begins]
    rfl

theorem trim_eq_iff : trim s = inner ↔ IsTrimOf inner s :=
  ⟨fun same => same ▸ isTrimOf_trim s, IsTrimOf.trim_eq⟩

/-- A text without blanks has none at its ends. -/
theorem isTrimOf_self (unblank : ∀ c ∈ s, isBlank c = false) : IsTrimOf s s := by
  refine ⟨⟨[], [], by simp, by simp, by simp⟩, ?_, ?_⟩
  · exact fun c first => unblank c (List.mem_of_mem_head? first)
  · exact fun c last => unblank c (List.mem_of_mem_getLast? last)

/-- Further blanks at the end of a text do not matter. -/
theorem trim_append {after : List Char} (blank : ∀ c ∈ after, isBlank c = true)
    (s : List Char) : trim (s ++ after) = trim s := by
  obtain ⟨⟨before, between, same, blankBefore, blankBetween⟩, first, last⟩ := isTrimOf_trim s
  apply IsTrimOf.trim_eq
  refine ⟨⟨before, between ++ after, ?_, blankBefore, ?_⟩, first, last⟩
  · rw [← List.append_assoc, ← same]
  · intro c member
    exact (List.mem_append.mp member).elim (blankBetween c) (blank c)

theorem trim_trim (s : List Char) : trim (trim s) = trim s := by
  have trims := isTrimOf_trim s
  exact IsTrimOf.trim_eq ⟨⟨[], [], by simp, by simp, by simp⟩, trims.first, trims.last⟩

/-! ### Pieces -/

theorem splitOn_of_uncut (uncut : ∀ c ∈ piece, cut c = false) : splitOn cut piece = [piece] := by
  induction piece with
  | nil => rfl
  | cons c rest ih =>
      rw [List.forall_mem_cons] at uncut
      rw [splitOn, uncut.1, ih uncut.2]
      rfl

theorem splitOn_append (uncut : ∀ c ∈ piece, cut c = false) {c : Char} (cuts : cut c = true)
    (rest : List Char) : splitOn cut (piece ++ c :: rest) = piece :: splitOn cut rest := by
  induction piece with
  | nil => rw [List.nil_append, splitOn, if_pos cuts]
  | cons d piece ih =>
      rw [List.forall_mem_cons] at uncut
      rw [List.cons_append, splitOn, uncut.1, ih uncut.2]
      rfl

/-- The first piece of a text, and the place where it is cut off, if there is one. -/
theorem splitOn_cases (cut : Char → Bool) (s : List Char) :
    (∀ c ∈ s, cut c = false) ∨
    ∃ piece c rest, s = piece ++ c :: rest ∧ cut c = true ∧ ∀ c ∈ piece, cut c = false := by
  induction s with
  | nil => exact Or.inl (by simp)
  | cons c s ih =>
      cases cuts : cut c with
      | true => exact Or.inr ⟨[], c, s, rfl, cuts, by simp⟩
      | false =>
          rcases ih with uncut | ⟨piece, d, rest, rfl, cutsThere, uncut⟩
          · exact Or.inl (List.forall_mem_cons.mpr ⟨cuts, uncut⟩)
          · exact Or.inr ⟨c :: piece, d, rest, rfl, cutsThere,
              List.forall_mem_cons.mpr ⟨cuts, uncut⟩⟩

theorem splitOn_ne_nil (cut : Char → Bool) (s : List Char) : splitOn cut s ≠ [] := by
  rcases splitOn_cases cut s with uncut | ⟨piece, c, rest, rfl, cuts, uncut⟩
  · simp [splitOn_of_uncut uncut]
  · simp [splitOn_append uncut cuts]

/-- Pieces one after another, a separator between neighbours, and what they stand for. -/
inductive Joined {α : Type} (Piece : List Char → α → Prop) (Separator : Char → Prop) :
    List Char → List α → Prop where
  | last {piece : List Char} {a : α} (stands : Piece piece a) : Joined Piece Separator piece [a]
  | more {piece rest : List Char} {c : Char} {a : α} {others : List α} (stands : Piece piece a)
      (separates : Separator c) (more : Joined Piece Separator rest others) :
      Joined Piece Separator (piece ++ c :: rest) (a :: others)

section Joined

variable {α : Type} {Piece : List Char → α → Prop} {Separator : Char → Prop}
variable {read : List Char → Option α} {values : List α}

/-- Reading every piece of a text reads exactly the pieces that were joined, if the pieces that can
be read have no separator in them. -/
theorem mapM_splitOn_eq_some_iff (reads : ∀ {piece a}, read piece = some a ↔ Piece piece a)
    (cuts : ∀ {c}, cut c = true ↔ Separator c)
    (uncut : ∀ {piece a}, Piece piece a → ∀ c ∈ piece, cut c = false) :
    (splitOn cut s).mapM read = some values ↔ Joined Piece Separator s values := by
  constructor
  · intro told
    induction values generalizing s with
    | nil =>
        cases pieces : splitOn cut s with
        | nil => exact (splitOn_ne_nil cut s pieces).elim
        | cons piece others => simp [pieces, Option.bind_eq_some_iff] at told
    | cons a others ih =>
        rcases splitOn_cases cut s with whole | ⟨piece, c, rest, rfl, separates, whole⟩
        · simp only [splitOn_of_uncut whole, List.mapM_cons, List.mapM_nil, Option.bind_eq_bind,
            Option.bind_eq_some_iff, Option.pure_def, Option.some.injEq, List.cons.injEq] at told
          obtain ⟨first, stands, _, rfl, rfl, rfl⟩ := told
          exact .last (reads.mp stands)
        · simp only [splitOn_append whole separates, List.mapM_cons, Option.bind_eq_bind,
            Option.bind_eq_some_iff, Option.pure_def, Option.some.injEq, List.cons.injEq] at told
          obtain ⟨first, stands, others, more, rfl, rfl⟩ := told
          exact .more (reads.mp stands) (cuts.mp separates) (ih more)
  · intro joined
    induction joined with
    | last stands => simp [splitOn_of_uncut (uncut stands), reads.mpr stands]
    | more stands separates _ ih =>
        simp [splitOn_append (uncut stands) (cuts.mpr separates), reads.mpr stands, ih]

theorem joined_intercalate {c : Char} (separates : Separator c) {write : α → List Char}
    (stands : ∀ a, Piece (write a) a) (values : List α) (nonempty : values ≠ []) :
    Joined Piece Separator ([c].intercalate (values.map write)) values := by
  induction values with
  | nil => exact (nonempty rfl).elim
  | cons a others ih =>
      cases others with
      | nil => simpa [List.intercalate] using Joined.last (stands a)
      | cons b others =>
          have more := Joined.more (stands a) separates (ih (by simp))
          simpa [List.intercalate] using more

/-- Pieces that all stand for something else as well are joined to that, too. -/
theorem Joined.map {β : Type} {Piece' : List Char → β → Prop} {f : α → β}
    (joined : Joined Piece Separator s values)
    (also : ∀ {piece a}, Piece piece a → Piece' piece (f a)) :
    Joined Piece' Separator s (values.map f) := by
  induction joined with
  | last stands => exact .last (also stands)
  | more stands separates _ ih => exact .more (also stands) separates ih

/-- No character of pieces that are joined is in a class that neither a piece nor a separator has
characters in. -/
theorem Joined.avoids {kind : Char → Bool} (joined : Joined Piece Separator s values)
    (pieces : ∀ {piece a}, Piece piece a → ∀ c ∈ piece, kind c = false)
    (separators : ∀ {c}, Separator c → kind c = false) : ∀ c ∈ s, kind c = false := by
  induction joined with
  | last stands => exact pieces stands
  | more stands separates _ ih =>
      rw [List.forall_mem_append, List.forall_mem_cons]
      exact ⟨pieces stands, separators separates, ih⟩

end Joined

/-! ### Lines -/

theorem uncut_of_whole (whole : '\n' ∉ line) : ∀ c ∈ line, (c == '\n') = false := by
  intro c member
  rw [beq_eq_false_iff_ne]
  rintro rfl
  exact whole member

theorem lines_of_whole (whole : '\n' ∉ line) :
    lines line = if line.isEmpty then [] else [line] := by
  unfold lines
  rw [splitOn_of_uncut (uncut_of_whole whole)]
  rfl

theorem lines_lineFeed (whole : '\n' ∉ line) (rest : List Char) :
    lines (line ++ '\n' :: rest) = dropReturn line :: lines rest := by
  unfold lines
  rw [splitOn_append (uncut_of_whole whole) rfl, List.reverse_cons]
  cases pieces : (splitOn (· == '\n') rest).reverse with
  | nil => exact (splitOn_ne_nil _ rest (List.reverse_eq_nil_iff.mp pieces)).elim
  | cons last before => simp

/-- Induction on a text line by line: the last line does not end, and every other one does. -/
theorem linewise {motive : List Char → Prop} (last : ∀ line, '\n' ∉ line → motive line)
    (line : ∀ line rest, '\n' ∉ line → motive rest → motive (line ++ '\n' :: rest))
    (s : List Char) : motive s := by
  induction length : s.length using Nat.strong_induction_on generalizing s with
  | _ n ih =>
      rcases splitOn_cases (· == '\n') s with uncut | ⟨piece, c, rest, rfl, cuts, uncut⟩
      · exact last s fun member => by simpa using uncut _ member
      · obtain rfl : c = '\n' := by simpa using cuts
        refine line piece rest (fun member => by simpa using uncut _ member) ?_
        refine ih rest.length ?_ rest rfl
        rw [← length, List.length_append, List.length_cons]
        omega

/-- The carriage return at the end of a line is a blank, so trimming takes it off anyway. -/
theorem trim_dropReturn (line : List Char) : trim (dropReturn line) = trim line := by
  unfold dropReturn
  by_cases ends : line.getLast? = some '\r'
  · rw [if_pos ends]
    obtain ⟨before, rfl⟩ := List.getLast?_eq_some_iff.mp ends
    rw [List.dropLast_concat, trim_append]
    simp [isBlank]
  · rw [if_neg ends]

/-- The lines of a text, in order. A line ends at a line feed, or at a carriage return with a line
feed after it; the last one need not end, and then it is not empty. -/
inductive Lined : List Char → List (List Char) → Prop where
  | none : Lined [] []
  | last {line : List Char} (something : line ≠ []) (whole : '\n' ∉ line) : Lined line [line]
  | fed {line rest : List Char} {others : List (List Char)} (whole : '\n' ∉ line)
      (unreturned : line.getLast? ≠ some '\r') (more : Lined rest others) :
      Lined (line ++ '\n' :: rest) (line :: others)
  | returned {line rest : List Char} {others : List (List Char)} (whole : '\n' ∉ line)
      (more : Lined rest others) : Lined (line ++ '\r' :: '\n' :: rest) (line :: others)

theorem lines_returned (whole : '\n' ∉ line) (rest : List Char) :
    lines (line ++ '\r' :: '\n' :: rest) = line :: lines rest := by
  have further : '\n' ∉ line ++ ['\r'] := by simp [whole]
  rw [List.append_cons line '\r', lines_lineFeed further, dropReturn]
  simp

theorem Lined.lines_eq (lined : Lined text found) : lines text = found := by
  induction lined with
  | none => rfl
  | last something whole => rw [lines_of_whole whole, if_neg (by simpa using something)]
  | fed whole unreturned _ ih => rw [lines_lineFeed whole, dropReturn, if_neg unreturned, ih]
  | returned whole _ ih => rw [lines_returned whole, ih]

theorem lined_lines (text : List Char) : Lined text (lines text) := by
  induction text using linewise with
  | last line whole =>
      rw [lines_of_whole whole]
      cases line with
      | nil => exact .none
      | cons c line => exact .last (by simp) whole
  | line line rest whole ih =>
      rw [lines_lineFeed whole, dropReturn]
      by_cases ends : line.getLast? = some '\r'
      · obtain ⟨before, rfl⟩ := List.getLast?_eq_some_iff.mp ends
        rw [if_pos ends, List.dropLast_concat, List.append_assoc]
        exact .returned (fun member => whole (List.mem_append_left _ member)) ih
      · rw [if_neg ends]
        exact .fed whole ends ih

theorem lines_eq_iff : lines text = found ↔ Lined text found := by
  constructor
  · rintro rfl
    exact lined_lines text
  · exact Lined.lines_eq

/-- Lines that have all ended come before the lines of what follows them. -/
theorem lines_append (ended : ∀ c ∈ text.getLast?, c = '\n') (rest : List Char) :
    lines (text ++ rest) = lines text ++ lines rest := by
  induction text using linewise with
  | last line whole =>
      cases final : line.getLast? with
      | none =>
          rw [List.getLast?_eq_none_iff.mp final]
          rfl
      | some c =>
          obtain rfl := ended c final
          exact (whole (List.mem_of_getLast? final)).elim
  | line line later whole ih =>
      have ended' : ∀ c ∈ later.getLast?, c = '\n' := by
        intro c final
        apply ended
        rw [List.getLast?_append, List.getLast?_cons, Option.mem_def.mp final]
        rfl
      rw [List.append_assoc, List.cons_append, lines_lineFeed whole, lines_lineFeed whole,
        ih ended', List.cons_append]

end BridgeWarden.Text

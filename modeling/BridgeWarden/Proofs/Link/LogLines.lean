import BridgeWarden.Link.Log
import Mathlib.Data.List.Infix

/-!
The lines of a log, and when a reader has seen them.

A log is cut at its line feeds. Reading goes byte after byte and ends with the log; `linesBy` says
which lines have ended by then. No line that has ended is lost again, and each line of the log ends
at just one moment (`exists_endsLine`, `EndsLine.unique`).
-/

namespace BridgeWarden.Link.LogReader

open Text (Bytes)

/-- A line without the carriage return at its end, if it has one. -/
def withoutReturn (line : Bytes) : Bytes :=
  if line.getLast? = some carriageReturn then line.dropLast else line

/-- The lines that have ended. -/
def endedLines (log : Bytes) : List Bytes := (log.splitOn lineFeed).dropLast.map withoutReturn

/-- What follows the last end of a line. -/
def openLine (log : Bytes) : Bytes := (log.splitOn lineFeed).getLast (List.splitOn_ne_nil _ _)

/-- The lines of a whole log; what follows the last end of a line is one of them if there is
anything. -/
def allLines (log : Bytes) : List Bytes :=
  if openLine log = [] then endedLines log else endedLines log ++ [openLine log]

/-- The lines that have ended when so many bytes have been read; once there are no more, the log
has ended as well. -/
def linesBy (log : Bytes) (n : Nat) : List Bytes :=
  if n ≤ log.length then endedLines (log.take n) else allLines log

/-- The line of the number `k` ends with the byte of the number `n`, or with the log, which ends
after its last byte. -/
def EndsLine (log : Bytes) (k n : Nat) : Prop :=
  (linesBy log n).length ≤ k ∧ k < (linesBy log (n + 1)).length

variable {log : Bytes} {b : UInt8} {k m n : Nat}

/-! ### One more byte -/

theorem lines_of_split {earlier : List Bytes} {last : Bytes}
    (split : log.splitOn lineFeed = earlier ++ [last]) :
    endedLines log = earlier.map withoutReturn ∧ openLine log = last := by
  constructor
  · unfold endedLines
    rw [split, List.dropLast_concat]
  · simp only [openLine, split, List.getLast_concat]

theorem splitOn_eq (log : Bytes) :
    log.splitOn lineFeed = (log.splitOn lineFeed).dropLast ++ [openLine log] :=
  (List.dropLast_concat_getLast _).symm

/-- A byte within a line goes to the last piece. -/
theorem splitOn_concat (inside : b ≠ lineFeed) {earlier : List Bytes} {last : Bytes}
    (split : log.splitOn lineFeed = earlier ++ [last]) :
    (log ++ [b]).splitOn lineFeed = earlier ++ [last ++ [b]] := by
  induction log generalizing earlier last with
  | nil =>
      cases earlier with
      | nil =>
          rw [List.splitOn_nil, List.nil_append, List.cons.injEq] at split
          rw [← split.1, List.nil_append, List.splitOn_cons_eq_if_modifyHead,
            if_neg (by simpa using inside)]
          rfl
      | cons first earlier => simp at split
  | cons c rest ih =>
      -- `c` ends a piece of its own or goes to the first piece of the rest, which is the last, too
      -- if no line has ended there
      rw [List.splitOn_cons_eq_if_modifyHead] at split
      rw [List.cons_append, List.splitOn_cons_eq_if_modifyHead, ih (splitOn_eq rest)]
      rw [splitOn_eq rest] at split
      by_cases ends : c = lineFeed
      · rw [if_pos (by simpa using ends), ← List.cons_append] at split
        obtain ⟨rfl, same⟩ := List.append_inj' split rfl
        cases same
        rw [if_pos (by simpa using ends), ← List.cons_append]
      · rw [if_neg (by simpa using ends)] at split ⊢
        cases first : (rest.splitOn lineFeed).dropLast with
        | nil =>
            rw [first, List.nil_append, List.modifyHead_cons] at split
            have whole : [] ++ [c :: openLine rest] = earlier ++ [last] := split
            obtain ⟨rfl, same⟩ := List.append_inj' whole rfl
            cases same
            rfl
        | cons piece pieces =>
            rw [first, List.cons_append, List.modifyHead_cons, ← List.cons_append] at split
            obtain ⟨rfl, same⟩ := List.append_inj' split rfl
            cases same
            rfl

theorem lines_lineFeed (log : Bytes) :
    endedLines (log ++ [lineFeed]) = endedLines log ++ [withoutReturn (openLine log)] ∧
      openLine (log ++ [lineFeed]) = [] := by
  have split : (log ++ [lineFeed]).splitOn lineFeed = log.splitOn lineFeed ++ [[]] :=
    List.splitOn_append_cons_self log []
  obtain ⟨ended, rest⟩ := lines_of_split split
  refine ⟨?_, rest⟩
  rw [ended, splitOn_eq log, List.map_append]
  rfl

theorem lines_inside (log : Bytes) (inside : b ≠ lineFeed) :
    endedLines (log ++ [b]) = endedLines log ∧ openLine (log ++ [b]) = openLine log ++ [b] :=
  lines_of_split (splitOn_concat inside (splitOn_eq log))

theorem endedLines_prefix_allLines (log : Bytes) : endedLines log <+: allLines log := by
  unfold allLines
  by_cases nothing : openLine log = []
  · rw [if_pos nothing]
  · rw [if_neg nothing]
    exact List.prefix_append _ _

/-! ### Lines by and by -/

theorem linesBy_zero (log : Bytes) : linesBy log 0 = [] := rfl

theorem linesBy_end (log : Bytes) : linesBy log (log.length + 1) = allLines log :=
  if_neg (Nat.not_succ_le_self _)

theorem linesBy_succ (log : Bytes) (n : Nat) : linesBy log n <+: linesBy log (n + 1) := by
  unfold linesBy
  by_cases more : n + 1 ≤ log.length
  · rw [if_pos more, if_pos (Nat.le_of_succ_le more), List.take_add_one,
      List.getElem?_eq_getElem more, Option.toList_some]
    by_cases ends : log[n] = lineFeed
    · rw [ends, (lines_lineFeed _).1]
      exact List.prefix_append _ _
    · rw [(lines_inside _ ends).1]
  · rw [if_neg more]
    by_cases last : n ≤ log.length
    · have whole : n = log.length := by omega
      rw [if_pos last, whole, List.take_length]
      exact endedLines_prefix_allLines log
    · rw [if_neg last]

theorem linesBy_mono (later : m ≤ n) : linesBy log m <+: linesBy log n := by
  induction later with
  | refl => exact List.prefix_refl _
  | step _ ih => exact ih.trans (linesBy_succ log _)

theorem linesBy_prefix_allLines (log : Bytes) (n : Nat) : linesBy log n <+: allLines log := by
  rcases Nat.le_total n (log.length + 1) with before | after
  · rw [← linesBy_end log]
    exact linesBy_mono before
  · have ended : ¬ n ≤ log.length := by omega
    unfold linesBy
    rw [if_neg ended]

/-- The lines that have ended are the first ones of the log. -/
theorem linesBy_eq_take (log : Bytes) (n : Nat) :
    linesBy log n = (allLines log).take (linesBy log n).length :=
  List.prefix_iff_eq_take.mp (linesBy_prefix_allLines log n)

/-! ### The end of a line -/

theorem EndsLine.unique (first : EndsLine log k m) (second : EndsLine log k n) : m = n := by
  have apart : ∀ {m n}, EndsLine log k m → EndsLine log k n → ¬ m < n := by
    intro m n first second before
    have grown : linesBy log (m + 1) <+: linesBy log n := linesBy_mono before
    exact Nat.not_le.mpr first.2 (Nat.le_trans grown.length_le second.1)
  exact Nat.le_antisymm (Nat.not_lt.mp (apart second first)) (Nat.not_lt.mp (apart first second))

theorem exists_endsLine (present : k < (allLines log).length) : ∃ n, EndsLine log k n := by
  have some_of : ∀ n, k < (linesBy log n).length → ∃ m, EndsLine log k m := by
    intro n
    induction n with
    | zero =>
        rw [linesBy_zero]
        exact fun ended => (Nat.not_lt_zero k ended).elim
    | succ n ih =>
        intro ended
        by_cases earlier : k < (linesBy log n).length
        · exact ih earlier
        · exact ⟨n, Nat.not_lt.mp earlier, ended⟩
  exact some_of (log.length + 1) (linesBy_end log ▸ present)

end BridgeWarden.Link.LogReader

import BridgeWarden.Proofs.Link.LogAddresses
import BridgeWarden.Proofs.Link.LogLines
import Mathlib.Data.List.Induction
import Mathlib.Data.List.TakeWhile

/-!
What a reader of a log reports, and when.

A reader that has taken lines knows the last address of each side and has announced what they
complete (`Knows`). Going through the bytes of a log it takes the lines as they end, up to the first
one that is no text (`follows_feed`). So it reports once, as the line ends that makes both addresses
known, or not at all (`reports_iff`).

Lines that are no texts tell nothing, yet they are not passed over like other lines: the first of
them ends the reading. `log_told_iff` says for which logs this makes no difference, and
`garbled_line_silences` has a log for which it does.
-/

namespace BridgeWarden.Link.LogReader

open Text (Bytes)
open LogLine (last up? upAfter? Completes NamesBoth)

def isText (line : Bytes) : Bool := (Text.decode? line).isSome

/-- What a line tells. One that is no text tells nothing. -/
def heard (line : Bytes) : LogLine :=
  match Text.decode? line with
  | some s => LogLine.parse s
  | none => .other

/-- What the lines tell, up to the first one that is no text. -/
def readable (lines : List Bytes) : List LogLine := (lines.takeWhile isText).map heard

/-- What the lines tell, with those that are no texts passed over. -/
def skimmed (lines : List Bytes) : List LogLine := lines.map heard

/-- The reader when so many bytes have been read; once there are no more, the log has ended. -/
def reading (log : Bytes) (n : Nat) : LogReader :=
  if n ≤ log.length then new.feed (log.take n) else (new.feed log).finish

/-- The byte of the number `n`, or the end of the log after its last byte, brings an announcement
that was not there before. -/
def Reports (log : Bytes) (n : Nat) (e : Event) : Prop :=
  (reading log n).announced ≠ some e ∧ (reading log (n + 1)).announced = some e

/-- The reports about a log are those of the lines: one if both addresses are named, as the line
ends that completes them, and none otherwise. -/
structure Told (log : Bytes) (lines : List LogLine) : Prop where
  reported : ∀ n e, Reports log n e ↔ ∃ k, EndsLine log k n ∧ Completes lines k e
  once : NamesBoth lines → ∃! report : Nat × Event, Reports log report.1 report.2
  silent : ¬ NamesBoth lines → ∀ n e, ¬ Reports log n e

/-- What a reader has made of lines. -/
structure Knows (lines : List LogLine) (r : LogReader) : Prop where
  here : r.here = last .here lines
  peer : r.peer = last .peer lines
  announced : ∀ e, r.announced = some e ↔ ∃ k, Completes lines k e

variable {r : LogReader} {log line : Bytes} {lines : List Bytes} {told : List LogLine}
variable {j k n : Nat} {e : Event}

/-! ### One more line -/

theorem announce_eq (r : LogReader) :
    r.announce = { r with announced := r.announced.or (up? r.here r.peer) } := by
  obtain ⟨pending, here, peer, announced, isOpen⟩ := r
  cases announced with
  | some => rfl
  | none =>
      cases here with
      | none => rfl
      | some => cases peer with
        | none | some => rfl

theorem take_isOpen (r : LogReader) (news : LogLine) : (r.take news).isOpen = r.isOpen := by
  cases news with
  | other => rfl
  | localAddress | remoteAddress => rw [take, announce_eq]

theorem take_pending (r : LogReader) (news : LogLine) : (r.take news).pending = r.pending := by
  cases news with
  | other => rfl
  | localAddress | remoteAddress => rw [take, announce_eq]

namespace Knows

theorem new : Knows [] new := by
  refine ⟨rfl, rfl, ?_⟩
  intro e
  constructor
  · rintro ⟨⟩
  · rintro ⟨k, completes⟩
    exact (Nat.not_lt_zero k completes.lt_length).elim

/-- The state of the reading says nothing of what is known. -/
theorem frame (knows : Knows told r) (pending : Bytes) (isOpen : Bool) :
    Knows told { r with pending, isOpen } :=
  ⟨knows.here, knows.peer, knows.announced⟩

/-- Nothing is announced as long as an address is missing. -/
theorem unannounced_iff (knows : Knows told r) : r.announced = none ↔ upAfter? told = none := by
  rw [← Option.not_isSome_iff_eq_none, ← Option.not_isSome_iff_eq_none, not_iff_not]
  constructor
  · intro made
    obtain ⟨e, same⟩ := Option.isSome_iff_exists.mp made
    obtain ⟨k, completes⟩ := (knows.announced e).mp same
    exact LogLine.known_of_completes completes
  · intro known
    obtain ⟨k, e, completes⟩ := LogLine.exists_completes known
    rw [(knows.announced e).mpr ⟨k, completes⟩]
    rfl

theorem announced_concat (knows : Knows told r) (news : LogLine) (e : Event) :
    r.announced.or (upAfter? (told ++ [news])) = some e ↔
      ∃ k, Completes (told ++ [news]) k e := by
  rw [Option.or_eq_some_iff, knows.announced, knows.unannounced_iff]
  simp only [LogLine.completes_concat, exists_or, exists_eq_left]

theorem announce (knows : Knows told r) (news : LogLine) {here peer : Option Ipv4}
    (heardHere : here = last .here (told ++ [news]))
    (heardPeer : peer = last .peer (told ++ [news])) :
    Knows (told ++ [news]) (LogReader.announce { r with here, peer }) := by
  rw [announce_eq, heardHere, heardPeer]
  exact ⟨rfl, rfl, knows.announced_concat news⟩

theorem take (knows : Knows told r) (news : LogLine) : Knows (told ++ [news]) (r.take news) := by
  cases news with
  | localAddress a =>
      refine knows.announce (.localAddress a) ?_ ?_
      · rw [LogLine.last_append]
        rfl
      · rw [LogLine.last_append]
        exact knows.peer
  | remoteAddress a =>
      refine knows.announce (.remoteAddress a) ?_ ?_
      · rw [LogLine.last_append]
        exact knows.here
      · rw [LogLine.last_append]
        rfl
  | other =>
      refine ⟨?_, ?_, ?_⟩
      · rw [LogLine.last_append]
        exact knows.here
      · rw [LogLine.last_append]
        exact knows.peer
      · intro e
        simp only [LogLine.completes_other]
        exact knows.announced e

end Knows

theorem takeBytes_of_text (text : isText line = true) : r.takeBytes line = r.take (heard line) := by
  unfold takeBytes heard
  obtain ⟨s, decoded⟩ := Option.isSome_iff_exists.mp text
  rw [decoded]

theorem takeBytes_of_garbled (garbled : isText line = false) :
    r.takeBytes line = { r with isOpen := false } := by
  unfold takeBytes
  rw [Option.not_isSome_iff_eq_none.mp (Bool.eq_false_iff.mp garbled)]

theorem takeBytes_pending (r : LogReader) (line : Bytes) :
    (r.takeBytes line).pending = r.pending := by
  cases text : isText line with
  | true =>
      rw [takeBytes_of_text text]
      exact take_pending r _
  | false => rw [takeBytes_of_garbled text]

/-! ### Lines one after another -/

theorem readable_take (lines : List Bytes) (j : Nat) :
    readable (lines.take j) = (readable lines).take j := by
  unfold readable
  rw [← List.take_takeWhile, List.map_take]

theorem takeWhile_isText (texts : lines.all isText = true) : lines.takeWhile isText = lines :=
  List.takeWhile_eq_self_iff.mpr (List.all_eq_true.mp texts)

theorem readable_concat_of_text (texts : lines.all isText = true) (text : isText line = true) :
    readable (lines ++ [line]) = readable lines ++ [heard line] := by
  have longer : (lines ++ [line]).all isText = true := by
    rw [List.all_append, texts, List.all_cons, text]
    rfl
  unfold readable
  rw [takeWhile_isText texts, takeWhile_isText longer, List.map_append]
  rfl

theorem readable_concat_of_garbled (garbled : (lines ++ [line]).all isText = false) :
    readable (lines ++ [line]) = readable lines := by
  unfold readable
  congr 1
  cases texts : lines.all isText with
  | true =>
      have last : ¬ isText line = true := by
        intro text
        rw [List.all_append, texts, List.all_cons, text] at garbled
        cases garbled
      rw [List.takeWhile_append_of_pos (List.all_eq_true.mp texts),
        List.takeWhile_cons_of_neg last, takeWhile_isText texts, List.append_nil]
  | false =>
      have short : (lines.takeWhile isText).length ≠ lines.length := by
        intro whole
        have same := (List.takeWhile_prefix isText).eq_of_length whole
        rw [List.takeWhile_eq_self_iff, ← List.all_eq_true, texts] at same
        cases same
      rw [List.takeWhile_append, if_neg short]

/-- A reader that has gone through lines, up to the first one that is no text. -/
structure Reads (lines : List Bytes) (r : LogReader) : Prop where
  isOpen : r.isOpen = lines.all isText
  knows : Knows (readable lines) r

namespace Reads

theorem takeBytes (reads : Reads lines r) (isOpen : r.isOpen = true) (line : Bytes) :
    Reads (lines ++ [line]) (r.takeBytes line) := by
  have texts := reads.isOpen.symm.trans isOpen
  cases text : isText line with
  | true =>
      rw [takeBytes_of_text text]
      constructor
      · rw [take_isOpen, isOpen, List.all_append, texts, List.all_cons, text]
        rfl
      · rw [readable_concat_of_text texts text]
        exact reads.knows.take _
  | false =>
      have garbled : (lines ++ [line]).all isText = false := by simp [text]
      rw [takeBytes_of_garbled text]
      constructor
      · exact garbled.symm
      · rw [readable_concat_of_garbled garbled]
        exact reads.knows.frame _ _

/-- A reader that reads no more passes over what follows. -/
theorem closed (reads : Reads lines r) (closed : r.isOpen = false) (line : Bytes) :
    Reads (lines ++ [line]) r := by
  have garbled : (lines ++ [line]).all isText = false := by
    rw [List.all_append, ← reads.isOpen, closed, Bool.false_and]
  constructor
  · rw [garbled, closed]
  · rw [readable_concat_of_garbled garbled]
    exact reads.knows

end Reads

/-! ### Byte after byte -/

theorem feedByte_of_closed (closed : r.isOpen = false) (b : UInt8) : r.feedByte b = r := by
  unfold feedByte
  rw [closed]
  rfl

theorem feedByte_lineFeed (isOpen : r.isOpen = true) :
    r.feedByte lineFeed =
      { r with pending := [] }.takeBytes (withoutReturn r.pending.reverse) := by
  have line : (if r.pending.head? = some carriageReturn then r.pending.tail
      else r.pending).reverse = withoutReturn r.pending.reverse := by
    unfold withoutReturn
    rw [List.getLast?_reverse, List.dropLast_reverse]
    split
    · rfl
    · rfl
  unfold feedByte
  rw [isOpen, ← line]
  rfl

theorem feedByte_inside (isOpen : r.isOpen = true) {b : UInt8} (inside : b ≠ lineFeed) :
    r.feedByte b = { r with pending := b :: r.pending } := by
  unfold feedByte
  rw [isOpen, if_neg inside]
  rfl

theorem feed_concat (log : Bytes) (b : UInt8) :
    new.feed (log ++ [b]) = (new.feed log).feedByte b := by
  unfold feed
  rw [List.foldl_append]
  rfl

/-- A reader of a log that has not ended. As long as it reads on, it keeps what has been read of the
line that has not ended. -/
structure Follows (log : Bytes) (r : LogReader) : Prop where
  reads : Reads (endedLines log) r
  pending : r.isOpen = true → r.pending = (openLine log).reverse

theorem Follows.feedByte (follows : Follows log r) (b : UInt8) :
    Follows (log ++ [b]) (r.feedByte b) := by
  obtain ⟨reads, pending⟩ := follows
  cases isOpen : r.isOpen with
  | false =>
      -- the lines go on without the reader, after one that was no text
      rw [feedByte_of_closed isOpen]
      by_cases ends : b = lineFeed
      · rw [ends]
        constructor
        · rw [(lines_lineFeed log).1]
          exact reads.closed isOpen _
        · simp [isOpen]
      · constructor
        · rw [(lines_inside log ends).1]
          exact reads
        · simp [isOpen]
  | true =>
      by_cases ends : b = lineFeed
      · obtain ⟨ended, rest⟩ := lines_lineFeed log
        have line : r.pending.reverse = openLine log := by
          rw [pending isOpen, List.reverse_reverse]
        have kept : Reads (endedLines log) { r with pending := [] } :=
          ⟨reads.isOpen, reads.knows.frame _ _⟩
        rw [ends, feedByte_lineFeed isOpen, line]
        constructor
        · rw [ended]
          exact kept.takeBytes isOpen _
        · intro _
          rw [rest, takeBytes_pending]
          rfl
      · obtain ⟨ended, rest⟩ := lines_inside log ends
        rw [feedByte_inside isOpen ends]
        constructor
        · rw [ended]
          exact ⟨reads.isOpen, reads.knows.frame _ _⟩
        · intro _
          rw [rest, List.reverse_append, ← pending isOpen]
          rfl

theorem follows_feed (log : Bytes) : Follows log (new.feed log) := by
  induction log using List.reverseRecOn with
  | nil => exact ⟨⟨rfl, Knows.new⟩, fun _ => rfl⟩
  | append_singleton log b ih =>
      rw [feed_concat]
      exact ih.feedByte b

theorem finish_of_closed (closed : r.isOpen = false) : r.finish = r := by
  unfold finish
  rw [closed]
  rfl

theorem finish_of_ended (isOpen : r.isOpen = true) (nothing : r.pending = []) :
    r.finish = { r with pending := [], isOpen := false } := by
  unfold finish
  rw [isOpen, nothing]
  rfl

theorem finish_of_pending (isOpen : r.isOpen = true) (something : r.pending ≠ []) :
    r.finish = { r.takeBytes r.pending.reverse with pending := [], isOpen := false } := by
  have filled : r.pending.isEmpty = false := by simpa using something
  unfold finish
  rw [isOpen, filled]
  rfl

/-- What follows the last end of a line is taken as the log ends. -/
theorem Follows.finish (follows : Follows log r) : Knows (readable (allLines log)) r.finish := by
  obtain ⟨reads, pending⟩ := follows
  unfold allLines
  cases isOpen : r.isOpen with
  | false =>
      rw [finish_of_closed isOpen]
      by_cases nothing : openLine log = []
      · rw [if_pos nothing]
        exact reads.knows
      · rw [if_neg nothing]
        exact (reads.closed isOpen _).knows
  | true =>
      have line : r.pending.reverse = openLine log := by
        rw [pending isOpen, List.reverse_reverse]
      by_cases nothing : openLine log = []
      · have ended : r.pending = [] := by
          rw [pending isOpen, nothing]
          rfl
        rw [if_pos nothing, finish_of_ended isOpen ended]
        exact reads.knows.frame _ _
      · have something : r.pending ≠ [] := by
          intro ended
          rw [ended] at line
          exact nothing line.symm
        rw [if_neg nothing, finish_of_pending isOpen something, line]
        exact (reads.takeBytes isOpen _).knows.frame _ _

/-! ### Reports -/

theorem knows_reading (log : Bytes) (n : Nat) :
    Knows (readable (linesBy log n)) (reading log n) := by
  unfold linesBy reading
  by_cases within : n ≤ log.length
  · rw [if_pos within, if_pos within]
    exact (follows_feed _).reads.knows
  · rw [if_neg within, if_neg within]
    exact (follows_feed log).finish

theorem announced_reading_iff : (reading log n).announced = some e ↔
    ∃ k < (linesBy log n).length, Completes (readable (allLines log)) k e := by
  have read : readable (linesBy log n) =
      (readable (allLines log)).take (linesBy log n).length := by
    rw [← readable_take, ← linesBy_eq_take]
  rw [(knows_reading log n).announced, read]
  simp only [LogLine.completes_take]

theorem reports_iff : Reports log n e ↔
    ∃ k, EndsLine log k n ∧ Completes (readable (allLines log)) k e := by
  unfold Reports EndsLine
  rw [Ne, announced_reading_iff, announced_reading_iff]
  constructor
  · rintro ⟨before, k, ended, completes⟩
    refine ⟨k, ⟨?_, ended⟩, completes⟩
    apply Nat.le_of_not_lt
    intro earlier
    exact before ⟨k, earlier, completes⟩
  · rintro ⟨k, ⟨unended, ended⟩, completes⟩
    refine ⟨?_, k, ended, completes⟩
    rintro ⟨j, earlier, same⟩
    obtain ⟨rfl, -⟩ := same.unique completes
    exact Nat.not_lt.mpr unended earlier

/-- Lines of a log of which the reports are known are told, and once. -/
theorem told_of_reported (present : told.length ≤ (allLines log).length)
    (reported : ∀ n e, Reports log n e ↔ ∃ k, EndsLine log k n ∧ Completes told k e) :
    Told log told := by
  refine ⟨reported, ?_, ?_⟩
  · intro both
    obtain ⟨k, e, completes⟩ := LogLine.exists_completes (LogLine.namesBoth_iff.mp both)
    obtain ⟨n, ends⟩ := exists_endsLine (Nat.lt_of_lt_of_le completes.lt_length present)
    refine ⟨(n, e), (reported n e).mpr ⟨k, ends, completes⟩, ?_⟩
    rintro ⟨n', e'⟩ report
    obtain ⟨k', ends', completes'⟩ := (reported n' e').mp report
    obtain ⟨rfl, rfl⟩ := completes'.unique completes
    rw [ends'.unique ends]
  · intro missing n e report
    obtain ⟨k, -, completes⟩ := (reported n e).mp report
    exact missing (LogLine.namesBoth_iff.mpr (LogLine.known_of_completes completes))

/-! ### Lines that are no texts -/

theorem readable_eq_take (lines : List Bytes) :
    readable lines = (skimmed lines).take (lines.takeWhile isText).length := by
  unfold readable skimmed
  rw [← List.map_take, ← List.prefix_iff_eq_take.mp (List.takeWhile_prefix isText)]

theorem heard_of_garbled (garbled : isText line = false) : heard line = .other := by
  unfold heard
  rw [Option.not_isSome_iff_eq_none.mp (Bool.eq_false_iff.mp garbled)]

/-- A line that makes both addresses known is a text. -/
theorem isText_of_completes (completes : Completes (skimmed lines) k e)
    (present : k < lines.length) : isText lines[k] = true := by
  cases text : isText lines[k] with
  | true => rfl
  | false =>
      have other : (skimmed lines)[k]? = some .other := by
        unfold skimmed
        rw [List.getElem?_map, List.getElem?_eq_getElem present, Option.map_some,
          heard_of_garbled text]
      exact (completes.ne_other other).elim

/-- Such a line is read if the lines before it are texts as well. -/
theorem completes_readable_iff : Completes (readable lines) k e ↔
    Completes (skimmed lines) k e ∧ ∀ line ∈ lines.take k, isText line = true := by
  rw [readable_eq_take, LogLine.completes_take]
  constructor
  · -- the line is read, so everything before it is within the texts at the start
    rintro ⟨within, completes⟩
    refine ⟨completes, ?_⟩
    intro line member
    have read : lines.takeWhile isText = lines.take (lines.takeWhile isText).length :=
      List.prefix_iff_eq_take.mp (List.takeWhile_prefix isText)
    have same : (lines.takeWhile isText).take k = lines.take k := by
      rw [read, List.take_take, Nat.min_eq_left (Nat.le_of_lt within)]
    rw [← same] at member
    exact List.mem_takeWhile_imp (List.mem_of_mem_take member)
  · -- it is a text itself, so the texts at the start go on to it
    rintro ⟨completes, before⟩
    refine ⟨?_, completes⟩
    have present : k < lines.length := by
      have short := completes.lt_length
      rwa [skimmed, List.length_map] at short
    have texts : (lines.take (k + 1)).all isText = true := by
      rw [List.take_add_one, List.getElem?_eq_getElem present, Option.toList_some,
        List.all_append, List.all_eq_true.mpr before, List.all_cons,
        isText_of_completes completes present]
      rfl
    have same := congrArg List.length (takeWhile_isText texts)
    rw [← List.take_takeWhile, List.length_take, List.length_take] at same
    omega

/-- The reports about a log are those of the lines up to the first one that is no text. They are
those of all lines, with the ones that are no texts passed over, exactly when none of these stands
before the line that makes both addresses known. -/
theorem log_told_iff (log : Bytes) :
    Told log (readable (allLines log)) ∧
    (Told log (skimmed (allLines log)) ↔
      ∀ k e, Completes (skimmed (allLines log)) k e →
        ∀ line ∈ (allLines log).take k, isText line = true) := by
  have short : (readable (allLines log)).length ≤ (allLines log).length := by
    unfold readable
    rw [List.length_map]
    exact (List.takeWhile_prefix isText).length_le
  have whole : (skimmed (allLines log)).length ≤ (allLines log).length :=
    Nat.le_of_eq (List.length_map _)
  refine ⟨told_of_reported short fun n e => reports_iff, ?_⟩
  constructor
  · -- the report that is due has to come from the lines that are read, hence from the same one
    intro all k e completes
    obtain ⟨n, ends⟩ := exists_endsLine (Nat.lt_of_lt_of_le completes.lt_length whole)
    have report := (all.reported n e).mpr ⟨k, ends, completes⟩
    obtain ⟨k', -, read⟩ := reports_iff.mp report
    obtain ⟨passed, texts⟩ := completes_readable_iff.mp read
    obtain ⟨rfl, -⟩ := passed.unique completes
    exact texts
  · intro texts
    apply told_of_reported whole
    intro n e
    rw [reports_iff]
    constructor
    · rintro ⟨k, ends, read⟩
      exact ⟨k, ends, (completes_readable_iff.mp read).1⟩
    · rintro ⟨k, ends, completes⟩
      exact ⟨k, ends, completes_readable_iff.mpr ⟨completes, texts k e completes⟩⟩

/-- A log with a line that is no text before the two addresses. -/
def garbled : Bytes :=
  [0xFF, lineFeed] ++ Text.encode "local IP address 10.1.1.2\nremote IP address 10.1.1.1\n".toList

/-- It names both addresses in its second and third line, and nothing is ever reported. -/
theorem garbled_line_silences :
    Completes (skimmed (allLines garbled)) 2 (.up ⟨10, 1, 1, 2⟩ ⟨10, 1, 1, 1⟩ .broadcast) ∧
    (∀ n e, ¬ Reports garbled n e) ∧ ¬ Told garbled (skimmed (allLines garbled)) := by
  have told : skimmed (allLines garbled) =
      [.other, .localAddress ⟨10, 1, 1, 2⟩, .remoteAddress ⟨10, 1, 1, 1⟩] := by decide +kernel
  have read : readable (allLines garbled) = [] := by decide +kernel
  have completes : Completes (skimmed (allLines garbled)) 2
      (.up ⟨10, 1, 1, 2⟩ ⟨10, 1, 1, 1⟩ .broadcast) := by
    rw [told]
    exact ⟨rfl, rfl⟩
  have silent : ∀ n e, ¬ Reports garbled n e := by
    intro n e report
    obtain ⟨k, -, none⟩ := reports_iff.mp report
    rw [read] at none
    exact Nat.not_lt_zero k none.lt_length
  refine ⟨completes, silent, ?_⟩
  intro all
  have both : NamesBoth (skimmed (allLines garbled)) :=
    LogLine.namesBoth_iff.mpr (LogLine.known_of_completes completes)
  obtain ⟨report, made, -⟩ := all.once both
  exact silent report.1 report.2 made

end BridgeWarden.Link.LogReader

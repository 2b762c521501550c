import BridgeWarden.Rehearsal.Dialing
import Mathlib.Data.List.Forall2

/-!
What the channel gets of the engine's output.

A channel takes the first bytes of what it is offered and says how many they were. `Round` lists
how the offers of one piece go on: nothing is left, the channel refuses, or it takes some and the
rest is offered next. Whatever a round comes to follows from these three by induction: the channel
took a prefix of the piece, each offer began where the bytes taken so far ended, and only a refusal,
the last offer of its round, leaves something behind (`Handed`). `forward` puts rounds one after
another, one for each piece, and its record is the channel's own answers (`Answered`).
-/

namespace BridgeWarden.Link

open Text (Bytes)

variable {σ : Type} {send : σ → Bytes → σ × Nat} {s s' s'' : σ}
variable {piece : Bytes} {offers later : List Handover}

theorem takenBytes_cons (h : Handover) (offers : List Handover) :
    takenBytes (h :: offers) = h.bytes.take h.taken ++ takenBytes offers :=
  List.flatMap_cons

theorem takenBytes_flatten (rounds : List (List Handover)) :
    takenBytes rounds.flatten = (rounds.map takenBytes).flatten := by
  induction rounds with
  | nil => rfl
  | cons round rest ih =>
      rw [List.map_cons, List.flatten_cons, List.flatten_cons, ← ih]
      exact List.flatMap_append

/-! ### The channel's answers -/

/-- Offers, each with what the channel says to it in the state that the ones before it have left. -/
inductive Answered (send : σ → Bytes → σ × Nat) : σ → List Handover → σ → Prop where
  | nil {s : σ} : Answered send s [] s
  | cons {s s' s'' : σ} {h : Handover} {later : List Handover}
      (answer : send s h.bytes = (s', h.taken)) (answered : Answered send s' later s'') :
      Answered send s (h :: later) s''

theorem Answered.append (first : Answered send s offers s') (second : Answered send s' later s'') :
    Answered send s (offers ++ later) s'' := by
  induction first with
  | nil => exact second
  | cons answer _ ih => exact .cons answer (ih second)

theorem answered_of_forwardPiece (send : σ → Bytes → σ × Nat) (s : σ) (piece : Bytes) :
    Answered send s (forwardPiece send s piece).2 (forwardPiece send s piece).1 := by
  fun_induction forwardPiece send s piece with
  | case1 => exact .nil
  | case2 s piece something s' answer => exact .cons answer .nil
  | case3 s piece something s' k answer positive s'' handovers more ih =>
      rw [more] at ih
      exact .cons answer ih

/-! ### The offers of one piece -/

/-- The offers of a piece, as the channel lets them go on. -/
inductive Round : Bytes → List Handover → Prop where
  | done : Round [] []
  | refused {piece : Bytes} (something : piece ≠ []) : Round piece [⟨piece, 0⟩]
  | taken {piece : Bytes} {k : Nat} {later : List Handover} (positive : 0 < k)
      (within : k ≤ piece.length) (round : Round (piece.drop k) later) :
      Round piece (⟨piece, k⟩ :: later)

/-- What becomes of a piece. -/
structure Handed (piece : Bytes) (offers : List Handover) : Prop where
  /-- The channel took a prefix of it. -/
  took : takenBytes offers <+: piece
  /-- It took all of it, unless it refused an offer. -/
  whole : (∀ h ∈ offers, h.taken ≠ 0) → takenBytes offers = piece
  /-- A refusal drops what was offered, and that is all that the channel did not take. -/
  dropped : ∀ h ∈ offers, h.taken = 0 → h.bytes ≠ [] ∧ takenBytes offers ++ h.bytes = piece
  /-- Each offer is what the ones before it have left, so no byte is taken twice or passed over. -/
  next : ∀ earlier h later, offers = earlier ++ h :: later → takenBytes earlier ++ h.bytes = piece
  /-- The offers come to an end. -/
  bounded : offers.length ≤ piece.length

namespace Round

theorem took (round : Round piece offers) : takenBytes offers <+: piece := by
  induction round with
  | done => exact List.nil_prefix
  | refused => exact List.nil_prefix
  | @taken piece k later _ _ _ ih =>
      rw [takenBytes_cons]
      calc piece.take k ++ takenBytes later
        _ <+: piece.take k ++ piece.drop k := (List.prefix_append_right_inj _).mpr ih
        _ = piece := List.take_append_drop k piece

theorem whole (round : Round piece offers) (unrefused : ∀ h ∈ offers, h.taken ≠ 0) :
    takenBytes offers = piece := by
  induction round with
  | done => rfl
  | refused => exact (unrefused _ List.mem_cons_self rfl).elim
  | @taken piece k later _ _ _ ih =>
      have rest := ih fun h member => unrefused h (List.mem_cons_of_mem _ member)
      rw [takenBytes_cons, rest, List.take_append_drop]

theorem dropped (round : Round piece offers) {h : Handover} (member : h ∈ offers)
    (refused : h.taken = 0) : h.bytes ≠ [] ∧ takenBytes offers ++ h.bytes = piece := by
  induction round with
  | done => cases member
  | refused something =>
      rw [List.mem_singleton] at member
      subst member
      exact ⟨something, rfl⟩
  | @taken piece k later positive _ _ ih =>
      rcases List.mem_cons.mp member with rfl | member
      · exact (Nat.ne_of_gt positive refused).elim
      · obtain ⟨something, rest⟩ := ih member
        refine ⟨something, ?_⟩
        rw [takenBytes_cons, List.append_assoc, rest, List.take_append_drop]

theorem next (round : Round piece offers) {earlier later : List Handover} {h : Handover}
    (split : offers = earlier ++ h :: later) : takenBytes earlier ++ h.bytes = piece := by
  induction round generalizing earlier with
  | done => simp at split
  | refused =>
      cases earlier with
      | nil =>
          cases split
          rfl
      | cons => simp at split
  | @taken piece k rest _ _ _ ih =>
      cases earlier with
      | nil =>
          cases split
          rfl
      | cons first earlier =>
          cases split
          rw [takenBytes_cons, List.append_assoc, ih rfl, List.take_append_drop]

theorem bounded (round : Round piece offers) : offers.length ≤ piece.length := by
  induction round with
  | done => exact Nat.le_refl _
  | refused something => exact List.length_pos_iff.mpr something
  | taken positive within _ ih =>
      rw [List.length_drop] at ih
      rw [List.length_cons]
      omega

theorem handed (round : Round piece offers) : Handed piece offers :=
  { took := round.took
    whole := round.whole
    dropped := fun _ member refused => round.dropped member refused
    next := fun _ _ _ split => round.next split
    bounded := round.bounded }

end Round

theorem round_of_forwardPiece (modest : ∀ s bytes, (send s bytes).2 ≤ bytes.length) (s : σ)
    (piece : Bytes) : Round piece (forwardPiece send s piece).2 := by
  fun_induction forwardPiece send s piece with
  | case1 => exact .done
  | case2 s piece something s' answer => exact .refused something
  | case3 s piece something s' k answer positive s'' handovers more ih =>
      have within := modest s piece
      rw [answer] at within
      rw [more] at ih
      exact .taken (Nat.pos_of_ne_zero positive) within ih

/-! ### Piece after piece -/

/-- Whatever a channel does that takes no more than it is offered, every piece has its round of
offers, in order and with the channel's answers; the channel took a prefix of each piece, all of it
unless it refused an offer, and nothing else. -/
theorem output_handed_over (modest : ∀ s bytes, (send s bytes).2 ≤ bytes.length) (s : σ)
    (pieces : List Bytes) :
    ∃ rounds : List (List Handover),
      (forward send s pieces).2 = rounds.flatten ∧
      Answered send s rounds.flatten (forward send s pieces).1 ∧
      List.Forall₂ Handed pieces rounds ∧
      takenBytes (forward send s pieces).2 = (rounds.map takenBytes).flatten := by
  induction pieces generalizing s with
  | nil => exact ⟨[], rfl, .nil, .nil, rfl⟩
  | cons piece rest ih =>
      have first := answered_of_forwardPiece send s piece
      have round := round_of_forwardPiece modest s piece
      obtain ⟨rounds, same, answered, handed, -⟩ := ih (forwardPiece send s piece).1
      have recorded : (forward send s (piece :: rest)).2 =
          ((forwardPiece send s piece).2 :: rounds).flatten := by
        rw [List.flatten_cons, ← same]
        rfl
      refine ⟨(forwardPiece send s piece).2 :: rounds, recorded, ?_, ?_, ?_⟩
      · rw [List.flatten_cons]
        exact first.append answered
      · exact .cons round.handed handed
      · rw [recorded]
        exact takenBytes_flatten _

open Rehearsal (Appetite)

theorem taken_le_offered (plan : Appetite) (bytes : Bytes) :
    (plan.send bytes).2 ≤ bytes.length := by
  cases plan with
  | nil => exact Nat.le_refl _
  | cons => exact Nat.min_le_right _ _

/-- A channel that takes two bytes, then none, then one: the first piece loses its last byte, and
the second one still gets through in two offers. -/
theorem refused_piece_handed_over :
    (∀ plan bytes, (Appetite.send plan bytes).2 ≤ bytes.length) ∧
    (forward Appetite.send [2, 0, 1] [[1, 2, 3], [4, 5]]).2 =
      [⟨[1, 2, 3], 2⟩, ⟨[3], 0⟩, ⟨[4, 5], 1⟩, ⟨[5], 1⟩] ∧
    ∃ rounds : List (List Handover),
      (forward Appetite.send [2, 0, 1] [[1, 2, 3], [4, 5]]).2 = rounds.flatten ∧
      Answered Appetite.send [2, 0, 1] rounds.flatten
        (forward Appetite.send [2, 0, 1] [[1, 2, 3], [4, 5]]).1 ∧
      List.Forall₂ Handed [[1, 2, 3], [4, 5]] rounds ∧
      takenBytes (forward Appetite.send [2, 0, 1] [[1, 2, 3], [4, 5]]).2 =
        (rounds.map takenBytes).flatten := by
  refine ⟨taken_le_offered, ?_, output_handed_over taken_le_offered _ _⟩
  simp [forward, forwardPiece, Appetite.send]

end BridgeWarden.Link

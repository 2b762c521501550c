import BridgeWarden.Text.Utf8

/-!
The link engine's output on its way to the channel. It is read in pieces of limited size; each is
offered to the channel until all of it was taken, or until the channel takes nothing, which drops
what is left of the piece.
-/

namespace BridgeWarden.Link

open Text (Bytes)

/-- The greatest piece of output read at once. -/
def pieceLimit : Nat := 512

/-- Output as it is read: pieces of the greatest size, but for the last. -/
def outputPieces (output : Bytes) : List Bytes :=
  if output.isEmpty then []
  else output.take pieceLimit :: outputPieces (output.drop pieceLimit)
termination_by output.length
decreasing_by
  have : output.length ≠ 0 := by simp_all
  simp only [pieceLimit, List.length_drop]
  omega

/-- Bytes offered to the channel, and how many of them it took. -/
structure Handover where
  bytes : Bytes
  taken : Nat
  deriving DecidableEq, Inhabited

/-- Offers a piece to a channel, whose state is `σ`: `send` says how many of the bytes it takes. -/
def forwardPiece {σ : Type} (send : σ → Bytes → σ × Nat) (s : σ) (piece : Bytes) :
    σ × List Handover :=
  if _empty : piece = [] then (s, [])
  else
    let (s', k) := send s piece
    if k = 0 then (s', [⟨piece, 0⟩])
    else
      let (s'', handovers) := forwardPiece send s' (piece.drop k)
      (s'', ⟨piece, k⟩ :: handovers)
termination_by piece.length
decreasing_by
  have := List.length_pos_iff.2 _empty
  simp only [List.length_drop]
  omega

/-- Offers pieces one after another. -/
def forward {σ : Type} (send : σ → Bytes → σ × Nat) (s : σ) :
    List Bytes → σ × List Handover
  | [] => (s, [])
  | piece :: rest =>
      let (s', handovers) := forwardPiece send s piece
      let (s'', more) := forward send s' rest
      (s'', handovers ++ more)

/-- What the channel took, in order. -/
def takenBytes (handovers : List Handover) : Bytes :=
  handovers.flatMap fun h => h.bytes.take h.taken

end BridgeWarden.Link

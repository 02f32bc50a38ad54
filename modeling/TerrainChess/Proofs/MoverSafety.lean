import TerrainChess.Proofs.Run

/-!
# Safety of the side that has moved

A legal move is judged on a position that stands before it, with the moves of
one turn recorded. `Match.mover_safe_of_play` carries the judgement to the board
on which the move has been made: no piece of the opponent threatens the royal
piece of the mover, and that piece does not break its encounter rule.
-/

set_option autoImplicit false

namespace TerrainChess

namespace Position

theorem mem_legal_turnMoves_of_own {position : Position} {us : Side} {square target : Square}
    {piece : Piece} (owned : piece.side = us) :
    target ∈ (position.turnMoves us square piece).legal ↔
      target ∈ (position.generated us (some (position.hostileZone us)) square piece).legal ∧
        position.isSafeMove square target = true := by
  unfold turnMoves
  rw [if_pos owned]
  exact OrderedSet.mem_filter

theorem isSafeFor_iff {position : Position} {side : Side} :
    position.isSafeFor side = true ↔
      position.threatensRoyal side.opponent = false ∧ position.royalExposed side = false := by
  simp only [isSafeFor, Bool.and_eq_true, Bool.not_eq_true']

theorem isSafeFor_move_of_isSafeMove {position : Position} {start target : Square} {mover : Piece}
    (standing : position.pieceAt start = some mover)
    (safe : position.isSafeMove start target = true) :
    (position.move start target).isSafeFor mover.side = true := by
  unfold isSafeMove at safe
  rw [standing] at safe
  dsimp only at safe
  split at safe
  · exact safe
  · cases safe

/-- A side that may be left in a position is not in check there. -/
theorem inCheck_eq_false_of_isSafeFor {position : Position} {side : Side}
    (safe : position.isSafeFor side = true) : position.inCheck side = false := by
  obtain ⟨unthreatened, unexposed⟩ := isSafeFor_iff.mp safe
  have reported : (position.sideReport side.opponent none).threatensRoyal = false := by
    cases threat : (position.sideReport side.opponent none).threatensRoyal with
    | false => rfl
    | true => exact absurd (threatensRoyal_of_sideReport threat) (by rw [unthreatened]; decide)
  rw [inCheck, reported, unexposed]
  rfl

end Position

namespace Match

/-- An accepted move of a settled match leaves the mover in a position in which it may be left. -/
theorem Settled.isSafeFor_of_play {game next : Match} {start target : Square}
    {record : MoveRecord} (settled : game.Settled)
    (accepted : game.play start target = .ok (record, next)) :
    next.board.position.isSafeFor game.sideToMove = true := by
  obtain ⟨_, mover, standing, owned, legal, _⟩ := play_eq_ok_iff.mp accepted
  have stands := Board.stands_of_occupantAt standing
  rw [settled.moves_eq standing, Position.mem_legal_turnMoves_of_own owned] at legal
  rw [position_of_play accepted, ← owned]
  exact Position.isSafeFor_move_of_isSafeMove stands.2 legal.2

/-- After every accepted move of a run, the opponent threatens no royal piece of the side that has
moved, and that side is not exposed to a forbidden encounter. A match started anew from the board
with that side to move finds it out of check, as the match has recorded. -/
theorem mover_safe_of_play (board : Board) (first : Side) (calls : List (Square × Square))
    {start target : Square} {record : MoveRecord} {next : Match}
    (accepted : ((Match.start board first).run calls).play start target = .ok (record, next)) :
    record.side = ((Match.start board first).run calls).sideToMove ∧
      next.board.position.threatensRoyal record.side.opponent = false ∧
      next.board.position.royalExposed record.side = false ∧
      (Match.start next.board record.side).inCheck.get record.side = false ∧
      next.inCheck.get record.side = false := by
  have mover : record.side = ((Match.start board first).run calls).sideToMove := by
    obtain ⟨_, _, _, _, _, _, _, _, _, rfl, _⟩ := play_eq_ok_iff.mp accepted
    rfl
  have safe := (settled_run board first calls).isSafeFor_of_play accepted
  rw [← mover] at safe
  obtain ⟨unthreatened, unexposed⟩ := Position.isSafeFor_iff.mp safe
  refine ⟨mover, unthreatened, unexposed, ?_, ?_⟩
  · have anew := (settled_start next.board record.side).mover
    rw [position_start] at anew
    exact anew.trans (Position.inCheck_eq_false_of_isSafeFor safe)
  · have waiting := (settled_of_play accepted).waiting
    rw [sideToMove_of_play accepted, Side.opponent_opponent, ← mover] at waiting
    exact waiting

/-- The rook may not leave the column of the kings, and it may move along it. -/
theorem mover_safe_after_screen_moves :
    ∃ record next,
      (Miniature.game.run [(⟨1, 1⟩, ⟨0, 1⟩)]).play ⟨1, 1⟩ ⟨1, 2⟩ = .ok (record, next) ∧
        record.side = (Miniature.game.run [(⟨1, 1⟩, ⟨0, 1⟩)]).sideToMove ∧
        next.board.position.threatensRoyal record.side.opponent = false ∧
        next.board.position.royalExposed record.side = false ∧
        (Match.start next.board record.side).inCheck.get record.side = false ∧
        next.inCheck.get record.side = false := by
  obtain ⟨record, next, accepted⟩ := exists_of_isOk_play
    (show ((Miniature.game.run [(⟨1, 1⟩, ⟨0, 1⟩)]).play ⟨1, 1⟩ ⟨1, 2⟩).isOk = true by
      decide +kernel)
  exact ⟨record, next, accepted, mover_safe_of_play Miniature.board .red _ accepted⟩

end Match

end TerrainChess

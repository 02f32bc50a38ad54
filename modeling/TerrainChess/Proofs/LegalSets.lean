import TerrainChess.Proofs.Run

/-!
# Exactness of the recorded moves

If each side has one royal piece at most, every piece is generated, and a match
records for every piece exactly what generation gives on the board as it stands:
`Match.recorded_moves_exact`. Only the legal moves of the side to move are
restricted, to those that do not leave that side unsafe.
-/

set_option autoImplicit false

namespace TerrainChess

namespace Position

/-- Recorded moves are the generated ones without the legal moves that leave their side unsafe. -/
structure RestrictsToSafe (position : Position) (square : Square) (generated recorded : Moves) :
    Prop where
  legal : ∀ target, target ∈ recorded.legal ↔
    target ∈ generated.legal ∧ position.isSelfCheckAfter square target = false
  threatened : recorded.threatened = generated.threatened
  threatensRoyal : recorded.threatensRoyal = generated.threatensRoyal

theorem SingleRoyals.restrictsToSafe_turnMoves {position : Position}
    (single : position.SingleRoyals) {us : Side} {square : Square} {piece : Piece}
    (stands : position.Stands square piece) (owned : piece.side = us) :
    position.RestrictsToSafe square
      (position.reachFrom (some (position.hostileZone us)) piece square).moves
      (position.turnMoves us square piece) := by
  rw [single.turnMoves_of_own stands owned]
  refine ⟨?_, rfl, rfl⟩
  intro target
  rw [isSelfCheckAfter, Bool.not_eq_false']
  exact OrderedSet.mem_filter

end Position

namespace Match

/-- On the current board of every match of a run, a piece of the side to move that is not royal has
the moves that generation gives for its square, less the unsafe ones; a royal piece of that side
has those that generation gives with the squares covered by the opponent as hostile zone, less the
unsafe ones; and a piece of the opponent has exactly what generation gives for its square. -/
theorem recorded_moves_exact (board : Board) (single : board.position.SingleRoyals) (first : Side)
    (calls : List (Square × Square)) :
    let game := (Match.start board first).run calls
    let position := game.board.position
    let zone := (game.board.generateSide game.sideToMove.opponent none).2.covered
    ∀ square occupant, game.board.occupantAt square = some occupant →
      (occupant.piece.side = game.sideToMove → occupant.piece.isRoyal = false →
        ∃ moves, position.moves? square = some moves ∧
          position.RestrictsToSafe square moves occupant.moves) ∧
      (occupant.piece.side = game.sideToMove → occupant.piece.isRoyal = true →
        ∃ reach, position.reach? (some zone) square = some reach ∧
          position.RestrictsToSafe square reach.moves occupant.moves) ∧
      (occupant.piece.side = game.sideToMove.opponent →
        position.moves? square = some occupant.moves) := by
  intro game position zone square occupant standing
  have unique : position.SingleRoyals := singleRoyals_run single first calls
  have recorded : occupant.moves = position.turnMoves game.sideToMove square occupant.piece :=
    (settled_run board first calls).moves_eq standing
  have stands : position.Stands square occupant.piece := Board.stands_of_occupantAt standing
  rw [recorded, Position.moves?, Position.reach?_of_pieceAt stands.2,
    Position.reach?_of_pieceAt stands.2, Option.map_some]
  refine ⟨?_, ?_, ?_⟩
  · intro owned common
    refine ⟨_, rfl, ?_⟩
    rw [← Position.reachFrom_of_not_royal common]
    exact unique.restrictsToSafe_turnMoves stands owned
  · intro owned _
    exact ⟨_, rfl, unique.restrictsToSafe_turnMoves stands owned⟩
  · intro owned
    rw [unique.turnMoves_of_opponent stands owned]

/-- The pinned rook and the king of red, and the rook of black, at the start of the small match. The
pinned rook may go up its column, and a step off the column is struck out. -/
theorem recorded_moves_exact_miniature :
    let board := Miniature.game.board
    let zone := (board.generateSide .black none).2.covered
    (∃ pinned, board.occupantAt ⟨1, 1⟩ = some pinned ∧
        (∃ moves, board.position.moves? ⟨1, 1⟩ = some moves ∧ ⟨0, 1⟩ ∈ moves.legal ∧
          board.position.RestrictsToSafe ⟨1, 1⟩ moves pinned.moves) ∧
        ⟨0, 1⟩ ∉ pinned.moves.legal ∧ ⟨1, 2⟩ ∈ pinned.moves.legal) ∧
      (∃ king, board.occupantAt ⟨1, 0⟩ = some king ∧
        ∃ reach, board.position.reach? (some zone) ⟨1, 0⟩ = some reach ∧
          board.position.RestrictsToSafe ⟨1, 0⟩ reach.moves king.moves) ∧
      ∃ guard, board.occupantAt ⟨0, 3⟩ = some guard ∧
        board.position.moves? ⟨0, 3⟩ = some guard.moves := by
  have single : Miniature.board.position.SingleRoyals := by decide +kernel
  have recorded := recorded_moves_exact Miniature.board single .red []
  have pieces : Miniature.game.board.pieceAt ⟨1, 1⟩ = some ⟨Miniature.rook, .red⟩ ∧
      Miniature.game.board.pieceAt ⟨1, 0⟩ = some ⟨Miniature.king, .red⟩ ∧
      Miniature.game.board.pieceAt ⟨0, 3⟩ = some ⟨Miniature.rook, .black⟩ := by
    decide +kernel
  have generated : ∀ moves ∈ Miniature.game.board.position.moves? ⟨1, 1⟩,
      ⟨0, 1⟩ ∈ moves.legal ∧ ⟨1, 2⟩ ∈ moves.legal := by
    decide +kernel
  have safety : Miniature.game.board.position.isSelfCheckAfter ⟨1, 1⟩ ⟨0, 1⟩ = true ∧
      Miniature.game.board.position.isSelfCheckAfter ⟨1, 1⟩ ⟨1, 2⟩ = false := by
    decide +kernel
  have toMove : Miniature.game.sideToMove = .red := sideToMove_refresh _
  obtain ⟨pinned, pinnedStands, pinnedPiece⟩ := Option.map_eq_some_iff.mp pieces.1
  obtain ⟨king, kingStands, kingPiece⟩ := Option.map_eq_some_iff.mp pieces.2.1
  obtain ⟨guard, guardStands, guardPiece⟩ := Option.map_eq_some_iff.mp pieces.2.2
  obtain ⟨moves, same, restricted⟩ := (recorded ⟨1, 1⟩ pinned pinnedStands).1
    (by rw [pinnedPiece]; exact toMove.symm) (by rw [pinnedPiece]; rfl)
  obtain ⟨sideways, upwards⟩ := generated moves same
  refine ⟨⟨pinned, pinnedStands, ⟨moves, same, sideways, restricted⟩, ?_, ?_⟩,
    ⟨king, kingStands, ?_⟩, ⟨guard, guardStands, ?_⟩⟩
  · intro kept
    exact Bool.noConfusion (safety.1.symm.trans ((restricted.legal ⟨0, 1⟩).mp kept).2)
  · exact (restricted.legal ⟨1, 2⟩).mpr ⟨upwards, safety.2⟩
  · exact (recorded ⟨1, 0⟩ king kingStands).2.1 (by rw [kingPiece]; exact toMove.symm)
      (by rw [kingPiece]; rfl)
  · exact (recorded ⟨0, 3⟩ guard guardStands).2.2
      (by rw [guardPiece]; exact congrArg Side.opponent toMove.symm)

end Match

end TerrainChess

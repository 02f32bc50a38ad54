import TerrainChess.Match
import TerrainChess.Proofs.Generation

/-!
# The records of a turn

What a match records before a move is a function of the position and the side to
move. `Position.turnMoves`, `Position.inCheck` and `Position.verdict` are that
function, and `Match.Settled` says that a match records exactly these values.
`Match.settled_refresh` shows that generating the moves anew settles a match.
-/

set_option autoImplicit false

namespace TerrainChess

namespace Position

def generated (position : Position) (side : Side) (zone : Option SquareSet) (square : Square)
    (piece : Piece) : Moves :=
  if square ∈ position.generationOrder side then (position.reachFrom zone piece square).moves
  else Moves.none

/-- The squares that the opponent of the side to move covers. -/
def hostileZone (position : Position) (us : Side) : SquareSet :=
  (position.sideReport us.opponent none).covered

/-- The moves of the piece on a square when a side is to move: those of that side are restricted
to the safe ones, and its royal piece respects the hostile zone. -/
def turnMoves (position : Position) (us : Side) (square : Square) (piece : Piece) : Moves :=
  if piece.side = us then
    let moves := position.generated us (some (position.hostileZone us)) square piece
    { moves with legal := moves.legal.filter (position.isSafeMove square) }
  else position.generated us.opponent none square piece

def inCheck (position : Position) (us : Side) : Bool :=
  (position.sideReport us.opponent none).threatensRoyal || position.royalExposed us

def isStuck (position : Position) (us : Side) : Bool :=
  (position.piecesOf us).all (fun placed =>
    (position.turnMoves us placed.1 placed.2).legal.isEmpty)

def verdict (position : Position) (us : Side) : Option Outcome :=
  if position.isStuck us then
    some (if position.inCheck us then .checkmate us.opponent else .stalemate us.opponent)
  else none

theorem isStuck_iff {position : Position} {us : Side} :
    position.isStuck us = true ↔
      ∀ square piece, position.Stands square piece → piece.side = us →
        (position.turnMoves us square piece).legal.isEmpty = true := by
  simp only [isStuck, List.all_eq_true, mem_piecesOf, Prod.forall, and_imp]

theorem not_mem_generationOrder {position : Position} {side : Side} {square : Square}
    {piece : Piece} (standing : position.pieceAt square = some piece) (other : piece.side ≠ side) :
    square ∉ position.generationOrder side := by
  intro ordered
  obtain ⟨owner, stands, owned, _⟩ := mem_generationOrder.mp ordered
  have same : owner = piece := Option.some.inj (stands.2.symm.trans standing)
  exact other (same ▸ owned)

theorem mem_legal_of_mem_generated {position : Position} {side : Side} {zone : Option SquareSet}
    {square target : Square} {piece : Piece}
    (legal : target ∈ (position.generated side zone square piece).legal) :
    target ∈ (position.reachFrom zone piece square).moves.legal := by
  unfold generated at legal
  split at legal
  · exact legal
  · exact absurd legal (OrderedSet.not_mem_empty target)

theorem mem_legal_of_mem_turnMoves {position : Position} {us : Side} {square target : Square}
    {piece : Piece} (legal : target ∈ (position.turnMoves us square piece).legal) :
    ∃ zone, target ∈ (position.reachFrom zone piece square).moves.legal := by
  unfold turnMoves at legal
  dsimp only at legal
  split at legal
  · exact ⟨_, mem_legal_of_mem_generated (OrderedSet.mem_filter.mp legal).1⟩
  · exact ⟨_, mem_legal_of_mem_generated legal⟩

/-- A turn records legal moves to squares of the board only. -/
theorem contains_of_mem_legal_turnMoves {position : Position} {us : Side}
    {square target : Square} {piece : Piece}
    (legal : target ∈ (position.turnMoves us square piece).legal) :
    position.dims.Contains target := by
  obtain ⟨zone, reached⟩ := mem_legal_of_mem_turnMoves legal
  obtain ⟨_, _, inside, _⟩ := exists_path_of_mem_legal reached
  exact inside

namespace SingleRoyals

variable {position : Position} (single : position.SingleRoyals) {us : Side} {square : Square}
  {piece : Piece} (stands : position.Stands square piece)

include single stands

theorem generated_eq (zone : Option SquareSet) :
    position.generated piece.side zone square piece =
      (position.reachFrom zone piece square).moves := by
  unfold generated
  rw [if_pos ((single.ofSide piece.side).mem_generationOrder_iff.mpr ⟨piece, stands, rfl⟩)]

theorem turnMoves_of_own (owned : piece.side = us) :
    position.turnMoves us square piece =
      let moves := (position.reachFrom (some (position.hostileZone us)) piece square).moves
      { moves with legal := moves.legal.filter (position.isSafeMove square) } := by
  have generated := single.generated_eq stands (some (position.hostileZone us))
  rw [owned] at generated
  unfold turnMoves
  rw [if_pos owned, generated]

theorem turnMoves_of_opponent (owned : piece.side = us.opponent) :
    position.turnMoves us square piece = (position.reachFrom none piece square).moves := by
  unfold turnMoves
  rw [if_neg (owned ▸ Side.opponent_ne us), ← owned, single.generated_eq stands]

end SingleRoyals

end Position

namespace Board

theorem dims_congr {left right : Board} (same : left.position = right.position) :
    left.dims = right.dims := congrArg Position.dims same

theorem terrainAt_congr {left right : Board} (same : left.position = right.position) :
    left.terrainAt = right.terrainAt := congrArg Position.terrainAt same

theorem pieceAt_congr {left right : Board} (same : left.position = right.position) :
    left.pieceAt = right.pieceAt := congrArg Position.pieceAt same

/-- What a turn records on a board: the moves of both sides, those of the side to move restricted
to the safe ones. -/
def prepared (board : Board) (us : Side) : Board :=
  let theirs := board.clearMoves.generateSide us.opponent none
  let ours := (theirs.1.generateSide us (some theirs.2.covered)).1
  ours.mapMoves (fun placed =>
    if placed.piece.side = us then
      { placed.moves with
        legal := placed.moves.legal.filter (ours.position.isSafeMove placed.square) }
    else placed.moves)

theorem position_prepared (board : Board) (us : Side) :
    (board.prepared us).position = board.position := by
  unfold prepared
  dsimp only
  rw [position_mapMoves, position_generateSide, position_generateSide, position_clearMoves]

theorem dims_prepared (board : Board) (us : Side) : (board.prepared us).dims = board.dims :=
  dims_congr (position_prepared board us)

theorem terrainAt_prepared (board : Board) (us : Side) :
    (board.prepared us).terrainAt = board.terrainAt :=
  terrainAt_congr (position_prepared board us)

theorem occupantAt_clearMoves (board : Board) (square : Square) :
    board.clearMoves.occupantAt square =
      (board.pieceAt square).map (fun piece => ⟨piece, Moves.none⟩) := by
  rw [clearMoves, occupantAt_mapMoves, placedAt, pieceAt, Option.map_map, Option.map_map]
  rfl

private theorem occupantAt_generateSide_twice {board : Board} {us : Side} {zone : Option SquareSet}
    {square : Square} {piece : Piece} (standing : board.pieceAt square = some piece) :
    (((board.clearMoves.generateSide us.opponent none).1.generateSide us zone).1).occupantAt square =
      some ⟨piece,
        if piece.side = us then board.position.generated us zone square piece
        else board.position.generated us.opponent none square piece⟩ := by
  have seen : board.position.pieceAt square = some piece := standing
  rw [occupantAt_generateSide, position_generateSide, occupantAt_generateSide,
    position_clearMoves, occupantAt_clearMoves, standing]
  unfold Position.generated
  by_cases owned : piece.side = us
  · have theirs : square ∉ board.position.generationOrder us.opponent :=
      Position.not_mem_generationOrder seen (owned ▸ (Side.opponent_ne piece.side).symm)
    rw [if_neg theirs, if_pos owned]
    split <;> rfl
  · have ours : square ∉ board.position.generationOrder us :=
      Position.not_mem_generationOrder seen owned
    rw [if_neg ours, if_neg owned]
    split <;> rfl

/-- A turn records for every piece the moves that the position gives it. -/
theorem occupantAt_prepared (board : Board) (us : Side) (square : Square) :
    (board.prepared us).occupantAt square =
      (board.pieceAt square).map (fun piece =>
        ⟨piece, board.position.turnMoves us square piece⟩) := by
  unfold prepared
  dsimp only
  rw [occupantAt_mapMoves, position_generateSide, position_generateSide, position_clearMoves]
  cases standing : board.pieceAt square with
  | none =>
    have vacant : ∀ other : Board, other.position = board.position →
        other.placedAt square = none := by
      intro other same
      have missing : (other.occupantAt square).map Occupant.piece = none :=
        (congrArg (fun seen => seen.pieceAt square) same).trans standing
      rw [placedAt, Option.map_eq_none_iff.mp missing]
      rfl
    rw [vacant _ (by rw [position_generateSide, position_generateSide, position_clearMoves])]
    rfl
  | some piece =>
    rw [placedAt, occupantAt_generateSide_twice standing]
    simp only [Option.map_some, Position.turnMoves, Position.hostileZone, generateSide,
      position_clearMoves]
    split <;> rfl

end Board

namespace Match

/-- A match whose records are those that its position gives for the side to move. -/
structure Settled (game : Match) : Prop where
  occupants : ∀ square, game.board.occupantAt square =
    (game.board.pieceAt square).map (fun piece =>
      ⟨piece, game.board.position.turnMoves game.sideToMove square piece⟩)
  mover : game.inCheck.get game.sideToMove = game.board.position.inCheck game.sideToMove
  waiting : game.inCheck.get game.sideToMove.opponent = false
  outcome : game.outcome = game.board.position.verdict game.sideToMove

theorem board_refresh (game : Match) :
    game.refresh.board = game.board.prepared game.sideToMove := by
  unfold refresh Board.prepared
  dsimp only

theorem position_refresh (game : Match) : game.refresh.board.position = game.board.position := by
  rw [board_refresh, Board.position_prepared]

theorem sideToMove_refresh (game : Match) : game.refresh.sideToMove = game.sideToMove := by
  unfold refresh
  dsimp only

theorem captured_refresh (game : Match) : game.refresh.captured = game.captured := by
  unfold refresh
  dsimp only

theorem history_refresh (game : Match) : game.refresh.history = game.history := by
  unfold refresh
  dsimp only

private theorem check_generated (board : Board) (us : Side) (zone : Option SquareSet) :
    ((board.clearMoves.generateSide us.opponent none).2.threatensRoyal ||
      ((board.clearMoves.generateSide us.opponent none).1.generateSide us
        zone).1.position.royalExposed us) = board.position.inCheck us := by
  rw [Board.position_generateSide, Board.position_generateSide, Board.position_clearMoves]
  unfold Board.generateSide Position.inCheck
  rw [Board.position_clearMoves]

theorem inCheck_refresh (game : Match) :
    game.refresh.inCheck =
      (game.inCheck.set game.sideToMove (game.board.position.inCheck game.sideToMove)).set
        game.sideToMove.opponent false := by
  unfold refresh
  dsimp only
  rw [check_generated]

private theorem stuck_prepared (board : Board) (us : Side) :
    ((board.prepared us).piecesOf us).all (fun placed => placed.moves.legal.isEmpty) =
      board.position.isStuck us := by
  rw [Bool.eq_iff_iff, Position.isStuck_iff, List.all_eq_true]
  have placedAt : ∀ square, (board.prepared us).placedAt square =
      (board.pieceAt square).map (fun piece =>
        ⟨square, piece, board.position.turnMoves us square piece⟩) := by
    intro square
    rw [Board.placedAt, Board.occupantAt_prepared, Option.map_map]
    rfl
  constructor
  · intro stuck square piece stands owned
    refine stuck ⟨square, piece, board.position.turnMoves us square piece⟩ ?_
    rw [Board.piecesOf, List.mem_filter, Board.mem_pieces, placedAt, Board.stands_iff.mp stands]
    exact ⟨rfl, decide_eq_true owned⟩
  · intro stuck placed member
    rw [Board.piecesOf, List.mem_filter, Board.mem_pieces, placedAt, decide_eq_true_eq] at member
    obtain ⟨piece, standing, same⟩ := Option.map_eq_some_iff.mp member.1
    have owned := member.2
    rw [← same] at owned ⊢
    exact stuck _ piece (Board.stands_iff.mpr standing) owned

theorem outcome_refresh (game : Match) :
    game.refresh.outcome = (game.board.position.verdict game.sideToMove).or game.outcome := by
  have stuck := stuck_prepared game.board game.sideToMove
  unfold Board.prepared at stuck
  unfold refresh
  dsimp only at stuck ⊢
  rw [stuck, check_generated]
  unfold Position.verdict
  split <;> rfl

/-- Generating the moves anew settles a match that has not ended. -/
theorem settled_refresh {game : Match} (running : game.outcome = none) :
    game.refresh.Settled where
  occupants square := by
    rw [position_refresh, sideToMove_refresh, Board.pieceAt_congr (position_refresh game),
      board_refresh, Board.occupantAt_prepared]
  mover := by
    rw [position_refresh, sideToMove_refresh, inCheck_refresh,
      BySide.get_set_of_ne _ _ (Side.opponent_ne game.sideToMove).symm, BySide.get_set_self]
  waiting := by
    rw [sideToMove_refresh, inCheck_refresh, BySide.get_set_self]
  outcome := by
    rw [position_refresh, sideToMove_refresh, outcome_refresh, running, Option.or_none]

end Match

end TerrainChess

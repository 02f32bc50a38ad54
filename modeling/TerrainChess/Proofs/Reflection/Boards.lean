import TerrainChess.Proofs.Reflection.Turn

/-!
# Reflected boards

The position of the reflected board is the reflection of its position. Moving a
piece and recording the moves of a turn commute with the reflection of a small
board: `Board.movePiece_reflect` and `Board.prepared_reflect`.
-/

set_option autoImplicit false

namespace TerrainChess

def Occupant.reflect (dims : Dims) (occupant : Occupant) : Occupant where
  piece := occupant.piece.reflect
  moves := occupant.moves.reflect dims

def PlacedPiece.reflect (dims : Dims) (placed : PlacedPiece) : PlacedPiece where
  square := dims.mirror placed.square
  piece := placed.piece.reflect
  moves := placed.moves.reflect dims

def BoardError.reflect (dims : Dims) : BoardError → BoardError
  | outOfBounds square => outOfBounds (dims.mirror square)
  | occupied square => occupied (dims.mirror square)
  | emptySquare square => emptySquare (dims.mirror square)

namespace Board

def reflect (board : Board) : Board where
  dims := board.dims
  terrain := Grid.tabulate board.dims (fun square =>
    (board.terrainAt (board.dims.mirror square)).getD defaultTerrain)
  occupants := Grid.tabulate board.dims (fun square =>
    (board.occupantAt (board.dims.mirror square)).map (Occupant.reflect board.dims))

theorem dims_reflect (board : Board) : board.reflect.dims = board.dims := rfl

theorem compact_position {board : Board} (small : board.dims.Small)
    (short : board.position.AllPieces (fun piece => piece.template.IsShort)) :
    board.position.Compact where
  small := small
  terrainOff _ outside := terrainAt_eq_none outside
  pieceOff _ outside := congrArg (Option.map Occupant.piece) (occupantAt_eq_none outside)
  short := short

section Small

variable {board : Board} (small : board.dims.Small)

include small

theorem terrainAt_reflect (square : Square) :
    board.reflect.terrainAt square = board.terrainAt (board.dims.mirror square) := by
  show (Grid.tabulate board.dims _).get? square = _
  rw [Grid.get?_tabulate]
  have inside : board.dims.Contains (board.dims.mirror square) ↔ board.dims.Contains square :=
    Dims.contains_mirror small
  split
  · next contained =>
    obtain ⟨terrain, found⟩ := Grid.exists_get? board.terrain (inside.mpr contained)
    have seen : board.terrainAt (board.dims.mirror square) = some terrain := found
    rw [seen, Option.getD_some]
  · next outside =>
    rw [terrainAt_eq_none (fun contained => outside (inside.mp contained))]

theorem occupantAt_reflect (square : Square) :
    board.reflect.occupantAt square =
      (board.occupantAt (board.dims.mirror square)).map (Occupant.reflect board.dims) := by
  show ((Grid.tabulate board.dims _).get? square).join = _
  rw [Grid.get?_tabulate]
  have inside : board.dims.Contains (board.dims.mirror square) ↔ board.dims.Contains square :=
    Dims.contains_mirror small
  split
  · rw [Option.join_some]
  · next outside =>
    rw [occupantAt_eq_none (fun contained => outside (inside.mp contained))]
    rfl

theorem occupantAt_reflect_mirror (square : Square) :
    board.reflect.occupantAt (board.dims.mirror square) =
      (board.occupantAt square).map (Occupant.reflect board.dims) := by
  rw [occupantAt_reflect small]
  by_cases inside : board.dims.Contains square
  · rw [Dims.mirror_mirror inside]
  · have outside : ¬ board.dims.Contains (board.dims.mirror (board.dims.mirror square)) := by
      rw [Dims.contains_mirror small, Dims.contains_mirror small]
      exact inside
    rw [occupantAt_eq_none outside, occupantAt_eq_none inside]

theorem position_reflect : board.reflect.position = board.position.reflect := by
  have terrain : board.reflect.terrainAt = board.position.reflect.terrainAt :=
    funext (terrainAt_reflect small)
  have pieces : board.reflect.pieceAt = board.position.reflect.pieceAt := by
    funext square
    show (board.reflect.occupantAt square).map Occupant.piece =
      ((board.occupantAt (board.dims.mirror square)).map Occupant.piece).map Piece.reflect
    rw [occupantAt_reflect small, Option.map_map, Option.map_map]
    rfl
  show Position.mk _ _ _ = Position.mk _ _ _
  rw [Position.mk.injEq]
  exact ⟨rfl, terrain, pieces⟩

theorem pieceAt_reflect_mirror (square : Square) :
    board.reflect.pieceAt (board.dims.mirror square) =
      (board.pieceAt square).map Piece.reflect := by
  unfold pieceAt
  rw [occupantAt_reflect_mirror small, Option.map_map, Option.map_map]
  rfl

theorem placedAt_reflect_mirror (square : Square) :
    board.reflect.placedAt (board.dims.mirror square) =
      (board.placedAt square).map (PlacedPiece.reflect board.dims) := by
  unfold placedAt
  rw [occupantAt_reflect_mirror small, Option.map_map, Option.map_map]
  rfl

/-!
## Moves
-/

theorem put_reflect {square : Square} (inside : board.dims.Contains square)
    (occupant : Option Occupant) :
    (board.put square occupant).reflect =
      board.reflect.put (board.dims.mirror square)
        (occupant.map (Occupant.reflect board.dims)) := by
  have imageInside : board.reflect.dims.Contains (board.dims.mirror square) :=
    (Dims.contains_mirror small).mpr inside
  have smallPut : (board.put square occupant).dims.Small := small
  apply ext
  · rfl
  · intro other
    exact (terrainAt_reflect smallPut other).trans (terrainAt_reflect small other).symm
  · intro other
    have arrives : board.dims.mirror other = square ↔ other = board.dims.mirror square :=
      Dims.mirror_eq_comm small inside
    rw [occupantAt_put imageInside, occupantAt_reflect small, occupantAt_reflect smallPut]
    show ((board.put square occupant).occupantAt (board.dims.mirror other)).map _ = _
    rw [occupantAt_put inside]
    simp only [arrives]
    split <;> rfl

theorem movePiece_reflect (start target : Square) :
    board.reflect.movePiece (board.dims.mirror start) (board.dims.mirror target) =
      match board.movePiece start target with
      | .error reason => .error (reason.reflect board.dims)
      | .ok (taken, next) => .ok (taken.map (PlacedPiece.reflect board.dims), next.reflect) := by
  have inside : board.reflect.dims.Contains (board.dims.mirror target) ↔
      board.dims.Contains target := Dims.contains_mirror small
  unfold movePiece
  rw [occupantAt_reflect_mirror small]
  simp only [inside]
  by_cases arrival : board.dims.Contains target
  · rw [if_pos arrival, if_pos arrival]
    cases standing : board.occupantAt start with
    | none => rfl
    | some mover =>
      have startInside := contains_of_occupantAt standing
      have smallRemoved : (board.remove start).dims.Small := small
      have lifted : board.reflect.remove (board.dims.mirror start) =
          (board.remove start).reflect := (put_reflect small startInside none).symm
      have taken : (board.remove start).reflect.placedAt (board.dims.mirror target) =
          ((board.remove start).placedAt target).map (PlacedPiece.reflect board.dims) :=
        placedAt_reflect_mirror smallRemoved target
      have placed : ((board.remove start).put target (some mover)).reflect =
          (board.remove start).reflect.put (board.dims.mirror target)
            (some (mover.reflect board.dims)) :=
        put_reflect smallRemoved arrival (some mover)
      simp only [Option.map_some, lifted, taken, placed]
  · rw [if_neg arrival, if_neg arrival]
    rfl

end Small

/-!
## The records of a turn
-/

/-- The turn of the other side records on the reflected board the reflection of what the turn of a
side records on the board. -/
theorem prepared_reflect {board : Board} (compact : board.position.Compact)
    (single : board.position.SingleRoyals) (us : Side) :
    (board.prepared us).reflect = board.reflect.prepared us.opponent := by
  have small : board.dims.Small := compact.small
  have smallPrepared : (board.prepared us).dims.Small := by
    rw [dims_prepared]
    exact small
  apply ext
  · rw [dims_reflect, dims_prepared, dims_prepared, dims_reflect]
  · intro square
    rw [terrainAt_reflect smallPrepared, terrainAt_prepared, terrainAt_prepared, dims_prepared,
      terrainAt_reflect small]
  · intro square
    have piece : board.reflect.pieceAt square =
        (board.pieceAt (board.dims.mirror square)).map Piece.reflect :=
      congrFun (congrArg Position.pieceAt (position_reflect small)) square
    rw [occupantAt_reflect smallPrepared, dims_prepared, occupantAt_prepared, occupantAt_prepared,
      piece, position_reflect small]
    cases standing : board.pieceAt (board.dims.mirror square) with
    | none => rfl
    | some original =>
      have stands : board.position.Stands (board.dims.mirror square) original :=
        stands_iff.mpr standing
      have inside : board.dims.Contains square := (Dims.contains_mirror small).mp stands.1
      have recorded : board.position.reflect.turnMoves us.opponent
            (board.dims.mirror (board.dims.mirror square)) original.reflect =
          (board.position.turnMoves us (board.dims.mirror square) original).reflect board.dims :=
        compact.turnMoves_reflect single stands
      rw [Dims.mirror_mirror inside] at recorded
      simp only [Option.map_some, recorded, Occupant.reflect]

end Board

end TerrainChess

import TerrainChess.Piece

/-!
# Positions

A position says what stands where and on which terrain, and nothing else: all
rules of movement are functions of the position. What a board has recorded about
the moves of its pieces is no part of it.
-/

set_option autoImplicit false

namespace TerrainChess

/-- The terrain and the piece of every square; there is neither off the board. -/
structure Position where
  dims : Dims
  terrainAt : Square → Option String
  pieceAt : Square → Option Piece

namespace Position

def isOccupied (position : Position) (square : Square) : Bool := (position.pieceAt square).isSome

def pieces (position : Position) : List (Square × Piece) :=
  position.dims.squares.filterMap
    (fun square => (position.pieceAt square).map (fun piece => (square, piece)))

def piecesOf (position : Position) (side : Side) : List (Square × Piece) :=
  position.pieces.filter (fun placed => decide (placed.2.side = side))

/-- The squares of the pieces of a side that are not royal. -/
def roster (position : Position) (side : Side) : List Square :=
  ((position.piecesOf side).filter (fun placed => !placed.2.isRoyal)).map Prod.fst

/-- The square of the first royal piece of a side. -/
def royalSquare? (position : Position) (side : Side) : Option Square :=
  ((position.piecesOf side).find? (fun placed => placed.2.isRoyal)).map Prod.fst

/-- The position after a piece has gone from one square to another, where it replaces what stood
there. -/
def move (position : Position) (start target : Square) : Position :=
  { position with
    pieceAt := fun square =>
      if square = target then position.pieceAt start
      else if square = start then none
      else position.pieceAt square }

end Position

end TerrainChess

import TerrainChess.Catalogue
import TerrainChess.Square

/-!
# Pieces and their moves

A piece is a template and a side. What it can do from its square is recorded as
two sets of squares and a flag.
-/

set_option autoImplicit false

namespace TerrainChess

/-- A finite set of squares, listed by row and then by column. -/
abbrev SquareSet := OrderedSet Square

structure Piece where
  template : Template
  side : Side
deriving DecidableEq

namespace Piece

def name (piece : Piece) : String := piece.template.name

def isRoyal (piece : Piece) : Bool := piece.template.royal

end Piece

structure Moves where
  legal : SquareSet
  threatened : SquareSet
  /-- Says whether the piece threatens an opposing royal piece. -/
  threatensRoyal : Bool
deriving DecidableEq

/-- The record of a piece that can do nothing, or whose moves have not been generated. -/
def Moves.none : Moves := ⟨∅, ∅, false⟩

end TerrainChess

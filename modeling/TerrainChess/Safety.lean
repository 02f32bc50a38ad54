import TerrainChess.Generation

/-!
# Safety of the royal piece

A move is safe if after it the opposing side does not threaten the royal piece
of the mover and that piece does not break its own encounter rule.
-/

set_option autoImplicit false

namespace TerrainChess

namespace Position

/-- Says whether the royal piece of a side breaks its encounter rule where it stands. -/
def royalExposed (position : Position) (side : Side) : Bool :=
  match position.royalSquare? side with
  | none => false
  | some square =>
    match position.pieceAt square with
    | none => false
    | some royal => position.encounterViolated royal square

def isSafeFor (position : Position) (side : Side) : Bool :=
  !position.threatensRoyal side.opponent && !position.royalExposed side

/-- Says whether there is a piece to move from one square to another on the board and its side is
safe afterwards. -/
def isSafeMove (position : Position) (start target : Square) : Bool :=
  match position.pieceAt start with
  | none => false
  | some mover =>
    if position.dims.Contains target then
      (position.move start target).isSafeFor mover.side
    else false

def isSelfCheckAfter (position : Position) (start target : Square) : Bool :=
  !position.isSafeMove start target

end Position

end TerrainChess

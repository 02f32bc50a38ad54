import TerrainChess.Match
import TerrainChess.Notation.Coordinates

/-!
# The wording of refusals

Boards and matches say why they refuse an operation; here the reasons are put
into words.
-/

set_option autoImplicit false

namespace TerrainChess

def BoardError.message : BoardError → String
  | outOfBounds square => "square " ++ square.text ++ " is outside the board"
  | occupied square => "square " ++ square.text ++ " is already occupied"
  | emptySquare square => "no piece on square " ++ square.text

def MoveError.message : MoveError → String
  | gameOver => "the game is already over"
  | notYourPiece side square => "no piece of " ++ side.keyword ++ " on " ++ square.text
  | illegalDestination start target =>
    target.text ++ " is not a legal destination for the piece on " ++ start.text
  | royalCapture square => "royal piece on " ++ square.text ++ " cannot be captured"
  | board reason => reason.message

end TerrainChess

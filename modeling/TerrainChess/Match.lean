import TerrainChess.Safety

/-!
# Matches

A match alternates moves of the two sides. Before each move the legal moves of
the side to move are generated anew and the unsafe ones are struck out; a side
without a legal move has lost, by checkmate if it is in check and by stalemate
otherwise.
-/

set_option autoImplicit false

namespace TerrainChess

inductive Outcome where
  | checkmate (winner : Side)
  | stalemate (winner : Side)
deriving DecidableEq

def Outcome.winner : Outcome → Side
  | checkmate winner => winner
  | stalemate winner => winner

inductive MoveError where
  | gameOver
  | notYourPiece (side : Side) (square : Square)
  | illegalDestination (start target : Square)
  | royalCapture (square : Square)
  | board (reason : BoardError)
deriving DecidableEq

structure MoveRecord where
  /-- The number of the move, counted from one over both sides. -/
  ply : UInt32
  side : Side
  piece : String
  start : Square
  target : Square
  captured : Option String
deriving DecidableEq

@[ext] structure Match where
  board : Board
  sideToMove : Side
  inCheck : BySide Bool
  outcome : Option Outcome
  /-- The pieces that each side has captured, in the order of the captures. -/
  captured : BySide (List PlacedPiece)
  history : List MoveRecord

namespace Match

/-- Generates the moves of both sides anew. The royal piece of the side to move may not capture
into what the opponent covers; of the moves of that side only the safe ones remain. -/
def refresh (game : Match) : Match :=
  let us := game.sideToMove
  let them := us.opponent
  let cleared := game.board.clearMoves
  let (answered, theirs) := cleared.generateSide them none
  let (generated, _) := answered.generateSide us (some theirs.covered)
  let position := generated.position
  let board := generated.mapMoves (fun placed =>
    if placed.piece.side = us then
      { placed.moves with
        legal := placed.moves.legal.filter (position.isSafeMove placed.square) }
    else placed.moves)
  let checked := theirs.threatensRoyal || position.royalExposed us
  let stuck := (board.piecesOf us).all (fun placed => placed.moves.legal.isEmpty)
  { game with
    board := board
    inCheck := (game.inCheck.set us checked).set them false
    outcome :=
      if stuck then some (if checked then .checkmate them else .stalemate them)
      else game.outcome }

def start (board : Board) (first : Side) : Match :=
  refresh
    { board := board
      sideToMove := first
      inCheck := BySide.both false
      outcome := none
      captured := BySide.both []
      history := [] }

def legalMoves (game : Match) : List (Square × SquareSet) :=
  ((game.board.piecesOf game.sideToMove).filter (fun placed => !placed.moves.legal.isEmpty)).map
    (fun placed => (placed.square, placed.moves.legal))

/-- The legal moves of the side to move, by start and then by target. -/
def allMoves (game : Match) : List (Square × Square) :=
  game.legalMoves.flatMap (fun entry => entry.2.toList.map (fun target => (entry.1, target)))

def isLegal (game : Match) (start target : Square) : Bool :=
  match game.board.occupantAt start with
  | none => false
  | some mover =>
    decide (mover.piece.side = game.sideToMove) && decide (target ∈ mover.moves.legal)

/-- Plays a move of the side to move. A refused move changes nothing. -/
def play (game : Match) (start target : Square) : Except MoveError (MoveRecord × Match) :=
  let side := game.sideToMove
  if game.outcome.isSome then .error .gameOver
  else
    match game.board.occupantAt start with
    | none => .error (.notYourPiece side start)
    | some mover =>
      if mover.piece.side ≠ side then .error (.notYourPiece side start)
      else if target ∉ mover.moves.legal then .error (.illegalDestination start target)
      else if (game.board.pieceAt target).any Piece.isRoyal then .error (.royalCapture target)
      else
        match game.board.movePiece start target with
        | .error reason => .error (.board reason)
        | .ok (taken, board) =>
          let record : MoveRecord :=
            { ply := game.history.length.toUInt32 + 1
              side := side
              piece := mover.piece.name
              start := start
              target := target
              captured := taken.map (fun placed => placed.piece.name) }
          .ok (record, refresh
            { game with
              board := board
              sideToMove := side.opponent
              captured := game.captured.set side (game.captured.get side ++ taken.toList)
              history := game.history ++ [record] })

end Match

end TerrainChess

import TerrainChess.Match
import TerrainChess.Notation.Coordinates
import TerrainChess.Report.Json

/-!
# Reports on a match

The report on a match gives the side to move, whether it is in check, how the
match has ended, the moves so far and the pieces of the side to move with their
moves. It is written as text or as JSON.
-/

set_option autoImplicit false

namespace TerrainChess.Report

structure MovesReport where
  sideToMove : Side
  inCheck : Bool
  outcome : Option Outcome
  history : List MoveRecord
  /-- The pieces of the side to move. -/
  pieces : List PlacedPiece

namespace MovesReport

def ofMatch (game : Match) : MovesReport where
  sideToMove := game.sideToMove
  inCheck := game.inCheck.get game.sideToMove
  outcome := game.outcome
  history := game.history
  pieces := game.board.piecesOf game.sideToMove

def moveCount (report : MovesReport) : Nat :=
  report.pieces.foldl (fun total placed => total + placed.moves.legal.size) 0

def outcomeLine : Outcome → String
  | .checkmate winner => "checkmate: " ++ winner.keyword ++ " wins"
  | .stalemate winner => "stalemate: " ++ winner.keyword ++ " wins"

def pieceLine (placed : PlacedPiece) : String :=
  "  " ++ placed.piece.name ++ " " ++ placed.square.text ++ ": " ++
    " ".intercalate (placed.moves.legal.toList.map Square.text)

def lines (report : MovesReport) : List String :=
  ["side to move: " ++ report.sideToMove.keyword] ++
    (if report.inCheck then ["in check"] else []) ++
    (report.outcome.map outcomeLine).toList ++
    ["legal moves: " ++ toString report.moveCount] ++
    (report.pieces.filter (fun placed => !placed.moves.legal.isEmpty)).map pieceLine

def text (report : MovesReport) : String :=
  String.join (report.lines.map (fun line => line ++ "\n"))

def squareJson (square : Square) : Json :=
  .object [("y", .number square.y.val), ("x", .number square.x.val)]

def outcomeJson : Option Outcome → Json
  | none => .null
  | some (.checkmate winner) =>
    .object [("result", .string "checkmate"), ("winner", .string winner.keyword)]
  | some (.stalemate winner) =>
    .object [("result", .string "stalemate"), ("winner", .string winner.keyword)]

def recordJson (record : MoveRecord) : Json :=
  .object
    [("ply", .number record.ply.toNat),
      ("side", .string record.side.keyword),
      ("piece", .string record.piece),
      ("from", squareJson record.start),
      ("to", squareJson record.target),
      ("captured", (record.captured.map Json.string).getD .null)]

def pieceJson (placed : PlacedPiece) : Json :=
  .object
    [("piece", .string placed.piece.name),
      ("side", .string placed.piece.side.keyword),
      ("square", squareJson placed.square),
      ("legal", .array (placed.moves.legal.toList.map squareJson)),
      ("threatened", .array (placed.moves.threatened.toList.map squareJson)),
      ("gives_check", .boolean placed.moves.threatensRoyal)]

def json (report : MovesReport) : Json :=
  .object
    [("side_to_move", .string report.sideToMove.keyword),
      ("in_check", .boolean report.inCheck),
      ("outcome", outcomeJson report.outcome),
      ("history", .array (report.history.map recordJson)),
      ("pieces", .array (report.pieces.map pieceJson))]

end MovesReport

end TerrainChess.Report

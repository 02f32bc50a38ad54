import TerrainChess.Board
import TerrainChess.Text.Case
import TerrainChess.Text.Numeral

/-!
# Board diagrams

A diagram shows the rows of a board from the highest down, with their numbers,
and the numbers of the columns below. A piece is shown by the first two
characters of its name, in upper case for red and in lower case for black, and
an empty square by the first character of its terrain.
-/

set_option autoImplicit false

namespace TerrainChess.Report

/-- A text with spaces before it, three characters wide at least. -/
def padded (text : List Char) : List Char := List.replicate (3 - text.length) ' ' ++ text

def label (name : String) (side : Side) : List Char :=
  match side with
  | .red => Text.upperCase (name.toList.take 2)
  | .black => Text.lowerCase (name.toList.take 2)

def cell (board : Board) (square : Square) : List Char :=
  match board.pieceAt square with
  | some piece => label piece.name piece.side
  | none =>
    match board.terrainAt square with
    | some terrain => if terrain = defaultTerrain then ['.'] else terrain.toList.take 1
    | none => ['.']

def diagramRow (board : Board) (row : Nat) : List Char :=
  padded (Text.Numeral.ofNat row) ++ [' '] ++
    (List.range board.dims.columns).flatMap (fun column =>
      padded (cell board ⟨Coord.clamp (Int.ofNat column), Coord.clamp (Int.ofNat row)⟩)) ++
    ['\n']

def diagramFooter (dims : Dims) : List Char :=
  List.replicate 4 ' ' ++
    (List.range dims.columns).flatMap (fun column => padded (Text.Numeral.ofNat column)) ++
    ['\n']

def diagram (board : Board) : String :=
  String.ofList
    ((List.range board.dims.rows).reverse.flatMap (diagramRow board) ++
      diagramFooter board.dims)

end TerrainChess.Report

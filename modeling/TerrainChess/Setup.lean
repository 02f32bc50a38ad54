import TerrainChess.Files.Access
import TerrainChess.Notation.BoardText
import TerrainChess.Notation.PieceText

/-!
# Setting up a game

The terrain text, the piece text and the board text together give the catalogues
and the board at the start. Faults of single lines are collected; only a wrong
number of royal piece types, a text that cannot be read, or a size without an
area stops the setup.
-/

set_option autoImplicit false

namespace TerrainChess

structure Sources where
  terrain : String
  pieces : String
  board : String
deriving DecidableEq

structure SourceFiles where
  terrain : String
  pieces : String
  board : String
deriving DecidableEq

inductive SetupError where
  | royalCount (count : Nat)
  | unreadable (name : String) (reason : ReadError)
  /-- The product of width and height is no coordinate. -/
  | oversized (dims : Dims)
deriving DecidableEq

def SetupError.message : SetupError → String
  | royalCount count =>
    "exactly one royal piece must be declared, found " ++ toString count
  | unreadable name reason => "failed to read " ++ name ++ ": " ++ reason.message
  | oversized _ => "attempt to multiply with overflow"

structure Setup where
  terrains : TerrainCatalogue
  pieces : PieceCatalogue
  board : Board
  diagnostics : List Diagnostic

namespace Setup

def ofSources (dims : Dims) (resolve : TextureResolver) (sources : Sources) :
    Except SetupError Setup :=
  let (terrains, terrainFaults) := Notation.readTerrains resolve sources.terrain
  match Notation.readPieces dims resolve terrains sources.pieces with
  | (.error count, _) => .error (.royalCount count)
  | (.ok pieces, pieceFaults) =>
    match Board.empty? dims with
    | none => .error (.oversized dims)
    | some _ =>
      let (board, boardFaults) := Notation.readBoard dims terrains pieces sources.board
      .ok ⟨terrains, pieces, board, terrainFaults ++ pieceFaults ++ boardFaults⟩

def readSource (files : FileAccess) (name : String) : Except SetupError String :=
  match files.readText name with
  | .error reason => .error (.unreadable name reason)
  | .ok text => .ok text

/-- Reads the three texts from files, the terrain text first. Textures are looked for below a
directory. -/
def ofFiles (dims : Dims) (files : FileAccess) (textures : String) (names : SourceFiles) :
    Except SetupError Setup := do
  let terrain ← readSource files names.terrain
  let pieces ← readSource files names.pieces
  let board ← readSource files names.board
  ofSources dims (files.textures textures) ⟨terrain, pieces, board⟩

end Setup

end TerrainChess

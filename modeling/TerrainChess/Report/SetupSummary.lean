import TerrainChess.Setup

/-!
# Summaries of a setup

The summary of a setup lists the dimensions, the declared terrains and piece
types, the number of pieces of each side and all diagnostics.
-/

set_option autoImplicit false

namespace TerrainChess.Report

def templateLine (template : Template) : String :=
  "  " ++ template.name ++ " weight=" ++ toString template.weight.toNat ++ " patterns=" ++
    toString template.patterns.length ++ (if template.royal then " royal" else "")

def sideLine (board : Board) (side : Side) : String :=
  side.keyword ++ ": " ++ toString (board.piecesOf side).length ++ " unit(s)"

def summaryLines (dims : Dims) (setup : Setup) : List String :=
  ["board: " ++ toString dims.width.val ++ "x" ++ toString dims.height.val,
    "terrains (" ++ toString setup.terrains.size ++ "): " ++
      " ".intercalate (setup.terrains.values.map Terrain.name),
    "pieces (" ++ toString setup.pieces.size ++ "):"] ++
    setup.pieces.values.map templateLine ++
    Side.all.map (sideLine setup.board) ++
    ["diagnostics: " ++ toString setup.diagnostics.length] ++
    setup.diagnostics.map (fun diagnostic => "  " ++ diagnostic.text)

def summary (dims : Dims) (setup : Setup) : String :=
  String.join ((summaryLines dims setup).map (fun line => line ++ "\n"))

end TerrainChess.Report

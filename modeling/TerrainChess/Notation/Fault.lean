import TerrainChess.Notation.Coordinates
import TerrainChess.Rule
import TerrainChess.Text.Quoted

/-!
# Faults and diagnostics

A fault is the reason for which a line or a block of a text is dropped. The rest
of the text is read on, and the fault is kept as a diagnostic with the number of
the line.
-/

set_option autoImplicit false

namespace TerrainChess

inductive Fault where
  | strayText (text : String)
  | unknownParameter (text : String)
  | invalidCoordinate (text : String)
  | invalidWeight (text : String)
  | invalidTexturePath (text : String)
  | undeclaredTerrain (name : String)
  | undeclaredPieceType (name : String)
  | unknownRuleKind (word : String)
  | invalidRuleArgument (kind : RuleKind) (argument : String)
  | ruleRedefinition (piece : String) (kind : RuleKind)
  | missingDefaultMovement (piece : String)
  | pieceDropped (piece : String) (missing : List String)
  | duplicateDeclaration (name : String)
  | unclosedBlock (name : String)
  | outOfBounds (square : Square)
  | occupiedSquare (square : Square)
  | missingSide (piece : String)
  | duplicateRoyal (side : Side)
deriving DecidableEq

def Fault.message : Fault → String
  | strayText text => "stray text " ++ Text.quoted text
  | unknownParameter text => "unknown parameter " ++ Text.quoted text
  | invalidCoordinate text => "invalid coordinate " ++ Text.quoted text
  | invalidWeight text => "invalid weight " ++ Text.quoted text
  | invalidTexturePath text => "texture " ++ Text.quoted text ++ " does not resolve to a file"
  | undeclaredTerrain name => "undeclared terrain " ++ Text.quoted name
  | undeclaredPieceType name => "undeclared piece type " ++ Text.quoted name
  | unknownRuleKind word => "unknown rule kind " ++ Text.quoted word
  | invalidRuleArgument kind argument =>
    "invalid argument " ++ Text.quoted argument ++ " for rule " ++ kind.keyword
  | ruleRedefinition piece kind =>
    "rule " ++ kind.keyword ++ " is already defined for piece " ++ Text.quoted piece
  | missingDefaultMovement piece =>
    "piece " ++ Text.quoted piece ++ " has no movement on the DEFAULT terrain"
  | pieceDropped piece missing =>
    "piece " ++ Text.quoted piece ++ " dropped: missing " ++ ", ".intercalate missing
  | duplicateDeclaration name => Text.quoted name ++ " is declared more than once"
  | unclosedBlock name => "block " ++ Text.quoted name ++ " is not closed"
  | outOfBounds square => "square " ++ square.text ++ " is outside the board"
  | occupiedSquare square => "square " ++ square.text ++ " is already occupied"
  | missingSide piece => "no side selected before placing " ++ Text.quoted piece
  | duplicateRoyal side => side.keyword ++ " already has a royal piece"

inductive SourceKind where
  | terrain
  | pieces
  | board
deriving DecidableEq

def SourceKind.name : SourceKind → String
  | terrain => "terrain"
  | pieces => "pieces"
  | board => "board"

structure Diagnostic where
  source : SourceKind
  /-- The number of the line, counted from one. -/
  line : Nat
  fault : Fault
deriving DecidableEq

def Diagnostic.text (diagnostic : Diagnostic) : String :=
  diagnostic.source.name ++ " line " ++ toString diagnostic.line ++ ": " ++
    diagnostic.fault.message

end TerrainChess

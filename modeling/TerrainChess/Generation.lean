import TerrainChess.Board
import TerrainChess.Classification

/-!
# Generating moves

`Position.reach?` collects the movements of the piece on a square into its moves
and into the squares it covers. The alternate tier is tried only if the standard
tier has no legal move. `Board.generateSide` does this for all pieces of a side
and records the moves.
-/

set_option autoImplicit false

namespace TerrainChess

/-- A movement to a square of the board, with its class. -/
structure Candidate where
  target : Square
  validity : Validity
deriving DecidableEq

/-- What a piece reaches: its moves, and the squares on which it would capture an opposing piece
that is not royal. -/
structure Reach where
  moves : Moves
  covered : SquareSet
deriving DecidableEq

namespace Reach

def targets (candidates : List Candidate) (counts : Validity → Bool) : SquareSet :=
  OrderedSet.ofList
    ((candidates.filter (fun candidate => counts candidate.validity)).map Candidate.target)

def isLegal (validity : Validity) : Bool :=
  match validity with
  | .moveOnly | .canCapture => true
  | _ => false

def isThreat (validity : Validity) : Bool :=
  match validity with
  | .canCapture | .threatenedOnly | .check => true
  | _ => false

def isCover (validity : Validity) : Bool :=
  match validity with
  | .canCapture | .threatenedOnly => true
  | _ => false

def ofCandidates (candidates : List Candidate) : Reach where
  moves :=
    { legal := targets candidates isLegal
      threatened := targets candidates isThreat
      threatensRoyal := candidates.any (fun candidate => decide (candidate.validity = .check)) }
  covered := targets candidates isCover

end Reach

structure SideReport where
  covered : SquareSet
  threatensRoyal : Bool
deriving DecidableEq

namespace Position

/-- The class of a movement when its target is taken into account: a royal piece is never
captured but given check, and a royal piece does not capture its way into the hostile zone. -/
def settle (position : Position) (zone : Option SquareSet) (mover : Piece) (target : Square)
    (validity : Validity) : Validity :=
  let facesRoyal :=
    match position.pieceAt target with
    | some occupant => decide (occupant.side ≠ mover.side) && occupant.isRoyal
    | none => false
  let hostile :=
    match zone with
    | some squares => decide (target ∈ squares)
    | none => false
  if validity = .canCapture then
    if facesRoyal then .check
    else if mover.isRoyal && hostile then .notValid
    else .canCapture
  else validity

/-- The candidates of a tier: every path of the patterns that ends on the board. -/
def candidates (position : Position) (zone : Option SquareSet) (mover : Piece) (home : Square)
    (patterns : List MovementPattern) (tier : Tier) : List Candidate :=
  ((patterns.filter (fun pattern => pattern.tag.specification.inTier tier)).flatMap
    MovementPattern.paths).filterMap (fun path =>
      let target := path.destination home
      if position.dims.Contains target then
        some ⟨target, position.settle zone mover target (position.classify mover home path)⟩
      else none)

/-- What a piece reaches from its home. The alternate tier is tried only if the standard tier has
no legal move. -/
def reachFrom (position : Position) (zone : Option SquareSet) (mover : Piece) (home : Square) :
    Reach :=
  let terrain := (position.terrainAt home).getD defaultTerrain
  let patterns := mover.template.patternsOn mover.side terrain
  let standard := position.candidates zone mover home patterns .standard
  let first := Reach.ofCandidates standard
  if first.moves.legal.isEmpty then
    Reach.ofCandidates (standard ++ position.candidates zone mover home patterns .alternate)
  else first

/-- What the piece on a square reaches, the squares of a hostile zone being closed to captures by
a royal piece. -/
def reach? (position : Position) (zone : Option SquareSet) (square : Square) : Option Reach :=
  (position.pieceAt square).map (fun mover => position.reachFrom zone mover square)

def moves? (position : Position) (square : Square) : Option Moves :=
  (position.reach? none square).map Reach.moves

/-- The squares whose pieces are generated for a side: those that are not royal in the order of
the squares, then the first royal one. -/
def generationOrder (position : Position) (side : Side) : List Square :=
  position.roster side ++ (position.royalSquare? side).toList

def reaches (position : Position) (side : Side) (zone : Option SquareSet) :
    List (Square × Reach) :=
  (position.generationOrder side).filterMap
    (fun square => (position.reach? zone square).map (fun reach => (square, reach)))

/-- What the pieces of a side reach together. -/
def sideReport (position : Position) (side : Side) (zone : Option SquareSet) : SideReport where
  covered := OrderedSet.unions
    ((position.reaches side zone).map (fun reached => reached.2.covered))
  threatensRoyal :=
    (position.reaches side zone).any (fun reached => reached.2.moves.threatensRoyal)

def threatensRoyal (position : Position) (attacker : Side) : Bool :=
  (position.piecesOf attacker).any
    (fun placed => (position.reachFrom none placed.2 placed.1).moves.threatensRoyal)

end Position

namespace Board

def generateSide (board : Board) (side : Side) (zone : Option SquareSet) : Board × SideReport :=
  let reaches := board.position.reaches side zone
  (reaches.foldl (fun current reached => current.recordMoves reached.1 reached.2.moves) board,
    board.position.sideReport side zone)

end Board

end TerrainChess

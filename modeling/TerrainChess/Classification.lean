import TerrainChess.Position
import TerrainChess.Validity

/-!
# Judging a movement

`Position.classify` puts one movement of a piece into its class: the rules of
the piece are judged in the order of their stages, and the first refusal ends
the judgement.
-/

set_option autoImplicit false

namespace TerrainChess

/-- One more, or the same number at the upper end of the range. -/
def saturatingSucc (count : UInt32) : UInt32 :=
  if count = 4294967295 then count else count + 1

/-- The answer of a jump rule to a movement that has passed over a number of pieces, the occupant
of the destination included.

Without the word for captures behind the last piece, a move to an empty square passes exactly
`jumps` pieces and a capture passes at most that many. With it, a move to an empty square passes
fewer, a capture exactly `jumps`, and an empty square behind exactly `jumps` pieces is
threatened. -/
def judgeJump (jumps : UInt32) (eatOnlyOnLast : Bool) (side : Side) (passed : UInt32) :
    Option Piece → Validity
  | none =>
    if eatOnlyOnLast then
      if passed < jumps then .moveOnly
      else if passed = jumps then .threatenedOnly
      else .notValid
    else if passed = jumps then .canCapture
    else .notValid
  | some occupant =>
    if eatOnlyOnLast then
      if passed ≠ saturatingSucc jumps then .notValid
      else if occupant.side = side then .threatenedOnly
      else if occupant.isRoyal then .check
      else .canCapture
    else if saturatingSucc jumps < passed then .notValid
    else if occupant.side = side then .threatenedOnly
    else .canCapture

namespace Position

/-- The number of occupied squares that a path visits, the home of the mover not counted. -/
def passed (position : Position) (home : Square) (path : Path) (start : Square) : UInt32 :=
  ((path.walk start).filter
    (fun square => decide (square ≠ home) && position.isOccupied square)).length.toUInt32

/-- The first piece that a mover meets on squares visited one after the other. The view ends at
the edge of the board, and the home of the mover counts as empty. -/
def firstMet (position : Position) (home : Square) : List Square → Option Piece
  | [] => none
  | square :: rest =>
    if position.dims.Contains square then
      if square = home then position.firstMet home rest
      else
        match position.pieceAt square with
        | some piece => some piece
        | none => position.firstMet home rest
    else none

/-- The opposing piece that a mover sees along a path; a piece of its own side hides what is
behind it. -/
def firstOpponent (position : Position) (side : Side) (home : Square) (path : Path)
    (start : Square) : Option Piece :=
  (position.firstMet home (path.walk start)).filter (fun piece => decide (piece.side ≠ side))

def judgeTerrain (position : Position) (allowed : Selector) (square : Square) : Validity :=
  match allowed with
  | .all => .canCapture
  | .nothing => .notValid
  | .listed names =>
    match position.terrainAt square with
    | some terrain => if terrain ∈ names then .canCapture else .notValid
    | none => .notValid

def judgeEncounter (position : Position) (mover : Piece) (home : Square) (forbidden : Selector)
    (paths : List ScopedPath) (square : Square) : Validity :=
  match forbidden with
  | .all => .notValid
  | .nothing => .canCapture
  | .listed names =>
    let meets := fun (outlook : ScopedPath) =>
      match position.firstOpponent mover.side home outlook.path square with
      | some opponent => decide (opponent.name ∈ names)
      | none => false
    if (paths.filter (fun outlook => outlook.side.admits mover.side)).any meets then .notValid
    else .canCapture

/-- The answer of one rule. Jump rules look along the path from the square judged, the others at
that square. -/
def judge (position : Position) (mover : Piece) (home : Square) (path : Path) (square : Square) :
    Rule → Validity
  | .jump jumps eatOnlyOnLast =>
    judgeJump jumps eatOnlyOnLast mover.side (position.passed home path square)
      (position.pieceAt (path.destination square))
  | .finalTerrain allowed => position.judgeTerrain allowed square
  | .encounter forbidden paths => position.judgeEncounter mover home forbidden paths square

/-- The class after judging rules one after the other; the first refusal ends the judgement. -/
def judgeAll (position : Position) (mover : Piece) (home : Square) (path : Path) :
    List Rule → Validity → Validity
  | [], validity => validity
  | rule :: rest, validity =>
    let square := if rule.stage = .final then path.destination home else home
    let next := validity.andThen (position.judge mover home path square rule)
    if next = .notValid then .notValid else position.judgeAll mover home path rest next

def classify (position : Position) (mover : Piece) (home : Square) (path : Path) : Validity :=
  position.judgeAll mover home path mover.template.rules.byPriority .canCapture

def encounterViolated (position : Position) (piece : Piece) (square : Square) : Bool :=
  match piece.template.rules.get? .encounter with
  | none => false
  | some rule => decide (position.judge piece square ⟨[]⟩ square rule = .notValid)

end Position

end TerrainChess

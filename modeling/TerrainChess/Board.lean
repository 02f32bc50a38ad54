import TerrainChess.Grid
import TerrainChess.Position

/-!
# Boards

A board holds the terrain of every square and the pieces, each with the moves
last recorded for it. Its position is what the rules of movement see. The views
are `terrainAt` and `occupantAt`: boards with equal views are equal, and there is
one lemma for what each operation does to them.
-/

set_option autoImplicit false

namespace TerrainChess

structure Occupant where
  piece : Piece
  moves : Moves
deriving DecidableEq

structure PlacedPiece where
  square : Square
  piece : Piece
  moves : Moves
deriving DecidableEq

structure Board where
  dims : Dims
  terrain : Grid dims String
  occupants : Grid dims (Option Occupant)

inductive BoardError where
  | outOfBounds (square : Square)
  | occupied (square : Square)
  | emptySquare (square : Square)
deriving DecidableEq

inductive Region where
  | whole
  /-- The rectangle with two opposite corners. -/
  | rectangle (first second : Square)
  | cell (square : Square)
deriving DecidableEq

namespace Region

def Covers : Region → Square → Prop
  | whole, _ => True
  | rectangle first second, square =>
    min first.x.val second.x.val ≤ square.x.val ∧ square.x.val ≤ max first.x.val second.x.val ∧
      min first.y.val second.y.val ≤ square.y.val ∧ square.y.val ≤ max first.y.val second.y.val
  | cell only, square => square = only

instance (region : Region) (square : Square) : Decidable (region.Covers square) :=
  match region with
  | whole => inferInstanceAs (Decidable True)
  | rectangle _ _ => inferInstanceAs (Decidable (_ ∧ _))
  | cell only => inferInstanceAs (Decidable (square = only))

def corners : Region → List Square
  | whole => []
  | rectangle first second => [first, second]
  | cell only => [only]

end Region

namespace Board

def empty (dims : Dims) : Board :=
  ⟨dims, Grid.constant dims defaultTerrain, Grid.constant dims none⟩

/-- The board of one terrain without pieces; a size without an area has none. -/
def empty? (dims : Dims) : Option Board := dims.area?.map (fun _ => empty dims)

def terrainAt (board : Board) (square : Square) : Option String := board.terrain.get? square

def occupantAt (board : Board) (square : Square) : Option Occupant :=
  (board.occupants.get? square).join

def pieceAt (board : Board) (square : Square) : Option Piece :=
  (board.occupantAt square).map Occupant.piece

def movesAt (board : Board) (square : Square) : Option Moves :=
  (board.occupantAt square).map Occupant.moves

def placedAt (board : Board) (square : Square) : Option PlacedPiece :=
  (board.occupantAt square).map (fun occupant => ⟨square, occupant.piece, occupant.moves⟩)

/-- What the rules of movement see of a board. -/
def position (board : Board) : Position := ⟨board.dims, board.terrainAt, board.pieceAt⟩

def isOccupied (board : Board) (square : Square) : Bool := (board.occupantAt square).isSome

def pieces (board : Board) : List PlacedPiece := board.dims.squares.filterMap board.placedAt

def piecesOf (board : Board) (side : Side) : List PlacedPiece :=
  board.pieces.filter (fun placed => decide (placed.piece.side = side))

def put (board : Board) (square : Square) (occupant : Option Occupant) : Board :=
  { board with occupants := board.occupants.set square occupant }

def place (board : Board) (template : Template) (side : Side) (square : Square) :
    Except BoardError Board :=
  if board.dims.Contains square then
    if board.isOccupied square then .error (.occupied square)
    else .ok (board.put square (some ⟨⟨template, side⟩, Moves.none⟩))
  else .error (.outOfBounds square)

def remove (board : Board) (square : Square) : Board := board.put square none

/-- Moves a piece to a square of the board, whatever the rules say, and gives back the piece that
stood there. The piece keeps the moves recorded for it. -/
def movePiece (board : Board) (start target : Square) :
    Except BoardError (Option PlacedPiece × Board) :=
  if board.dims.Contains target then
    match board.occupantAt start with
    | none => .error (.emptySquare start)
    | some mover =>
      let lifted := board.remove start
      .ok (lifted.placedAt target, lifted.put target (some mover))
  else .error (.outOfBounds target)

def recordMoves (board : Board) (square : Square) (moves : Moves) : Board :=
  match board.occupantAt square with
  | none => board
  | some occupant => board.put square (some { occupant with moves := moves })

def mapMoves (board : Board) (change : PlacedPiece → Moves) : Board :=
  { board with
    occupants := Grid.tabulate board.dims (fun square =>
      (board.placedAt square).map (fun placed => ⟨placed.piece, change placed⟩)) }

def clearMoves (board : Board) : Board := board.mapMoves (fun _ => Moves.none)

def paint (board : Board) (region : Region) (name : String) : Board :=
  { board with
    terrain := Grid.tabulate board.dims (fun square =>
      if region.Covers square then name
      else (board.terrain.get? square).getD defaultTerrain) }

/-- Gives the squares of a region a terrain, if the squares that name the region are on the
board. -/
def paint? (board : Board) (region : Region) (name : String) : Option Board :=
  if region.corners.all (fun corner => decide (board.dims.Contains corner)) then
    some (board.paint region name)
  else none

def royalSquare? (board : Board) (side : Side) : Option Square :=
  board.position.royalSquare? side

theorem terrainAt_eq_none {board : Board} {square : Square}
    (outside : ¬ board.dims.Contains square) : board.terrainAt square = none :=
  Grid.get?_eq_none outside

theorem occupantAt_eq_none {board : Board} {square : Square}
    (outside : ¬ board.dims.Contains square) : board.occupantAt square = none := by
  unfold occupantAt
  rw [Grid.get?_eq_none outside, Option.join_none]

theorem contains_of_occupantAt {board : Board} {square : Square} {occupant : Occupant}
    (found : board.occupantAt square = some occupant) : board.dims.Contains square := by
  by_cases inside : board.dims.Contains square
  · exact inside
  · rw [occupantAt_eq_none inside] at found
    cases found

private theorem occupantAt_of_get? {board : Board} {square : Square} {content : Option Occupant}
    (found : board.occupants.get? square = some content) : board.occupantAt square = content := by
  unfold occupantAt
  rw [found, Option.join_some]

private theorem get?_occupants {board : Board} {square : Square}
    (inside : board.dims.Contains square) :
    board.occupants.get? square = some (board.occupantAt square) := by
  obtain ⟨content, found⟩ := Grid.exists_get? board.occupants inside
  rw [found, occupantAt_of_get? found]

/-- Boards with the same terrain and the same occupants on every square are equal. -/
theorem ext {left right : Board} (dims : left.dims = right.dims)
    (terrain : ∀ square, left.terrainAt square = right.terrainAt square)
    (occupants : ∀ square, left.occupantAt square = right.occupantAt square) : left = right := by
  obtain ⟨leftDims, leftTerrain, leftOccupants⟩ := left
  obtain ⟨rightDims, rightTerrain, rightOccupants⟩ := right
  cases dims
  have sameTerrain : leftTerrain = rightTerrain := Grid.ext terrain
  have sameOccupants : leftOccupants = rightOccupants := by
    apply Grid.ext
    intro square
    by_cases inside : leftDims.Contains square
    · exact (get?_occupants inside).trans
        ((congrArg some (occupants square)).trans (get?_occupants inside).symm)
    · rw [Grid.get?_eq_none inside, Grid.get?_eq_none inside]
  rw [sameTerrain, sameOccupants]

theorem occupantAt_empty (dims : Dims) (square : Square) :
    (empty dims).occupantAt square = none := by
  unfold empty occupantAt
  rw [Grid.get?_constant]
  split <;> rfl

theorem terrainAt_empty (dims : Dims) (square : Square) :
    (empty dims).terrainAt square =
      if dims.Contains square then some defaultTerrain else none := Grid.get?_constant

theorem occupantAt_put {board : Board} {square other : Square} {occupant : Option Occupant}
    (inside : board.dims.Contains square) :
    (board.put square occupant).occupantAt other =
      if other = square then occupant else board.occupantAt other := by
  unfold occupantAt put
  rw [Grid.get?_set inside]
  split <;> rfl

theorem put_eq_self {board : Board} {square : Square} {occupant : Option Occupant}
    (outside : ¬ board.dims.Contains square) : board.put square occupant = board := by
  unfold put
  rw [Grid.set_eq_self outside]

theorem occupantAt_remove {board : Board} {square other : Square} :
    (board.remove square).occupantAt other =
      if other = square then none else board.occupantAt other := by
  by_cases inside : board.dims.Contains square
  · exact occupantAt_put inside
  · rw [remove, put_eq_self inside]
    split
    · next same => rw [same, occupantAt_eq_none inside]
    · rfl

theorem pieceAt_put {board : Board} {square : Square} {occupant : Option Occupant}
    (inside : board.dims.Contains square) (other : Square) :
    (board.put square occupant).pieceAt other =
      if other = square then occupant.map Occupant.piece else board.pieceAt other := by
  rw [pieceAt, occupantAt_put inside]
  split <;> rfl

theorem pieceAt_remove (board : Board) (square other : Square) :
    (board.remove square).pieceAt other =
      if other = square then none else board.pieceAt other := by
  rw [pieceAt, occupantAt_remove]
  split <;> rfl

theorem occupantAt_mapMoves {board : Board} {change : PlacedPiece → Moves} {square : Square} :
    (board.mapMoves change).occupantAt square =
      (board.placedAt square).map (fun placed => ⟨placed.piece, change placed⟩) := by
  unfold occupantAt mapMoves
  rw [Grid.get?_tabulate]
  by_cases inside : board.dims.Contains square
  · rw [if_pos inside, Option.join_some]
  · rw [if_neg inside, Option.join_none, placedAt, occupantAt_eq_none inside]
    rfl

theorem occupantAt_recordMoves {board : Board} {square other : Square} {moves : Moves} :
    (board.recordMoves square moves).occupantAt other =
      if other = square then
        (board.occupantAt square).map (fun occupant => { occupant with moves := moves })
      else board.occupantAt other := by
  unfold recordMoves
  split
  · next missing =>
    split
    · next same => rw [same, missing, Option.map_none]
    · rfl
  · next occupant found =>
    rw [occupantAt_put (contains_of_occupantAt found), found, Option.map_some]

/-- A piece is placed exactly on the free squares of the board. -/
theorem place_eq_ok_iff {board next : Board} {template : Template} {side : Side}
    {square : Square} :
    board.place template side square = .ok next ↔
      board.dims.Contains square ∧ board.occupantAt square = none ∧
        next = board.put square (some ⟨⟨template, side⟩, Moves.none⟩) := by
  unfold place isOccupied
  by_cases inside : board.dims.Contains square
  · rw [if_pos inside]
    cases standing : board.occupantAt square with
    | none =>
      constructor
      · intro placed
        cases placed
        exact ⟨inside, rfl, rfl⟩
      · intro given
        obtain ⟨_, _, rfl⟩ := given
        rfl
    | some occupant =>
      constructor
      · intro placed
        cases placed
      · intro given
        obtain ⟨_, vacant, _⟩ := given
        cases vacant
  · rw [if_neg inside]
    constructor
    · intro placed
      cases placed
    · intro given
      obtain ⟨contained, _⟩ := given
      exact absurd contained inside

/-- A move succeeds exactly if there is a piece to move and the target is on the board. -/
theorem movePiece_eq_ok_iff {board next : Board} {start target : Square}
    {taken : Option PlacedPiece} :
    board.movePiece start target = .ok (taken, next) ↔
      board.dims.Contains target ∧ ∃ mover, board.occupantAt start = some mover ∧
        taken = (board.remove start).placedAt target ∧
        next = (board.remove start).put target (some mover) := by
  unfold movePiece
  by_cases inside : board.dims.Contains target
  · rw [if_pos inside]
    cases standing : board.occupantAt start with
    | none => simp [inside]
    | some mover =>
      constructor
      · intro moved
        cases moved
        exact ⟨inside, mover, rfl, rfl, rfl⟩
      · intro given
        obtain ⟨_, other, same, rfl, rfl⟩ := given
        cases same
        rfl
  · rw [if_neg inside]
    constructor
    · intro moved
      cases moved
    · intro given
      obtain ⟨contained, _⟩ := given
      exact absurd contained inside

theorem occupantAt_movePiece {board next : Board} {start target : Square}
    {taken : Option PlacedPiece} (moved : board.movePiece start target = .ok (taken, next))
    (square : Square) :
    next.occupantAt square =
      if square = target then board.occupantAt start
      else if square = start then none
      else board.occupantAt square := by
  obtain ⟨inside, mover, standing, _, rfl⟩ := movePiece_eq_ok_iff.mp moved
  rw [@occupantAt_put (board.remove start) target square (some mover) inside, occupantAt_remove,
    standing]

theorem position_movePiece {board next : Board} {start target : Square}
    {taken : Option PlacedPiece} (moved : board.movePiece start target = .ok (taken, next)) :
    next.position = board.position.move start target := by
  have pieces : next.pieceAt = (board.position.move start target).pieceAt := by
    funext square
    show (next.occupantAt square).map Occupant.piece =
      if square = target then board.pieceAt start
      else if square = start then none
      else board.pieceAt square
    rw [occupantAt_movePiece moved]
    split
    · rfl
    · split <;> rfl
  obtain ⟨_, mover, _, _, rfl⟩ := movePiece_eq_ok_iff.mp moved
  unfold position
  rw [pieces]
  rfl

theorem terrainAt_paint {board : Board} {region : Region} {name : String} {square : Square}
    (inside : board.dims.Contains square) :
    (board.paint region name).terrainAt square =
      if region.Covers square then some name else board.terrainAt square := by
  obtain ⟨before, found⟩ := Grid.exists_get? board.terrain inside
  unfold terrainAt paint
  rw [Grid.get?_tabulate, if_pos inside, found, Option.getD_some]
  split <;> rfl

/-- Recording moves changes nothing that the rules of movement see. -/
theorem position_mapMoves (board : Board) (change : PlacedPiece → Moves) :
    (board.mapMoves change).position = board.position := by
  have pieces : (board.mapMoves change).pieceAt = board.pieceAt := by
    funext square
    unfold pieceAt
    rw [occupantAt_mapMoves, placedAt, Option.map_map, Option.map_map]
    rfl
  unfold position
  rw [pieces]
  rfl

theorem position_clearMoves (board : Board) : board.clearMoves.position = board.position :=
  position_mapMoves board _

theorem dims_recordMoves (board : Board) (square : Square) (moves : Moves) :
    (board.recordMoves square moves).dims = board.dims := by
  unfold recordMoves
  split <;> rfl

theorem terrainAt_recordMoves (board : Board) (square other : Square) (moves : Moves) :
    (board.recordMoves square moves).terrainAt other = board.terrainAt other := by
  unfold recordMoves
  split <;> rfl

theorem position_recordMoves (board : Board) (square : Square) (moves : Moves) :
    (board.recordMoves square moves).position = board.position := by
  have pieces : (board.recordMoves square moves).pieceAt = board.pieceAt := by
    funext other
    unfold pieceAt
    rw [occupantAt_recordMoves]
    split
    · next same =>
      rw [same, Option.map_map]
      rfl
    · rfl
  unfold position
  rw [pieces, dims_recordMoves, funext (terrainAt_recordMoves board square · moves)]

theorem piece_placedAt (board : Board) (square : Square) :
    (board.placedAt square).map PlacedPiece.piece = board.pieceAt square := by
  rw [placedAt, Option.map_map]
  rfl

theorem square_of_placedAt {board : Board} {square : Square} {placed : PlacedPiece}
    (found : board.placedAt square = some placed) : placed.square = square := by
  obtain ⟨_, _, rfl⟩ := Option.map_eq_some_iff.mp found
  rfl

theorem contains_of_placedAt {board : Board} {square : Square} {placed : PlacedPiece}
    (found : board.placedAt square = some placed) : board.dims.Contains square := by
  obtain ⟨_, standing, _⟩ := Option.map_eq_some_iff.mp found
  exact contains_of_occupantAt standing

theorem mem_pieces {board : Board} {placed : PlacedPiece} :
    placed ∈ board.pieces ↔ board.placedAt placed.square = some placed := by
  unfold pieces
  rw [List.mem_filterMap]
  constructor
  · intro given
    obtain ⟨square, _, found⟩ := given
    rw [square_of_placedAt found]
    exact found
  · intro found
    exact ⟨placed.square, Dims.mem_squares.mpr (contains_of_placedAt found), found⟩

end Board

end TerrainChess

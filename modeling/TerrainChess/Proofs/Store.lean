import Mathlib.Data.List.Basic
import TerrainChess.Proofs.Generation

/-!
# Boards as stores of pieces

A store lists the pieces under their squares, and every piece repeats its square. Moving a
piece takes its entry out and puts it back in under another key, and generation finds the
entries again by the squares that the pieces name. `Board.store` lays a board out in this
way, and every call does the same on both sides: `Board.store_call`. So neither can drift
from the map that says what stands where: `Store.run_faithful`.
-/

set_option autoImplicit false

namespace TerrainChess

structure Store where
  dims : Dims
  terrain : Grid dims String
  pieces : OrderedMap Square PlacedPiece

namespace Store

def empty (dims : Dims) : Store := ⟨dims, Grid.constant dims defaultTerrain, ∅⟩

def insert (store : Store) (square : Square) (placed : PlacedPiece) : Store :=
  { store with pieces := store.pieces.insert square placed }

def place (store : Store) (template : Template) (side : Side) (square : Square) :
    Except BoardError Unit × Store :=
  if store.dims.Contains square then
    if store.pieces.contains square then (.error (.occupied square), store)
    else (.ok (), store.insert square ⟨square, ⟨template, side⟩, Moves.none⟩)
  else (.error (.outOfBounds square), store)

def remove (store : Store) (square : Square) : Option PlacedPiece × Store :=
  (store.pieces.get? square, { store with pieces := store.pieces.erase square })

def movePiece (store : Store) (start target : Square) :
    Except BoardError (Option PlacedPiece) × Store :=
  if store.dims.Contains target then
    let (found, lifted) := store.remove start
    match found with
    | none => (.error (.emptySquare start), lifted)
    | some placed =>
      (.ok (lifted.pieces.get? target), lifted.insert target { placed with square := target })
  else (.error (.outOfBounds target), store)

def position (store : Store) : Position :=
  ⟨store.dims, store.terrain.get?,
    fun square => (store.pieces.get? square).map PlacedPiece.piece⟩

def piecesOf (store : Store) (side : Side) : List PlacedPiece :=
  store.pieces.values.filter (fun placed => decide (placed.piece.side = side))

/-- The squares that the pieces of a side name for themselves, royal pieces left out. -/
def roster (store : Store) (side : Side) : List Square :=
  ((store.piecesOf side).filter (fun placed => !placed.piece.isRoyal)).map PlacedPiece.square

def royalSquare? (store : Store) (side : Side) : Option Square :=
  ((store.piecesOf side).find? (fun placed => placed.piece.isRoyal)).map PlacedPiece.square

/-- What the entry of a square reaches. The terrain is that of the square; the paths start on the
square that the piece names for itself. -/
def reach (store : Store) (zone : Option SquareSet) (square : Square) (placed : PlacedPiece) :
    Reach :=
  let terrain := (store.terrain.get? square).getD defaultTerrain
  let patterns := placed.piece.template.patternsOn placed.piece.side terrain
  let candidates := store.position.candidates zone placed.piece placed.square patterns
  let first := Reach.ofCandidates (candidates .standard)
  if first.moves.legal.isEmpty then
    Reach.ofCandidates (candidates .standard ++ candidates .alternate)
  else first

def reaches (store : Store) (side : Side) (zone : Option SquareSet) : List (Square × Reach) :=
  (store.roster side ++ (store.royalSquare? side).toList).filterMap (fun square =>
    (store.pieces.get? square).map (fun placed => (square, store.reach zone square placed)))

def recordMoves (store : Store) (square : Square) (moves : Moves) : Store :=
  match store.pieces.get? square with
  | none => store
  | some placed => store.insert square { placed with moves := moves }

def generateSide (store : Store) (side : Side) (zone : Option SquareSet) : Store × SideReport :=
  let reaches := store.reaches side zone
  (reaches.foldl (fun current reached => current.recordMoves reached.1 reached.2.moves) store,
    { covered := OrderedSet.unions (reaches.map (fun reached => reached.2.covered))
      threatensRoyal := reaches.any (fun reached => reached.2.moves.threatensRoyal) })

end Store

/-!
## Calls
-/

inductive BoardCall where
  | place (template : Template) (side : Side) (square : Square)
  | remove (square : Square)
  | move (start target : Square)
  | generate (side : Side) (zone : Option SquareSet)

/-- The piece that a call gives back, if any, or its error; and the store that it leaves. -/
def Store.call (store : Store) : BoardCall → Except BoardError (Option PlacedPiece) × Store
  | .place template side square =>
    let (answer, next) := store.place template side square
    (answer.map (fun _ => none), next)
  | .remove square =>
    let (taken, next) := store.remove square
    (.ok taken, next)
  | .move start target => store.movePiece start target
  | .generate side zone => (.ok none, (store.generateSide side zone).1)

def Store.run (store : Store) (calls : List BoardCall) : Store :=
  calls.foldl (fun current call => (current.call call).2) store

def Board.call (board : Board) : BoardCall → Except BoardError (Option PlacedPiece) × Board
  | .place template side square =>
    match board.place template side square with
    | .ok next => (.ok none, next)
    | .error error => (.error error, board)
  | .remove square => (.ok (board.placedAt square), board.remove square)
  | .move start target =>
    match board.movePiece start target with
    | .ok (taken, next) => (.ok taken, next)
    | .error error => (.error error, board)
  | .generate side zone => (.ok none, (board.generateSide side zone).1)

def Board.run (board : Board) (calls : List BoardCall) : Board :=
  calls.foldl (fun current call => (current.call call).2) board

/-- What a call does to a board, one case for each way in which it can end. -/
inductive Board.Outcome (board : Board) :
    BoardCall → Except BoardError (Option PlacedPiece) × Board → Prop
  | placed {template : Template} {side : Side} {square : Square}
      (inside : board.dims.Contains square) (vacant : board.occupantAt square = none) :
      Outcome board (.place template side square)
        (.ok none, board.put square (some ⟨⟨template, side⟩, Moves.none⟩))
  | placedOutside {template : Template} {side : Side} {square : Square}
      (outside : ¬ board.dims.Contains square) :
      Outcome board (.place template side square) (.error (.outOfBounds square), board)
  | placedOccupied {template : Template} {side : Side} {square : Square} {occupant : Occupant}
      (inside : board.dims.Contains square) (standing : board.occupantAt square = some occupant) :
      Outcome board (.place template side square) (.error (.occupied square), board)
  | removed {square : Square} :
      Outcome board (.remove square) (.ok (board.placedAt square), board.remove square)
  | moved {start target : Square} {mover : Occupant} (inside : board.dims.Contains target)
      (standing : board.occupantAt start = some mover) :
      Outcome board (.move start target)
        (.ok ((board.remove start).placedAt target), (board.remove start).put target (some mover))
  | movedOutside {start target : Square} (outside : ¬ board.dims.Contains target) :
      Outcome board (.move start target) (.error (.outOfBounds target), board)
  | movedEmpty {start target : Square} (inside : board.dims.Contains target)
      (vacant : board.occupantAt start = none) :
      Outcome board (.move start target) (.error (.emptySquare start), board)
  | generated {side : Side} {zone : Option SquareSet} :
      Outcome board (.generate side zone) (.ok none, (board.generateSide side zone).1)

theorem Board.outcome_call (board : Board) (call : BoardCall) :
    board.Outcome call (board.call call) := by
  cases call with
  | place template side square =>
    simp only [Board.call, Board.place]
    by_cases inside : board.dims.Contains square
    · rw [if_pos inside]
      by_cases occupied : board.isOccupied square = true
      · rw [if_pos occupied]
        obtain ⟨_, standing⟩ := Option.isSome_iff_exists.mp occupied
        exact .placedOccupied inside standing
      · rw [if_neg occupied]
        exact .placed inside (Option.not_isSome_iff_eq_none.mp occupied)
    · rw [if_neg inside]
      exact .placedOutside inside
  | remove square => exact .removed
  | move start target =>
    simp only [Board.call, Board.movePiece]
    by_cases inside : board.dims.Contains target
    · rw [if_pos inside]
      cases standing : board.occupantAt start with
      | none => exact .movedEmpty inside standing
      | some mover => exact .moved inside standing
    · rw [if_neg inside]
      exact .movedOutside inside
  | generate side zone => exact .generated

abbrev Placement : Type := Square → Option Piece

/-- What a call means for what stands where on a board of some extent. -/
def Placement.call (dims : Dims) (placement : Placement) :
    BoardCall → Except BoardError (Option Piece) × Placement
  | .place template side square =>
    if dims.Contains square then
      match placement square with
      | none =>
        (.ok none, fun other =>
          if other = square then some ⟨template, side⟩ else placement other)
      | some _ => (.error (.occupied square), placement)
    else (.error (.outOfBounds square), placement)
  | .remove square =>
    (.ok (placement square), fun other => if other = square then none else placement other)
  | .move start target =>
    if dims.Contains target then
      match placement start with
      | none => (.error (.emptySquare start), placement)
      | some mover =>
        if target = start then (.ok none, placement)
        else
          (.ok (placement target), fun other =>
            if other = target then some mover
            else if other = start then none
            else placement other)
    else (.error (.outOfBounds target), placement)
  | .generate _ _ => (.ok none, placement)

def Placement.run (dims : Dims) (placement : Placement) (calls : List BoardCall) : Placement :=
  calls.foldl (fun current call => (Placement.call dims current call).2) placement

/-!
## The store of a board
-/

namespace Board

variable {board : Board} {square : Square}

def entries (board : Board) : OrderedMap Square PlacedPiece where
  entries := board.dims.squares.filterMap
    (fun square => (board.placedAt square).map (fun placed => (square, placed)))
  increasing := by
    rw [List.pairwise_filterMap]
    refine board.dims.increasing_squares.imp ?_
    intro first second ascending entry found other foundToo
    obtain ⟨_, _, rfl⟩ := Option.map_eq_some_iff.mp found
    obtain ⟨_, _, rfl⟩ := Option.map_eq_some_iff.mp foundToo
    exact ascending

def store (board : Board) : Store := ⟨board.dims, board.terrain, board.entries⟩

@[simp] theorem dims_store (board : Board) : board.store.dims = board.dims := rfl

@[simp] theorem pieces_store (board : Board) : board.store.pieces = board.entries := rfl

@[simp] theorem get?_entries (board : Board) (square : Square) :
    board.entries.get? square = board.placedAt square := by
  apply Option.ext
  intro placed
  rw [OrderedMap.get?_eq_some_iff, entries, List.mem_filterMap]
  constructor
  · intro given
    obtain ⟨other, _, found⟩ := given
    obtain ⟨_, standing, same⟩ := Option.map_eq_some_iff.mp found
    cases same
    exact standing
  · intro found
    have onBoard := Dims.mem_squares.mpr (contains_of_placedAt found)
    exact ⟨square, onBoard, by rw [found, Option.map_some]⟩

theorem values_entries (board : Board) : board.entries.values = board.pieces := by
  unfold OrderedMap.values entries pieces
  rw [List.map_filterMap]
  simp only [Option.map_map, Function.comp_def, Option.map_id']

theorem position_store (board : Board) : board.store.position = board.position := by
  unfold Store.position position store
  simp only [get?_entries, piece_placedAt]
  rfl

theorem store_empty (dims : Dims) : (empty dims).store = Store.empty dims := by
  have pieces : (empty dims).entries = ∅ := by
    apply OrderedMap.ext
    intro square
    rw [get?_entries, placedAt, occupantAt_empty]
    rfl
  unfold store
  rw [pieces]
  rfl

theorem store_put {occupant : Occupant} (inside : board.dims.Contains square) :
    (board.put square (some occupant)).store =
      board.store.insert square ⟨square, occupant.piece, occupant.moves⟩ := by
  have pieces : (board.put square (some occupant)).entries =
      board.entries.insert square ⟨square, occupant.piece, occupant.moves⟩ := by
    apply OrderedMap.ext
    intro other
    rw [get?_entries, OrderedMap.get?_insert, get?_entries, placedAt, occupantAt_put inside]
    split
    · next same => rw [same, Option.map_some]
    · rfl
  unfold store
  rw [pieces]
  rfl

theorem store_remove (board : Board) (square : Square) :
    board.store.remove square = (board.placedAt square, (board.remove square).store) := by
  have pieces : (board.remove square).entries = board.entries.erase square := by
    apply OrderedMap.ext
    intro other
    rw [get?_entries, OrderedMap.get?_erase, get?_entries, placedAt, occupantAt_remove]
    split <;> rfl
  unfold Store.remove store
  rw [pieces, get?_entries]
  rfl

theorem remove_eq_self (vacant : board.occupantAt square = none) : board.remove square = board := by
  refine ext rfl (fun _ => rfl) (fun other => ?_)
  rw [occupantAt_remove]
  split
  · next same => rw [same, vacant]
  · rfl

theorem contains_store (board : Board) (square : Square) :
    board.store.pieces.contains square = board.isOccupied square := by
  rw [OrderedMap.contains, pieces_store, get?_entries, placedAt, Option.isSome_map, isOccupied]

/-!
## Generation
-/

theorem pieces_position (board : Board) :
    board.position.pieces = board.pieces.map (fun placed => (placed.square, placed.piece)) := by
  unfold Position.pieces pieces
  rw [List.map_filterMap]
  refine List.filterMap_congr fun square _ => ?_
  show (board.pieceAt square).map _ = _
  rw [placedAt, pieceAt, Option.map_map, Option.map_map]
  rfl

theorem piecesOf_position (board : Board) (side : Side) :
    board.position.piecesOf side =
      (board.piecesOf side).map (fun placed => (placed.square, placed.piece)) := by
  unfold Position.piecesOf piecesOf
  rw [pieces_position, List.filter_map]
  rfl

theorem piecesOf_store (board : Board) (side : Side) :
    board.store.piecesOf side = board.piecesOf side := by
  rw [Store.piecesOf, pieces_store, values_entries, piecesOf]

theorem roster_store (board : Board) (side : Side) :
    board.store.roster side = board.position.roster side := by
  unfold Store.roster Position.roster
  rw [piecesOf_store, piecesOf_position, List.filter_map, List.map_map]
  rfl

theorem royalSquare?_store (board : Board) (side : Side) :
    board.store.royalSquare? side = board.position.royalSquare? side := by
  unfold Store.royalSquare? Position.royalSquare?
  rw [piecesOf_store, piecesOf_position, List.find?_map, Option.map_map]
  rfl

/-- The paths start where they should since every piece names the square under which it is kept. -/
theorem reach_store {placed : PlacedPiece} (found : board.placedAt square = some placed)
    (zone : Option SquareSet) :
    board.store.reach zone square placed = board.position.reachFrom zone placed.piece square := by
  have home : placed.square = square := square_of_placedAt found
  unfold Store.reach Position.reachFrom
  rw [home, position_store]
  rfl

theorem reaches_store (board : Board) (side : Side) (zone : Option SquareSet) :
    board.store.reaches side zone = board.position.reaches side zone := by
  unfold Store.reaches Position.reaches Position.generationOrder
  rw [roster_store, royalSquare?_store]
  refine List.filterMap_congr fun square _ => ?_
  show (board.entries.get? square).map _ = ((board.pieceAt square).map _).map _
  rw [get?_entries, ← piece_placedAt, Option.map_map, Option.map_map]
  cases found : board.placedAt square with
  | none => rfl
  | some placed =>
    rw [Option.map_some, Option.map_some, reach_store found]
    rfl

theorem store_recordMoves (board : Board) (square : Square) (moves : Moves) :
    (board.recordMoves square moves).store = board.store.recordMoves square moves := by
  unfold recordMoves Store.recordMoves
  rw [pieces_store, get?_entries]
  cases standing : board.occupantAt square with
  | none =>
    rw [placedAt, standing]
    rfl
  | some occupant =>
    rw [placedAt, standing]
    exact store_put (contains_of_occupantAt standing)

theorem store_foldl_recordMoves (reaches : List (Square × Reach)) (board : Board) :
    (reaches.foldl (fun current reached => current.recordMoves reached.1 reached.2.moves)
        board).store =
      reaches.foldl (fun current reached => current.recordMoves reached.1 reached.2.moves)
        board.store := by
  induction reaches generalizing board with
  | nil => rfl
  | cons reached rest ih => rw [List.foldl_cons, List.foldl_cons, ih, store_recordMoves]

theorem store_generateSide (board : Board) (side : Side) (zone : Option SquareSet) :
    board.store.generateSide side zone =
      ((board.generateSide side zone).1.store, (board.generateSide side zone).2) := by
  unfold Store.generateSide generateSide Position.sideReport
  simp only [reaches_store, store_foldl_recordMoves]

/-!
## One call and many
-/

/-- A call does the same to a board and to its store. -/
theorem store_call (board : Board) (call : BoardCall) :
    board.store.call call = ((board.call call).1, (board.call call).2.store) := by
  have outcome := board.outcome_call call
  generalize board.call call = result at outcome ⊢
  cases outcome with
  | @placed _ _ square inside vacant =>
    have free : ¬ board.isOccupied square = true := Option.not_isSome_iff_eq_none.mpr vacant
    simp only [Store.call, Store.place, dims_store, inside, if_true, contains_store, free]
    rw [store_put inside]
    rfl
  | placedOutside outside =>
    simp only [Store.call, Store.place, dims_store, outside, if_false]
    rfl
  | @placedOccupied _ _ square occupant inside standing =>
    have held : board.isOccupied square = true := Option.isSome_iff_exists.mpr ⟨occupant, standing⟩
    simp only [Store.call, Store.place, dims_store, inside, if_true, contains_store, held, if_true]
    rfl
  | removed =>
    simp only [Store.call, store_remove]
  | @moved start target mover inside standing =>
    have onLifted : (board.remove start).dims.Contains target := inside
    have found : board.placedAt start = some ⟨start, mover.piece, mover.moves⟩ := by
      rw [placedAt, standing, Option.map_some]
    simp only [Store.call, Store.movePiece, dims_store, inside, if_true, store_remove, found,
      pieces_store, get?_entries]
    rw [store_put onLifted]
  | movedOutside outside =>
    simp only [Store.call, Store.movePiece, dims_store, outside, if_false]
  | @movedEmpty start target inside vacant =>
    have missing : board.placedAt start = none := by rw [placedAt, vacant, Option.map_none]
    simp only [Store.call, Store.movePiece, dims_store, inside, if_true, store_remove, missing]
    rw [remove_eq_self vacant]
  | generated =>
    simp only [Store.call, store_generateSide]

theorem store_run (board : Board) (calls : List BoardCall) :
    board.store.run calls = (board.run calls).store := by
  induction calls generalizing board with
  | nil => rfl
  | cons call rest ih =>
    show (board.store.call call).2.run rest = ((board.call call).2.run rest).store
    rw [store_call, ih]

theorem dims_call (board : Board) (call : BoardCall) : (board.call call).2.dims = board.dims := by
  have outcome := board.outcome_call call
  generalize board.call call = result at outcome ⊢
  cases outcome with
  | generated => exact congrArg Position.dims (position_generateSide board _ _)
  | _ => rfl

theorem dims_run (board : Board) (calls : List BoardCall) :
    (board.run calls).dims = board.dims := by
  induction calls generalizing board with
  | nil => rfl
  | cons call rest ih => exact (ih (board.call call).2).trans (dims_call board call)

theorem call_eq_self_of_error {error : BoardError} {call : BoardCall}
    (failed : (board.call call).1 = .error error) : (board.call call).2 = board := by
  have outcome := board.outcome_call call
  generalize board.call call = result at outcome failed ⊢
  cases outcome with
  | placedOutside | placedOccupied | movedOutside | movedEmpty => rfl
  | placed | removed | moved | generated => cases failed

theorem put_remove {mover : Occupant} (standing : board.occupantAt square = some mover) :
    (board.remove square).put square (some mover) = board := by
  have onBoard : board.dims.Contains square := contains_of_occupantAt standing
  have inside : (board.remove square).dims.Contains square := onBoard
  refine ext rfl (fun _ => rfl) (fun other => ?_)
  rw [occupantAt_put inside, occupantAt_remove]
  split
  · next same => rw [same, standing]
  · rfl

/-- What a call leaves on the squares is what it means for them. -/
theorem placement_call (board : Board) (call : BoardCall) :
    Placement.call board.dims board.pieceAt call =
      ((board.call call).1.map (Option.map PlacedPiece.piece), (board.call call).2.pieceAt) := by
  have outcome := board.outcome_call call
  generalize board.call call = result at outcome ⊢
  cases outcome with
  | @placed _ _ square inside vacant =>
    have free : board.pieceAt square = none := by rw [pieceAt, vacant, Option.map_none]
    simp only [Placement.call, if_pos inside, free]
    refine Prod.ext rfl (funext fun other => ?_)
    show _ = (board.put square _).pieceAt other
    rw [pieceAt_put inside]
    rfl
  | placedOutside outside =>
    simp only [Placement.call, if_neg outside]
    rfl
  | @placedOccupied _ _ square occupant inside standing =>
    have held : board.pieceAt square = some occupant.piece := by
      rw [pieceAt, standing, Option.map_some]
    simp only [Placement.call, if_pos inside, held]
    rfl
  | @removed square =>
    simp only [Placement.call, ← piece_placedAt board square]
    refine Prod.ext rfl (funext fun other => ?_)
    exact (pieceAt_remove board square other).symm
  | @moved start target mover inside standing =>
    have held : board.pieceAt start = some mover.piece := by
      rw [pieceAt, standing, Option.map_some]
    have insideToo : (board.remove start).dims.Contains target := inside
    simp only [Placement.call, if_pos inside, held]
    split
    · next same =>
      subst same
      rw [put_remove standing, placedAt, occupantAt_remove, if_pos rfl]
      rfl
    · next apart =>
      refine Prod.ext ?_ (funext fun other => ?_)
      · show Except.ok _ = Except.ok (((board.remove start).placedAt target).map _)
        rw [piece_placedAt, pieceAt_remove, if_neg apart]
      · show _ = ((board.remove start).put target (some mover)).pieceAt other
        rw [pieceAt_put insideToo, pieceAt_remove]
        rfl
  | movedOutside outside =>
    simp only [Placement.call, if_neg outside]
    rfl
  | @movedEmpty start target inside vacant =>
    have free : board.pieceAt start = none := by rw [pieceAt, vacant, Option.map_none]
    simp only [Placement.call, if_pos inside, free]
    rfl
  | @generated side zone =>
    have pieces := congrArg Position.pieceAt (position_generateSide board side zone)
    exact Prod.ext rfl pieces.symm

theorem placement_run (board : Board) (calls : List BoardCall) :
    Placement.run board.dims board.pieceAt calls = (board.run calls).pieceAt := by
  induction calls generalizing board with
  | nil => rfl
  | cons call rest ih =>
    show Placement.run board.dims (Placement.call board.dims board.pieceAt call).2 rest = _
    rw [placement_call, ← dims_call board call]
    exact ih (board.call call).2

theorem increasing_pieces (board : Board) : board.pieces.Pairwise
    (fun first second => KeyOrder.before first.square second.square = true) := by
  rw [pieces, List.pairwise_filterMap]
  refine board.dims.increasing_squares.imp ?_
  intro first second ascending placed found other foundToo
  rw [square_of_placedAt found, square_of_placedAt foundToo]
  exact ascending

/-- A piece that moves gives back what stood on its target and stands there instead; on its own
square it gives back nothing and changes nothing. -/
theorem call_move_of_ok {start target : Square} {taken : Option PlacedPiece}
    (moved : (board.call (.move start target)).1 = .ok taken) :
    taken = (if target = start then none else board.placedAt target) ∧
      (target = start → (board.call (.move start target)).2 = board) ∧
      ∀ square, (board.call (.move start target)).2.placedAt square =
        if square = target then
          (board.placedAt start).map (fun placed => { placed with square := target })
        else if square = start then none
        else board.placedAt square := by
  have outcome := board.outcome_call (.move start target)
  generalize board.call (.move start target) = result at outcome moved ⊢
  cases outcome with
  | movedOutside | movedEmpty => cases moved
  | @moved _ _ mover inside standing =>
    have onLifted : (board.remove start).dims.Contains target := inside
    obtain rfl := Except.ok.inj moved
    refine ⟨?_, ?_, ?_⟩
    · rw [placedAt, occupantAt_remove]
      split <;> rfl
    · intro same
      subst same
      exact put_remove standing
    · intro square
      rw [placedAt, occupantAt_put onLifted, occupantAt_remove, placedAt, standing]
      split
      · next here =>
        rw [here]
        rfl
      · split <;> rfl

end Board

/-- Whatever calls are made, an entry of the store names the square under which it is kept, a
square of the board; the entries are listed by row and then by column; and what stands where is
what the calls mean for it. The board lists the same pieces. The next call gives back what it means,
leaves everything as it is if it fails; and a move gives back the former entry of the target, puts
the whole entry of the start there and keeps all the others. -/
theorem Store.run_faithful (dims : Dims) (calls : List BoardCall) :
    let store := (Store.empty dims).run calls
    let board := (Board.empty dims).run calls
    let placement := Placement.run dims (fun _ => none) calls
    (∀ square placed, store.pieces.get? square = some placed →
      placed.square = square ∧ dims.Contains square) ∧
    store.pieces.values.Pairwise (fun first second => first.square.y.val < second.square.y.val ∨
      first.square.y.val = second.square.y.val ∧ first.square.x.val < second.square.x.val) ∧
    (∀ square, (store.pieces.get? square).map PlacedPiece.piece = placement square) ∧
    (board.store = store ∧ board.pieces = store.pieces.values ∧ board.pieceAt = placement) ∧
    ∀ call,
      (board.call call).1 = (store.call call).1 ∧
      (store.call call).1.map (Option.map PlacedPiece.piece) =
        (Placement.call dims placement call).1 ∧
      (∀ error, (store.call call).1 = .error error → (store.call call).2 = store) ∧
      ∀ start target taken, call = .move start target → (store.call call).1 = .ok taken →
        taken = (if target = start then none else store.pieces.get? target) ∧
          (target = start → (store.call call).2 = store) ∧
          ∀ square, (store.call call).2.pieces.get? square =
            if square = target then
              (store.pieces.get? start).map (fun placed => { placed with square := target })
            else if square = start then none
            else store.pieces.get? square := by
  intro store board placement
  have sized : board.dims = dims := Board.dims_run (Board.empty dims) calls
  have stored : board.store = store := by
    rw [← Board.store_run, Board.store_empty]
  have placements : board.pieceAt = placement := by
    have initial : (Board.empty dims).pieceAt = fun _ => none := by
      funext square
      rw [Board.pieceAt, Board.occupantAt_empty, Option.map_none]
    have run := Board.placement_run (Board.empty dims) calls
    rw [initial] at run
    exact run.symm
  have looked : ∀ square, store.pieces.get? square = board.placedAt square := by
    intro square
    rw [← stored]
    exact Board.get?_entries board square
  have listed : board.pieces = store.pieces.values := by
    rw [← stored]
    exact (Board.values_entries board).symm
  refine ⟨?_, ?_, ?_, ⟨stored, listed, placements⟩, ?_⟩
  · intro square placed found
    rw [looked] at found
    exact ⟨Board.square_of_placedAt found, sized ▸ Board.contains_of_placedAt found⟩
  · rw [← listed]
    exact (Board.increasing_pieces board).imp Square.precedes_iff.mp
  · intro square
    rw [looked, Board.piece_placedAt, placements]
  · intro call
    have same : store.call call = ((board.call call).1, (board.call call).2.store) := by
      rw [← stored, Board.store_call]
    have meaning := Board.placement_call board call
    rw [sized, placements] at meaning
    rw [same, meaning]
    refine ⟨rfl, rfl, ?_, ?_⟩
    · intro error failed
      rw [← stored]
      exact congrArg Board.store (Board.call_eq_self_of_error failed)
    · intro start target taken asked moved
      subst asked
      obtain ⟨former, still, squares⟩ := Board.call_move_of_ok moved
      simp only [looked, Board.pieces_store, Board.get?_entries]
      rw [← stored]
      exact ⟨former, fun own => congrArg Board.store (still own), squares⟩

end TerrainChess

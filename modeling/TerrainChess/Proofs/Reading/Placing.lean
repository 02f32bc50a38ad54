import TerrainChess.Proofs.Reading.Board

/-!
# One line of a pieces section

A line that places a piece takes effect as a whole or not at all, even on a board
that keeps what was placed before a fault: `Notation.placeLine_atomic`. All that
can be wrong with the line is checked before the first piece is placed, so that
the piece on the reflected square is never missing. The reflection is computed
for squares of the board only, where it stays in the range of coordinates.
-/

set_option autoImplicit false

namespace TerrainChess

/-!
## Reflections in the range of coordinates
-/

def Coord.sub? (left right : Coord) : Option Coord := ofInt? (left.val - right.val)

namespace Dims

def mirror? (dims : Dims) (square : Square) : Option Square :=
  match (dims.width.sub? 1).bind (fun last => last.sub? square.x),
    (dims.height.sub? 1).bind (fun last => last.sub? square.y) with
  | some x, some y => some ⟨x, y⟩
  | _, _ => none

variable {dims : Dims} {square : Square}

theorem mirror?_of_contains (inside : dims.Contains square) :
    dims.mirror? square = some (dims.mirror square) := by
  have direction : ∀ {extent value reflected : Coord}, 0 ≤ value.val → value.val < extent.val →
      reflected.val = extent.val - 1 - value.val →
      (extent.sub? 1).bind (fun last => last.sub? value) = some reflected := by
    intro extent value reflected least greatest same
    have top := extent.greatest
    have one : extent.sub? 1 = some (Coord.clamp (extent.val - 1)) :=
      Coord.ofInt?_eq_some_iff.mpr (Coord.val_clamp_of_mem (by omega) (by omega))
    rw [one, Option.bind_some, Coord.sub?, Coord.ofInt?_eq_some_iff, same,
      Coord.val_clamp_of_mem (by omega) (by omega)]
  obtain ⟨columns, rows⟩ := val_mirror_of_contains inside
  obtain ⟨left, right, bottom, top⟩ := inside
  rw [mirror?, direction left right columns, direction bottom top rows]

/-- Far off the board the second subtraction leaves the range. -/
example : mirror? ⟨3, 4⟩ ⟨-2147483648, 0⟩ = none := by decide

end Dims

/-!
## Placing on a board that keeps what has been placed
-/

namespace Board

/-- A square is free for a piece of a side, which gets no second royal piece by it. -/
structure HasRoom (board : Board) (template : Template) (side : Side) (square : Square) :
    Prop where
  free : board.occupantAt square = none
  single : template.royal = true → ∀ other piece, board.pieceAt other = some piece →
    piece.side = side → piece.isRoyal = false

/-- The second board is the first one and a piece on a square, and with mirroring also that piece
for the other side on the reflected square. -/
structure Gains (board : Board) (template : Template) (side : Side) (square : Square)
    (mirrored : Bool) (next : Board) : Prop where
  dims_eq : next.dims = board.dims
  terrain : ∀ other, next.terrainAt other = board.terrainAt other
  occupants : ∀ other, next.occupantAt other =
    if other = square then some ⟨⟨template, side⟩, Moves.none⟩
    else if mirrored = true ∧ other = board.dims.mirror square then
      some ⟨⟨template, side.opponent⟩, Moves.none⟩
    else board.occupantAt other

theorem occupantAt_place {board next : Board} {template : Template} {side : Side}
    {square : Square} (placed : board.place template side square = .ok next) (other : Square) :
    next.occupantAt other =
      if other = square then some ⟨⟨template, side⟩, Moves.none⟩ else board.occupantAt other := by
  obtain ⟨inside, _, rfl⟩ := place_eq_ok_iff.mp placed
  exact occupantAt_put inside

theorem exists_place {board : Board} {square : Square} (inside : board.dims.Contains square)
    (free : board.occupantAt square = none) (template : Template) (side : Side) :
    ∃ next, board.place template side square = .ok next :=
  ⟨_, place_eq_ok_iff.mpr ⟨inside, free, rfl⟩⟩

end Board

namespace Notation

variable {board : Board} {template : Template} {side : Side} {square : Square}

/-- Places a piece on one square after the other until the board refuses one: the board that
results, and the reason. -/
def placeEach (template : Template) : List (Side × Square) → Board → Board × Option Fault
  | [], board => (board, none)
  | (side, square) :: rest, board =>
    match board.place template side square with
    | .error reason => (board, some (faultOfBoardError reason))
    | .ok next => placeEach template rest next

/-- The template that a line asks for and its targets, after all checks of the line. -/
def readPlacing (pieces : PieceCatalogue) (side : Option Side) (mirrored : Bool) (board : Board)
    (line : List Char) : Except Fault (Template × List (Side × Square)) :=
  match readAll PlacingField.read (Text.fields line) with
  | .error fault => .error fault
  | .ok fields =>
    match (namesOf fields).getLast?, squaresOf fields with
    | some name, [square] =>
      match pieces.get? name with
      | none => .error (.undeclaredPieceType name)
      | some template =>
        match side with
        | none => .error (.missingSide name)
        | some owner =>
          match placements board template.royal owner square mirrored with
          | .error fault => .error fault
          | .ok targets => .ok (template, targets)
    | _, _ => .error (.strayText (String.ofList line))

/-- Reads a line on the board itself and not on a copy of it: what is placed before a fault
stays. -/
def placeLineOn (pieces : PieceCatalogue) (side : Option Side) (mirrored : Bool) (board : Board)
    (line : List Char) : Board × Option Fault :=
  match readPlacing pieces side mirrored board line with
  | .error fault => (board, some fault)
  | .ok (template, targets) => placeEach template targets board

def AsksFor (line : List Char) (name : String) (square : Square) : Prop :=
  ∃ fields, readAll PlacingField.read (Text.fields line) = .ok fields ∧
    (namesOf fields).getLast? = some name ∧ squaresOf fields = [square]

theorem placeLine_eq (pieces : PieceCatalogue) (side : Option Side) (mirrored : Bool)
    (board : Board) (line : List Char) :
    placeLine pieces side mirrored board line =
      match readPlacing pieces side mirrored board line with
      | .error fault => .error fault
      | .ok (template, targets) => placeOn template targets board := by
  unfold placeLine readPlacing
  cases readAll PlacingField.read (Text.fields line) with
  | error fault => rfl
  | ok fields =>
    dsimp only
    generalize (namesOf fields).getLast? = named
    generalize squaresOf fields = squares
    match named, squares with
    | none, _ => rfl
    | some _, [] => rfl
    | some _, _ :: _ :: _ => rfl
    | some name, [square] =>
      dsimp only
      cases pieces.get? name with
      | none => rfl
      | some template =>
        cases side with
        | none => rfl
        | some owner =>
          dsimp only
          cases placements board template.royal owner square mirrored <;> rfl

theorem readPlacing_eq {pieces : PieceCatalogue} {line : List Char} {name : String}
    (asks : AsksFor line name square) (listed : pieces.get? name = some template) (side : Side)
    (mirrored : Bool) (board : Board) :
    readPlacing pieces (some side) mirrored board line =
      match placements board template.royal side square mirrored with
      | .error fault => .error fault
      | .ok targets => .ok (template, targets) := by
  obtain ⟨fields, read, named, single⟩ := asks
  simp only [readPlacing, read, named, single, listed]

/-- A line that passes all checks names a listed piece type and a square, and a side is
selected. -/
theorem exists_of_readPlacing {pieces : PieceCatalogue} {side : Option Side} {mirrored : Bool}
    {line : List Char} {targets : List (Side × Square)}
    (read : readPlacing pieces side mirrored board line = .ok (template, targets)) :
    ∃ name owner square, AsksFor line name square ∧ pieces.get? name = some template ∧
      side = some owner ∧ placements board template.royal owner square mirrored = .ok targets := by
  unfold readPlacing at read
  split at read
  · cases read
  · next fields meant =>
    split at read
    · next name square named single =>
      split at read
      · cases read
      · next found listed =>
        split at read
        · cases read
        · next owner =>
          split at read
          · cases read
          · next checked given =>
            cases read
            exact ⟨name, owner, square, ⟨fields, meant, named, single⟩, listed, rfl, given⟩
    · cases read

/-!
## The targets of a line
-/

theorem checkTarget_eq_ok_iff_hasRoom :
    checkTarget board template.royal side square = .ok () ↔
      board.dims.Contains square ∧ board.HasRoom template side square := by
  have standing : ∀ {other piece}, board.position.Stands other piece ↔
      board.pieceAt other = some piece := by
    intro other piece
    constructor
    · exact fun stands => stands.2
    · intro found
      obtain ⟨occupant, there, _⟩ := Option.map_eq_some_iff.mp found
      exact ⟨Board.contains_of_occupantAt there, found⟩
  have vacant : board.isOccupied square = false ↔ board.occupantAt square = none := by
    rw [Board.isOccupied, Option.isSome_eq_false_iff, Option.isNone_iff_eq_none]
  rw [checkTarget_eq_ok_iff, vacant, Position.royalSquare?_eq_none_iff]
  simp only [standing]
  exact and_congr_right' ⟨fun ⟨free, single⟩ => ⟨free, single⟩,
    fun ⟨free, single⟩ => ⟨free, single⟩⟩

/-- With mirroring the reflected square must be another one that has room. It is on the board if the
square is. -/
theorem placements_eq_ok_iff {mirrored : Bool} {targets : List (Side × Square)} :
    placements board template.royal side square mirrored = .ok targets ↔
      (board.dims.Contains square ∧ board.HasRoom template side square ∧
        (mirrored = true → board.dims.mirror square ≠ square ∧
          board.HasRoom template side.opponent (board.dims.mirror square))) ∧
        targets = if mirrored then [(side, square), (side.opponent, board.dims.mirror square)]
          else [(side, square)] := by
  unfold placements
  cases own : checkTarget board template.royal side square with
  | error fault =>
    have refused : ¬ (board.dims.Contains square ∧ board.HasRoom template side square) := by
      rw [← checkTarget_eq_ok_iff_hasRoom, own]
      exact fun same => by cases same
    constructor
    · intro placed
      cases placed
    · rintro ⟨⟨inside, room, _⟩, _⟩
      exact absurd ⟨inside, room⟩ refused
  | ok _ =>
    obtain ⟨inside, room⟩ := checkTarget_eq_ok_iff_hasRoom.mp own
    cases mirrored with
    | false => simp [inside, room, eq_comm]
    | true =>
      have reflectedInside := Dims.contains_mirror_of_contains inside
      by_cases central : board.dims.mirror square = square
      · simp [central]
      · cases other : checkTarget board template.royal side.opponent (board.dims.mirror square) with
        | error fault =>
          have refused : ¬ board.HasRoom template side.opponent (board.dims.mirror square) := by
            intro roomToo
            rw [checkTarget_eq_ok_iff_hasRoom.mpr ⟨reflectedInside, roomToo⟩] at other
            cases other
          simp [central, refused, other]
        | ok _ =>
          have roomToo := (checkTarget_eq_ok_iff_hasRoom.mp other).2
          simp [central, inside, room, roomToo, other, eq_comm]

/-- Once the targets of a line have been checked, placing does not fail, and it does no more than
asked for. -/
theorem placeEach_of_placements {mirrored : Bool} {targets : List (Side × Square)}
    (checked : placements board template.royal side square mirrored = .ok targets) :
    ∃ next, placeOn template targets board = .ok next ∧
      placeEach template targets board = (next, none) ∧
      board.Gains template side square mirrored next := by
  obtain ⟨⟨inside, room, reflected⟩, rfl⟩ := placements_eq_ok_iff.mp checked
  obtain ⟨middle, placed⟩ := Board.exists_place inside room.free template side
  cases mirrored with
  | false =>
    refine ⟨middle, ?_, ?_, Board.dims_place placed, Board.terrainAt_place placed, ?_⟩
    · simp [placeOn, placed]
    · simp [placeEach, placed]
    · intro other
      rw [Board.occupantAt_place placed]
      simp
  | true =>
    obtain ⟨apart, roomToo⟩ := reflected rfl
    have insideToo : middle.dims.Contains (board.dims.mirror square) := by
      rw [Board.dims_place placed]
      exact Dims.contains_mirror_of_contains inside
    have freeToo : middle.occupantAt (board.dims.mirror square) = none := by
      rw [Board.occupantAt_place placed, if_neg apart]
      exact roomToo.free
    obtain ⟨next, placedToo⟩ := Board.exists_place insideToo freeToo template side.opponent
    refine ⟨next, ?_, ?_, ?_, ?_, ?_⟩
    · simp [placeOn, placed, placedToo]
    · simp [placeEach, placed, placedToo]
    · rw [Board.dims_place placedToo, Board.dims_place placed]
    · intro other
      rw [Board.terrainAt_place placedToo, Board.terrainAt_place placed]
    · intro other
      rw [Board.occupantAt_place placedToo, Board.occupantAt_place placed]
      by_cases here : other = square
      · simp [here, apart.symm]
      · simp [here]

/-- An accepted line places a piece for the selected side, and with mirroring its reflection lies
elsewhere. -/
theorem exists_gains_of_placeLine {pieces : PieceCatalogue} {selected : Option Side}
    {mirrored : Bool} {line : List Char} {next : Board}
    (placed : placeLine pieces selected mirrored board line = .ok next) :
    ∃ template side square, selected = some side ∧ board.dims.Contains square ∧
      (mirrored = true → board.dims.mirror square ≠ square) ∧
      board.Gains template side square mirrored next := by
  rw [placeLine_eq] at placed
  cases read : readPlacing pieces selected mirrored board line with
  | error fault =>
    rw [read] at placed
    cases placed
  | ok plan =>
    rw [read] at placed
    obtain ⟨_, side, square, _, _, owned, checked⟩ := exists_of_readPlacing read
    obtain ⟨inside, _, reflected⟩ := (placements_eq_ok_iff.mp checked).1
    obtain ⟨_, done, _, gains⟩ := placeEach_of_placements checked
    cases done.symm.trans placed
    exact ⟨plan.1, side, square, owned, inside, fun mirrors => (reflected mirrors).1, gains⟩

/-- The targets of a piece where the reflection is computed with `Dims.mirror?`: there is no answer
where a subtraction leaves the range of coordinates. -/
def placements? (board : Board) (royal : Bool) (side : Side) (square : Square) (mirrored : Bool) :
    Option (Except Fault (List (Side × Square))) :=
  match checkTarget board royal side square with
  | .error fault => some (.error fault)
  | .ok _ =>
    if mirrored then
      (board.dims.mirror? square).map (fun reflected =>
        if reflected = square then .error (.occupiedSquare reflected)
        else
          match checkTarget board royal side.opponent reflected with
          | .error fault => .error fault
          | .ok _ => .ok [(side, square), (side.opponent, reflected)])
    else some (.ok [(side, square)])

/-- Every reflection that is computed stays in the range. -/
theorem placements?_eq (board : Board) (royal : Bool) (side : Side) (square : Square)
    (mirrored : Bool) :
    placements? board royal side square mirrored =
      some (placements board royal side square mirrored) := by
  unfold placements? placements
  cases checked : checkTarget board royal side square with
  | error fault => rfl
  | ok _ =>
    have inside := (checkTarget_eq_ok_iff.mp checked).1
    cases mirrored with
    | false => rfl
    | true =>
      rw [Dims.mirror?_of_contains inside]
      rfl

/-- A line either places the named template for the selected side on its square, and with mirroring
also for the other side on the reflected square, or it is refused and leaves the board as it was.
It is placed exactly if the square is on the board and has room, and with mirroring the reflected
square is another one and has room for the other side. No reflection leaves the range of
coordinates. -/
theorem placeLine_atomic (pieces : PieceCatalogue) (selected : Option Side) (mirrored : Bool)
    (board : Board) (line : List Char) :
    let result := placeLineOn pieces selected mirrored board line
    (placeLine pieces selected mirrored board line =
      match result.2 with
      | none => .ok result.1
      | some fault => .error fault) ∧
    ((result.2 = none ∧ ∃ name template side square, AsksFor line name square ∧
        pieces.get? name = some template ∧ selected = some side ∧
        board.Gains template side square mirrored result.1) ∨
      ∃ fault, result = (board, some fault)) ∧
    (∀ name template side square, AsksFor line name square → pieces.get? name = some template →
      selected = some side →
        (result.2 = none ↔
          board.dims.Contains square ∧ board.HasRoom template side square ∧
            (mirrored = true → board.dims.mirror square ≠ square ∧
              board.HasRoom template side.opponent (board.dims.mirror square)))) ∧
    ∀ royal side square, placements? board royal side square mirrored =
      some (placements board royal side square mirrored) := by
  intro result
  have outcome : result = placeLineOn pieces selected mirrored board line := rfl
  unfold placeLineOn at outcome
  refine ⟨?_, ?_, ?_, fun royal side square => placements?_eq board royal side square mirrored⟩
  · rw [placeLine_eq, outcome]
    cases read : readPlacing pieces selected mirrored board line with
    | error fault => rfl
    | ok plan =>
      obtain ⟨name, side, square, _, _, _, checked⟩ := exists_of_readPlacing read
      obtain ⟨next, placed, inTurn, _⟩ := placeEach_of_placements checked
      simp only [placed, inTurn]
  · cases read : readPlacing pieces selected mirrored board line with
    | error fault => exact Or.inr ⟨fault, by rw [outcome, read]⟩
    | ok plan =>
      obtain ⟨name, side, square, asks, listed, owned, checked⟩ := exists_of_readPlacing read
      obtain ⟨next, _, inTurn, gains⟩ := placeEach_of_placements checked
      rw [read] at outcome
      have placed : result = (next, none) := outcome.trans inTurn
      rw [placed]
      exact Or.inl ⟨rfl, name, plan.1, side, square, asks, listed, owned, gains⟩
  · rintro name template side square asks listed rfl
    rw [outcome, readPlacing_eq asks listed]
    cases checked : placements board template.royal side square mirrored with
    | error fault =>
      have refused : ∀ targets,
          placements board template.royal side square mirrored ≠ .ok targets := by
        intro targets same
        cases checked.symm.trans same
      constructor
      · intro placed
        cases placed
      · intro given
        exact absurd (placements_eq_ok_iff.mpr ⟨given, rfl⟩) (refused _)
    | ok targets =>
      obtain ⟨next, _, inTurn, _⟩ := placeEach_of_placements checked
      simp only [inTurn, true_iff]
      exact (placements_eq_ok_iff.mp checked).1

/-- A rook is placed with its reflection, and another one is refused for what stands on the reflected
square. -/
theorem placeLine_atomic_miniature :
    let place := placeLineOn Miniature.pieces (some .red) true Miniature.board
    AsksFor "(rook):2,1".toList "rook" ⟨2, 1⟩ ∧ AsksFor "(rook):2,0".toList "rook" ⟨2, 0⟩ ∧
      Miniature.pieces.get? "rook" = some Miniature.rook ∧
      (place "(rook):2,1".toList).2 = none ∧
      Miniature.board.occupantAt ⟨2, 0⟩ = none ∧
      ∃ fault, place "(rook):2,0".toList = (Miniature.board, some fault) := by
  intro place
  have accepted : AsksFor "(rook):2,1".toList "rook" ⟨2, 1⟩ :=
    ⟨[.piece "rook", .square ⟨2, 1⟩], by rfl, rfl, rfl⟩
  have refused : AsksFor "(rook):2,0".toList "rook" ⟨2, 0⟩ :=
    ⟨[.piece "rook", .square ⟨2, 0⟩], by rfl, rfl, rfl⟩
  have listed : Miniature.pieces.get? "rook" = some Miniature.rook := by decide +kernel
  have common : ∀ {square}, Miniature.board.occupantAt square = none →
      ∀ side, Miniature.board.HasRoom Miniature.rook side square :=
    fun free side => ⟨free, fun royal => by cases royal⟩
  have conditions := (placeLine_atomic Miniature.pieces (some .red) true Miniature.board
    "(rook):2,1".toList).2.2.1 "rook" Miniature.rook .red ⟨2, 1⟩ accepted listed rfl
  have occupied : Miniature.board.occupantAt ⟨0, 3⟩ ≠ none := by decide +kernel
  have reflection : Miniature.board.dims.mirror ⟨2, 0⟩ = ⟨0, 3⟩ := by decide +kernel
  refine ⟨accepted, refused, listed, ?_, by decide +kernel, ?_⟩
  · exact conditions.mpr ⟨by decide +kernel, common (by decide +kernel) _,
      fun _ => ⟨by decide +kernel, common (by decide +kernel) _⟩⟩
  · obtain ⟨_, outcomes, conditionsToo, _⟩ := placeLine_atomic Miniature.pieces (some .red) true
      Miniature.board "(rook):2,0".toList
    rcases outcomes with ⟨placed, _⟩ | stopped
    · obtain ⟨_, _, reflected⟩ :=
        (conditionsToo "rook" Miniature.rook .red ⟨2, 0⟩ refused listed rfl).mp placed
      exact absurd (reflection ▸ (reflected rfl).2.free) occupied
    · exact stopped

end Notation

end TerrainChess

import TerrainChess.Safety

/-!
# Views of a position

A position is read through `Stands`: which piece stands on which square of the
board. The lists of pieces, the royal square and the order of generation are
described by it, and so is the position after a move.
-/

set_option autoImplicit false

namespace TerrainChess

namespace Position

def Stands (position : Position) (square : Square) (piece : Piece) : Prop :=
  position.dims.Contains square ∧ position.pieceAt square = some piece

instance (position : Position) (square : Square) (piece : Piece) :
    Decidable (position.Stands square piece) := inferInstanceAs (Decidable (_ ∧ _))

theorem Stands.unique {position : Position} {square : Square} {piece other : Piece}
    (stands : position.Stands square piece) (again : position.Stands square other) :
    piece = other := Option.some.inj (stands.2.symm.trans again.2)

theorem mem_pieces {position : Position} {placed : Square × Piece} :
    placed ∈ position.pieces ↔ position.Stands placed.1 placed.2 := by
  unfold pieces
  rw [List.mem_filterMap]
  constructor
  · intro given
    obtain ⟨square, member, found⟩ := given
    obtain ⟨piece, standing, rfl⟩ := Option.map_eq_some_iff.mp found
    exact ⟨Dims.mem_squares.mp member, standing⟩
  · intro given
    obtain ⟨inside, standing⟩ := given
    refine ⟨placed.1, Dims.mem_squares.mpr inside, ?_⟩
    rw [standing]
    rfl

theorem mem_piecesOf {position : Position} {side : Side} {placed : Square × Piece} :
    placed ∈ position.piecesOf side ↔
      position.Stands placed.1 placed.2 ∧ placed.2.side = side := by
  unfold piecesOf
  rw [List.mem_filter, mem_pieces, decide_eq_true_eq]

theorem mem_roster {position : Position} {side : Side} {square : Square} :
    square ∈ position.roster side ↔
      ∃ piece, position.Stands square piece ∧ piece.side = side ∧ piece.isRoyal = false := by
  unfold roster
  simp only [List.mem_map, List.mem_filter, mem_piecesOf, Bool.not_eq_true']
  constructor
  · intro given
    obtain ⟨placed, ⟨⟨stands, owned⟩, common⟩, rfl⟩ := given
    exact ⟨placed.2, stands, owned, common⟩
  · intro given
    obtain ⟨piece, stands, owned, common⟩ := given
    exact ⟨(square, piece), ⟨⟨stands, owned⟩, common⟩, rfl⟩

theorem stands_of_royalSquare? {position : Position} {side : Side} {square : Square}
    (found : position.royalSquare? side = some square) :
    ∃ royal, position.Stands square royal ∧ royal.side = side ∧ royal.isRoyal = true := by
  obtain ⟨placed, first, rfl⟩ := Option.map_eq_some_iff.mp found
  obtain ⟨stands, owned⟩ := mem_piecesOf.mp (List.mem_of_find?_eq_some first)
  have crowned : placed.2.isRoyal = true := by simpa using List.find?_some first
  exact ⟨placed.2, stands, owned, crowned⟩

theorem royalSquare?_isSome {position : Position} {side : Side} {square : Square} {royal : Piece}
    (stands : position.Stands square royal) (owned : royal.side = side)
    (crowned : royal.isRoyal = true) : (position.royalSquare? side).isSome = true := by
  unfold royalSquare?
  rw [Option.isSome_map, List.find?_isSome]
  exact ⟨(square, royal), mem_piecesOf.mpr ⟨stands, owned⟩, crowned⟩

theorem mem_generationOrder {position : Position} {side : Side} {square : Square} :
    square ∈ position.generationOrder side ↔
      ∃ piece, position.Stands square piece ∧ piece.side = side ∧
        (piece.isRoyal = false ∨ position.royalSquare? side = some square) := by
  unfold generationOrder
  rw [List.mem_append, mem_roster, Option.mem_toList]
  constructor
  · intro given
    rcases given with ⟨piece, stands, owned, common⟩ | found
    · exact ⟨piece, stands, owned, Or.inl common⟩
    · obtain ⟨royal, stands, owned, _⟩ := stands_of_royalSquare? found
      exact ⟨royal, stands, owned, Or.inr found⟩
  · intro given
    rcases given with ⟨piece, stands, owned, common | found⟩
    · exact Or.inl ⟨piece, stands, owned, common⟩
    · exact Or.inr found

/-!
## Positions with one royal piece for each side at most
-/

def SingleRoyals (position : Position) : Prop :=
  ∀ first ∈ position.pieces, ∀ second ∈ position.pieces,
    first.2.isRoyal = true → second.2.isRoyal = true → first.2.side = second.2.side →
      first.1 = second.1

instance (position : Position) : Decidable position.SingleRoyals :=
  inferInstanceAs (Decidable (∀ first ∈ position.pieces, _))

theorem SingleRoyals.unique {position : Position} (single : position.SingleRoyals)
    {first second : Square} {royal other : Piece} (stands : position.Stands first royal)
    (again : position.Stands second other) (crowned : royal.isRoyal = true)
    (otherCrowned : other.isRoyal = true) (owned : royal.side = other.side) : first = second :=
  single (first, royal) (mem_pieces.mpr stands) (second, other) (mem_pieces.mpr again) crowned
    otherCrowned owned

def SingleRoyal (position : Position) (side : Side) : Prop :=
  ∀ first ∈ position.piecesOf side, ∀ second ∈ position.piecesOf side,
    first.2.isRoyal = true → second.2.isRoyal = true → first.1 = second.1

instance (position : Position) (side : Side) : Decidable (position.SingleRoyal side) :=
  inferInstanceAs (Decidable (∀ first ∈ position.piecesOf side, _))

theorem SingleRoyals.ofSide {position : Position} (single : position.SingleRoyals) (side : Side) :
    position.SingleRoyal side := by
  intro first firstMember second secondMember firstCrowned secondCrowned
  obtain ⟨firstStands, firstOwned⟩ := mem_piecesOf.mp firstMember
  obtain ⟨secondStands, secondOwned⟩ := mem_piecesOf.mp secondMember
  exact single.unique firstStands secondStands firstCrowned secondCrowned
    (firstOwned.trans secondOwned.symm)

namespace SingleRoyal

variable {position : Position} {side : Side} (single : position.SingleRoyal side)
  {square : Square}

include single

theorem royalSquare?_eq_some_iff : position.royalSquare? side = some square ↔
    ∃ royal, position.Stands square royal ∧ royal.side = side ∧ royal.isRoyal = true := by
  constructor
  · exact stands_of_royalSquare?
  · intro given
    obtain ⟨royal, stands, owned, crowned⟩ := given
    obtain ⟨other, found⟩ := Option.isSome_iff_exists.mp (royalSquare?_isSome stands owned crowned)
    obtain ⟨rival, rivalStands, rivalOwned, rivalCrowned⟩ := stands_of_royalSquare? found
    have same : other = square := single (other, rival) (mem_piecesOf.mpr ⟨rivalStands, rivalOwned⟩)
      (square, royal) (mem_piecesOf.mpr ⟨stands, owned⟩) rivalCrowned crowned
    rw [found, same]

theorem mem_generationOrder_iff : square ∈ position.generationOrder side ↔
    ∃ piece, position.Stands square piece ∧ piece.side = side := by
  rw [mem_generationOrder]
  constructor
  · intro given
    obtain ⟨piece, stands, owned, _⟩ := given
    exact ⟨piece, stands, owned⟩
  · intro given
    obtain ⟨piece, stands, owned⟩ := given
    refine ⟨piece, stands, owned, ?_⟩
    cases crowned : piece.isRoyal with
    | false => exact Or.inl rfl
    | true => exact Or.inr (single.royalSquare?_eq_some_iff.mpr ⟨piece, stands, owned, crowned⟩)

end SingleRoyal

/-!
## Moves on a position
-/

def AllPieces (position : Position) (property : Piece → Prop) : Prop :=
  ∀ placed ∈ position.pieces, property placed.2

instance (position : Position) (property : Piece → Prop) [DecidablePred property] :
    Decidable (position.AllPieces property) :=
  inferInstanceAs (Decidable (∀ placed ∈ position.pieces, _))

theorem AllPieces.of_stands {position : Position} {property : Piece → Prop}
    (all : position.AllPieces property) {square : Square} {piece : Piece}
    (stands : position.Stands square piece) : property piece :=
  all (square, piece) (mem_pieces.mpr stands)

theorem pieceAt_move (position : Position) (start target square : Square) :
    (position.move start target).pieceAt square =
      if square = target then position.pieceAt start
      else if square = start then none
      else position.pieceAt square := rfl

/-- A piece that stands somewhere after a move is the one that has moved or has stayed. -/
theorem stands_of_stands_move {position : Position} {start target square : Square} {piece : Piece}
    (inside : position.dims.Contains start)
    (stands : (position.move start target).Stands square piece) :
    square = target ∧ position.Stands start piece ∨
      square ≠ target ∧ square ≠ start ∧ position.Stands square piece := by
  obtain ⟨contained, found⟩ := stands
  rw [pieceAt_move] at found
  by_cases arrived : square = target
  · rw [if_pos arrived] at found
    exact Or.inl ⟨arrived, inside, found⟩
  · rw [if_neg arrived] at found
    by_cases left : square = start
    · rw [if_pos left] at found
      cases found
    · rw [if_neg left] at found
      exact Or.inr ⟨arrived, left, contained, found⟩

theorem AllPieces.move {position : Position} {property : Piece → Prop}
    (all : position.AllPieces property) {start target : Square}
    (inside : position.dims.Contains start) :
    (position.move start target).AllPieces property := by
  intro placed member
  rcases stands_of_stands_move inside (mem_pieces.mp member) with ⟨_, moved⟩ | ⟨_, _, stayed⟩
  · exact all.of_stands moved
  · exact all.of_stands stayed

theorem SingleRoyals.move {position : Position} (single : position.SingleRoyals)
    {start target : Square} (inside : position.dims.Contains start) :
    (position.move start target).SingleRoyals := by
  intro first firstMember second secondMember firstCrowned secondCrowned sameSide
  rcases stands_of_stands_move inside (mem_pieces.mp firstMember) with
    ⟨firstHere, firstMoved⟩ | ⟨_, firstApart, firstStayed⟩
  · rcases stands_of_stands_move inside (mem_pieces.mp secondMember) with
      ⟨secondHere, _⟩ | ⟨_, secondApart, secondStayed⟩
    · exact firstHere.trans secondHere.symm
    · exact absurd
        (single.unique firstMoved secondStayed firstCrowned secondCrowned sameSide).symm secondApart
  · rcases stands_of_stands_move inside (mem_pieces.mp secondMember) with
      ⟨_, secondMoved⟩ | ⟨_, _, secondStayed⟩
    · exact absurd
        (single.unique firstStayed secondMoved firstCrowned secondCrowned sameSide) firstApart
    · exact single.unique firstStayed secondStayed firstCrowned secondCrowned sameSide

end Position

namespace Board

theorem stands_iff {board : Board} {square : Square} {piece : Piece} :
    board.position.Stands square piece ↔ board.pieceAt square = some piece := by
  constructor
  · exact And.right
  · intro standing
    obtain ⟨occupant, found, _⟩ := Option.map_eq_some_iff.mp standing
    exact ⟨contains_of_occupantAt found, standing⟩

theorem stands_of_occupantAt {board : Board} {square : Square} {occupant : Occupant}
    (standing : board.occupantAt square = some occupant) :
    board.position.Stands square occupant.piece := by
  rw [stands_iff, pieceAt, standing, Option.map_some]

end Board

end TerrainChess

import TerrainChess.Proofs.Reflection.Reaching

/-!
# Reflected safety

With one royal piece for each side at most, the royal pieces of a position and of
its reflection correspond, the position after a reflected move is the reflection
of the position after the move, and a reflected move is safe exactly if the move
is: `Position.isSafeMove_reflect`.
-/

set_option autoImplicit false

namespace TerrainChess

namespace Position

namespace Compact

variable {position : Position} (compact : position.Compact)

include compact

/-!
## The pieces of a reflected position
-/

theorem stands_reflect_iff {square : Square} {piece : Piece} :
    position.reflect.Stands square piece ↔
      ∃ original, position.Stands (position.dims.mirror square) original ∧
        original.reflect = piece := by
  have inside : position.dims.Contains (position.dims.mirror square) ↔
      position.dims.Contains square := Dims.contains_mirror compact.small
  constructor
  · intro stands
    obtain ⟨original, standing, same⟩ := Option.map_eq_some_iff.mp stands.2
    exact ⟨original, ⟨inside.mpr stands.1, standing⟩, same⟩
  · intro found
    obtain ⟨original, stands, same⟩ := found
    exact ⟨inside.mp stands.1, Option.map_eq_some_iff.mpr ⟨original, stands.2, same⟩⟩

theorem stands_reflect {square : Square} {piece : Piece} (stands : position.Stands square piece) :
    position.reflect.Stands (position.dims.mirror square) piece.reflect := by
  refine compact.stands_reflect_iff.mpr ⟨piece, ?_, rfl⟩
  rw [Dims.mirror_mirror stands.1]
  exact stands

theorem forall_stands_reflect {property : Square → Piece → Prop} :
    (∀ square piece, position.reflect.Stands square piece → property square piece) ↔
      ∀ square piece, position.Stands square piece →
        property (position.dims.mirror square) piece.reflect := by
  constructor
  · intro all square piece stands
    exact all _ _ (compact.stands_reflect stands)
  · intro all square piece stands
    obtain ⟨original, originalStands, same⟩ := compact.stands_reflect_iff.mp stands
    have inside : position.dims.Contains square := stands.1
    have holds := all _ original originalStands
    rw [Dims.mirror_mirror inside, same] at holds
    exact holds

theorem exists_stands_reflect {property : Square → Piece → Prop} :
    (∃ square piece, position.reflect.Stands square piece ∧ property square piece) ↔
      ∃ square piece, position.Stands square piece ∧
        property (position.dims.mirror square) piece.reflect := by
  constructor
  · intro found
    obtain ⟨square, piece, stands, holds⟩ := found
    obtain ⟨original, originalStands, same⟩ := compact.stands_reflect_iff.mp stands
    have inside : position.dims.Contains square := stands.1
    rw [← Dims.mirror_mirror inside, ← same] at holds
    exact ⟨_, original, originalStands, holds⟩
  · intro found
    obtain ⟨square, piece, stands, holds⟩ := found
    exact ⟨_, _, compact.stands_reflect stands, holds⟩

theorem threatensRoyal_reflect (attacker : Side) :
    position.reflect.threatensRoyal attacker.opponent = position.threatensRoyal attacker := by
  rw [Bool.eq_iff_iff, threatensRoyal_iff, threatensRoyal_iff]
  refine compact.exists_stands_reflect.trans ?_
  refine exists_congr (fun square => exists_congr (fun piece => and_congr_right ?_))
  intro stands
  have reached : position.reflect.reachFrom none piece.reflect (position.dims.mirror square) =
      (position.reachFrom none piece square).reflect position.dims :=
    compact.reachFrom_reflect stands.1 (compact.short.of_stands stands) none
  rw [reached, Reach.threatensRoyal_reflect, piece.side_reflect, Side.opponent_eq_iff]

/-!
## Moves
-/

section Move

variable {start target : Square} (startInside : position.dims.Contains start)
  (targetInside : position.dims.Contains target)

include startInside targetInside

theorem move : (position.move start target).Compact where
  small := compact.small
  terrainOff := compact.terrainOff
  pieceOff := by
    intro square outside
    have apart : square ≠ target := by
      intro same
      exact outside (same ▸ targetInside)
    rw [pieceAt_move, if_neg apart, compact.pieceOff square outside, ite_self]
  short := compact.short.move startInside

theorem move_reflect :
    (position.move start target).reflect =
      position.reflect.move (position.dims.mirror start) (position.dims.mirror target) := by
  have pieces : (position.move start target).reflect.pieceAt =
      (position.reflect.move (position.dims.mirror start)
        (position.dims.mirror target)).pieceAt := by
    funext square
    have arrives : position.dims.mirror square = target ↔
        square = position.dims.mirror target := Dims.mirror_eq_comm compact.small targetInside
    have leaves : position.dims.mirror square = start ↔
        square = position.dims.mirror start := Dims.mirror_eq_comm compact.small startInside
    rw [pieceAt_move, compact.pieceAt_reflect]
    show ((position.move start target).pieceAt (position.dims.mirror square)).map Piece.reflect = _
    rw [pieceAt_move]
    simp only [arrives, leaves]
    split
    · rfl
    · split <;> rfl
  show Position.mk _ _ _ = Position.mk _ _ _
  rw [Position.mk.injEq]
  exact ⟨rfl, rfl, pieces⟩

end Move

/-!
## Royal pieces
-/

section Single

variable (single : position.SingleRoyals)

include single

theorem singleRoyals_reflect : position.reflect.SingleRoyals := by
  intro first firstMember second secondMember firstCrowned secondCrowned sameSide
  have firstStands := mem_pieces.mp firstMember
  obtain ⟨piece, pieceStands, firstSame⟩ := compact.stands_reflect_iff.mp firstStands
  obtain ⟨other, otherStands, secondSame⟩ :=
    compact.stands_reflect_iff.mp (mem_pieces.mp secondMember)
  rw [← firstSame] at firstCrowned sameSide
  rw [← secondSame] at secondCrowned sameSide
  have mirrored := single.unique otherStands pieceStands secondCrowned firstCrowned
    (Side.opponent_eq_iff.mp sameSide.symm)
  exact ((Dims.mirror_eq_iff compact.small firstStands.1).mp mirrored).symm

theorem royalSquare?_reflect (side : Side) :
    position.reflect.royalSquare? side.opponent =
      (position.royalSquare? side).map position.dims.mirror := by
  cases found : position.royalSquare? side with
  | none =>
    rw [Option.map_none, Option.eq_none_iff_forall_ne_some]
    intro square foundAgain
    obtain ⟨royal, stands, owned, crowned⟩ := stands_of_royalSquare? foundAgain
    obtain ⟨original, originalStands, same⟩ := compact.stands_reflect_iff.mp stands
    rw [← same] at owned crowned
    have some := royalSquare?_isSome originalStands (Side.opponent_eq_iff.mp owned) crowned
    rw [found] at some
    cases some
  | some square =>
    obtain ⟨royal, stands, owned, crowned⟩ := stands_of_royalSquare? found
    exact ((compact.singleRoyals_reflect single).ofSide _).royalSquare?_eq_some_iff.mpr
      ⟨royal.reflect, compact.stands_reflect stands, congrArg Side.opponent owned, crowned⟩

theorem royalExposed_reflect (side : Side) :
    position.reflect.royalExposed side.opponent = position.royalExposed side := by
  unfold royalExposed
  rw [compact.royalSquare?_reflect single]
  cases found : position.royalSquare? side with
  | none => rfl
  | some square =>
    obtain ⟨royal, stands, _⟩ := stands_of_royalSquare? found
    have violates : position.reflect.encounterViolated royal.reflect
        (position.dims.mirror square) = position.encounterViolated royal square :=
      compact.encounterViolated_reflect stands.1 (compact.short.of_stands stands)
    simp only [Option.map_some, compact.pieceAt_reflect, stands.2, violates]

theorem isSafeFor_reflect (side : Side) :
    position.reflect.isSafeFor side.opponent = position.isSafeFor side := by
  unfold isSafeFor
  rw [compact.threatensRoyal_reflect, compact.royalExposed_reflect single]

theorem isSafeMove_reflect (start target : Square) :
    position.reflect.isSafeMove (position.dims.mirror start) (position.dims.mirror target) =
      position.isSafeMove start target := by
  unfold isSafeMove
  rw [compact.pieceAt_reflect]
  cases standing : position.pieceAt start with
  | none => rfl
  | some mover =>
    have inside : position.reflect.dims.Contains (position.dims.mirror target) ↔
        position.dims.Contains target := Dims.contains_mirror compact.small
    simp only [Option.map_some, inside]
    split
    · next arrival =>
      have startInside := compact.contains_of_pieceAt standing
      rw [← compact.move_reflect startInside arrival]
      exact (compact.move startInside arrival).isSafeFor_reflect (single.move startInside) mover.side
    · rfl

end Single

end Compact

end Position

end TerrainChess

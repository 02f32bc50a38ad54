import TerrainChess.Coord
import TerrainChess.Ordered.Key

/-!
# Squares and offsets

A square is a column and a row and may lie on or off any board. An offset is a
displacement between squares. Squares are ordered by row and then by column.
-/

set_option autoImplicit false

namespace TerrainChess

@[ext] structure Square where
  x : Coord
  y : Coord
deriving DecidableEq

@[ext] structure Offset where
  dx : Coord
  dy : Coord
deriving DecidableEq

/-- The square one displacement away; a coordinate stops at the end of its range. -/
instance : HAdd Square Offset Square := ⟨fun square offset =>
  ⟨square.x + offset.dx, square.y + offset.dy⟩⟩

instance : Neg Offset := ⟨fun offset => ⟨-offset.dx, -offset.dy⟩⟩

namespace Square

/-- Says whether a square comes before another by row and then by column. -/
def precedes (first second : Square) : Bool :=
  decide (first.y.val < second.y.val ∨
    first.y.val = second.y.val ∧ first.x.val < second.x.val)

theorem precedes_iff {first second : Square} : first.precedes second = true ↔
    first.y.val < second.y.val ∨
      first.y.val = second.y.val ∧ first.x.val < second.x.val :=
  decide_eq_true_iff

instance : KeyOrder Square where
  before := precedes
  irreflexive square := by
    rw [Bool.eq_false_iff]
    intro before
    rw [precedes_iff] at before
    omega
  transitive := by
    intro first second third
    rw [precedes_iff, precedes_iff, precedes_iff]
    omega
  total first second := by
    rw [precedes_iff, precedes_iff]
    have same : first.x.val = second.x.val → first.y.val = second.y.val → first = second :=
      fun columns rows => Square.ext (Coord.ext columns) (Coord.ext rows)
    by_cases columns : first.x.val = second.x.val
    · by_cases rows : first.y.val = second.y.val
      · exact Or.inr (Or.inl (same columns rows))
      · omega
    · omega

end Square

theorem Offset.dx_neg (offset : Offset) : (-offset).dx = -offset.dx := rfl

theorem Offset.dy_neg (offset : Offset) : (-offset).dy = -offset.dy := rfl

end TerrainChess

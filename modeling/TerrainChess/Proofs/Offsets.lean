import TerrainChess.Dims

/-!
# Offsets within reach

The offsets that are shorter than a board are exactly those that lead from one of its
squares to another: `Dims.withinReach_exact`. Sums and negations that stop at the end of
the range change nothing about it, because a coordinate that has stopped lies on no board.
-/

set_option autoImplicit false

namespace TerrainChess

/-!
## One coordinate
-/

namespace Coord

/-- Only the least coordinate has no exact opposite. -/
theorem val_neg_of_natAbs_lt {value limit : Coord} (shorter : value.val.natAbs < limit.val.natAbs) :
    (-value).val = -value.val := by
  have least := limit.least
  have greatest := limit.greatest
  rw [val_neg]
  omega

def OnBoard (extent value : Coord) : Prop := 0 ≤ value.val ∧ value.val < extent.val

variable {extent value step : Coord}

/-- A sum that lies on the board has not stopped at an end of the range. -/
theorem OnBoard.val_add (arrived : OnBoard extent (value + step)) :
    (value + step).val = value.val + step.val := by
  obtain ⟨lower, upper⟩ := arrived
  have greatest := extent.greatest
  rw [Coord.val_add] at lower upper ⊢
  omega

theorem OnBoard.natAbs_lt (on : OnBoard extent value) (arrived : OnBoard extent (value + step)) :
    step.val.natAbs < extent.val.natAbs := by
  have sum := arrived.val_add
  obtain ⟨left, right⟩ := on
  obtain ⟨lower, upper⟩ := arrived
  omega

/-- A step up that is short enough starts at the lower end of the board, and a step down ends
there. -/
theorem exists_onBoard (shorter : step.val.natAbs < extent.val.natAbs) (positive : 0 < extent.val) :
    ∃ value, OnBoard extent value ∧ OnBoard extent (value + step) := by
  have greatest := extent.greatest
  have start : (clamp (max 0 (-step.val))).val = max 0 (-step.val) :=
    val_clamp_of_mem (by omega) (by omega)
  refine ⟨clamp (max 0 (-step.val)), ?_, ?_⟩
  · unfold OnBoard
    rw [start]
    omega
  · unfold OnBoard
    rw [Coord.val_add, start]
    omega

/-- The least coordinate is longer than any board, and so is the end at which its negation
stops. -/
theorem natAbs_neg_lt_iff (positive : 0 < extent.val) :
    (-step).val.natAbs < extent.val.natAbs ↔ step.val.natAbs < extent.val.natAbs := by
  have greatest := extent.greatest
  have least := step.least
  rw [val_neg]
  omega

theorem OnBoard.add_neg (on : OnBoard extent value) (arrived : OnBoard extent (value + step)) :
    value + step + -step = value := by
  have sum := arrived.val_add
  have opposite := val_neg_of_natAbs_lt (on.natAbs_lt arrived)
  have least := value.least
  have greatest := value.greatest
  apply ext
  rw [Coord.val_add, sum, opposite]
  omega

end Coord

/-!
## Both directions
-/

namespace Dims

variable {dims : Dims} {square : Square} {offset : Offset}

namespace WithinReach

theorem val_neg (reaches : dims.WithinReach offset) :
    (-offset).dx.val = -offset.dx.val ∧ (-offset).dy.val = -offset.dy.val :=
  ⟨Coord.val_neg_of_natAbs_lt reaches.1, Coord.val_neg_of_natAbs_lt reaches.2⟩

theorem neg (reaches : dims.WithinReach offset) : dims.WithinReach (-offset) := by
  obtain ⟨column, row⟩ := reaches.val_neg
  unfold WithinReach
  rw [column, row, Int.natAbs_neg, Int.natAbs_neg]
  exact reaches

theorem neg_neg (reaches : dims.WithinReach offset) : - -offset = offset := by
  obtain ⟨column, row⟩ := reaches.val_neg
  obtain ⟨columnToo, rowToo⟩ := reaches.neg.val_neg
  apply Offset.ext
  · apply Coord.ext
    rw [columnToo, column, Int.neg_neg]
  · apply Coord.ext
    rw [rowToo, row, Int.neg_neg]

end WithinReach

theorem contains_iff_onBoard :
    dims.Contains square ↔
      Coord.OnBoard dims.width square.x ∧ Coord.OnBoard dims.height square.y := by
  unfold Contains Coord.OnBoard
  rw [and_assoc]

theorem WithinReach.of_contains (inside : dims.Contains square)
    (arrived : dims.Contains (square + offset)) : dims.WithinReach offset := by
  obtain ⟨column, row⟩ := contains_iff_onBoard.mp inside
  obtain ⟨columnToo, rowToo⟩ := contains_iff_onBoard.mp arrived
  exact ⟨column.natAbs_lt columnToo, row.natAbs_lt rowToo⟩

theorem add_neg_of_contains (inside : dims.Contains square)
    (arrived : dims.Contains (square + offset)) : square + offset + -offset = square := by
  obtain ⟨column, row⟩ := contains_iff_onBoard.mp inside
  obtain ⟨columnToo, rowToo⟩ := contains_iff_onBoard.mp arrived
  exact Square.ext (column.add_neg columnToo) (row.add_neg rowToo)

section Positive

variable (wide : 0 < dims.width.val) (high : 0 < dims.height.val)

include wide high

theorem WithinReach.exists_contains (reaches : dims.WithinReach offset) :
    ∃ square, dims.Contains square ∧ dims.Contains (square + offset) := by
  obtain ⟨x, column, columnToo⟩ := Coord.exists_onBoard reaches.1 wide
  obtain ⟨y, row, rowToo⟩ := Coord.exists_onBoard reaches.2 high
  have arrived : dims.Contains ((⟨x, y⟩ : Square) + offset) :=
    contains_iff_onBoard.mpr ⟨columnToo, rowToo⟩
  exact ⟨⟨x, y⟩, contains_iff_onBoard.mpr ⟨column, row⟩, arrived⟩

theorem withinReach_neg_iff : dims.WithinReach (-offset) ↔ dims.WithinReach offset :=
  and_congr (Coord.natAbs_neg_lt_iff wide) (Coord.natAbs_neg_lt_iff high)

end Positive

/-- On a board with at least one square, an offset is within reach exactly if it leads from some
square of the board to one. Otherwise neither the offset nor its negation, which may stop at the end
of the range, leads from any square of the board to one. The negation of an offset within reach is
within reach too and undoes it: negated again it is the offset, and it leads back from every square
of the board to which the offset leads. -/
theorem withinReach_exact {dims : Dims} (wide : 0 < dims.width.val) (high : 0 < dims.height.val)
    (offset : Offset) :
    (dims.WithinReach offset ↔
      ∃ square, dims.Contains square ∧ dims.Contains (square + offset)) ∧
    (¬ dims.WithinReach offset → ∀ square, dims.Contains square →
      ¬ dims.Contains (square + offset) ∧ ¬ dims.Contains (square + -offset)) ∧
    (dims.WithinReach offset → dims.WithinReach (-offset) ∧ - -offset = offset ∧
      ∀ square, dims.Contains square → dims.Contains (square + offset) →
        square + offset + -offset = square) := by
  refine ⟨⟨?_, ?_⟩, ?_, ?_⟩
  · exact WithinReach.exists_contains wide high
  · intro given
    obtain ⟨square, inside, arrived⟩ := given
    exact .of_contains inside arrived
  · intro tooFar square inside
    refine ⟨fun arrived => tooFar (.of_contains inside arrived), ?_⟩
    intro arrived
    have opposite : dims.WithinReach (-offset) := .of_contains inside arrived
    exact tooFar ((withinReach_neg_iff wide high).mp opposite)
  · intro reaches
    exact ⟨reaches.neg, reaches.neg_neg, fun _ => add_neg_of_contains⟩

/-- The longest board, and the least offset, which is just too long for it. -/
theorem withinReach_exact_longest :
    let dims : Dims := ⟨2147483647, 1⟩
    let least : Offset := ⟨Coord.clamp (-2147483648), 0⟩
    let longest : Offset := ⟨2147483646, 0⟩
    0 < dims.width.val ∧ 0 < dims.height.val ∧
      ¬ dims.WithinReach least ∧ dims.WithinReach longest ∧
      (∀ square, dims.Contains square →
        ¬ dims.Contains (square + least) ∧ ¬ dims.Contains (square + -least)) ∧
      ∃ square, dims.Contains square ∧ dims.Contains (square + longest) ∧
        square + longest + -longest = square := by
  intro dims least longest
  have wide : 0 < dims.width.val := by decide
  have high : 0 < dims.height.val := by decide
  have tooFar : ¬ dims.WithinReach least := by decide
  have reaches : dims.WithinReach longest := by decide
  obtain ⟨square, inside, arrived⟩ := (withinReach_exact wide high longest).1.mp reaches
  have back := ((withinReach_exact wide high longest).2.2 reaches).2.2 square inside arrived
  exact ⟨wide, high, tooFar, reaches, (withinReach_exact wide high least).2.1 tooFar,
    square, inside, arrived, back⟩

end Dims

end TerrainChess

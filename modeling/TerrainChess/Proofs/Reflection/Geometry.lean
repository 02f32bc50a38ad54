import TerrainChess.Path

/-!
# Point reflection of walks

On a small board, a short walk from a square of the board stays near the board,
where no coordinate stops at the end of its range. There the point reflection is
an involution, and it takes the walk along a path to the walk along the negated
path: `Path.walk_negated`.
-/

set_option autoImplicit false

namespace TerrainChess

/-- A quarter of the number of coordinates: two to the power of thirty. -/
def Coord.quarter : Int := 1073741824

/-!
## One direction
-/

namespace Coord

def mirror (extent value : Coord) : Coord := clamp (extent.val - 1 - value.val)

/-- A coordinate from which any walk of a given length stays within a quarter of the range from
the board. -/
def Near (extent value : Coord) (length : Nat) : Prop :=
  -quarter ≤ value.val - length ∧ value.val + length ≤ extent.val - 1 + quarter

variable {extent value step : Coord}

theorem val_mirror {length : Nat} (small : extent.val < quarter)
    (near : Near extent value length) :
    (mirror extent value).val = extent.val - 1 - value.val := by
  unfold Near quarter at near
  unfold quarter at small
  have least := extent.least
  exact val_clamp_of_mem (by omega) (by omega)

theorem val_add_of_near {length : Nat} (small : extent.val < quarter)
    (near : Near extent value (step.val.natAbs + length)) :
    (value + step).val = value.val + step.val := by
  unfold Near quarter at near
  unfold quarter at small
  exact val_clamp_of_mem (by omega) (by omega)

theorem near_add {length : Nat} (small : extent.val < quarter)
    (near : Near extent value (step.val.natAbs + length)) : Near extent (value + step) length := by
  have sum := val_add_of_near small near
  unfold Near at near ⊢
  rw [sum]
  omega

theorem mirror_add {length : Nat} (small : extent.val < quarter)
    (near : Near extent value (step.val.natAbs + length)) :
    mirror extent (value + step) = mirror extent value + -step := by
  have sum := val_add_of_near small near
  have reflectedSum := val_mirror small (near_add small near)
  have reflected := val_mirror small near
  unfold Near quarter at near
  unfold quarter at small
  have opposite : (-step).val = -step.val := val_clamp_of_mem (by omega) (by omega)
  apply Coord.ext
  rw [reflectedSum, sum, val_add, reflected, opposite]
  omega

theorem mirror_inside_iff (small : extent.val < quarter) :
    0 ≤ (mirror extent value).val ∧ (mirror extent value).val < extent.val ↔
      0 ≤ value.val ∧ value.val < extent.val := by
  unfold quarter at small
  have least := value.least
  have greatest := value.greatest
  have least' := extent.least
  rw [mirror, val_clamp]
  omega

end Coord

/-!
## Squares
-/

namespace Dims

/-- A board with less than a quarter of the coordinates in each direction. -/
def Small (dims : Dims) : Prop :=
  dims.width.val < Coord.quarter ∧ dims.height.val < Coord.quarter

instance (dims : Dims) : Decidable dims.Small := inferInstanceAs (Decidable (_ ∧ _))

/-- A square that is near the board in both directions. -/
def Near (dims : Dims) (square : Square) (columns rows : Nat) : Prop :=
  Coord.Near dims.width square.x columns ∧ Coord.Near dims.height square.y rows

variable {dims : Dims} {square other : Square}

theorem near_of_contains {columns rows : Nat} (inside : dims.Contains square)
    (columnBound : (columns : Int) < Coord.quarter) (rowBound : (rows : Int) < Coord.quarter) :
    dims.Near square columns rows := by
  unfold Contains at inside
  unfold Near Coord.Near Coord.quarter at *
  omega

section Small

variable (small : dims.Small)

include small

theorem contains_mirror : dims.Contains (dims.mirror square) ↔ dims.Contains square := by
  have columns : _ ↔ 0 ≤ square.x.val ∧ square.x.val < dims.width.val :=
    Coord.mirror_inside_iff small.1
  have rows : _ ↔ 0 ≤ square.y.val ∧ square.y.val < dims.height.val :=
    Coord.mirror_inside_iff small.2
  unfold Contains
  rw [← and_assoc, ← and_assoc (a := 0 ≤ square.x.val)]
  exact and_congr columns rows

theorem mirror_eq_comm (inside : dims.Contains square) :
    dims.mirror other = square ↔ other = dims.mirror square := by
  constructor
  · intro same
    have otherInside : dims.Contains other := by
      rw [← contains_mirror small, same]
      exact inside
    rw [← same, mirror_mirror otherInside]
  · intro same
    rw [same, mirror_mirror inside]

/-- Only a square of the board is reflected to the reflection of that square. -/
theorem mirror_eq_iff (inside : dims.Contains square) :
    dims.mirror other = dims.mirror square ↔ other = square := by
  rw [mirror_eq_comm small ((contains_mirror small).mpr inside), mirror_mirror inside]

end Small

end Dims

/-!
## Walks
-/

namespace Path

/-- The columns that a chain of steps crosses, whatever its turns. -/
def columnSpan : List Offset → Nat
  | [] => 0
  | step :: rest => step.dx.val.natAbs + columnSpan rest

def rowSpan : List Offset → Nat
  | [] => 0
  | step :: rest => step.dy.val.natAbs + rowSpan rest

def Short (path : Path) : Prop :=
  (columnSpan path.steps : Int) < Coord.quarter ∧ (rowSpan path.steps : Int) < Coord.quarter

instance (path : Path) : Decidable path.Short := inferInstanceAs (Decidable (_ ∧ _))

private theorem walkSteps_mirror {dims : Dims} (small : dims.Small) (steps : List Offset)
    (square : Square) (near : dims.Near square (columnSpan steps) (rowSpan steps)) :
    walkSteps (steps.map (fun step => -step)) (dims.mirror square) =
      (walkSteps steps square).map dims.mirror := by
  induction steps generalizing square with
  | nil => rfl
  | cons step rest ih =>
    have first : dims.mirror (square + step) = dims.mirror square + -step := by
      apply Square.ext
      · exact Coord.mirror_add small.1 near.1
      · exact Coord.mirror_add small.2 near.2
    have onward : dims.Near (square + step) (columnSpan rest) (rowSpan rest) :=
      ⟨Coord.near_add small.1 near.1, Coord.near_add small.2 near.2⟩
    rw [List.map_cons, walkSteps, walkSteps, List.map_cons, ← first, ih (square + step) onward]

variable {dims : Dims} {path : Path} {start : Square}

section Short

variable (small : dims.Small) (short : path.Short) (inside : dims.Contains start)

include small short inside

theorem walk_negated :
    path.negated.walk (dims.mirror start) = (path.walk start).map dims.mirror :=
  walkSteps_mirror small path.steps start (Dims.near_of_contains inside short.1 short.2)

theorem destination_negated :
    path.negated.destination (dims.mirror start) = dims.mirror (path.destination start) := by
  rw [← getLastD_walk, ← getLastD_walk, walk_negated small short inside, List.getLastD_map]

end Short

end Path

end TerrainChess

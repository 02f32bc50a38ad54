import TerrainChess.Dims

/-!
# Grids

A grid gives a value to every square of a board. Its view is `get?`: two grids
with the same value on every square are equal, and `get?_set` and
`get?_tabulate` say what the two ways of making a grid put on each square.
-/

set_option autoImplicit false

namespace TerrainChess

structure Grid (dims : Dims) (α : Type) where
  cells : Array α
  size_eq : cells.size = dims.count

namespace Grid

variable {dims : Dims} {α : Type}

instance [DecidableEq α] : DecidableEq (Grid dims α) := fun left right =>
  if same : left.cells = right.cells then
    isTrue (by cases left; cases right; cases same; rfl)
  else
    isFalse (fun equal => same (congrArg cells equal))

/-- The value on a square; there is none off the board. -/
def get? (grid : Grid dims α) (square : Square) : Option α :=
  if dims.Contains square then grid.cells[dims.index square]? else none

def set (grid : Grid dims α) (square : Square) (value : α) : Grid dims α :=
  if dims.Contains square then
    ⟨grid.cells.setIfInBounds (dims.index square) value, by
      rw [Array.size_setIfInBounds, grid.size_eq]⟩
  else grid

def tabulate (dims : Dims) (value : Square → α) : Grid dims α :=
  ⟨(dims.squares.map value).toArray, by simp [dims.length_squares]⟩

def constant (dims : Dims) (value : α) : Grid dims α :=
  ⟨Array.replicate dims.count value, Array.size_replicate⟩

theorem get?_eq_none {grid : Grid dims α} {square : Square} (outside : ¬ dims.Contains square) :
    grid.get? square = none := if_neg outside

theorem exists_get? (grid : Grid dims α) {square : Square} (inside : dims.Contains square) :
    ∃ value, grid.get? square = some value := by
  have bound : dims.index square < grid.cells.size := grid.size_eq ▸ Dims.index_lt inside
  exact ⟨grid.cells[dims.index square], by
    rw [get?, if_pos inside, Array.getElem?_eq_getElem bound]⟩

private theorem index_injective {left right : Square} (leftInside : dims.Contains left)
    (rightInside : dims.Contains right) (same : dims.index left = dims.index right) :
    left = right := by
  rw [← Dims.squareAt_index leftInside, same, Dims.squareAt_index rightInside]

theorem get?_set {grid : Grid dims α} {square other : Square} {value : α}
    (inside : dims.Contains square) :
    (grid.set square value).get? other =
      if other = square then some value else grid.get? other := by
  unfold get? set
  rw [if_pos inside]
  by_cases same : other = square
  · subst same
    rw [if_pos rfl, if_pos inside, Array.getElem?_setIfInBounds_self,
      if_pos (grid.size_eq ▸ Dims.index_lt inside)]
  · rw [if_neg same]
    by_cases otherInside : dims.Contains other
    · rw [if_pos otherInside, if_pos otherInside]
      exact Array.getElem?_setIfInBounds_ne
        (fun equal => same (index_injective otherInside inside equal.symm))
    · rw [if_neg otherInside, if_neg otherInside]

theorem set_eq_self {grid : Grid dims α} {square : Square} {value : α}
    (outside : ¬ dims.Contains square) : grid.set square value = grid := if_neg outside

theorem get?_tabulate {value : Square → α} {square : Square} :
    (tabulate dims value).get? square =
      if dims.Contains square then some (value square) else none := by
  unfold get? tabulate
  split
  · next inside =>
    have bound := Dims.index_lt inside
    rw [List.getElem?_toArray, List.getElem?_map, Dims.squares, List.getElem?_map,
      List.getElem?_range bound, Option.map_some, Option.map_some, Dims.squareAt_index inside]
  · rfl

theorem get?_constant {value : α} {square : Square} :
    (constant dims value).get? square = if dims.Contains square then some value else none := by
  unfold get? constant
  split
  · next inside =>
    rw [Array.getElem?_replicate, if_pos (Dims.index_lt inside)]
  · rfl

/-- Grids with the same value on every square are equal. -/
theorem ext {left right : Grid dims α} (same : ∀ square, left.get? square = right.get? square) :
    left = right := by
  have cells : left.cells = right.cells := by
    apply Array.ext (left.size_eq.trans right.size_eq.symm)
    intro place leftBound rightBound
    have bound : place < dims.count := left.size_eq ▸ leftBound
    have here := same (dims.squareAt place)
    unfold get? at here
    rw [if_pos (Dims.contains_squareAt bound), if_pos (Dims.contains_squareAt bound),
      Dims.index_squareAt bound, Array.getElem?_eq_getElem leftBound,
      Array.getElem?_eq_getElem rightBound] at here
    exact Option.some.inj here
  cases left
  cases right
  cases cells
  rfl

end Grid

end TerrainChess

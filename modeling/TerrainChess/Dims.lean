import TerrainChess.Square

/-!
# Board dimensions

A board has columns `0` to `width - 1` and rows `0` to `height - 1`. Its squares
are listed row by row, and `index` numbers them in that order.
-/

set_option autoImplicit false

namespace TerrainChess

/-- A width in columns and a height in rows; a board without squares is allowed. -/
@[ext] structure Dims where
  width : Coord
  height : Coord
deriving DecidableEq

namespace Dims

def standard : Dims := ⟨12, 11⟩

def Contains (dims : Dims) (square : Square) : Prop :=
  0 ≤ square.x.val ∧ square.x.val < dims.width.val ∧
    0 ≤ square.y.val ∧ square.y.val < dims.height.val

instance (dims : Dims) (square : Square) : Decidable (dims.Contains square) :=
  inferInstanceAs (Decidable (_ ∧ _))

def columns (dims : Dims) : Nat := dims.width.val.toNat

def rows (dims : Dims) : Nat := dims.height.val.toNat

def count (dims : Dims) : Nat := dims.columns * dims.rows

/-- The number of cells to reserve for a board: the product of width and height, if it is a
coordinate. A negative product counts as an unsigned word of 64 bits. -/
def area? (dims : Dims) : Option Nat :=
  (Coord.ofInt? (dims.width.val * dims.height.val)).map
    (fun product => (product.val % 18446744073709551616).toNat)

def index (dims : Dims) (square : Square) : Nat :=
  square.y.val.toNat * dims.columns + square.x.val.toNat

def index? (dims : Dims) (square : Square) : Option Nat :=
  if dims.Contains square then some (dims.index square) else none

def squareAt (dims : Dims) (place : Nat) : Square :=
  ⟨Coord.clamp (Int.ofNat (place % dims.columns)), Coord.clamp (Int.ofNat (place / dims.columns))⟩

def squares (dims : Dims) : List Square := (List.range dims.count).map dims.squareAt

/-- The point reflection of a square through the centre of the board. -/
def mirror (dims : Dims) (square : Square) : Square :=
  ⟨Coord.clamp (dims.width.val - 1 - square.x.val),
    Coord.clamp (dims.height.val - 1 - square.y.val)⟩

/-- An offset that is shorter than the board in both directions. -/
def WithinReach (dims : Dims) (offset : Offset) : Prop :=
  offset.dx.val.natAbs < dims.width.val.natAbs ∧ offset.dy.val.natAbs < dims.height.val.natAbs

instance (dims : Dims) (offset : Offset) : Decidable (dims.WithinReach offset) :=
  inferInstanceAs (Decidable (_ ∧ _))

def maxExtent (dims : Dims) : Coord :=
  if dims.height.val < dims.width.val then dims.width else dims.height

theorem index_lt {dims : Dims} {square : Square} (inside : dims.Contains square) :
    dims.index square < dims.count := by
  obtain ⟨left, right, bottom, top⟩ := inside
  have column : square.x.val.toNat < dims.columns := by unfold columns; omega
  have row : square.y.val.toNat + 1 ≤ dims.rows := by unfold rows; omega
  have below : (square.y.val.toNat + 1) * dims.columns ≤ dims.rows * dims.columns :=
    Nat.mul_le_mul_right dims.columns row
  rw [Nat.add_mul, Nat.one_mul] at below
  unfold index count
  rw [Nat.mul_comm dims.columns dims.rows]
  omega

theorem squareAt_index {dims : Dims} {square : Square} (inside : dims.Contains square) :
    dims.squareAt (dims.index square) = square := by
  obtain ⟨left, right, bottom, top⟩ := inside
  have column : square.x.val.toNat < dims.columns := by unfold columns; omega
  have remainder : dims.index square % dims.columns = square.x.val.toNat := by
    unfold index
    rw [Nat.add_comm, Nat.add_mul_mod_self_right, Nat.mod_eq_of_lt column]
  have quotient : dims.index square / dims.columns = square.y.val.toNat := by
    unfold index
    rw [Nat.add_comm, Nat.add_mul_div_right _ _ (by omega), Nat.div_eq_of_lt column, Nat.zero_add]
  have xLeast := square.x.greatest
  have yLeast := square.y.greatest
  apply Square.ext
  · apply Coord.ext
    show (Coord.clamp (Int.ofNat (dims.index square % dims.columns))).val = square.x.val
    rw [remainder, Coord.val_clamp, Int.ofNat_eq_natCast]
    omega
  · apply Coord.ext
    show (Coord.clamp (Int.ofNat (dims.index square / dims.columns))).val = square.y.val
    rw [quotient, Coord.val_clamp, Int.ofNat_eq_natCast]
    omega

theorem columns_pos {dims : Dims} {place : Nat} (bound : place < dims.count) :
    0 < dims.columns := by
  unfold count at bound
  exact Nat.pos_of_ne_zero (fun none => by rw [none, Nat.zero_mul] at bound; omega)

theorem div_columns_lt {dims : Dims} {place : Nat} (bound : place < dims.count) :
    place / dims.columns < dims.rows := by
  rw [Nat.div_lt_iff_lt_mul (columns_pos bound), Nat.mul_comm]
  exact bound

private theorem val_clamp_nat {value : Nat} {limit : Coord} (bound : value < limit.val.toNat) :
    (Coord.clamp (Int.ofNat value)).val = Int.ofNat value := by
  have greatest := limit.greatest
  apply Coord.val_clamp_of_mem
  · rw [Int.ofNat_eq_natCast]; omega
  · rw [Int.ofNat_eq_natCast]; omega

theorem val_squareAt {dims : Dims} {place : Nat} (bound : place < dims.count) :
    (dims.squareAt place).x.val = Int.ofNat (place % dims.columns) ∧
      (dims.squareAt place).y.val = Int.ofNat (place / dims.columns) :=
  ⟨@val_clamp_nat _ dims.width (Nat.mod_lt place (columns_pos bound)),
    @val_clamp_nat _ dims.height (div_columns_lt bound)⟩

theorem contains_squareAt {dims : Dims} {place : Nat} (bound : place < dims.count) :
    dims.Contains (dims.squareAt place) := by
  obtain ⟨column, row⟩ := val_squareAt bound
  have columnBound : place % dims.columns < dims.width.val.toNat :=
    Nat.mod_lt place (columns_pos bound)
  have rowBound : place / dims.columns < dims.height.val.toNat := div_columns_lt bound
  unfold Contains
  rw [column, row, Int.ofNat_eq_natCast, Int.ofNat_eq_natCast]
  generalize place % dims.columns = remainder at columnBound ⊢
  generalize place / dims.columns = quotient at rowBound ⊢
  omega

theorem index_squareAt {dims : Dims} {place : Nat} (bound : place < dims.count) :
    dims.index (dims.squareAt place) = place := by
  obtain ⟨column, row⟩ := val_squareAt bound
  unfold index
  rw [column, row, Int.ofNat_eq_natCast, Int.ofNat_eq_natCast, Int.toNat_natCast,
    Int.toNat_natCast, Nat.mul_comm, Nat.div_add_mod]

theorem mem_squares {dims : Dims} {square : Square} :
    square ∈ dims.squares ↔ dims.Contains square := by
  unfold squares
  rw [List.mem_map]
  constructor
  · intro given
    obtain ⟨place, member, rfl⟩ := given
    exact contains_squareAt (List.mem_range.mp member)
  · intro inside
    exact ⟨dims.index square, List.mem_range.mpr (index_lt inside), squareAt_index inside⟩

theorem length_squares (dims : Dims) : dims.squares.length = dims.count := by
  rw [squares, List.length_map, List.length_range]

/-- The squares of a board are listed by row and then by column, each of them once. -/
theorem increasing_squares (dims : Dims) :
    dims.squares.Pairwise (fun first second => KeyOrder.before first second = true) := by
  rw [squares, List.pairwise_map]
  refine List.Pairwise.imp_of_mem ?_ List.pairwise_lt_range
  intro first second firstMember secondMember ascending
  obtain ⟨firstColumn, firstRow⟩ := val_squareAt (List.mem_range.mp firstMember)
  obtain ⟨secondColumn, secondRow⟩ := val_squareAt (List.mem_range.mp secondMember)
  have rows : first / dims.columns ≤ second / dims.columns :=
    Nat.div_le_div_right (Nat.le_of_lt ascending)
  apply Square.precedes_iff.mpr
  rw [firstColumn, firstRow, secondColumn, secondRow]
  simp only [Int.ofNat_eq_natCast, Int.ofNat_lt, Int.ofNat_inj]
  rcases Nat.lt_or_eq_of_le rows with above | same
  · exact Or.inl above
  · have firstPlace := Nat.div_add_mod first dims.columns
    have secondPlace := Nat.div_add_mod second dims.columns
    rw [← same] at secondPlace
    exact Or.inr ⟨same, by omega⟩

theorem nodup_squares (dims : Dims) : dims.squares.Nodup :=
  dims.increasing_squares.imp KeyOrder.ne_of_before

section Mirror

variable {dims : Dims} {square : Square} (inside : dims.Contains square)

include inside

/-- No coordinate stops at the end of its range where a square of the board is reflected. -/
theorem val_mirror_of_contains :
    (dims.mirror square).x.val = dims.width.val - 1 - square.x.val ∧
      (dims.mirror square).y.val = dims.height.val - 1 - square.y.val := by
  obtain ⟨left, right, bottom, top⟩ := inside
  have widthGreatest := dims.width.greatest
  have heightGreatest := dims.height.greatest
  exact ⟨Coord.val_clamp_of_mem (by omega) (by omega), Coord.val_clamp_of_mem (by omega) (by omega)⟩

theorem contains_mirror_of_contains : dims.Contains (dims.mirror square) := by
  obtain ⟨columns, rows⟩ := val_mirror_of_contains inside
  obtain ⟨left, right, bottom, top⟩ := inside
  unfold Contains
  rw [columns, rows]
  omega

theorem mirror_mirror : dims.mirror (dims.mirror square) = square := by
  obtain ⟨column, row⟩ := val_mirror_of_contains inside
  obtain ⟨columnToo, rowToo⟩ := val_mirror_of_contains (contains_mirror_of_contains inside)
  apply Square.ext
  · apply Coord.ext
    rw [columnToo, column]
    omega
  · apply Coord.ext
    rw [rowToo, row]
    omega

end Mirror

end Dims

end TerrainChess

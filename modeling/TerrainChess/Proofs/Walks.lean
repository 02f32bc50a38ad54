import Mathlib.Algebra.Order.BigOperators.Group.List
import Mathlib.Algebra.Order.Monoid.Prod
import Mathlib.Tactic.Abel
import TerrainChess.Proofs.Ray

/-!
# Exact walks

A sum that stops at an end of the range cannot be undone, and a chain of such sums may
lead back onto a board at a wrong square. It happens neither on short paths nor on
straight ones: `Path.walk_exact`. A few steps within reach of the board never leave the
range, on the way out or back, and a straight path that has stopped at an end of the
range stays there, off every board.
-/

set_option autoImplicit false

namespace TerrainChess

/-!
## Points
-/

abbrev Point := Int × Int

namespace Point

def least : Point := (-2147483648, -2147483648)

def greatest : Point := (2147483647, 2147483647)

def InRange (point : Point) : Prop := least ≤ point ∧ point ≤ greatest

end Point

def Square.point (square : Square) : Point := (square.x.val, square.y.val)

def Offset.vector (offset : Offset) : Point := (offset.dx.val, offset.dy.val)

def Dims.ContainsPoint (dims : Dims) (point : Point) : Prop :=
  0 ≤ point.1 ∧ point.1 < dims.width.val ∧ 0 ≤ point.2 ∧ point.2 < dims.height.val

instance (dims : Dims) (point : Point) : Decidable (dims.ContainsPoint point) :=
  inferInstanceAs (Decidable (_ ∧ _))

theorem Square.point_injective {square other : Square} (same : square.point = other.point) :
    square = other := by
  obtain ⟨columns, rows⟩ := Prod.mk.inj same
  exact Square.ext (Coord.ext columns) (Coord.ext rows)

/-- A sum in range has not stopped at an end of it. -/
theorem Square.point_add {square : Square} {offset : Offset}
    (inRange : Point.InRange (square.point + offset.vector)) :
    (square + offset).point = square.point + offset.vector := by
  obtain ⟨⟨left, bottom⟩, right, top⟩ := inRange
  exact Prod.ext (Coord.val_clamp_of_mem left right) (Coord.val_clamp_of_mem bottom top)

theorem Dims.WithinReach.vector_neg {dims : Dims} {step : Offset}
    (reaches : dims.WithinReach step) : (-step).vector = -step.vector :=
  Prod.ext reaches.val_neg.1 reaches.val_neg.2

/-!
## Walks in range
-/

namespace Path

variable {dims : Dims} {start : Square} {path : Path}

/-- The exact point to which the first steps of a path lead. -/
def pointAfter (path : Path) (start : Square) (count : Nat) : Point :=
  start.point + ((path.steps.take count).map Offset.vector).sum

theorem pointAfter_zero : path.pointAfter start 0 = start.point := by
  simp [pointAfter]

theorem pointAfter_succ {step : Offset} {rest : List Offset}
    (exact : (start + step).point = start.point + step.vector) (count : Nat) :
    pointAfter ⟨step :: rest⟩ start (count + 1) = pointAfter ⟨rest⟩ (start + step) count := by
  unfold pointAfter
  rw [List.take_succ_cons, List.map_cons, List.sum_cons, exact, add_assoc]

/-- While the exact points stay in range, a walk visits them and ends at the last one. -/
theorem exact_of_inRange
    (inRange : ∀ count ≤ path.length, Point.InRange (path.pointAfter start count)) :
    (path.walk start).map Square.point =
        (List.range' 1 path.length).map (path.pointAfter start) ∧
      (path.destination start).point = path.pointAfter start path.length := by
  obtain ⟨steps⟩ := path
  induction steps generalizing start with
  | nil => exact ⟨rfl, pointAfter_zero.symm⟩
  | cons step rest ih =>
    have first : Point.InRange (start.point + step.vector) := by
      have here := inRange 1 (Nat.le_add_left 1 rest.length)
      simpa [pointAfter] using here
    have exact := Square.point_add first
    have later : ∀ count ≤ rest.length, Point.InRange (pointAfter ⟨rest⟩ (start + step) count) := by
      intro count short
      rw [← pointAfter_succ exact]
      exact inRange (count + 1) (Nat.succ_le_succ short)
    obtain ⟨walked, arrived⟩ := ih later
    constructor
    · have head : pointAfter ⟨step :: rest⟩ start 1 = (start + step).point := by
        rw [pointAfter_succ exact, pointAfter_zero]
      have shifted : List.range' (1 + 1) rest.length =
          (List.range' 1 rest.length).map (fun count => count + 1) := List.range'_succ_left
      calc (walk ⟨step :: rest⟩ start).map Square.point
          = (start + step).point :: (walk ⟨rest⟩ (start + step)).map Square.point := rfl
        _ = pointAfter ⟨step :: rest⟩ start 1 ::
              (List.range' 1 rest.length).map (pointAfter ⟨rest⟩ (start + step)) := by
            rw [head]
            exact congrArg _ walked
        _ = (List.range' 1 (rest.length + 1)).map (pointAfter ⟨step :: rest⟩ start) := by
            rw [List.range'_succ, List.map_cons, shifted, List.map_map]
            exact congrArg _ (List.map_congr_left fun count _ => (pointAfter_succ exact count).symm)
    · calc (destination ⟨step :: rest⟩ start).point
          = (destination ⟨rest⟩ (start + step)).point := rfl
        _ = pointAfter ⟨rest⟩ (start + step) rest.length := arrived
        _ = pointAfter ⟨step :: rest⟩ start (rest.length + 1) := (pointAfter_succ exact _).symm

/-!
## Negated paths
-/

section Negated

variable (reaches : ∀ step ∈ path.steps, dims.WithinReach step)

include reaches

theorem negated_negated : path.negated.negated = path := by
  apply Path.ext
  calc path.negated.negated.steps
      = path.steps.map (fun step => - -step) := List.map_map
    _ = path.steps.map id := List.map_congr_left (fun step member => (reaches step member).neg_neg)
    _ = path.steps := List.map_id _

theorem withinReach_negated : ∀ step ∈ path.negated.steps, dims.WithinReach step := by
  intro step member
  obtain ⟨original, given, rfl⟩ := List.mem_map.mp member
  exact (reaches original given).neg

/-- The way back does not visit the points of the way out: it takes back the first step first. What
is left of the way out after so many steps is what leads there from the start. -/
theorem pointAfter_negated
    (arrived : (path.destination start).point = path.pointAfter start path.length) (count : Nat) :
    path.negated.pointAfter (path.destination start) count =
      start.point + ((path.steps.drop count).map Offset.vector).sum := by
  have opposite : (path.negated.steps.take count).map Offset.vector =
      ((path.steps.take count).map Offset.vector).map (fun vector => -vector) := by
    rw [negated, ← List.map_take, List.map_map, List.map_map]
    exact List.map_congr_left fun step member =>
      (reaches step (List.mem_of_mem_take member)).vector_neg
  have total : (path.steps.map Offset.vector).sum =
      ((path.steps.take count).map Offset.vector).sum +
        ((path.steps.drop count).map Offset.vector).sum := by
    rw [List.map_take, List.map_drop, List.sum_take_add_sum_drop]
  have all : path.steps.take path.length = path.steps := List.take_length
  rw [pointAfter, arrived, opposite, ← List.sum_neg, pointAfter, all, total]
  abel

end Negated

end Path

/-!
## Short paths
-/

def Dims.corner (dims : Dims) : Point := (dims.width.val - 1, dims.height.val - 1)

section Inside

variable {dims : Dims} {start : Square} (inside : dims.Contains start)

include inside

theorem Dims.corner_nonneg : 0 ≤ dims.corner := by
  obtain ⟨left, right, bottom, top⟩ := inside
  exact ⟨show 0 ≤ dims.width.val - 1 by omega, show 0 ≤ dims.height.val - 1 by omega⟩

theorem Dims.point_le_corner : 0 ≤ start.point ∧ start.point ≤ dims.corner := by
  obtain ⟨left, right, bottom, top⟩ := inside
  exact ⟨⟨left, bottom⟩, Int.le_sub_one_of_lt right, Int.le_sub_one_of_lt top⟩

theorem Dims.WithinReach.vector_le_corner {step : Offset} (reaches : dims.WithinReach step) :
    -dims.corner ≤ step.vector ∧ step.vector ≤ dims.corner := by
  obtain ⟨columns, rows⟩ := reaches
  obtain ⟨left, right, bottom, top⟩ := inside
  refine ⟨⟨?_, ?_⟩, ?_, ?_⟩ <;>
    simp only [Dims.corner, Offset.vector, Prod.fst_neg, Prod.snd_neg] <;> omega

/-- The room that steps within reach need grows by the size of the board with each of them. -/
theorem Dims.sum_vector_le_corner {steps : List Offset}
    (reaches : ∀ step ∈ steps, dims.WithinReach step) :
    -(steps.length • dims.corner) ≤ (steps.map Offset.vector).sum ∧
      (steps.map Offset.vector).sum ≤ steps.length • dims.corner := by
  have bounds : ∀ vector ∈ steps.map Offset.vector,
      -dims.corner ≤ vector ∧ vector ≤ dims.corner := by
    intro vector member
    obtain ⟨step, given, rfl⟩ := List.mem_map.mp member
    exact (reaches step given).vector_le_corner inside
  have lower := List.card_nsmul_le_sum _ _ (fun vector member => (bounds vector member).1)
  have upper := List.sum_le_card_nsmul _ _ (fun vector member => (bounds vector member).2)
  rw [List.length_map] at lower upper
  exact ⟨(neg_nsmul dims.corner steps.length).symm.trans_le lower, upper⟩

theorem Dims.inRange_add_sum {steps : List Offset}
    (reaches : ∀ step ∈ steps, dims.WithinReach step)
    (short : (steps.length + 1) • dims.corner ≤ Point.greatest) :
    Point.InRange (start.point + (steps.map Offset.vector).sum) := by
  obtain ⟨startLower, startUpper⟩ := Dims.point_le_corner inside
  obtain ⟨lower, upper⟩ := Dims.sum_vector_le_corner inside reaches
  have fewer : steps.length • dims.corner ≤ (steps.length + 1) • dims.corner :=
    nsmul_le_nsmul_left (Dims.corner_nonneg inside) (Nat.le_succ _)
  constructor
  · calc Point.least
        ≤ -Point.greatest := by decide
      _ ≤ -(steps.length • dims.corner) := neg_le_neg (fewer.trans short)
      _ = 0 + -(steps.length • dims.corner) := (zero_add _).symm
      _ ≤ start.point + (steps.map Offset.vector).sum := add_le_add startLower lower
  · calc start.point + (steps.map Offset.vector).sum
        ≤ dims.corner + steps.length • dims.corner := add_le_add startUpper upper
      _ = (steps.length + 1) • dims.corner := (succ_nsmul' dims.corner steps.length).symm
      _ ≤ Point.greatest := short

theorem Dims.nsmul_corner_le {count fewer : Nat} (less : fewer ≤ count)
    (short : ((count : Int) + 1) * max dims.width.val dims.height.val ≤ 2147483647) :
    (fewer + 1) • dims.corner ≤ Point.greatest := by
  obtain ⟨left, right, bottom, top⟩ := inside
  have bound : ∀ extent : Int, 0 < extent → extent ≤ max dims.width.val dims.height.val →
      (fewer + 1) • (extent - 1) ≤ 2147483647 := by
    intro extent positive longest
    calc (fewer + 1) • (extent - 1)
        = ((fewer : Int) + 1) * (extent - 1) := by rw [nsmul_eq_mul, Nat.cast_succ]
      _ ≤ ((count : Int) + 1) * max dims.width.val dims.height.val :=
          mul_le_mul (by omega) (by omega) (by omega) (by omega)
      _ ≤ 2147483647 := short
  exact ⟨bound _ (by omega) (le_max_left _ _), bound _ (by omega) (le_max_right _ _)⟩

variable {path : Path} (reaches : ∀ step ∈ path.steps, dims.WithinReach step)
  (short : ((path.length : Int) + 1) * max dims.width.val dims.height.val ≤ 2147483647)

include reaches short

theorem Path.inRange_pointAfter (count : Nat) : Point.InRange (path.pointAfter start count) := by
  have fewer : (path.steps.take count).length ≤ path.length :=
    List.length_take_le' count path.steps
  exact Dims.inRange_add_sum inside
    (fun step member => reaches step (List.mem_of_mem_take member))
    (Dims.nsmul_corner_le inside fewer short)

/-- The negated path leads home. -/
theorem Path.destination_negated_destination :
    path.negated.destination (path.destination start) = start := by
  have arrived :=
    (exact_of_inRange fun count _ => inRange_pointAfter inside reaches short count).2
  have back : ∀ count ≤ path.negated.length,
      Point.InRange (path.negated.pointAfter (path.destination start) count) := by
    intro count _
    have fewer : (path.steps.drop count).length ≤ path.length :=
      (List.drop_sublist count path.steps).length_le
    rw [pointAfter_negated reaches arrived]
    exact Dims.inRange_add_sum inside
      (fun step member => reaches step (List.mem_of_mem_drop member))
      (Dims.nsmul_corner_le inside fewer short)
  have none : path.steps.drop path.negated.length = [] := by simp [length, negated]
  apply Square.point_injective
  rw [(exact_of_inRange back).2, pointAfter_negated reaches arrived, none, List.map_nil,
    List.sum_nil, add_zero]

end Inside

/-!
## Straight paths
-/

namespace Square

variable {dims : Dims} {start target : Square} {step : Offset} {count : Nat}

theorem point_add_nsmul : start.point + count • step.vector =
    (start.x.val + count * step.dx.val, start.y.val + count * step.dy.val) := by
  simp [point, Offset.vector]

theorem ahead?_eq_some_iff_point : start.ahead? step count = some target ↔
    target.point = start.point + count • step.vector := by
  rw [ahead?_eq_some_iff, point_add_nsmul, point, Prod.mk.injEq]

theorem contains_along_iff_containsPoint : dims.Contains (start.along step count) ↔
    dims.ContainsPoint (start.point + count • step.vector) := by
  have width := dims.width.greatest
  have height := dims.height.greatest
  rw [Dims.ContainsPoint, point_add_nsmul]
  simp only [Dims.Contains, along, Coord.val_clamp]
  omega

end Square

namespace Path

theorem start_cons_walk_repeated (start : Square) (step : Offset) (count : Nat) :
    start :: (repeated step count).walk start =
      (List.range (count + 1)).map (start.along step) := by
  rw [walk_repeated, List.range_eq_range', List.range'_succ, List.map_cons, Square.along_zero]

/-- From a square of a board, a path of steps within reach visits the exact points to which its
steps lead, if one more than their number times the longer side of the board is a coordinate. The
last of them is its destination, which is the start for the path without steps. Negating such a path
twice gives the path again, its negated steps are within reach, and they lead back from the
destination to the start. A path of equal steps may be of any length: after so many of them, the
square that it visits is on the board exactly if the exact point is, and then it is that point. -/
theorem walk_exact {dims : Dims} {start : Square} (inside : dims.Contains start) :
    (∀ path : Path, (∀ step ∈ path.steps, dims.WithinReach step) →
      ((path.length : Int) + 1) * max dims.width.val dims.height.val ≤ 2147483647 →
      (path.walk start).map Square.point =
          (List.range' 1 path.length).map (path.pointAfter start) ∧
        (path.walk start).getLastD start = path.destination start ∧
        path.negated.negated = path ∧
        (∀ step ∈ path.negated.steps, dims.WithinReach step) ∧
        path.negated.destination (path.destination start) = start) ∧
    ∀ (step : Offset) (count taken : Nat), taken ≤ count →
      ∃ square, (start :: (repeated step count).walk start)[taken]? = some square ∧
        (dims.Contains square ↔ dims.ContainsPoint (start.point + taken • step.vector)) ∧
        (dims.Contains square → square.point = start.point + taken • step.vector) := by
  constructor
  · intro path reaches short
    have walked :=
      (exact_of_inRange fun count _ => inRange_pointAfter inside reaches short count).1
    exact ⟨walked, path.getLastD_walk start, negated_negated reaches, withinReach_negated reaches,
      destination_negated_destination inside reaches short⟩
  · intro step count taken within
    refine ⟨start.along step taken, ?_, Square.contains_along_iff_containsPoint, ?_⟩
    · rw [start_cons_walk_repeated, List.getElem?_map, List.getElem?_range (by omega)]
      rfl
    · intro on
      exact Square.ahead?_eq_some_iff_point.mp (Square.ahead?_of_contains on)

/-- A path whose exact points leave the board but not the range, and one more step straight ahead
than the range has room for. -/
theorem walk_exact_long :
    let dims : Dims := ⟨700000000, 2⟩
    let start : Square := ⟨5, 0⟩
    let ahead : Offset := ⟨699999999, 0⟩
    let path : Path := ⟨[ahead, ⟨699999999, 1⟩]⟩
    dims.Contains start ∧ (∀ step ∈ path.steps, dims.WithinReach step) ∧
      ((path.length : Int) + 1) * max dims.width.val dims.height.val ≤ 2147483647 ∧
      (path.walk start).map Square.point = [(700000004, 0), (1400000003, 1)] ∧
      path.negated.destination (path.destination start) = start ∧
      ∃ square, (start :: (repeated ahead 4).walk start)[4]? = some square ∧
        ¬ dims.Contains square ∧ square.point ≠ start.point + 4 • ahead.vector := by
  intro dims start ahead path
  have inside : dims.Contains start := by decide
  have reaches : ∀ step ∈ path.steps, dims.WithinReach step := by decide
  have short : ((path.length : Int) + 1) * max dims.width.val dims.height.val ≤ 2147483647 := by
    decide
  obtain ⟨bent, straight⟩ := walk_exact inside
  obtain ⟨walked, _, _, _, home⟩ := bent path reaches short
  obtain ⟨square, found, on, _⟩ := straight ahead 4 4 (Nat.le_refl 4)
  have off : ¬ dims.ContainsPoint (start.point + 4 • ahead.vector) := by decide
  have stopped : (start :: (repeated ahead 4).walk start)[4]? = some ⟨2147483647, 0⟩ := by decide
  refine ⟨inside, reaches, short, walked.trans (by decide), home, square, found, on.not.mpr off, ?_⟩
  rw [← Option.some.inj (stopped.symm.trans found)]
  decide

end Path

end TerrainChess

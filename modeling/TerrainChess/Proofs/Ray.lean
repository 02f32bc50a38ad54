import Mathlib.Algebra.Order.Ring.Int
import Mathlib.Tactic.Ring
import TerrainChess.Path
import TerrainChess.Proofs.Offsets

/-!
# Rays

A repeated step moves each coordinate in one direction only. Stopping at the end
of the range on the way is then the same as stopping once at the end of the way.
`Square.along` is the square that the steps reach and `Square.ahead?` the exact
one. On a board they are the same: `Square.contains_along_iff`.
-/

set_option autoImplicit false

namespace TerrainChess

/-!
## One coordinate
-/

namespace Coord

theorem repeated_cases (count : Nat) (step : Int) :
    0 ≤ step ∧ 0 ≤ count * step ∨ step ≤ 0 ∧ count * step ≤ 0 := by
  rcases Int.le_total 0 step with ahead | back
  · exact Or.inl ⟨ahead, Int.mul_nonneg (Int.natCast_nonneg count) ahead⟩
  · exact Or.inr ⟨back, Int.mul_nonpos_of_nonneg_of_nonpos (Int.natCast_nonneg count) back⟩

/-- Fewer displacements lead to a value between none and all of them. -/
theorem repeated_between {less count : Nat} (short : less ≤ count) (step : Int) :
    0 ≤ less * step ∧ less * step ≤ count * step ∨
      count * step ≤ less * step ∧ less * step ≤ 0 := by
  have ordered : (less : Int) ≤ count := Int.ofNat_le.mpr short
  rcases Int.le_total 0 step with ahead | back
  · exact Or.inl ⟨Int.mul_nonneg (Int.natCast_nonneg less) ahead,
      Int.mul_le_mul_of_nonneg_right ordered ahead⟩
  · exact Or.inr ⟨Int.mul_le_mul_of_nonpos_right ordered back,
      Int.mul_nonpos_of_nonneg_of_nonpos (Int.natCast_nonneg less) back⟩

/-- One more displacement after stopping at an end of the range leads where all displacements at
once lead. -/
theorem clamp_add_repeated (start step : Coord) (count : Nat) :
    clamp (start.val + count * step.val) + step =
      clamp (start.val + (count + 1 : Nat) * step.val) := by
  have least := start.least
  have greatest := start.greatest
  have further : ((count + 1 : Nat) : Int) * step.val = count * step.val + step.val := by
    push_cast
    ring
  apply ext
  rw [val_add, val_clamp, val_clamp, further]
  rcases repeated_cases count step.val with ⟨ahead, total⟩ | ⟨back, total⟩
  · omega
  · omega

end Coord

namespace Square

/-!
## Squares on a ray
-/

def along (start : Square) (step : Offset) (count : Nat) : Square :=
  ⟨Coord.clamp (start.x.val + count * step.dx.val),
    Coord.clamp (start.y.val + count * step.dy.val)⟩

/-- The square exactly a number of equal steps away, if its coordinates are in their range. -/
def ahead? (start : Square) (step : Offset) (count : Nat) : Option Square :=
  match Coord.ofInt? (start.x.val + count * step.dx.val),
    Coord.ofInt? (start.y.val + count * step.dy.val) with
  | some column, some row => some ⟨column, row⟩
  | _, _ => none

variable {start target : Square} {step : Offset} {count : Nat} {dims : Dims}

theorem along_zero : start.along step 0 = start := by simp [along]

theorem along_succ : start.along step (count + 1) = start.along step count + step :=
  Square.ext (Coord.clamp_add_repeated start.x step.dx count).symm
    (Coord.clamp_add_repeated start.y step.dy count).symm

theorem ahead?_eq_some_iff : start.ahead? step count = some target ↔
    target.x.val = start.x.val + count * step.dx.val ∧
      target.y.val = start.y.val + count * step.dy.val := by
  rw [← Coord.ofInt?_eq_some_iff, ← Coord.ofInt?_eq_some_iff, ahead?]
  cases Coord.ofInt? (start.x.val + count * step.dx.val) with
  | none => simp
  | some column =>
    cases Coord.ofInt? (start.y.val + count * step.dy.val) with
    | none => simp
    | some row => simp [Square.ext_iff]

theorem along_of_ahead? (exact : start.ahead? step count = some target) :
    start.along step count = target := by
  obtain ⟨column, row⟩ := ahead?_eq_some_iff.mp exact
  rw [along, ← column, ← row, Coord.clamp_val, Coord.clamp_val]

theorem ahead?_of_contains (inside : dims.Contains (start.along step count)) :
    start.ahead? step count = some (start.along step count) := by
  obtain ⟨left, right, bottom, top⟩ := inside
  have width := dims.width.greatest
  have height := dims.height.greatest
  rw [ahead?_eq_some_iff]
  simp only [along, Coord.val_clamp] at left right bottom top ⊢
  omega

/-- On a board the square that the steps reach and the exact square are the same. -/
theorem contains_along_iff : dims.Contains (start.along step count) ↔
    ∃ target, start.ahead? step count = some target ∧ dims.Contains target := by
  constructor
  · intro inside
    exact ⟨_, ahead?_of_contains inside, inside⟩
  · intro given
    obtain ⟨target, exact, inside⟩ := given
    rwa [along_of_ahead? exact]

theorem ahead?_ne_start (moving : step ≠ ⟨0, 0⟩) (positive : 0 < count) :
    start.ahead? step count ≠ some start := by
  intro back
  obtain ⟨column, row⟩ := ahead?_eq_some_iff.mp back
  have still : ∀ {value : Coord}, (count : Int) * value.val = 0 → value = 0 := by
    intro value product
    rcases Int.mul_eq_zero.mp product with none | zero
    · omega
    · exact Coord.ext zero
  exact moving (Offset.ext (still (by omega)) (still (by omega)))

/-- A ray leaves a board within as many steps as the longer side has squares. -/
theorem count_le_maxExtent (moving : step ≠ ⟨0, 0⟩) (here : dims.Contains start)
    (exact : start.ahead? step count = some target) (there : dims.Contains target) :
    (count : Int) ≤ dims.maxExtent.val := by
  obtain ⟨column, row⟩ := ahead?_eq_some_iff.mp exact
  obtain ⟨left, right, bottom, top⟩ := here
  obtain ⟨targetLeft, targetRight, targetBottom, targetTop⟩ := there
  have long : ∀ {value : Coord}, value ≠ 0 → count ≤ ((count : Int) * value.val).natAbs := by
    intro value nonzero
    have size : 0 < value.val.natAbs := by
      rw [Int.natAbs_pos]
      exact fun zero => nonzero (Coord.ext zero)
    rw [Int.natAbs_mul, Int.natAbs_natCast]
    exact Nat.le_mul_of_pos_right count size
  have extent : dims.width.val ≤ dims.maxExtent.val ∧ dims.height.val ≤ dims.maxExtent.val := by
    unfold Dims.maxExtent
    split <;> omega
  by_cases still : step.dx = 0
  · have goes : step.dy ≠ 0 := fun none => moving (Offset.ext still none)
    have rows := long goes
    omega
  · have columns := long still
    omega

/-- Between two squares of a board a ray stays on the board. -/
theorem exists_ahead?_between {less : Nat} (here : dims.Contains start)
    (exact : start.ahead? step count = some target) (there : dims.Contains target)
    (short : less ≤ count) :
    ∃ square, start.ahead? step less = some square ∧ dims.Contains square := by
  obtain ⟨column, row⟩ := ahead?_eq_some_iff.mp exact
  obtain ⟨left, right, bottom, top⟩ := here
  obtain ⟨targetLeft, targetRight, targetBottom, targetTop⟩ := there
  have columns := Coord.repeated_between short step.dx.val
  have rows := Coord.repeated_between short step.dy.val
  have width := dims.width.greatest
  have height := dims.height.greatest
  refine contains_along_iff.mp ?_
  unfold Dims.Contains
  simp only [along, Coord.val_clamp]
  omega

/-- The way back along a ray visits the squares of the way out. -/
theorem ahead?_neg {less : Nat} (reaches : dims.WithinReach step)
    (exact : start.ahead? step count = some target) (short : less ≤ count) :
    target.ahead? (-step) less = start.ahead? step (count - less) := by
  obtain ⟨column, row⟩ := ahead?_eq_some_iff.mp exact
  have columns : target.x.val + less * (-step).dx.val =
      start.x.val + (count - less : Nat) * step.dx.val := by
    rw [column, Offset.dx_neg, Coord.val_neg_of_natAbs_lt reaches.1, Int.ofNat_sub short]
    ring
  have rows : target.y.val + less * (-step).dy.val =
      start.y.val + (count - less : Nat) * step.dy.val := by
    rw [row, Offset.dy_neg, Coord.val_neg_of_natAbs_lt reaches.2, Int.ofNat_sub short]
    ring
  rw [ahead?, ahead?, columns, rows]

theorem ahead?_injective {other : Nat} (moving : step ≠ ⟨0, 0⟩)
    (exact : start.ahead? step count = some target)
    (again : start.ahead? step other = some target) : count = other := by
  obtain ⟨column, row⟩ := ahead?_eq_some_iff.mp exact
  obtain ⟨otherColumn, otherRow⟩ := ahead?_eq_some_iff.mp again
  have same : ∀ {value : Coord}, value ≠ 0 → (count : Int) * value.val = other * value.val →
      count = other := by
    intro value nonzero products
    have nonzeroVal : value.val ≠ 0 := fun zero => nonzero (Coord.ext zero)
    exact Int.ofNat_inj.mp (Int.eq_of_mul_eq_mul_right nonzeroVal products)
  by_cases still : step.dx = 0
  · have goes : step.dy ≠ 0 := fun none => moving (Offset.ext still none)
    exact same goes (by omega)
  · exact same still (by omega)

end Square

namespace Path

variable {start : Square} {step : Offset} {count : Nat}

/-!
## Walking along a ray
-/

theorem walkSteps_replicate_along (first : Nat) :
    walkSteps (List.replicate count step) (start.along step first) =
      (List.range' (first + 1) count).map (start.along step) := by
  induction count generalizing first with
  | zero => rfl
  | succ count ih =>
    rw [List.replicate_succ, walkSteps, ← Square.along_succ, ih (first + 1), List.range'_succ,
      List.map_cons]

theorem walk_repeated : (repeated step count).walk start =
    (List.range' 1 count).map (start.along step) := by
  have walked := @walkSteps_replicate_along start step count 0
  rwa [Square.along_zero] at walked

theorem destination_repeated :
    (repeated step count).destination start = start.along step count := by
  induction count with
  | zero => exact Square.along_zero.symm
  | succ count ih =>
    rw [Square.along_succ, ← ih]
    simp only [destination, repeated, List.replicate_succ', List.foldl_append, List.foldl_cons,
      List.foldl_nil]

end Path

end TerrainChess

import TerrainChess.Classification
import TerrainChess.Notation.MovementLine
import TerrainChess.Proofs.Ray

/-!
# Pieces on a ray

The pieces that a repeated step passes are those strictly between its start and
its destination, and the one on the destination: `Position.OnRay.toNat_passed`.
No square is lost where coordinates stop at the end of their range, and the
number of pieces is never reduced to its range. Every square of the board on the
ray is the destination of a path that the repetition word stands for.
-/

set_option autoImplicit false

namespace TerrainChess

theorem Notation.mem_repetitions {dims : Dims} {step : Offset} {path : Path} :
    path ∈ repetitions dims step ↔ ∃ count, 0 < count ∧
      count ≤ (max 1 dims.maxExtent.val).toNat ∧ path = Path.repeated step count := by
  simp only [repetitions, List.mem_map, List.mem_range]
  constructor
  · intro given
    obtain ⟨less, bound, rfl⟩ := given
    exact ⟨less + 1, Nat.succ_pos less, bound, rfl⟩
  · intro given
    obtain ⟨count, positive, bound, rfl⟩ := given
    exact ⟨count - 1, by omega, by rw [Nat.sub_add_cancel positive]⟩

namespace Position

variable {position : Position} {home target : Square} {step : Offset} {count : Nat}

def screens (position : Position) (home : Square) (step : Offset) (count : Nat) : Nat :=
  (List.range' 1 (count - 1)).countP
    (fun between => (home.ahead? step between).any position.isOccupied)

/-- A square of the board lies a positive number of steps ahead. -/
structure OnRay (position : Position) (home : Square) (step : Offset) (count : Nat)
    (target : Square) : Prop where
  positive : 0 < count
  exact : home.ahead? step count = some target
  inside : position.dims.Contains target

def Bounded (position : Position) : Prop :=
  ∀ square, position.isOccupied square = true → position.dims.Contains square

theorem screens_lt (position : Position) (home : Square) (step : Offset) {count : Nat}
    (positive : 0 < count) : position.screens home step count < count := by
  have bound : position.screens home step count ≤ (List.range' 1 (count - 1)).length :=
    List.countP_le_length
  rw [List.length_range'] at bound
  omega

theorem counts_along_eq (bounded : position.Bounded) (moving : step ≠ ⟨0, 0⟩)
    (positive : 0 < count) :
    (decide (home.along step count ≠ home) && position.isOccupied (home.along step count)) =
      (home.ahead? step count).any position.isOccupied := by
  cases occupied : position.isOccupied (home.along step count) with
  | true =>
    have exact := Square.ahead?_of_contains (bounded _ occupied)
    have away : home.along step count ≠ home := fun same =>
      Square.ahead?_ne_start moving positive (same ▸ exact)
    simp [exact, occupied, away]
  | false =>
    cases exact : home.ahead? step count with
    | none => simp
    | some square => simp [← Square.along_of_ahead? exact, occupied]

section Ray

variable (bounded : position.Bounded) (here : position.dims.Contains home)
  (moving : step ≠ ⟨0, 0⟩)

include here moving

theorem OnRay.count_le (ray : position.OnRay home step count target) :
    (count : Int) ≤ position.dims.maxExtent.val :=
  Square.count_le_maxExtent moving here ray.exact ray.inside

include bounded

/-- A sliding path passes the pieces between and the one on its target. -/
theorem OnRay.toNat_passed (ray : position.OnRay home step count target) :
    (position.passed home (Path.repeated step count) home).toNat =
      position.screens home step count + if position.isOccupied target then 1 else 0 := by
  have short := ray.count_le here moving
  have extent := position.dims.maxExtent.greatest
  have last : List.range' 1 count = List.range' 1 (count - 1) ++ [count] := by
    obtain ⟨less, rfl⟩ := Nat.exists_eq_succ_of_ne_zero (Nat.ne_of_gt ray.positive)
    rw [List.range'_concat]
    simp [Nat.add_comm]
  have counted : ((List.range' 1 count).map (home.along step)).countP
        (fun square => decide (square ≠ home) && position.isOccupied square) =
      position.screens home step count + if position.isOccupied target then 1 else 0 := by
    rw [List.countP_map, last, List.countP_append, List.countP_singleton]
    congr 1
    · apply List.countP_congr
      intro between member
      have positive : 0 < between := by
        obtain ⟨_, _, rfl⟩ := List.mem_range'.mp member
        omega
      simp only [Function.comp_apply, counts_along_eq bounded moving positive]
    · simp only [Function.comp_apply, counts_along_eq bounded moving ray.positive, ray.exact,
        Option.any_some]
  have less := screens_lt position home step ray.positive
  rw [passed, Path.walk_repeated, ← List.countP_eq_length_filter, counted]
  refine Nat.mod_eq_of_lt ?_
  split <;> omega

end Ray

theorem OnRay.destination_eq (ray : position.OnRay home step count target) :
    (Path.repeated step count).destination home = target := by
  rw [Path.destination_repeated, Square.along_of_ahead? ray.exact]

theorem OnRay.repeated_mem (here : position.dims.Contains home) (moving : step ≠ ⟨0, 0⟩)
    (ray : position.OnRay home step count target) :
    Path.repeated step count ∈ Notation.repetitions position.dims step := by
  have short := ray.count_le here moving
  exact Notation.mem_repetitions.mpr ⟨count, ray.positive, by omega, rfl⟩

end Position

end TerrainChess

/-!
# Coordinates

Columns, rows and displacements are whole numbers of a fixed range. A sum or a
negation that would leave the range stops at its end, and every such end lies
outside every board.
-/

set_option autoImplicit false

namespace TerrainChess

/-- A whole number from `-2147483648` to `2147483647`. -/
structure Coord where
  val : Int
  least : -2147483648 ≤ val
  greatest : val ≤ 2147483647
deriving DecidableEq

namespace Coord

@[ext] theorem ext {left right : Coord} (same : left.val = right.val) : left = right := by
  cases left
  cases right
  cases same
  rfl

def clamp (value : Int) : Coord where
  val := max (-2147483648) (min 2147483647 value)
  least := by omega
  greatest := by omega

def ofInt? (value : Int) : Option Coord :=
  if inside : -2147483648 ≤ value ∧ value ≤ 2147483647 then
    some ⟨value, inside.1, inside.2⟩
  else
    none

instance (literal : Nat) : OfNat Coord literal := ⟨clamp literal⟩

/-- Addition stops at the ends of the range. -/
instance : Add Coord := ⟨fun left right => clamp (left.val + right.val)⟩

/-- Negation stops at the upper end, which only the least coordinate reaches. -/
instance : Neg Coord := ⟨fun value => clamp (-value.val)⟩

theorem val_clamp (value : Int) :
    (clamp value).val = max (-2147483648) (min 2147483647 value) := rfl

theorem val_clamp_of_mem {value : Int}
    (least : -2147483648 ≤ value) (greatest : value ≤ 2147483647) :
    (clamp value).val = value := by
  rw [val_clamp]
  omega

@[simp] theorem clamp_val (value : Coord) : clamp value.val = value :=
  ext (val_clamp_of_mem value.least value.greatest)

theorem val_add (left right : Coord) :
    (left + right).val = max (-2147483648) (min 2147483647 (left.val + right.val)) := rfl

theorem val_neg (value : Coord) :
    (-value).val = max (-2147483648) (min 2147483647 (-value.val)) := rfl

theorem ofInt?_eq_some_iff {value : Int} {coord : Coord} :
    ofInt? value = some coord ↔ coord.val = value := by
  unfold ofInt?
  constructor
  · intro found
    split at found
    · cases found
      rfl
    · cases found
  · intro same
    subst same
    rw [dif_pos ⟨coord.least, coord.greatest⟩]

end Coord

end TerrainChess

/-!
# Ranges of code points

Properties of characters are tables of ranges of code points, both ends included.
-/

set_option autoImplicit false

namespace TerrainChess.Text

/-- A property of characters as a list of ranges of code points, both ends included. -/
abbrev CodeRanges := List (Nat × Nat)

def CodeRanges.contains (ranges : CodeRanges) (character : Char) : Bool :=
  ranges.any (fun range =>
    decide (range.1 ≤ character.toNat) && decide (character.toNat ≤ range.2))

end TerrainChess.Text

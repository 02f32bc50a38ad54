/-!
# Classes of movements

Every movement of a piece falls into one of five classes. The rules are judged
one after the other, and their answers are combined.
-/

set_option autoImplicit false

namespace TerrainChess

inductive Validity where
  /-- Neither a move nor a threat. -/
  | notValid
  /-- A move, which captures an opposing piece on the destination. -/
  | canCapture
  /-- A threat that is no move. -/
  | threatenedOnly
  /-- A threat to the opposing royal piece. -/
  | check
  /-- A move that is no threat. -/
  | moveOnly
deriving DecidableEq

/-- The class after one more rule has answered: a pass keeps the class, and any other answer
replaces it. -/
def Validity.andThen (before : Validity) : Validity → Validity
  | canCapture => before
  | notValid => notValid
  | threatenedOnly => threatenedOnly
  | check => check
  | moveOnly => moveOnly

end TerrainChess

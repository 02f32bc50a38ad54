/-!
# Sides

The two sides of a game, and pairs that hold one value for each of them.
-/

set_option autoImplicit false

namespace TerrainChess

inductive Side where
  | red
  | black
deriving DecidableEq

namespace Side

def opponent : Side → Side
  | red => black
  | black => red

@[simp] theorem opponent_opponent (side : Side) : side.opponent.opponent = side := by
  cases side <;> rfl

theorem opponent_ne (side : Side) : side.opponent ≠ side := by
  cases side <;> decide

theorem eq_or_eq_opponent (side other : Side) : other = side ∨ other = side.opponent := by
  cases side <;> cases other <;> decide

theorem eq_opponent_iff {side other : Side} : other = side.opponent ↔ other ≠ side := by
  cases side <;> cases other <;> decide

def keyword : Side → String
  | red => "RED"
  | black => "BLACK"

def ofKeyword? (word : String) : Option Side :=
  if word = "RED" then some red
  else if word = "BLACK" then some black
  else none

theorem ofKeyword?_eq_some_iff {word : String} {side : Side} :
    ofKeyword? word = some side ↔ word = side.keyword := by
  unfold ofKeyword?
  cases side
  · split
    · next same => simpa [keyword] using same
    · next different =>
      split
      · simpa [keyword] using different
      · simpa [keyword] using different
  · split
    · next same =>
      subst same
      decide
    · split
      · next same => simpa [keyword] using same
      · next different => simpa [keyword] using different

def all : List Side := [red, black]

end Side

@[ext] structure BySide (α : Type) where
  red : α
  black : α
deriving DecidableEq

namespace BySide

variable {α : Type}

def get (pair : BySide α) : Side → α
  | .red => pair.red
  | .black => pair.black

def set (pair : BySide α) (side : Side) (value : α) : BySide α :=
  match side with
  | .red => { pair with red := value }
  | .black => { pair with black := value }

def both (value : α) : BySide α := ⟨value, value⟩

@[simp] theorem get_set_self (pair : BySide α) (side : Side) (value : α) :
    (pair.set side value).get side = value := by
  cases side <;> rfl

theorem get_set_of_ne (pair : BySide α) {side other : Side} (value : α) (different : other ≠ side) :
    (pair.set side value).get other = pair.get other := by
  cases side <;> cases other <;> simp_all [set, get]

@[simp] theorem get_both (value : α) (side : Side) : (both value).get side = value := by
  cases side <;> rfl

end BySide

end TerrainChess

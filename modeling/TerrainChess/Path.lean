import TerrainChess.Dims

/-!
# Relative paths

A path is a chain of offsets. Walked from a square it visits one square per
step; the start is not visited and the destination is the last square visited.
-/

set_option autoImplicit false

namespace TerrainChess

@[ext] structure Path where
  steps : List Offset
deriving DecidableEq

namespace Path

def single (step : Offset) : Path := ⟨[step]⟩

def repeated (step : Offset) (count : Nat) : Path := ⟨List.replicate count step⟩

def length (path : Path) : Nat := path.steps.length

def isEmpty (path : Path) : Bool := path.steps.isEmpty

def negated (path : Path) : Path := ⟨path.steps.map (fun step => -step)⟩

def destination (path : Path) (start : Square) : Square :=
  path.steps.foldl (fun square step => square + step) start

def walkSteps : List Offset → Square → List Square
  | [], _ => []
  | step :: rest, square => (square + step) :: walkSteps rest (square + step)

def walk (path : Path) (start : Square) : List Square := walkSteps path.steps start

def staysWithin (path : Path) (start : Square) (dims : Dims) : Bool :=
  (path.walk start).all (fun square => decide (dims.Contains square))

@[simp] theorem length_walk (path : Path) (start : Square) :
    (path.walk start).length = path.length := by
  unfold walk length
  induction path.steps generalizing start with
  | nil => rfl
  | cons step rest ih => simp [walkSteps, ih]

/-- The last square visited is the destination, which is the start for the path without steps. -/
theorem getLastD_walk (path : Path) (start : Square) :
    (path.walk start).getLastD start = path.destination start := by
  unfold walk destination
  induction path.steps generalizing start with
  | nil => rfl
  | cons step rest ih =>
    rw [walkSteps, List.getLastD_cons, List.foldl_cons]
    exact ih (start + step)

end Path

end TerrainChess

import TerrainChess.Path
import TerrainChess.Side

/-!
# Movement patterns

A movement of a piece is a path with a tag. The tag says which piece type and
terrain the path belongs to, in which tiers it counts and which side may use it.
A pattern collects the paths of one tag.
-/

set_option autoImplicit false

namespace TerrainChess

/-- The name of the terrain that needs no declaration. -/
def defaultTerrain : String := "DEFAULT"

/-- The order in which movements are tried: alternate ones only if no standard one is legal. -/
inductive Tier where
  | standard
  | alternate
deriving DecidableEq

/-- The tiers in which a movement counts. -/
inductive Specification where
  | standard
  | alternate
  | both
deriving DecidableEq

def Specification.inTier : Specification → Tier → Bool
  | both, _ => true
  | standard, .standard => true
  | alternate, .alternate => true
  | standard, .alternate => false
  | alternate, .standard => false

inductive SideScope where
  | both
  | only (side : Side)
deriving DecidableEq

def SideScope.admits : SideScope → Side → Bool
  | both, _ => true
  | only owner, side => decide (owner = side)

/-- What a movement belongs to. -/
@[ext] structure MovementTag where
  pieceType : String
  terrain : String
  specification : Specification
  side : SideScope
deriving DecidableEq

def MovementTag.isDefaultTerrain (tag : MovementTag) : Bool :=
  decide (tag.terrain = defaultTerrain)

structure TaggedPath where
  tag : MovementTag
  path : Path
deriving DecidableEq

structure MovementPattern where
  tag : MovementTag
  paths : List Path
deriving DecidableEq

namespace MovementPattern

def appliesTo (pattern : MovementPattern) (side : Side) : Bool :=
  pattern.tag.side.admits side

def taggedPaths (pattern : MovementPattern) : List TaggedPath :=
  pattern.paths.map (fun path => ⟨pattern.tag, path⟩)

/-- Adds a path at the end of the pattern of its tag, or in a new last pattern. -/
def add (movement : TaggedPath) : List MovementPattern → List MovementPattern
  | [] => [⟨movement.tag, [movement.path]⟩]
  | pattern :: rest =>
    if pattern.tag = movement.tag then
      { pattern with paths := pattern.paths ++ [movement.path] } :: rest
    else
      pattern :: add movement rest

/-- Collects paths by tag. Patterns stand in the order in which their tags first occur, and the
paths of a pattern in the order of the input. -/
def group (movements : List TaggedPath) : List MovementPattern :=
  movements.foldl (fun patterns movement => add movement patterns) []

end MovementPattern

end TerrainChess

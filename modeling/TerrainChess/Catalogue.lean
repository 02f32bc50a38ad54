import TerrainChess.Ordered.Map
import TerrainChess.Rule

/-!
# Catalogues

The declared terrains and piece types of a game, listed by name. A catalogue is
complete before the board is set up and never changes during a game.
-/

set_option autoImplicit false

namespace TerrainChess

/-- A declared terrain; the texture is a file name. -/
structure Terrain where
  name : String
  texture : Option String
deriving DecidableEq

structure Template where
  name : String
  weight : UInt32
  /-- Says whether the game is decided by the safety of this piece. -/
  royal : Bool
  textures : BySide String
  patterns : List MovementPattern
  rules : RuleSet
deriving DecidableEq

abbrev TerrainCatalogue := OrderedMap String Terrain

/-- The piece types, each listed under its name. -/
structure PieceCatalogue extends OrderedMap String Template where
  keyed : ∀ entry ∈ entries, entry.2.name = entry.1
deriving DecidableEq

def TerrainCatalogue.isKnown (terrains : TerrainCatalogue) (name : String) : Bool :=
  decide (name = defaultTerrain) || terrains.contains name

namespace PieceCatalogue

def empty : PieceCatalogue where
  toOrderedMap := ∅
  keyed _ member := absurd member List.not_mem_nil

instance : EmptyCollection PieceCatalogue := ⟨empty⟩

instance : Inhabited PieceCatalogue := ⟨empty⟩

/-- Lists a piece type, in the place of one that has its name. -/
def insert (pieces : PieceCatalogue) (template : Template) : PieceCatalogue where
  toOrderedMap := pieces.toOrderedMap.insert template.name template
  keyed := by
    intro entry member
    rcases OrderedMap.key_of_mem_insertInto member with new | old
    · rw [new]
    · exact pieces.keyed entry old

def royals (pieces : PieceCatalogue) : List Template :=
  pieces.values.filter (fun template => template.royal)

@[simp] theorem get?_empty (name : String) : (∅ : PieceCatalogue).get? name = none := rfl

theorem get?_insert {pieces : PieceCatalogue} {template : Template} {name : String} :
    (pieces.insert template).get? name =
      if name = template.name then some template else pieces.get? name :=
  OrderedMap.get?_insert

theorem name_of_get? {pieces : PieceCatalogue} {name : String} {template : Template}
    (found : pieces.get? name = some template) : template.name = name :=
  pieces.keyed (name, template) (OrderedMap.get?_eq_some_iff.mp found)

theorem exists_values_insert {pieces : PieceCatalogue} {template : Template}
    (fresh : pieces.get? template.name = none) :
    ∃ front back, pieces.values = front ++ back ∧
      (pieces.insert template).values = front ++ template :: back :=
  OrderedMap.exists_values_insert fresh template

theorem insert_comm {first second : Template} (different : first.name ≠ second.name)
    (pieces : PieceCatalogue) :
    (pieces.insert first).insert second = (pieces.insert second).insert first := by
  unfold insert
  rw [PieceCatalogue.mk.injEq]
  exact OrderedMap.insert_comm different first second

end PieceCatalogue

namespace Template

def patternsFor (template : Template) (side : Side) : List MovementPattern :=
  template.patterns.filter (fun pattern => pattern.appliesTo side)

/-- The patterns that a side uses on a terrain: those declared for the terrain, or if there are
none those of the default terrain. -/
def patternsOn (template : Template) (side : Side) (terrain : String) : List MovementPattern :=
  let usable := template.patternsFor side
  let declared := usable.filter (fun pattern => decide (pattern.tag.terrain = terrain))
  if declared.isEmpty then usable.filter (fun pattern => pattern.tag.isDefaultTerrain)
  else declared

end Template

end TerrainChess

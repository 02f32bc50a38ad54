import TerrainChess.Catalogue
import TerrainChess.Notation.LinePass
import TerrainChess.Notation.Words

/-!
# The terrain text

The terrain text declares terrains in blocks: a line with the name in square
brackets, an optional texture, and a line that ends the block. A terrain is
declared when its block is ended.
-/

set_option autoImplicit false

namespace TerrainChess

/-- Finds the file that a written texture path stands for. -/
abbrev TextureResolver := String → Option String

namespace Notation

structure TerrainState where
  declared : TerrainCatalogue
  openBlock : Option Terrain
deriving DecidableEq

namespace TerrainState

def initial : TerrainState := ⟨∅, none⟩

def unclosed (state : TerrainState) : List Fault :=
  (state.openBlock.map (fun terrain => Fault.unclosedBlock terrain.name)).toList

end TerrainState

/-- Ends the block of a terrain. A later declaration replaces an earlier one. -/
def declareTerrain (state : TerrainState) (terrain : Terrain) : TerrainState × List Fault :=
  (⟨state.declared.insert terrain.name terrain, none⟩,
    if state.declared.contains terrain.name then [.duplicateDeclaration terrain.name] else [])

def terrainStep (resolve : TextureResolver) : LineStep TerrainState := fun state line =>
  match Text.wrapped '[' ']' line with
  | some name =>
    if name.isEmpty then
      ({ state with openBlock := none }, state.unclosed ++ [.strayText (String.ofList line)])
    else ({ state with openBlock := some ⟨String.ofList name, none⟩ }, state.unclosed)
  | none =>
    match state.openBlock with
    | none => (state, [.strayText (String.ofList line)])
    | some terrain =>
      if line = Word.blockEnd then declareTerrain state terrain
      else
        match Text.splitOnce '=' line with
        | none => (state, [.strayText (String.ofList line)])
        | some (key, value) =>
          if String.ofList (Text.trim key) = Word.textureFile then
            let path := String.ofList (Text.trim value)
            match resolve path with
            | some file =>
              ({ state with openBlock := some { terrain with texture := some file } }, [])
            | none => (state, [.invalidTexturePath path])
          else (state, [.strayText (String.ofList line)])

def readTerrains (resolve : TextureResolver) (text : String) :
    TerrainCatalogue × List Diagnostic :=
  let lines := Text.trimmedLines text.toList
  let (final, faults) := (terrainStep resolve).run 1 TerrainState.initial lines
  (final.declared,
    diagnose .terrain (faults ++ final.unclosed.map (fun fault => (lines.length, fault))))

end Notation

end TerrainChess

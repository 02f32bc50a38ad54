import TerrainChess.Command.Arguments
import TerrainChess.Config.Game

/-!
# The files that a request needs

The files of a request become known step by step: the configuration names the
texts, and the texts name the textures.
-/

set_option autoImplicit false

namespace TerrainChess.Command

def Request.config : Request → String
  | check config => config
  | moves config _ _ => config

namespace Needs

def texts (files : FileAccess) (request : Request) : List String :=
  match GameConfig.load files request.config with
  | .error _ => []
  | .ok config => [config.sources.terrain, config.sources.pieces, config.sources.board]

/-- Everything that stands behind the first equals sign of a line: every texture of a text is
written there. -/
def assigned (text : String) : List String :=
  (Text.trimmedLines text.toList).filterMap (fun line =>
    (Text.splitOnce '=' line).map (fun parts => String.ofList (Text.trim parts.2)))

def textures (files : FileAccess) (request : Request) : List String :=
  match GameConfig.load files request.config with
  | .error _ => []
  | .ok config =>
    [config.sources.terrain, config.sources.pieces].flatMap (fun name =>
      match files.readText name with
      | .error _ => []
      | .ok text => (assigned text).map (Location.join config.textures))

end Needs

end TerrainChess.Command

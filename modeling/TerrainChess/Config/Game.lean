import TerrainChess.Config.Document
import TerrainChess.Dims
import TerrainChess.Setup
import TerrainChess.Side

/-!
# The configuration of a game

The configuration names the dimensions of the board, the files with the three
texts, the directory of the textures, the side that moves first and whether
diagnostics are an error. Names of files are seen from the directory of the
configuration.
-/

set_option autoImplicit false

namespace TerrainChess

structure GameConfig where
  dims : Dims
  sources : SourceFiles
  textures : String
  first : Side
  strict : Bool
deriving DecidableEq

inductive ConfigError where
  | unreadable (name : String) (reason : ReadError)
  | malformed (name : String)
  | emptyBoard (dims : Dims)
  | unknownSide (word : String)
deriving DecidableEq

def ConfigError.message : ConfigError → String
  | unreadable name reason => "failed to read config " ++ name ++ ": " ++ reason.message
  | malformed name => "failed to parse config " ++ name
  | emptyBoard dims =>
    "board dimensions must be positive (got " ++ toString dims.width.val ++ "x" ++
      toString dims.height.val ++ ")"
  | unknownSide word => "unknown side '" ++ word ++ "' (expected RED or BLACK)"

namespace Config

/-- The values of the fields of a section, in their order. A table gives them by their names and
has no other names; a list gives them by their places, and what stands behind the last of them
does not count. -/
def fields? (names : List String) : Value → Option (List (Option Value))
  | .table settings =>
    if (Settings.names settings).all (fun name => decide (name ∈ names)) then
      some (names.map (Settings.get? settings))
    else none
  | .list items => some ((List.range names.length).map (fun place => items[place]?))
  | _ => none

def text? : Value → Option String
  | .string text => some text
  | _ => none

def coord? : Value → Option Coord
  | .integer value => Coord.ofInt? value
  | _ => none

def boolean? : Value → Option Bool
  | .boolean value => some value
  | _ => none

def orElse {Result : Type} (read : Value → Option Result) (fallback : Result) :
    Option Value → Option Result
  | none => some fallback
  | some value => read value

def dims? (document : Settings) : Option Dims :=
  match document.get? "board" with
  | none => some Dims.standard
  | some board =>
    match fields? ["width", "height"] board with
    | some [some width, some height] =>
      match coord? width, coord? height with
      | some width, some height => some ⟨width, height⟩
      | _, _ => none
    | _ => none

def files? (document : Settings) : Option (SourceFiles × String) :=
  match (document.get? "files").bind (fields? ["terrain", "pieces", "board", "textures"]) with
  | some [some terrain, some pieces, some board, textures] =>
    match text? terrain, text? pieces, text? board, orElse text? "textures" textures with
    | some terrain, some pieces, some board, some textures =>
      some (⟨terrain, pieces, board⟩, textures)
    | _, _, _, _ => none
  | _ => none

def match? (document : Settings) : Option (String × Bool) :=
  match fields? ["first", "strict"] ((document.get? "match").getD (.table [])) with
  | some [first, strict] =>
    match orElse text? Side.red.keyword first, orElse boolean? false strict with
    | some first, some strict => some (first, strict)
    | _, _ => none
  | _ => none

/-- What a configuration text says, before it is checked. -/
structure Declared where
  dims : Dims
  sources : SourceFiles
  textures : String
  first : String
  strict : Bool
deriving DecidableEq

def declared? (text : String) : Option Declared :=
  match Document.ofText? text with
  | none => none
  | some document =>
    if document.names.all (fun name => decide (name ∈ ["board", "files", "match"])) then
      match dims? document, files? document, match? document with
      | some dims, some (sources, textures), some (first, strict) =>
        some ⟨dims, sources, textures, first, strict⟩
      | _, _, _ => none
    else none

end Config

namespace GameConfig

/-- Checks a declaration and lets its file names be seen from a directory. The dimensions must be
positive and the first side must exist. -/
def ofDeclared (directory : String) (declared : Config.Declared) :
    Except ConfigError GameConfig :=
  let seen := Location.join directory
  if declared.dims.width.val ≤ 0 ∨ declared.dims.height.val ≤ 0 then
    .error (.emptyBoard declared.dims)
  else
    match Side.ofKeyword? declared.first with
    | none => .error (.unknownSide declared.first)
    | some first =>
      .ok
        { dims := declared.dims
          sources := ⟨seen declared.sources.terrain, seen declared.sources.pieces,
            seen declared.sources.board⟩
          textures := seen declared.textures
          first := first
          strict := declared.strict }

def load (files : FileAccess) (name : String) : Except ConfigError GameConfig :=
  match files.readText name with
  | .error reason => .error (.unreadable name reason)
  | .ok text =>
    match Config.declared? text with
    | none => .error (.malformed name)
    | some declared => ofDeclared (Location.parent name) declared

end GameConfig

end TerrainChess

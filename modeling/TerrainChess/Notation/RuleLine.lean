import TerrainChess.Catalogue
import TerrainChess.Notation.MovementLine

/-!
# Rule lines

A rule line such as `jump;1;EAT_ONLY_ON_LAST` or `final_position;[river]` opens
with the word of its kind; its arguments stand between semicolons in any order.
-/

set_option autoImplicit false

namespace TerrainChess.Notation

structure RuleScope where
  terrains : TerrainCatalogue
  /-- The names of all piece types of the text, also of those declared further down. -/
  pieceNames : OrderedSet String
  dims : Dims

def isSelectorWord (name : String) : Bool :=
  decide (name = Selector.allWord) || decide (name = Selector.noneWord)

def invalidArgument (kind : RuleKind) (argument : List Char) : Fault :=
  .invalidRuleArgument kind (String.ofList argument)

/-- A jump rule with at most one number and at most one word for captures behind the last piece;
what has been read so far comes first. -/
def readJump : Option UInt32 → Bool → List (List Char) → Except Fault Rule
  | jumps, eatOnlyOnLast, [] => .ok (.jump (jumps.getD 0) eatOnlyOnLast)
  | jumps, eatOnlyOnLast, argument :: rest =>
    if argument = Word.eatOnlyOnLast ∧ eatOnlyOnLast = false then readJump jumps true rest
    else
      match jumps, Text.Numeral.readWord? argument with
      | none, some count => readJump (some count) eatOnlyOnLast rest
      | _, _ => .error (invalidArgument .jump argument)

def readTerrainArgument (scope : RuleScope) (argument : List Char) : Except Fault String :=
  match Text.wrapped '[' ']' argument with
  | none => .error (invalidArgument .finalTerrain argument)
  | some inner =>
    let name := String.ofList inner
    if isSelectorWord name || scope.terrains.isKnown name then .ok name
    else .error (.undeclaredTerrain name)

def readTerrainArguments (scope : RuleScope) : List (List Char) → Except Fault (List String)
  | [] => .ok []
  | argument :: rest =>
    match readTerrainArgument scope argument with
    | .error fault => .error fault
    | .ok name =>
      match readTerrainArguments scope rest with
      | .error fault => .error fault
      | .ok names => .ok (name :: names)

/-- The piece type or the paths that an argument of an encounter rule gives. -/
def readEncounterArgument (scope : RuleScope) (argument : List Char) :
    Except Fault (List String × List ScopedPath) :=
  match Text.wrapped '(' ')' argument with
  | some inner =>
    let name := String.ofList inner
    if isSelectorWord name || decide (name ∈ scope.pieceNames) then .ok ([name], [])
    else .error (.undeclaredPieceType name)
  | none =>
    if ',' ∈ argument then
      match readMovements scope.dims argument with
      | .error fault => .error fault
      | .ok movements => .ok ([], movements.map (fun movement => ⟨movement.side, movement.path⟩))
    else .error (invalidArgument .encounter argument)

def readEncounterArguments (scope : RuleScope) :
    List (List Char) → Except Fault (List String × List ScopedPath)
  | [] => .ok ([], [])
  | argument :: rest =>
    match readEncounterArgument scope argument with
    | .error fault => .error fault
    | .ok (names, paths) =>
      match readEncounterArguments scope rest with
      | .error fault => .error fault
      | .ok (laterNames, laterPaths) => .ok (names ++ laterNames, paths ++ laterPaths)

def readRuleOf (scope : RuleScope) (kind : RuleKind) (arguments : List (List Char)) :
    Except Fault Rule :=
  match kind with
  | .jump => readJump none false arguments
  | .finalTerrain =>
    match readTerrainArguments scope arguments with
    | .error fault => .error fault
    | .ok names => .ok (.finalTerrain (Selector.ofNames names))
  | .encounter =>
    match readEncounterArguments scope arguments with
    | .error fault => .error fault
    | .ok (names, paths) => .ok (.encounter (Selector.ofNames names) paths)

def readRule (scope : RuleScope) (body : List Char) : Except Fault Rule :=
  let parts := (Text.splitOn ';' body).map Text.trim
  let keyword := String.ofList (parts.headD [])
  match RuleKind.ofKeyword? keyword with
  | none => .error (.unknownRuleKind keyword)
  | some kind => readRuleOf scope kind (parts.tail.filter (fun argument => !argument.isEmpty))

end TerrainChess.Notation

import TerrainChess.Notation.LinePass
import TerrainChess.Notation.RuleLine
import TerrainChess.Notation.TerrainText

/-!
# The piece text

The piece text declares piece types in blocks. A block opens with a name in
parentheses and gives the weight, two textures, movements by terrain and rules.
All names are collected before the blocks are read, so that rules may use names
of later blocks. Exactly one line of the text marks the royal piece.
-/

set_option autoImplicit false

namespace TerrainChess.Notation

structure PieceBlock where
  name : String
  royal : Bool
  weight : Option UInt32
  textures : BySide (Option String)
  movements : List TaggedPath
  rules : RuleSet
  /-- The terrain of the next movement lines; there is none after an undeclared terrain. -/
  terrain : Option String
deriving DecidableEq

namespace PieceBlock

def opened (name : String) : PieceBlock where
  name := name
  royal := false
  weight := none
  textures := BySide.both none
  movements := []
  rules := RuleSet.empty
  terrain := some defaultTerrain

def missing (block : PieceBlock) : List String :=
  (if block.weight.isNone then [Word.weight] else []) ++
    (if block.textures.red.isNone then [Word.redTexture] else []) ++
    (if block.textures.black.isNone then [Word.blackTexture] else [])

def finish (block : PieceBlock) : Except Fault Template :=
  let patterns := MovementPattern.group block.movements
  if patterns.any (fun pattern => pattern.tag.isDefaultTerrain) then
    match block.weight, block.textures.red, block.textures.black with
    | some weight, some red, some black =>
      .ok
        { name := block.name
          weight := weight
          royal := block.royal
          textures := ⟨red, black⟩
          patterns := patterns
          rules := block.rules.complete }
    | _, _, _ => .error (.pieceDropped block.name block.missing)
  else .error (.missingDefaultMovement block.name)

end PieceBlock

structure PieceState where
  declared : PieceCatalogue
  openBlock : Option PieceBlock
deriving DecidableEq

namespace PieceState

def initial : PieceState := ⟨∅, none⟩

/-- The fault of a block that is open where another one begins or the text ends. -/
def unclosed (state : PieceState) : List Fault :=
  (state.openBlock.map (fun block => Fault.unclosedBlock block.name)).toList

def continueWith (state : PieceState) (block : PieceBlock) : PieceState :=
  { state with openBlock := some block }

end PieceState

/-- What the lines of a piece text are read with. -/
structure PieceScope extends RuleScope where
  resolve : TextureResolver

def ruleStep (scope : PieceScope) (block : PieceBlock) (body : List Char) :
    PieceBlock × List Fault :=
  match readRule scope.toRuleScope body with
  | .error fault => (block, [fault])
  | .ok rule =>
    match block.rules.insert rule with
    | .error kind => (block, [.ruleRedefinition block.name kind])
    | .ok rules => ({ block with rules := rules }, [])

def terrainLineStep (scope : PieceScope) (block : PieceBlock) (name : String) :
    PieceBlock × List Fault :=
  if scope.terrains.isKnown name then ({ block with terrain := some name }, [])
  else ({ block with terrain := none }, [.undeclaredTerrain name])

/-- Reads an assignment. A texture that is not found leaves the block without that texture. -/
def assignmentStep (scope : PieceScope) (block : PieceBlock) (line : List Char)
    (key value : List Char) : PieceBlock × List Fault :=
  let word := String.ofList (Text.trim key)
  let content := Text.trim value
  let texture (side : Side) : PieceBlock × List Fault :=
    let found := scope.resolve (String.ofList content)
    ({ block with textures := block.textures.set side found },
      if found.isNone then [.invalidTexturePath (String.ofList content)] else [])
  if word = Word.redTexture then texture .red
  else if word = Word.blackTexture then texture .black
  else if word = Word.weight then
    match Text.Numeral.readWord? content with
    | some weight =>
      if 0 < weight then ({ block with weight := some weight }, [])
      else (block, [.invalidWeight (String.ofList content)])
    | none => (block, [.invalidWeight (String.ofList content)])
  else (block, [.strayText (String.ofList line)])

/-- Reads a movement line, which is ignored after an undeclared terrain. -/
def movementStep (scope : PieceScope) (block : PieceBlock) (line : List Char) :
    PieceBlock × List Fault :=
  match block.terrain with
  | none => (block, [])
  | some terrain =>
    match readMovements scope.dims line with
    | .error fault => (block, [fault])
    | .ok movements =>
      ({ block with
          movements := block.movements ++ movements.map (fun movement =>
            ⟨⟨block.name, terrain, movement.specification, movement.side⟩, movement.path⟩) },
        [])

/-- Ends a block. A piece type is declared once. -/
def declarePiece (state : PieceState) (block : PieceBlock) : PieceState × List Fault :=
  match block.finish with
  | .error fault => ({ state with openBlock := none }, [fault])
  | .ok template =>
    if state.declared.contains template.name then
      ({ state with openBlock := none }, [.duplicateDeclaration template.name])
    else (⟨state.declared.insert template, none⟩, [])

def blockStep (scope : PieceScope) (state : PieceState) (block : PieceBlock)
    (line : List Char) : PieceState × List Fault :=
  let stay := fun (result : PieceBlock × List Fault) => (state.continueWith result.1, result.2)
  match Text.enclosed '[' ']' line with
  | some name => stay (terrainLineStep scope block (String.ofList name))
  | none =>
    if line = Word.royal then stay ({ block with royal := true }, [])
    else
      match Text.splitOnce '=' line with
      | some (key, value) => stay (assignmentStep scope block line key value)
      | none =>
        if ':' ∈ line ∨ ',' ∈ line then stay (movementStep scope block line)
        else if line = Word.blockEnd then declarePiece state block
        else stay (block, [.strayText (String.ofList line)])

/-- Reads a line of the piece text. Rule lines may hold names in brackets of any kind and are
recognised first. -/
def pieceStep (scope : PieceScope) : LineStep PieceState := fun state line =>
  match Text.enclosed '\x7b' '\x7d' line with
  | some body =>
    match state.openBlock with
    | none => (state, [.strayText (String.ofList line)])
    | some block =>
      let result := ruleStep scope block body
      (state.continueWith result.1, result.2)
  | none =>
    match Text.enclosed '(' ')' line with
    | some name =>
      if name.isEmpty then
        ({ state with openBlock := none }, state.unclosed ++ [.strayText (String.ofList line)])
      else (state.continueWith (PieceBlock.opened (String.ofList name)), state.unclosed)
    | none =>
      match state.openBlock with
      | none => (state, [.strayText (String.ofList line)])
      | some block => blockStep scope state block line

/-- The names of the lines that are a name in parentheses and nothing else. -/
def declaredNames (lines : List (List Char)) : OrderedSet String :=
  OrderedSet.ofList ((lines.filterMap (Text.wrapped '(' ')')).map String.ofList)

def royalLines (lines : List (List Char)) : Nat :=
  (lines.filter (fun line => decide (line = Word.royal))).length

/-- Reads the piece text: the declared piece types, or the number of royal pieces where it is not
one, and what was dropped. -/
def readPieces (dims : Dims) (resolve : TextureResolver) (terrains : TerrainCatalogue)
    (text : String) : Except Nat PieceCatalogue × List Diagnostic :=
  let lines := Text.trimmedLines text.toList
  if royalLines lines ≠ 1 then (.error (royalLines lines), [])
  else
    let scope : PieceScope := ⟨⟨terrains, declaredNames lines, dims⟩, resolve⟩
    let (final, faults) := (pieceStep scope).run 1 PieceState.initial lines
    let royals := final.declared.royals.length
    (if royals = 1 then .ok final.declared else .error royals,
      diagnose .pieces (faults ++ final.unclosed.map (fun fault => (lines.length, fault))))

end TerrainChess.Notation

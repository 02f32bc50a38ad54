import TerrainChess.Board
import TerrainChess.Notation.LinePass
import TerrainChess.Notation.Words

/-!
# The board text

The board text paints terrain and places pieces in sections. A section works on
a draft of the board, which becomes the board when the section is ended. Side
markers hold until the next one, also across sections.
-/

set_option autoImplicit false

namespace TerrainChess.Notation

inductive SectionKind where
  | ground
  | pieces
deriving DecidableEq

def SectionKind.header : SectionKind → List Char
  | ground => Word.groundSection
  | pieces => Word.piecesSection

/-- An open section with the draft of the board. -/
structure OpenSection where
  kind : SectionKind
  draft : Board

structure BoardState where
  board : Board
  openSection : Option OpenSection
  side : Option Side
  mirrored : Bool

namespace BoardState

def initial (dims : Dims) : BoardState := ⟨Board.empty dims, none, none, false⟩

/-- The fault of a section that is open where another one begins or the text ends. -/
def unclosed (state : BoardState) : List Fault :=
  (state.openSection.map
    (fun current => Fault.unclosedBlock (String.ofList current.kind.header))).toList

end BoardState

inductive GroundField where
  | terrain (name : String)
  | full
  | rectangle
  | corner (square : Square)
deriving DecidableEq

def GroundField.read (field : List Char) : Except Fault GroundField :=
  match Text.wrapped '[' ']' field with
  | some name => .ok (terrain (String.ofList name))
  | none =>
    if field = Word.full then .ok full
    else if field = Word.rectangle then .ok rectangle
    else if ',' ∈ field then
      match Square.ofText? field with
      | some square => .ok (corner square)
      | none => .error (.invalidCoordinate (String.ofList field))
    else .error (.unknownParameter (String.ofList field))

inductive PlacingField where
  | piece (name : String)
  | square (square : Square)
deriving DecidableEq

def PlacingField.read (field : List Char) : Except Fault PlacingField :=
  match Text.wrapped '(' ')' field with
  | some name => .ok (piece (String.ofList name))
  | none =>
    if ',' ∈ field then
      match Square.ofText? field with
      | some found => .ok (square found)
      | none => .error (.invalidCoordinate (String.ofList field))
    else .error (.unknownParameter (String.ofList field))

/-- The meanings of all fields, or the fault of the first one that has none. -/
def readAll {α : Type} (read : List Char → Except Fault α) :
    List (List Char) → Except Fault (List α)
  | [] => .ok []
  | field :: rest =>
    match read field with
    | .error fault => .error fault
    | .ok meaning =>
      match readAll read rest with
      | .error fault => .error fault
      | .ok later => .ok (meaning :: later)

def lastTerrain? (fields : List GroundField) : Option String :=
  (fields.filterMap (fun field =>
    match field with
    | .terrain name => some name
    | _ => none)).getLast?

def cornersOf (fields : List GroundField) : List Square :=
  fields.filterMap (fun field =>
    match field with
    | .corner square => some square
    | _ => none)

def region? (fields : List GroundField) : Option Region :=
  match decide (GroundField.full ∈ fields), decide (GroundField.rectangle ∈ fields),
    cornersOf fields with
  | true, false, [] => some .whole
  | false, true, [first, second] => some (.rectangle first second)
  | false, false, [only] => some (.cell only)
  | _, _, _ => none

def paintLine (terrains : TerrainCatalogue) (board : Board) (line : List Char) :
    Except Fault Board :=
  match readAll GroundField.read (Text.fields line) with
  | .error fault => .error fault
  | .ok fields =>
    match lastTerrain? fields with
    | none => .error (.strayText (String.ofList line))
    | some name =>
      if terrains.isKnown name then
        match (cornersOf fields).find? (fun square => !decide (board.dims.Contains square)) with
        | some outside => .error (.outOfBounds outside)
        | none =>
          match region? fields with
          | some region => .ok (board.paint region name)
          | none => .error (.strayText (String.ofList line))
      else .error (.undeclaredTerrain name)

/-- Checks that a piece can be placed: the square is on the board and free, and a side has one
royal piece at most. -/
def checkTarget (board : Board) (royal : Bool) (side : Side) (square : Square) :
    Except Fault Unit :=
  if board.dims.Contains square then
    if board.isOccupied square then .error (.occupiedSquare square)
    else if royal && (board.royalSquare? side).isSome then .error (.duplicateRoyal side)
    else .ok ()
  else .error (.outOfBounds square)

/-- The squares and sides on which a piece is placed. With mirroring the piece is placed also for
the other side on the reflected square, which must be another one. All squares are checked before
any piece is placed. -/
def placements (board : Board) (royal : Bool) (side : Side) (square : Square) (mirrored : Bool) :
    Except Fault (List (Side × Square)) :=
  match checkTarget board royal side square with
  | .error fault => .error fault
  | .ok _ =>
    if mirrored then
      let reflected := board.dims.mirror square
      if reflected = square then .error (.occupiedSquare reflected)
      else
        match checkTarget board royal side.opponent reflected with
        | .error fault => .error fault
        | .ok _ => .ok [(side, square), (side.opponent, reflected)]
    else .ok [(side, square)]

def faultOfBoardError : BoardError → Fault
  | .outOfBounds square => .outOfBounds square
  | .occupied square => .occupiedSquare square
  | .emptySquare square => .occupiedSquare square

def placeOn (template : Template) : List (Side × Square) → Board → Except Fault Board
  | [], board => .ok board
  | (side, square) :: rest, board =>
    match board.place template side square with
    | .error reason => .error (faultOfBoardError reason)
    | .ok next => placeOn template rest next

def namesOf (fields : List PlacingField) : List String :=
  fields.filterMap (fun field =>
    match field with
    | .piece name => some name
    | .square _ => none)

def squaresOf (fields : List PlacingField) : List Square :=
  fields.filterMap (fun field =>
    match field with
    | .piece _ => none
    | .square square => some square)

def placeLine (pieces : PieceCatalogue) (side : Option Side) (mirrored : Bool) (board : Board)
    (line : List Char) : Except Fault Board :=
  match readAll PlacingField.read (Text.fields line) with
  | .error fault => .error fault
  | .ok fields =>
    match (namesOf fields).getLast?, squaresOf fields with
    | some name, [square] =>
      match pieces.get? name with
      | none => .error (.undeclaredPieceType name)
      | some template =>
        match side with
        | none => .error (.missingSide name)
        | some owner =>
          match placements board template.royal owner square mirrored with
          | .error fault => .error fault
          | .ok targets => placeOn template targets board
    | _, _ => .error (.strayText (String.ofList line))

/-- Reads a line that is neither a header nor a marker nor ends a section. -/
def contentStep (terrains : TerrainCatalogue) (pieces : PieceCatalogue) (state : BoardState)
    (line : List Char) : BoardState × List Fault :=
  match state.openSection with
  | none => (state, [.strayText (String.ofList line)])
  | some current =>
    let result :=
      match current.kind with
      | .ground => paintLine terrains current.draft line
      | .pieces => placeLine pieces state.side state.mirrored current.draft line
    match result with
    | .error fault => (state, [fault])
    | .ok draft => ({ state with openSection := some { current with draft := draft } }, [])

def openSection (state : BoardState) (kind : SectionKind) : BoardState × List Fault :=
  ({ state with openSection := some ⟨kind, state.board⟩ }, state.unclosed)

/-- Ends the open section, whose draft becomes the board. -/
def closeSection (state : BoardState) (line : List Char) : BoardState × List Fault :=
  match state.openSection with
  | none => (state, [.strayText (String.ofList line)])
  | some current => ({ state with board := current.draft, openSection := none }, [])

def boardStep (terrains : TerrainCatalogue) (pieces : PieceCatalogue) : LineStep BoardState :=
  fun state line =>
    if line = Word.groundSection then openSection state .ground
    else if line = Word.piecesSection then openSection state .pieces
    else if line = Word.redMarker then ({ state with side := some .red, mirrored := false }, [])
    else if line = Word.blackMarker then
      ({ state with side := some .black, mirrored := false }, [])
    else if line = Word.mirrorMarker then ({ state with side := some .red, mirrored := true }, [])
    else if line = Word.blockEnd then closeSection state line
    else contentStep terrains pieces state line

def readBoard (dims : Dims) (terrains : TerrainCatalogue) (pieces : PieceCatalogue)
    (text : String) : Board × List Diagnostic :=
  let lines := Text.trimmedLines text.toList
  let (final, faults) := (boardStep terrains pieces).run 1 (BoardState.initial dims) lines
  (final.board,
    diagnose .board (faults ++ final.unclosed.map (fun fault => (lines.length, fault))))

end TerrainChess.Notation

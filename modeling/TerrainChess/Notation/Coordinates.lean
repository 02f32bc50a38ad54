import TerrainChess.Square
import TerrainChess.Text.Numeral
import TerrainChess.Text.Split

/-!
# Written squares, offsets and moves

A square or an offset is written as two numerals around a comma, a move as two
squares around `>`. Main statement: reading a written square gives it back.
-/

set_option autoImplicit false

namespace TerrainChess

namespace Notation

/-- The two coordinates around the first comma; blanks around the numerals do not count. -/
def readPair? (text : List Char) : Option (Coord × Coord) :=
  match Text.splitOnce ',' text with
  | none => none
  | some (first, second) =>
    match Text.Numeral.readCoord? (Text.trim first), Text.Numeral.readCoord? (Text.trim second) with
    | some left, some right => some (left, right)
    | _, _ => none

def writePair (first second : Coord) : List Char :=
  Text.Numeral.ofCoord first ++ [','] ++ Text.Numeral.ofCoord second

end Notation

namespace Square

def ofText? (text : List Char) : Option Square :=
  (Notation.readPair? text).map (fun pair => ⟨pair.1, pair.2⟩)

def toText (square : Square) : List Char := Notation.writePair square.x square.y

def text (square : Square) : String := String.ofList square.toText

end Square

namespace Offset

def ofText? (text : List Char) : Option Offset :=
  (Notation.readPair? text).map (fun pair => ⟨pair.1, pair.2⟩)

def toText (offset : Offset) : List Char := Notation.writePair offset.dx offset.dy

end Offset

inductive MoveTextError where
  | noSeparator (text : String)
  | invalidSquare (text : String)
deriving DecidableEq

def MoveTextError.message : MoveTextError → String
  | noSeparator text => "expected x,y>x,y but got '" ++ text ++ "'"
  | invalidSquare text => "invalid square '" ++ text ++ "'"

namespace Notation

def readMove (text : List Char) : Except MoveTextError (Square × Square) :=
  match Text.splitOnce '>' text with
  | none => .error (.noSeparator (String.ofList text))
  | some (first, second) =>
    match Square.ofText? first with
    | none => .error (.invalidSquare (String.ofList first))
    | some start =>
      match Square.ofText? second with
      | none => .error (.invalidSquare (String.ofList second))
      | some target => .ok (start, target)

def writeMove (start target : Square) : List Char := start.toText ++ ['>'] ++ target.toText

end Notation

end TerrainChess

import TerrainChess.Notation.Fault
import TerrainChess.Notation.Words
import TerrainChess.Pattern

/-!
# Movement lines

A movement line such as `std:inf:0,1` or `alt:RED:0,1>1,1` is a list of fields.
A word that names a tier holds to the end of the line; the other words hold for
the next coordinates only.
-/

set_option autoImplicit false

namespace TerrainChess

structure Movement where
  specification : Specification
  side : SideScope
  path : Path
deriving DecidableEq

namespace Notation

inductive MovementField where
  | specification (tier : Specification)
  | infinite
  | polar
  | side (side : Side)
  | coordinates (text : List Char)
  | unknown (text : List Char)
deriving DecidableEq

/-- The meaning of a field: a reserved word, or coordinates if there is a comma. -/
def MovementField.ofText (text : List Char) : MovementField :=
  if text = Word.standard then specification .standard
  else if text = Word.alternate then specification .alternate
  else if text = Word.infinite then infinite
  else if text = Word.polar then polar
  else
    match Side.ofKeyword? (String.ofList text) with
    | some owner => side owner
    | none => if ',' ∈ text then coordinates text else unknown text

structure Modifiers where
  specification : Specification
  infinite : Bool
  polar : Bool
  side : Option Side
deriving DecidableEq

namespace Modifiers

def initial : Modifiers := ⟨.both, false, false, none⟩

/-- What holds after coordinates: only the tier remains. -/
def afterCoordinates (modifiers : Modifiers) : Modifiers :=
  { initial with specification := modifiers.specification }

/-- The movements that a path stands for. A polar path is followed by its negation for the other
side. -/
def movements (modifiers : Modifiers) (path : Path) : List Movement :=
  if modifiers.polar then
    let primary := modifiers.side.getD .red
    [⟨modifiers.specification, .only primary, path⟩,
      ⟨modifiers.specification, .only primary.opponent, path.negated⟩]
  else
    match modifiers.side with
    | some owner => [⟨modifiers.specification, .only owner, path⟩]
    | none => [⟨modifiers.specification, .both, path⟩]

end Modifiers

/-- One step, which must be shorter than the board. -/
def readStep (dims : Dims) (text : List Char) : Except Fault Offset :=
  match Offset.ofText? text with
  | none => .error (.invalidCoordinate (String.ofList (Text.trim text)))
  | some step =>
    if dims.WithinReach step then .ok step
    else .error (.invalidCoordinate (String.ofList (Text.trim text)))

def readSteps (dims : Dims) : List (List Char) → Except Fault (List Offset)
  | [] => .ok []
  | text :: rest =>
    match readStep dims text with
    | .error fault => .error fault
    | .ok step =>
      match readSteps dims rest with
      | .error fault => .error fault
      | .ok steps => .ok (step :: steps)

/-- The paths that repeat a step once, twice and so on up to the extent of the board. -/
def repetitions (dims : Dims) (step : Offset) : List Path :=
  (List.range (max 1 dims.maxExtent.val).toNat).map (fun count => Path.repeated step (count + 1))

/-- The paths of a coordinate field. Several steps make one path, to which the repetition word
does not apply. -/
def expand (dims : Dims) (infinite : Bool) (text : List Char) : Except Fault (List Path) :=
  if '>' ∈ text then
    match readSteps dims (Text.splitOn '>' text) with
    | .error fault => .error fault
    | .ok steps => .ok [⟨steps⟩]
  else
    match readStep dims text with
    | .error fault => .error fault
    | .ok step => .ok (if infinite then repetitions dims step else [Path.single step])

def readFields (dims : Dims) : Modifiers → List (List Char) → Except Fault (List Movement)
  | _, [] => .ok []
  | modifiers, field :: rest =>
    match MovementField.ofText field with
    | .specification tier => readFields dims { modifiers with specification := tier } rest
    | .infinite => readFields dims { modifiers with infinite := true } rest
    | .polar => readFields dims { modifiers with polar := true } rest
    | .side owner => readFields dims { modifiers with side := some owner } rest
    | .unknown text => .error (.unknownParameter (String.ofList text))
    | .coordinates text =>
      match expand dims modifiers.infinite text with
      | .error fault => .error fault
      | .ok paths =>
        match readFields dims modifiers.afterCoordinates rest with
        | .error fault => .error fault
        | .ok later => .ok (paths.flatMap modifiers.movements ++ later)

def readMovements (dims : Dims) (line : List Char) : Except Fault (List Movement) :=
  readFields dims Modifiers.initial (Text.fields line)

end Notation

end TerrainChess

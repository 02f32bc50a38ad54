import TerrainChess.Text.Blank

/-!
# Cutting texts

Texts are cut at single characters: once, everywhere, or where a pair of
brackets encloses a part.
-/

set_option autoImplicit false

namespace TerrainChess.Text

def splitOnce (separator : Char) : List Char → Option (List Char × List Char)
  | [] => none
  | character :: rest =>
    if character = separator then some ([], rest)
    else (splitOnce separator rest).map (fun parts => (character :: parts.1, parts.2))

/-- The parts between the occurrences of a character, of which there is at least one. -/
def splitOn (separator : Char) : List Char → List (List Char)
  | [] => [[]]
  | character :: rest =>
    if character = separator then [] :: splitOn separator rest
    else
      match splitOn separator rest with
      | [] => [[character]]
      | part :: more => (character :: part) :: more

/-- The trimmed part between the first opening bracket and the next closing bracket. -/
def enclosed (opening closing : Char) (text : List Char) : Option (List Char) :=
  match splitOnce opening text with
  | none => none
  | some (_, rest) => (splitOnce closing rest).map (fun parts => trim parts.1)

/-- The trimmed part inside a text that starts with the opening and ends with the closing
bracket. -/
def wrapped (opening closing : Char) : List Char → Option (List Char)
  | [] => none
  | first :: rest =>
    if first = opening ∧ rest.getLast? = some closing then some (trim rest.dropLast) else none

/-- The trimmed parts between the occurrences of a character, without the empty ones. -/
def partsOf (separator : Char) (text : List Char) : List (List Char) :=
  ((splitOn separator text).map trim).filter (fun part => !part.isEmpty)

def fields (text : List Char) : List (List Char) := partsOf ':' text

end TerrainChess.Text

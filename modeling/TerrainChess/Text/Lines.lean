import TerrainChess.Text.Blank

/-!
# Lines

A line ends at a line feed, which takes a carriage return before it along. A
text that ends with a line feed has no further empty line.
-/

set_option autoImplicit false

namespace TerrainChess.Text

def lines : List Char → List (List Char)
  | [] => []
  | '\r' :: '\n' :: rest => [] :: lines rest
  | '\n' :: rest => [] :: lines rest
  | character :: rest =>
    match lines rest with
    | [] => [[character]]
    | line :: more => (character :: line) :: more

/-- The lines of a text without their ends and without the blanks around them. -/
def trimmedLines (text : List Char) : List (List Char) := (lines text).map trim

end TerrainChess.Text

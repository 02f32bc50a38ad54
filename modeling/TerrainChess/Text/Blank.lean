import TerrainChess.Text.CodeRanges

/-!
# Blanks

The blank characters are those with the property `White_Space`. Trimming takes
them away from both ends of a text.
-/

set_option autoImplicit false

namespace TerrainChess.Text

/-- The characters with the property `White_Space`. -/
def blanks : CodeRanges :=
  [(0x9, 0xd), (0x20, 0x20), (0x85, 0x85), (0xa0, 0xa0), (0x1680, 0x1680), (0x2000, 0x200a),
    (0x2028, 0x2029), (0x202f, 0x202f), (0x205f, 0x205f), (0x3000, 0x3000)]

def isBlank (character : Char) : Bool := blanks.contains character

def trim (text : List Char) : List Char :=
  (((text.dropWhile isBlank).reverse).dropWhile isBlank).reverse

end TerrainChess.Text

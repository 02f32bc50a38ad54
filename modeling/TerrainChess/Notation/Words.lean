/-!
# Reserved words

The words and separators that the texts of a game use.
-/

set_option autoImplicit false

namespace TerrainChess.Notation.Word

def blockEnd : List Char := "/".toList

def standard : List Char := "std".toList

def alternate : List Char := "alt".toList

/-- Repeats the next step up to the extent of the board. -/
def infinite : List Char := "inf".toList

/-- Gives the opposite side the negated path. -/
def polar : List Char := "polar".toList

def weight : String := "weight"

def redTexture : String := "RED_texture"

def blackTexture : String := "BLACK_texture"

def royal : List Char := "WINNINGCONDITION".toList

def textureFile : String := "texturefile"

/-- Restricts captures to those behind the last piece that is passed. -/
def eatOnlyOnLast : List Char := "EAT_ONLY_ON_LAST".toList

def groundSection : List Char := "-GROUND-".toList

def piecesSection : List Char := "-PIECES-".toList

def redMarker : List Char := "*RED*".toList

def blackMarker : List Char := "*BLACK*".toList

/-- Selects the red side and places every piece also for the other side, point-reflected. -/
def mirrorMarker : List Char := "*SYMETRICAL*".toList

def full : List Char := "FULL".toList

def rectangle : List Char := "RECTANGLE".toList

end TerrainChess.Notation.Word

import TerrainChess.Text.Split

/-!
# Names of files

A file name is a list of components between slashes. Names are joined and
shortened as texts, without looking at any file.
-/

set_option autoImplicit false

namespace TerrainChess.Location

def isAbsolute (name : String) : Bool := decide (name.toList.head? = some '/')

/-- The components of a name, empty ones included. -/
def components (name : String) : List String :=
  (Text.splitOn '/' name.toList).map String.ofList

def join (directory name : String) : String :=
  if isAbsolute name || directory.isEmpty then name
  else if directory.toList.getLast? = some '/' then directory ++ name
  else directory ++ "/" ++ name

/-- Components without the empty ones and the single dots at the end; a dot that stands alone
remains. -/
def withoutIdleEnd (parts : List String) : List String :=
  let idle := fun (part : String) => decide (part = "") || decide (part = ".")
  match parts with
  | [] => []
  | first :: rest =>
    let kept := (rest.reverse.dropWhile idle).reverse
    if kept.isEmpty && decide (first = "") then [] else first :: kept

/-- The directory of a file name; it is empty for a name of one component. -/
def parent (name : String) : String :=
  let above := withoutIdleEnd (withoutIdleEnd (components name)).dropLast
  if above.isEmpty then (if isAbsolute name then "/" else "")
  else "/".intercalate above

end TerrainChess.Location

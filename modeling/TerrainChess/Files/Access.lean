import TerrainChess.Catalogue
import TerrainChess.Files.Location
import TerrainChess.Notation.TerrainText

/-!
# Access to files

What the program needs to know about files: the bytes of a file and whether a
name stands for a file. Texts must be valid UTF-8.
-/

set_option autoImplicit false

namespace TerrainChess

inductive ReadError where
  | notFound
  | isDirectory
  | notDirectory
  | permissionDenied
  | nameTooLong
  | nulInName
  | invalidText
  | other (description : String)
deriving DecidableEq

def ReadError.message : ReadError → String
  | notFound => "No such file or directory (os error 2)"
  | isDirectory => "Is a directory (os error 21)"
  | notDirectory => "Not a directory (os error 20)"
  | permissionDenied => "Permission denied (os error 13)"
  | nameTooLong => "File name too long (os error 36)"
  | nulInName => "file name contained an unexpected NUL byte"
  | invalidText => "stream did not contain valid UTF-8"
  | other description => description

structure FileAccess where
  read : String → Except ReadError ByteArray
  isFile : String → Bool

namespace FileAccess

def readText (files : FileAccess) (name : String) : Except ReadError String :=
  match files.read name with
  | .error reason => .error reason
  | .ok bytes =>
    match String.fromUTF8? bytes with
    | some text => .ok text
    | none => .error .invalidText

/-- Finds textures below a directory: a written path stands for the file of that name. -/
def textures (files : FileAccess) (directory : String) : TextureResolver := fun written =>
  let name := Location.join directory (String.ofList (Text.trim written.toList))
  if files.isFile name then some name else none

end FileAccess

end TerrainChess

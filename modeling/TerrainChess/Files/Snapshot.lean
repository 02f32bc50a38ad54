import TerrainChess.Files.Access

/-!
# Snapshots of files

A snapshot keeps what was found when some files were read. A file that was not
read counts as missing.
-/

set_option autoImplicit false

namespace TerrainChess

abbrev FileSnapshot := OrderedMap String (Except ReadError ByteArray)

def FileSnapshot.access (snapshot : FileSnapshot) : FileAccess where
  read name := (snapshot.get? name).getD (.error .notFound)
  isFile name :=
    match snapshot.get? name with
    | some (.ok _) => true
    | some (.error _) => false
    | none => false

end TerrainChess

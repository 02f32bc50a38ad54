import TerrainChess.Command.Needs
import TerrainChess.Command.Run
import TerrainChess.Files.Snapshot

/-!
# The command line program

Files are read before a request is answered, and what was found is kept in a
snapshot. Exit codes: zero for an answer, one for a request that fails, two for
arguments that are refused, and 101 where the program breaks off.
-/

set_option autoImplicit false

namespace TerrainChess.Program

/-- Says whether a code of the system, which may be given negated, is a number. -/
def isCode (code number : UInt32) : Bool := decide (code = number) || decide (code = -number)

def readErrorOf : IO.Error → ReadError
  | .noFileOrDirectory _ _ _ => .notFound
  | .permissionDenied _ _ _ => .permissionDenied
  | .inappropriateType _ code description =>
    if isCode code 20 then .notDirectory
    else if isCode code 21 then .isDirectory
    else .other description
  | .invalidArgument _ code description =>
    if isCode code 36 then .nameTooLong else .other description
  | .noSuchThing _ _ description => .other description
  | problem => .other (toString problem)

def readFile (name : String) : IO (Except ReadError ByteArray) := do
  if name.toList.contains '\x00' then return .error .nulInName
  match ← (IO.FS.readBinFile name).toBaseIO with
  | .ok content => return .ok content
  | .error problem => return .error (readErrorOf problem)

def readFiles (snapshot : FileSnapshot) (names : List String) : IO FileSnapshot :=
  names.foldlM (fun current name => return current.insert name (← readFile name)) snapshot

/-- Reads the files that a request needs, in three rounds. -/
def readNeeds (request : Command.Request) : IO FileSnapshot := do
  let configured ← readFiles ∅ [request.config]
  let written ← readFiles configured (Command.Needs.texts configured.access request)
  readFiles written (Command.Needs.textures written.access request)

def usage : String :=
  "usage: terrain-chess [-v] check -c CONFIG\n" ++
    "       terrain-chess [-v] moves -c CONFIG [--play X,Y>X,Y]... [--json]\n"

end TerrainChess.Program

open TerrainChess

def main (arguments : List String) : IO UInt32 := do
  match Command.parse arguments with
  | .refused =>
    IO.eprint Program.usage
    return 2
  | .information =>
    IO.print Program.usage
    return 0
  | .request request =>
    let snapshot ← Program.readNeeds request
    match Command.run snapshot.access request with
    | .ok answer =>
      IO.print answer
      return 0
    | .error failure =>
      IO.eprint failure.details
      if failure.breaksOff then
        IO.eprintln failure.message
        return 101
      IO.eprintln ("Error: " ++ failure.message)
      return 1

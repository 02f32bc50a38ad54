import TerrainChess.Command.Arguments
import TerrainChess.Config.Game
import TerrainChess.Notation.Refusal
import TerrainChess.Report.Diagram
import TerrainChess.Report.MovesReport
import TerrainChess.Report.SetupSummary

/-!
# Running a request

A request is answered by a text or fails with a message. Nothing is printed
before the whole answer is known.
-/

set_option autoImplicit false

namespace TerrainChess.Command

inductive Failure where
  | config (reason : ConfigError)
  | setup (reason : SetupError)
  /-- There are diagnostics, and the configuration does not allow any. -/
  | diagnostics (found : List Diagnostic)
  /-- A move, counted from one, is refused. -/
  | move (number : Nat) (start target : Square) (reason : MoveError)

/-- Says whether the program breaks off with a failure instead of reporting it. -/
def Failure.breaksOff : Failure → Bool
  | setup (.oversized _) => true
  | _ => false

/-- The message of a failure. A reading error of a text is given twice, as part of the reason and
on its own. -/
def Failure.message : Failure → String
  | config reason => reason.message
  | setup reason =>
    match reason with
    | .royalCount _ => "compilation failed: " ++ reason.message
    | .unreadable _ cause => "compilation failed: " ++ reason.message ++ ": " ++ cause.message
    | .oversized _ => reason.message
  | diagnostics found => toString found.length ++ " diagnostic(s) in strict mode"
  | move number start target reason =>
    "move " ++ toString number ++ " (" ++ start.text ++ ">" ++ target.text ++ ") rejected: " ++
      reason.message

def Failure.details : Failure → String
  | diagnostics found =>
    String.join (found.map (fun diagnostic => diagnostic.text ++ "\n"))
  | config _ => ""
  | setup _ => ""
  | move _ _ _ _ => ""

def setUp (files : FileAccess) (config : GameConfig) : Except Failure Setup :=
  match Setup.ofFiles config.dims files config.textures config.sources with
  | .error reason => .error (.setup reason)
  | .ok setup =>
    if config.strict && !setup.diagnostics.isEmpty then .error (.diagnostics setup.diagnostics)
    else .ok setup

def prepare (files : FileAccess) (name : String) : Except Failure (GameConfig × Setup) :=
  match GameConfig.load files name with
  | .error reason => .error (.config reason)
  | .ok config =>
    match setUp files config with
    | .error failure => .error failure
    | .ok setup => .ok (config, setup)

/-- Plays moves one after the other; a number counts them. -/
def playAll : Nat → List (Square × Square) → Match → Except Failure Match
  | _, [], game => .ok game
  | number, (start, target) :: rest, game =>
    match game.play start target with
    | .error reason => .error (.move number start target reason)
    | .ok (_, next) => playAll (number + 1) rest next

def run (files : FileAccess) : Request → Except Failure String
  | .check name =>
    match prepare files name with
    | .error failure => .error failure
    | .ok (config, setup) => .ok (Report.summary config.dims setup)
  | .moves name plays json =>
    match prepare files name with
    | .error failure => .error failure
    | .ok (config, setup) =>
      match playAll 1 plays (Match.start setup.board config.first) with
      | .error failure => .error failure
      | .ok game =>
        let report := Report.MovesReport.ofMatch game
        .ok (if json then report.json.pretty ++ "\n"
          else Report.diagram game.board ++ report.text)

end TerrainChess.Command

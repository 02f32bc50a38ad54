import TerrainChess.Command.Run
import TerrainChess.Proofs.Reading.Written
import TerrainChess.Proofs.Run

/-!
# Replay of the history

The history holds exactly the moves that were accepted. Written down, read again
and played from the same start, they lead to the same match, whatever calls were
refused in between: `Match.replay_history`.
-/

set_option autoImplicit false

namespace TerrainChess

def MoveRecord.move (record : MoveRecord) : Square × Square := (record.start, record.target)

def MoveRecord.text (record : MoveRecord) : String :=
  record.start.text ++ ">" ++ record.target.text

theorem Notation.readMove_text (start target : Square) :
    readMove (start.text ++ ">" ++ target.text).toList = .ok (start, target) := by
  have written : (start.text ++ ">" ++ target.text).toList = writeMove start target := by
    simp [Square.text, writeMove]
  rw [written]
  exact readMove_writeMove start target

/-- The written history is read as the moves of its records. -/
theorem Notation.readMove_history (history : List MoveRecord) :
    history.mapM (fun record => readMove record.text.toList) =
      .ok (history.map MoveRecord.move) := by
  induction history with
  | nil => rfl
  | cons record rest ih =>
    have first : readMove record.text.toList = .ok record.move := readMove_text _ _
    rw [List.mapM_cons, first, ih]
    rfl

namespace Command

/-- Moves are played on from where the moves before them have led. -/
theorem playAll_append {front back : List (Square × Square)} {number : Nat} {game middle : Match}
    (played : playAll number front game = .ok middle) :
    playAll number (front ++ back) game = playAll (number + front.length) back middle := by
  induction front generalizing number game with
  | nil =>
    cases played
    rfl
  | cons move rest ih =>
    obtain ⟨start, target⟩ := move
    cases accepted : game.play start target with
    | error reason => simp [playAll, accepted] at played
    | ok result =>
      simp only [playAll, accepted] at played
      simp [playAll, accepted, ih played, Nat.add_comm, Nat.add_left_comm]

theorem playAll_singleton {number : Nat} {game next : Match} {start target : Square}
    {record : MoveRecord} (accepted : game.play start target = .ok (record, next)) :
    playAll number [(start, target)] game = .ok next := by
  simp [playAll, accepted]

end Command

namespace Match

/-- The recorded moves of a match lead to it from some first match. -/
def ReplayedFrom (first game : Match) : Prop :=
  Command.playAll 1 (game.history.map MoveRecord.move) first = .ok game

theorem ReplayedFrom.of_play {first game next : Match} {start target : Square}
    {record : MoveRecord} (replayed : first.ReplayedFrom game)
    (accepted : game.play start target = .ok (record, next)) : first.ReplayedFrom next := by
  obtain ⟨history, began, ended⟩ := history_of_play accepted
  have last : record.move = (start, target) := by rw [MoveRecord.move, began, ended]
  unfold ReplayedFrom
  rw [history, List.map_append, Command.playAll_append replayed, List.map_singleton, last]
  exact Command.playAll_singleton accepted

theorem replayedFrom_start (board : Board) (first : Side) (calls : List (Square × Square)) :
    (start board first).ReplayedFrom ((start board first).run calls) := by
  refine run_invariant (start board first).ReplayedFrom ReplayedFrom.of_play ?_ calls
  rw [ReplayedFrom, start, history_refresh]
  rfl

/-- Every written move is read as itself. The history of every match of a run, written down and
read move by move, is accepted from the start without exception and leads to a match that is equal
in all its parts: the board with the recorded moves of the pieces, the side to move, the checks,
the outcome, the captured pieces and the history. -/
theorem replay_history (board : Board) (first : Side) (calls : List (Square × Square)) :
    let game := (start board first).run calls
    (∀ start target : Square,
      Notation.readMove (start.text ++ ">" ++ target.text).toList = .ok (start, target)) ∧
    ∃ moves, game.history.mapM (fun record =>
        Notation.readMove (record.start.text ++ ">" ++ record.target.text).toList) = .ok moves ∧
      Command.playAll 1 moves (Match.start board first) = .ok game :=
  ⟨Notation.readMove_text, _, Notation.readMove_history _, replayedFrom_start board first calls⟩

end Match

end TerrainChess

import TerrainChess.Proofs.Reflection.Boards
import TerrainChess.Proofs.Run

/-!
# Reflected matches

A match from the reflected board, in which the other side moves first, answers the
reflected calls with the reflections of the answers, and stays the reflection of
the match: `Match.reflection_symmetry`. Generating the moves anew commutes with the
reflection, so does every call, and a run is a sequence of calls.
-/

set_option autoImplicit false

namespace TerrainChess

namespace BySide

variable {α : Type}

def reflect (change : α → α) (pair : BySide α) : BySide α where
  red := change pair.black
  black := change pair.red

theorem get_reflect (change : α → α) (pair : BySide α) (side : Side) :
    (pair.reflect change).get side.opponent = change (pair.get side) := by
  cases side <;> rfl

theorem set_reflect (change : α → α) (pair : BySide α) (side : Side) (value : α) :
    (pair.reflect change).set side.opponent (change value) =
      (pair.set side value).reflect change := by
  cases side <;> rfl

end BySide

def MoveRecord.reflect (dims : Dims) (record : MoveRecord) : MoveRecord :=
  { record with
    side := record.side.opponent
    start := dims.mirror record.start
    target := dims.mirror record.target }

def MoveError.reflect (dims : Dims) : MoveError → MoveError
  | gameOver => gameOver
  | notYourPiece side square => notYourPiece side.opponent (dims.mirror square)
  | illegalDestination start target =>
    illegalDestination (dims.mirror start) (dims.mirror target)
  | royalCapture square => royalCapture (dims.mirror square)
  | board reason => board (reason.reflect dims)

namespace Match

def reflect (game : Match) : Match where
  board := game.board.reflect
  sideToMove := game.sideToMove.opponent
  inCheck := game.inCheck.reflect id
  outcome := game.outcome.map Outcome.reflect
  captured := game.captured.reflect (List.map (PlacedPiece.reflect game.board.dims))
  history := game.history.map (MoveRecord.reflect game.board.dims)

def reflectAnswer (dims : Dims) :
    Except MoveError (MoveRecord × Match) → Except MoveError (MoveRecord × Match)
  | .error reason => .error (reason.reflect dims)
  | .ok (record, next) => .ok (record.reflect dims, next.reflect)

def reflectCall (dims : Dims) (call : Square × Square) : Square × Square :=
  (dims.mirror call.1, dims.mirror call.2)

theorem board_reflect (game : Match) : game.reflect.board = game.board.reflect := rfl

theorem sideToMove_reflect (game : Match) :
    game.reflect.sideToMove = game.sideToMove.opponent := rfl

theorem inCheck_reflect (game : Match) : game.reflect.inCheck = game.inCheck.reflect id := rfl

theorem outcome_reflect (game : Match) :
    game.reflect.outcome = game.outcome.map Outcome.reflect := rfl

theorem captured_reflect (game : Match) :
    game.reflect.captured =
      game.captured.reflect (List.map (PlacedPiece.reflect game.board.dims)) := rfl

theorem history_reflect (game : Match) :
    game.reflect.history = game.history.map (MoveRecord.reflect game.board.dims) := rfl

theorem dims_refresh (game : Match) : game.refresh.board.dims = game.board.dims :=
  Board.dims_congr (position_refresh game)

/-- Generating the moves anew commutes with the reflection. -/
theorem refresh_reflect {game : Match} (compact : game.board.position.Compact)
    (single : game.board.position.SingleRoyals) :
    game.reflect.refresh = game.refresh.reflect := by
  have position : game.reflect.board.position = game.board.position.reflect :=
    Board.position_reflect compact.small
  apply Match.ext
  · rw [board_reflect, board_refresh, board_refresh, sideToMove_reflect, board_reflect,
      Board.prepared_reflect compact single]
  · rw [sideToMove_reflect, sideToMove_refresh, sideToMove_refresh, sideToMove_reflect]
  · rw [inCheck_reflect, inCheck_refresh, inCheck_refresh, inCheck_reflect, sideToMove_reflect,
      position, compact.inCheck_reflect single, ← BySide.set_reflect, ← BySide.set_reflect, id, id]
  · rw [outcome_reflect, outcome_refresh, outcome_refresh, outcome_reflect, sideToMove_reflect,
      position, compact.verdict_reflect single, Option.map_or]
  · rw [captured_reflect, captured_refresh, captured_refresh, captured_reflect, dims_refresh]
  · rw [history_reflect, history_refresh, history_refresh, history_reflect, dims_refresh]

theorem start_reflect {board : Board} (compact : board.position.Compact)
    (single : board.position.SingleRoyals) (first : Side) :
    start board.reflect first.opponent = (start board first).reflect := by
  have image : reflect ⟨board, first, BySide.both false, none, BySide.both [], []⟩ =
      ⟨board.reflect, first.opponent, BySide.both false, none, BySide.both [], []⟩ := rfl
  have refreshed := @refresh_reflect ⟨board, first, BySide.both false, none, BySide.both [], []⟩
    compact single
  rw [image] at refreshed
  exact refreshed

/-!
## Calls
-/

/-- A settled match on a small board, whose pieces have short paths and which has one royal piece
for each side at most. -/
structure Reflectable (game : Match) : Prop where
  settled : game.Settled
  small : game.board.dims.Small
  short : game.board.position.AllPieces (fun piece => piece.template.IsShort)
  single : game.board.position.SingleRoyals

theorem recordOf_reflect (game : Match) (mover : Piece) (start target : Square)
    (taken : Option PlacedPiece) :
    (game.recordOf mover start target taken).reflect game.board.dims =
      game.reflect.recordOf mover.reflect (game.board.dims.mirror start)
        (game.board.dims.mirror target) (taken.map (PlacedPiece.reflect game.board.dims)) := by
  unfold recordOf
  rw [history_reflect, List.length_map, Option.map_map]
  rfl

theorem passTurn_reflect {game : Match} {board : Board} (same : board.dims = game.board.dims)
    (taken : Option PlacedPiece) (record : MoveRecord) :
    (game.passTurn board taken record).reflect =
      game.reflect.passTurn board.reflect (taken.map (PlacedPiece.reflect game.board.dims))
        (record.reflect game.board.dims) := by
  apply Match.ext
  · rfl
  · rfl
  · rfl
  · rfl
  · show (game.captured.set game.sideToMove _).reflect
      (List.map (PlacedPiece.reflect board.dims)) = _
    rw [same, ← BySide.set_reflect, List.map_append]
    unfold passTurn
    rw [captured_reflect, sideToMove_reflect, BySide.get_reflect]
    cases taken with
    | none => rfl
    | some placed => rfl
  · show (game.history ++ [record]).map (MoveRecord.reflect board.dims) = _
    rw [same, List.map_append]
    rfl

namespace Reflectable

variable {game : Match} (reflectable : game.Reflectable)

include reflectable

theorem compact : game.board.position.Compact :=
  Board.compact_position reflectable.small reflectable.short

theorem of_play {next : Match} {start target : Square} {record : MoveRecord}
    (accepted : game.play start target = .ok (record, next)) : next.Reflectable where
  settled := settled_of_play accepted
  small := by
    have dims : next.board.dims = game.board.dims :=
      congrArg Position.dims (position_of_play accepted)
    rw [dims]
    exact reflectable.small
  short := by
    rw [position_of_play accepted]
    exact reflectable.short.move (contains_start_of_play accepted)
  single := by
    rw [position_of_play accepted]
    exact reflectable.single.move (contains_start_of_play accepted)

theorem mem_legal_reflect {start target : Square} {mover : Occupant}
    (standing : game.board.occupantAt start = some mover) :
    game.board.dims.mirror target ∈ (mover.reflect game.board.dims).moves.legal ↔
      target ∈ mover.moves.legal := by
  -- Far off the board two squares may have one reflection, but no such square is recorded.
  have within : ∀ square ∈ mover.moves.legal, game.board.dims.Contains square := by
    intro square legal
    rw [reflectable.settled.moves_eq standing] at legal
    exact Position.contains_of_mem_legal_turnMoves legal
  have members : game.board.dims.mirror target ∈ (mover.reflect game.board.dims).moves.legal ↔
      ∃ square ∈ mover.moves.legal,
        game.board.dims.mirror square = game.board.dims.mirror target := SquareSet.mem_reflect
  rw [members]
  constructor
  · intro found
    obtain ⟨square, legal, same⟩ := found
    rw [(Dims.mirror_eq_iff reflectable.small (within square legal)).mp same.symm]
    exact legal
  · intro legal
    exact ⟨target, legal, rfl⟩

private theorem refresh_passTurn {start target : Square} {answer : Option PlacedPiece × Board}
    (moved : game.board.movePiece start target = .ok answer) (record : MoveRecord) :
    (game.reflect.passTurn answer.2.reflect
        (answer.1.map (PlacedPiece.reflect game.board.dims))
        (record.reflect game.board.dims)).refresh =
      (game.passTurn answer.2 answer.1 record).refresh.reflect := by
  have position : answer.2.position = game.board.position.move start target :=
    Board.position_movePiece moved
  obtain ⟨arrival, mover, standing, _⟩ := Board.movePiece_eq_ok_iff.mp moved
  have startInside := Board.contains_of_occupantAt standing
  have dims : answer.2.dims = game.board.dims := congrArg Position.dims position
  have compact : answer.2.position.Compact := by
    rw [position]
    exact reflectable.compact.move startInside arrival
  have single : answer.2.position.SingleRoyals := by
    rw [position]
    exact reflectable.single.move startInside
  rw [← passTurn_reflect dims]
  exact refresh_reflect compact single

theorem isLegal_reflect (start target : Square) :
    game.reflect.isLegal (game.board.dims.mirror start) (game.board.dims.mirror target) =
      game.isLegal start target := by
  unfold isLegal
  rw [board_reflect, Board.occupantAt_reflect_mirror reflectable.small]
  cases standing : game.board.occupantAt start with
  | none => rfl
  | some mover =>
    have owned : (mover.reflect game.board.dims).piece.side = game.reflect.sideToMove ↔
        mover.piece.side = game.sideToMove := Side.opponent_eq_iff
    simp only [Option.map_some, owned, reflectable.mem_legal_reflect standing]

theorem refusal_reflect (start target : Square) :
    game.reflect.refusal (game.board.dims.mirror start) (game.board.dims.mirror target) =
      (game.refusal start target).reflect game.board.dims := by
  unfold refusal
  rw [outcome_reflect, Option.isSome_map, board_reflect,
    Board.pieceAt_reflect_mirror reflectable.small, Option.any_map]
  have owned : ∀ piece : Piece,
      (Piece.reflect piece).side = game.reflect.sideToMove ↔ piece.side = game.sideToMove :=
    fun _ => Side.opponent_eq_iff
  simp only [owned]
  split
  · rfl
  · split <;> rfl

/-- The reflected call is answered with the reflection of the answer to the call. -/
theorem play_reflect (start target : Square) :
    game.reflect.play (game.board.dims.mirror start) (game.board.dims.mirror target) =
      reflectAnswer game.board.dims (game.play start target) := by
  cases ended : game.outcome with
  | some outcome =>
    have imageEnded : game.reflect.outcome.isSome = true := by
      rw [outcome_reflect, ended]
      rfl
    rw [play_of_ended imageEnded, play_of_ended (by rw [ended]; rfl)]
    rfl
  | none =>
    cases allowed : game.isLegal start target with
    | false =>
      have imageIllegal := (reflectable.isLegal_reflect start target).trans allowed
      rw [play_of_not_isLegal imageIllegal, play_of_not_isLegal allowed,
        reflectable.refusal_reflect]
      rfl
    | true =>
      obtain ⟨mover, standing, owned, legal⟩ := isLegal_iff.mp allowed
      have imageRunning : game.reflect.outcome = none := by
        rw [outcome_reflect, ended]
        rfl
      have imageStanding : game.reflect.board.occupantAt (game.board.dims.mirror start) =
          some (mover.reflect game.board.dims) := by
        rw [board_reflect, Board.occupantAt_reflect_mirror reflectable.small, standing]
        rfl
      have imageLegal := (reflectable.mem_legal_reflect standing).mpr legal
      have royal : (game.board.reflect.pieceAt (game.board.dims.mirror target)).any
          Piece.isRoyal = (game.board.pieceAt target).any Piece.isRoyal := by
        rw [Board.pieceAt_reflect_mirror reflectable.small, Option.any_map]
        rfl
      rw [play_of_legal imageRunning imageStanding (congrArg Side.opponent owned) imageLegal,
        play_of_legal ended standing owned legal, board_reflect, royal,
        Board.movePiece_reflect reflectable.small]
      split
      · rfl
      · cases moved : game.board.movePiece start target with
        | error reason => rfl
        | ok answer =>
          obtain ⟨taken, board⟩ := answer
          have refreshed := reflectable.refresh_passTurn moved
            (game.recordOf mover.piece start target taken)
          rw [recordOf_reflect] at refreshed
          dsimp only [reflectAnswer]
          rw [recordOf_reflect]
          exact congrArg (fun next => Except.ok (_, next)) refreshed

theorem attempt_reflect (call : Square × Square) :
    game.reflect.attempt (reflectCall game.board.dims call) = (game.attempt call).reflect := by
  have answered := reflectable.play_reflect call.1 call.2
  cases played : game.play call.1 call.2 with
  | error reason =>
    rw [played] at answered
    rw [attempt_of_error played]
    exact attempt_of_error answered
  | ok answer =>
    rw [played] at answered
    rw [attempt_of_ok played]
    exact attempt_of_ok answered

theorem of_attempt (call : Square × Square) : (game.attempt call).Reflectable := by
  cases played : game.play call.1 call.2 with
  | error reason =>
    rw [attempt_of_error played]
    exact reflectable
  | ok answer =>
    rw [attempt_of_ok played]
    exact reflectable.of_play played

end Reflectable

theorem dims_of_play {game next : Match} {start target : Square} {record : MoveRecord}
    (accepted : game.play start target = .ok (record, next)) :
    next.board.dims = game.board.dims := congrArg Position.dims (position_of_play accepted)

theorem dims_attempt (game : Match) (call : Square × Square) :
    (game.attempt call).board.dims = game.board.dims := by
  cases played : game.play call.1 call.2 with
  | error reason => rw [attempt_of_error played]
  | ok answer => rw [attempt_of_ok played, dims_of_play played]

theorem run_reflect {game : Match} (reflectable : game.Reflectable)
    (calls : List (Square × Square)) :
    game.reflect.run (calls.map (reflectCall game.board.dims)) = (game.run calls).reflect := by
  induction calls generalizing game with
  | nil => rfl
  | cons call rest ih =>
    have later := ih (reflectable.of_attempt call)
    rw [dims_attempt, ← reflectable.attempt_reflect] at later
    exact later

theorem reflectable_start {board : Board} (small : board.dims.Small)
    (short : board.position.AllPieces (fun piece => piece.template.IsShort))
    (single : board.position.SingleRoyals) (first : Side) :
    (start board first).Reflectable where
  settled := settled_start board first
  small := by
    rw [Board.dims_congr (position_start board first)]
    exact small
  short := by
    rw [position_start]
    exact short
  single := by
    rw [position_start]
    exact single

theorem dims_run_start (board : Board) (first : Side) (calls : List (Square × Square)) :
    ((start board first).run calls).board.dims = board.dims :=
  position_run_invariant (fun position => position.dims = board.dims) (fun same _ => same) rfl
    first calls

/-- Let a board have less than a quarter of the coordinates in each direction, pieces whose paths
cross less than a quarter of them in each direction, and one royal piece for each side at most.
What is generated for the reflection of a square, with the reflected hostile zone, is the reflection
of what is generated for the square. A match from the reflected board, in which the other side moves
first, is the reflection of the match after every run of reflected calls, and it answers every
further call with the reflection of the answer. -/
theorem reflection_symmetry (board : Board) (small : board.dims.Small)
    (short : board.position.AllPieces (fun piece => piece.template.IsShort))
    (single : board.position.SingleRoyals) :
    (∀ zone square,
      board.reflect.position.reach? (zone.map (SquareSet.reflect board.dims))
          (board.dims.mirror square) =
        (board.position.reach? zone square).map (Reach.reflect board.dims)) ∧
    ∀ first calls,
      let game := (start board first).run calls
      let image := (start board.reflect first.opponent).run (calls.map (reflectCall board.dims))
      image = game.reflect ∧
        ∀ start target, image.play (board.dims.mirror start) (board.dims.mirror target) =
          reflectAnswer board.dims (game.play start target) := by
  have compact := Board.compact_position small short
  refine ⟨?_, ?_⟩
  · rw [Board.position_reflect small]
    exact compact.reach?_reflect
  · intro first calls game image
    have initial := reflectable_start small short single first
    have same : image = game.reflect := by
      have ran := run_reflect initial calls
      rw [Board.dims_congr (position_start board first)] at ran
      have started := start_reflect compact single first
      show (start board.reflect first.opponent).run _ = _
      rw [started, ran]
    refine ⟨same, ?_⟩
    intro source target
    have reflectable : game.Reflectable :=
      run_invariant Reflectable (fun holds accepted => holds.of_play accepted) initial calls
    have answered := reflectable.play_reflect source target
    rw [dims_run_start] at answered
    rw [same, answered]

/-- Red steps forward from the second row, and black does so on the reflected board. -/
theorem reflection_symmetry_miniature :
    ∃ record next,
      Miniature.game.play ⟨1, 1⟩ ⟨1, 2⟩ = .ok (record, next) ∧
        (start Miniature.board.reflect .black).play ⟨1, 2⟩ ⟨1, 1⟩ =
          .ok (record.reflect Miniature.board.dims, next.reflect) := by
  have small : Miniature.board.dims.Small := by decide +kernel
  have short : Miniature.board.position.AllPieces (fun piece => piece.template.IsShort) := by
    decide +kernel
  have single : Miniature.board.position.SingleRoyals := by decide +kernel
  have squares : Miniature.board.dims.mirror ⟨1, 1⟩ = ⟨1, 2⟩ ∧
      Miniature.board.dims.mirror ⟨1, 2⟩ = ⟨1, 1⟩ := by decide +kernel
  obtain ⟨record, next, accepted⟩ := exists_of_isOk_play
    (show (Miniature.game.play ⟨1, 1⟩ ⟨1, 2⟩).isOk = true by decide +kernel)
  have answered :=
    ((reflection_symmetry Miniature.board small short single).2 .red []).2 ⟨1, 1⟩ ⟨1, 2⟩
  rw [squares.1, squares.2] at answered
  refine ⟨record, next, accepted, answered.trans ?_⟩
  show reflectAnswer _ (Miniature.game.play ⟨1, 1⟩ ⟨1, 2⟩) = _
  rw [accepted]
  rfl

end Match

end TerrainChess

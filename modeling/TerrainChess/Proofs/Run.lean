import TerrainChess.Proofs.Turn

/-!
# Runs of a match

A run is a sequence of calls of `Match.play`, of which some may be refused.
`Match.play_eq_ok_iff` says all that an accepted call does, and
`Match.run_invariant` carries what every accepted call preserves to every run.
Every match of a run is settled, and its pieces are pieces of the first board.
-/

set_option autoImplicit false

namespace TerrainChess

namespace Match

/-- What a call leaves behind: the match after the move, or the match as it was if the move is
refused. -/
def attempt (game : Match) (call : Square × Square) : Match :=
  match game.play call.1 call.2 with
  | .ok (_, next) => next
  | .error _ => game

def run (game : Match) (calls : List (Square × Square)) : Match := calls.foldl attempt game

theorem attempt_of_ok {game next : Match} {call : Square × Square} {record : MoveRecord}
    (accepted : game.play call.1 call.2 = .ok (record, next)) : game.attempt call = next := by
  rw [attempt, accepted]

theorem attempt_of_error {game : Match} {call : Square × Square} {reason : MoveError}
    (refused : game.play call.1 call.2 = .error reason) : game.attempt call = game := by
  rw [attempt, refused]

/-- What every accepted call preserves holds after every run. -/
theorem run_invariant (invariant : Match → Prop)
    (preserved : ∀ {game next : Match} {start target : Square} {record : MoveRecord},
      invariant game → game.play start target = .ok (record, next) → invariant next)
    {game : Match} (initial : invariant game) (calls : List (Square × Square)) :
    invariant (game.run calls) := by
  induction calls generalizing game with
  | nil => exact initial
  | cons call rest ih =>
    have attempted : invariant (game.attempt call) := by
      cases played : game.play call.1 call.2 with
      | error reason =>
        rw [attempt_of_error played]
        exact initial
      | ok result =>
        rw [attempt_of_ok played]
        exact preserved initial played
    exact ih attempted

/-!
## One accepted call
-/

/-- The record of a move of the side to move. -/
def recordOf (game : Match) (mover : Piece) (start target : Square)
    (taken : Option PlacedPiece) : MoveRecord where
  ply := game.history.length.toUInt32 + 1
  side := game.sideToMove
  piece := mover.name
  start := start
  target := target
  captured := taken.map (fun placed => placed.piece.name)

/-- The match in which the turn has passed to the opponent, whose moves are not generated yet. -/
def passTurn (game : Match) (board : Board) (taken : Option PlacedPiece)
    (record : MoveRecord) : Match :=
  { game with
    board := board
    sideToMove := game.sideToMove.opponent
    captured := game.captured.set game.sideToMove
      (game.captured.get game.sideToMove ++ taken.toList)
    history := game.history ++ [record] }

theorem isLegal_iff {game : Match} {start target : Square} :
    game.isLegal start target = true ↔ ∃ mover, game.board.occupantAt start = some mover ∧
      mover.piece.side = game.sideToMove ∧ target ∈ mover.moves.legal := by
  unfold isLegal
  cases game.board.occupantAt start with
  | none => simp
  | some mover => simp

/-- The reason for which a move that is not legal is refused: the match is over, or else no piece
of the side to move stands on the start, or else the target is no legal destination. -/
def refusal (game : Match) (start target : Square) : MoveError :=
  if game.outcome.isSome then .gameOver
  else if (game.board.pieceAt start).any (fun piece => decide (piece.side = game.sideToMove)) then
    .illegalDestination start target
  else .notYourPiece game.sideToMove start

theorem play_of_not_isLegal {game : Match} {start target : Square}
    (illegal : game.isLegal start target = false) :
    game.play start target = .error (game.refusal start target) := by
  unfold play refusal Board.pieceAt
  dsimp only
  cases ended : game.outcome with
  | some outcome => rfl
  | none =>
    cases standing : game.board.occupantAt start with
    | none => rfl
    | some mover =>
      by_cases owned : mover.piece.side = game.sideToMove
      · have outside : target ∉ mover.moves.legal := by
          intro legal
          rw [isLegal_iff.mpr ⟨mover, standing, owned, legal⟩] at illegal
          cases illegal
        simp [owned, outside]
      · simp [owned]

theorem play_of_ended {game : Match} (ended : game.outcome.isSome = true)
    (start target : Square) : game.play start target = .error .gameOver := by
  unfold play
  dsimp only
  rw [if_pos ended]

/-- In a match that runs, a legal move is refused only by the board or for a royal piece on the
target. -/
theorem play_of_legal {game : Match} {start target : Square} {mover : Occupant}
    (running : game.outcome = none) (standing : game.board.occupantAt start = some mover)
    (owned : mover.piece.side = game.sideToMove) (legal : target ∈ mover.moves.legal) :
    game.play start target =
      if (game.board.pieceAt target).any Piece.isRoyal then .error (.royalCapture target)
      else
        match game.board.movePiece start target with
        | .error reason => .error (.board reason)
        | .ok (taken, board) =>
          let record := game.recordOf mover.piece start target taken
          .ok (record, (game.passTurn board taken record).refresh) := by
  unfold play
  simp only [running, standing, owned, legal, Option.isSome_none, Bool.false_eq_true, ne_eq,
    not_true_eq_false, if_false]
  split
  · rfl
  · cases game.board.movePiece start target with
    | error reason => rfl
    | ok answer =>
      obtain ⟨taken, board⟩ := answer
      unfold passTurn recordOf
      rw [running]

/-- A call is accepted exactly if the match runs, the piece on the start belongs to the side to
move, the target is one of its recorded legal moves that holds no royal piece, and the board can
move the piece. -/
theorem play_eq_ok_iff {game next : Match} {start target : Square} {record : MoveRecord} :
    game.play start target = .ok (record, next) ↔
      game.outcome = none ∧ ∃ mover, game.board.occupantAt start = some mover ∧
        mover.piece.side = game.sideToMove ∧ target ∈ mover.moves.legal ∧
        (game.board.pieceAt target).any Piece.isRoyal = false ∧
        ∃ taken board, game.board.movePiece start target = .ok (taken, board) ∧
          record = game.recordOf mover.piece start target taken ∧
          next = (game.passTurn board taken record).refresh := by
  constructor
  · intro accepted
    cases ended : game.outcome with
    | some outcome =>
      rw [play_of_ended (by rw [ended]; rfl)] at accepted
      cases accepted
    | none =>
      refine ⟨rfl, ?_⟩
      cases allowed : game.isLegal start target with
      | false =>
        rw [play_of_not_isLegal allowed] at accepted
        cases accepted
      | true =>
        obtain ⟨mover, standing, owned, legal⟩ := isLegal_iff.mp allowed
        refine ⟨mover, standing, owned, legal, ?_⟩
        rw [play_of_legal ended standing owned legal] at accepted
        split at accepted
        · cases accepted
        · next common =>
          refine ⟨Bool.eq_false_iff.mpr common, ?_⟩
          cases moved : game.board.movePiece start target with
          | error reason =>
            rw [moved] at accepted
            cases accepted
          | ok answer =>
            rw [moved] at accepted
            cases accepted
            exact ⟨_, _, rfl, rfl, rfl⟩
  · intro given
    obtain ⟨running, mover, standing, owned, legal, common, taken, board, moved, rfl, rfl⟩ := given
    rw [play_of_legal running standing owned legal, if_neg (Bool.eq_false_iff.mp common), moved]

theorem exists_of_isOk_play {game : Match} {start target : Square}
    (accepted : (game.play start target).isOk = true) :
    ∃ record next, game.play start target = .ok (record, next) := by
  cases played : game.play start target with
  | error reason => rw [played] at accepted; cases accepted
  | ok result => exact ⟨result.1, result.2, rfl⟩

section Accepted

variable {game next : Match} {start target : Square} {record : MoveRecord}

theorem position_of_play (accepted : game.play start target = .ok (record, next)) :
    next.board.position = game.board.position.move start target := by
  obtain ⟨_, _, _, _, _, _, _, board, moved, _, rfl⟩ := play_eq_ok_iff.mp accepted
  rw [position_refresh]
  exact Board.position_movePiece moved

theorem sideToMove_of_play (accepted : game.play start target = .ok (record, next)) :
    next.sideToMove = game.sideToMove.opponent := by
  obtain ⟨_, _, _, _, _, _, _, _, _, _, rfl⟩ := play_eq_ok_iff.mp accepted
  rw [sideToMove_refresh]
  rfl

theorem settled_of_play (accepted : game.play start target = .ok (record, next)) :
    next.Settled := by
  obtain ⟨running, _, _, _, _, _, _, _, _, _, rfl⟩ := play_eq_ok_iff.mp accepted
  exact settled_refresh running

theorem contains_start_of_play (accepted : game.play start target = .ok (record, next)) :
    game.board.position.dims.Contains start := by
  obtain ⟨_, _, standing, _⟩ := play_eq_ok_iff.mp accepted
  exact Board.contains_of_occupantAt standing

theorem pieceAt_of_play (accepted : game.play start target = .ok (record, next))
    (square : Square) : next.board.pieceAt square =
      if square = target then game.board.pieceAt start
      else if square = start then none
      else game.board.pieceAt square :=
  congrArg (fun position => position.pieceAt square) (position_of_play accepted)

theorem terrainAt_of_play (accepted : game.play start target = .ok (record, next))
    (square : Square) : next.board.terrainAt square = game.board.terrainAt square :=
  congrArg (fun position => position.terrainAt square) (position_of_play accepted)

theorem history_of_play (accepted : game.play start target = .ok (record, next)) :
    next.history = game.history ++ [record] ∧ record.start = start ∧ record.target = target := by
  obtain ⟨_, _, _, _, _, _, _, _, _, rfl, rfl⟩ := play_eq_ok_iff.mp accepted
  exact ⟨history_refresh _, rfl, rfl⟩

end Accepted

/-!
## Settled matches
-/

theorem settled_start (board : Board) (first : Side) : (start board first).Settled :=
  settled_refresh rfl

theorem settled_run (board : Board) (first : Side) (calls : List (Square × Square)) :
    ((start board first).run calls).Settled :=
  run_invariant Settled (fun _ accepted => settled_of_play accepted) (settled_start board first)
    calls

/-- What accepted calls preserve from one settled match to the next holds after every run. -/
theorem Settled.run_invariant (invariant : Match → Prop)
    (preserved : ∀ {game next : Match} {start target : Square} {record : MoveRecord},
      game.Settled → invariant game → game.play start target = .ok (record, next) →
        invariant next)
    {game : Match} (settled : game.Settled) (initial : invariant game)
    (calls : List (Square × Square)) : invariant (game.run calls) :=
  (Match.run_invariant (fun current => current.Settled ∧ invariant current)
    (fun holds accepted => ⟨settled_of_play accepted, preserved holds.1 holds.2 accepted⟩)
    ⟨settled, initial⟩ calls).2

theorem position_start (board : Board) (first : Side) :
    (start board first).board.position = board.position := position_refresh _

/-- A property of the position that moves preserve holds after every run. -/
theorem position_run_invariant (invariant : Position → Prop)
    (preserved : ∀ {position : Position} {start target : Square}, invariant position →
      position.dims.Contains start → invariant (position.move start target))
    {board : Board} (initial : invariant board.position) (first : Side)
    (calls : List (Square × Square)) :
    invariant ((start board first).run calls).board.position := by
  refine run_invariant (fun game => invariant game.board.position) ?_ ?_ calls
  · intro game next start target record holds accepted
    rw [position_of_play accepted]
    exact preserved holds (contains_start_of_play accepted)
  · rw [position_start]
    exact initial

theorem singleRoyals_run {board : Board} (single : board.position.SingleRoyals) (first : Side)
    (calls : List (Square × Square)) :
    ((start board first).run calls).board.position.SingleRoyals :=
  position_run_invariant Position.SingleRoyals
    (fun holds inside => Position.SingleRoyals.move holds inside) single first calls

theorem allPieces_run {property : Piece → Prop} {board : Board}
    (all : board.position.AllPieces property) (first : Side) (calls : List (Square × Square)) :
    ((start board first).run calls).board.position.AllPieces property :=
  position_run_invariant (fun position => position.AllPieces property)
    (fun holds inside => Position.AllPieces.move holds inside) all first calls

theorem Settled.moves_eq {game : Match} (settled : game.Settled) {square : Square}
    {occupant : Occupant} (standing : game.board.occupantAt square = some occupant) :
    occupant.moves =
      game.board.position.turnMoves game.sideToMove square occupant.piece := by
  have recorded := settled.occupants square
  rw [Board.pieceAt, standing, Option.map_some, Option.map_some, Option.some.injEq] at recorded
  rw [recorded]

end Match

/-!
## A small match

Two kings face each other on the middle column of three, and a red rook between them keeps them
apart. A black rook guards the left column.
-/

namespace Miniature

def neighbours : List Offset := [⟨1, 0⟩, ⟨-1, 0⟩, ⟨0, 1⟩, ⟨0, -1⟩]

/-- A royal piece that moves to a neighbour and may not face another of its type. -/
def king : Template where
  name := "king"
  weight := 1
  royal := true
  textures := ⟨"red", "black"⟩
  patterns := [⟨⟨"king", defaultTerrain, .standard, .both⟩, neighbours.map Path.single⟩]
  rules := ⟨[.jump 0 false, .finalTerrain .all,
    .encounter (.listed (OrderedSet.ofList ["king"]))
      [⟨.only .red, Path.repeated ⟨0, 1⟩ 3⟩, ⟨.only .black, Path.repeated ⟨0, -1⟩ 3⟩]], by decide⟩

def rook : Template where
  name := "rook"
  weight := 5
  royal := false
  textures := ⟨"red", "black"⟩
  patterns := [⟨⟨"rook", defaultTerrain, .standard, .both⟩,
    neighbours.flatMap (fun step => [1, 2, 3].map (Path.repeated step))⟩]
  rules := RuleSet.defaults

def board : Board :=
  [(⟨1, 0⟩, ⟨king, .red⟩), (⟨1, 1⟩, ⟨rook, .red⟩), (⟨1, 3⟩, ⟨king, .black⟩),
    (⟨0, 3⟩, ⟨rook, .black⟩)].foldl
      (fun current placed => current.put placed.1 (some ⟨placed.2, Moves.none⟩))
      (Board.empty ⟨3, 4⟩)

def game : Match := Match.start board .red

end Miniature

end TerrainChess

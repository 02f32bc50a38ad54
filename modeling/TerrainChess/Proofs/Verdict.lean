import TerrainChess.Proofs.Destination
import TerrainChess.Proofs.Run

/-!
# Play, legality and the end of a match

In every match of a run, `play` accepts exactly the legal moves, a refusal has
one of three reasons, and the match has ended exactly if the side to move has no
legal move: `Match.play_legality_outcome`. A refusal of the board or for the
capture of a royal piece cannot occur, because a recorded legal move never ends
off the board, on a piece of its own side or on a royal piece.
-/

set_option autoImplicit false

namespace TerrainChess

namespace Match

namespace Settled

variable {game : Match} (settled : game.Settled)

include settled

theorem outcome_isSome_iff :
    game.outcome.isSome = true ↔ ∀ start target, game.isLegal start target = false := by
  have ended : game.outcome.isSome = true ↔
      game.board.position.isStuck game.sideToMove = true := by
    rw [settled.outcome, Position.verdict]
    split
    · next stuck => simp [stuck]
    · next free => simp [free]
  rw [ended, Position.isStuck_iff]
  constructor
  · intro stuck start target
    rw [Bool.eq_false_iff]
    intro legal
    obtain ⟨mover, standing, owned, member⟩ := isLegal_iff.mp legal
    have stands := Board.stands_of_occupantAt standing
    rw [settled.moves_eq standing] at member
    exact OrderedSet.isEmpty_iff.mp (stuck start mover.piece stands owned) target member
  · intro illegal square piece stands owned
    rw [OrderedSet.isEmpty_iff]
    intro target member
    have recorded := settled.occupants square
    rw [Board.stands_iff.mp stands, Option.map_some] at recorded
    have legal := isLegal_iff.mpr ⟨_, recorded, owned, member⟩
    rw [illegal square target] at legal
    cases legal

/-- A match that has ended names the opponent of the side to move as the winner, by checkmate if
that side is in check and by stalemate otherwise. -/
theorem outcome_eq {outcome : Outcome} (ended : game.outcome = some outcome) :
    outcome =
      if game.inCheck.get game.sideToMove then .checkmate game.sideToMove.opponent
      else .stalemate game.sideToMove.opponent := by
  rw [settled.outcome, Position.verdict] at ended
  split at ended
  · rw [settled.mover]
    exact (Option.some.inj ended).symm
  · cases ended

/-- The board can make every recorded legal move, which captures no royal piece. -/
theorem play_of_isLegal
    (complete : game.board.position.AllPieces (fun piece => piece.template.rules.IsComplete))
    {start target : Square} (legal : game.isLegal start target = true) :
    ∃ record next, game.play start target = .ok (record, next) := by
  have running : game.outcome = none := by
    cases ended : game.outcome with
    | none => rfl
    | some outcome =>
      have illegal := settled.outcome_isSome_iff.mp (by rw [ended]; rfl) start target
      rw [legal] at illegal
      cases illegal
  obtain ⟨mover, standing, owned, member⟩ := isLegal_iff.mp legal
  have stands := Board.stands_of_occupantAt standing
  have recorded := member
  rw [settled.moves_eq standing] at recorded
  obtain ⟨zone, reached⟩ := Position.mem_legal_of_mem_turnMoves recorded
  obtain ⟨inside, opposing⟩ :=
    Position.occupant_of_mem_legal (complete.of_stands stands) reached
  have common : (game.board.pieceAt target).any Piece.isRoyal = false := by
    cases there : game.board.pieceAt target with
    | none => rfl
    | some occupant => exact (opposing occupant there).2
  have moved := Board.movePiece_eq_ok_iff.mpr ⟨inside, mover, standing, rfl, rfl⟩
  exact ⟨_, _, play_eq_ok_iff.mpr
    ⟨running, mover, standing, owned, member, common, _, _, moved, rfl, rfl⟩⟩

end Settled

theorem run_of_outcome_isSome {game : Match} (ended : game.outcome.isSome = true)
    (calls : List (Square × Square)) : game.run calls = game := by
  refine run_invariant (fun current => current = game) ?_ rfl calls
  intro current next start target record same accepted
  subst same
  obtain ⟨running, _⟩ := play_eq_ok_iff.mp accepted
  rw [running] at ended
  cases ended

/-- In every match of a run on a board whose pieces have a rule of every kind, a call is accepted
exactly if the move is legal, and any other call leaves the match as it is. The match has ended
exactly if the side to move has no legal move; the opponent has then won, by checkmate if that
side is in check and by stalemate otherwise, and no later call changes it. -/
theorem play_legality_outcome (board : Board)
    (complete : board.position.AllPieces (fun piece => piece.template.rules.IsComplete))
    (first : Side) (calls : List (Square × Square)) :
    let game := (Match.start board first).run calls
    (∀ start target,
      ((∃ record next, game.play start target = .ok (record, next)) ↔
        game.isLegal start target = true) ∧
      (game.isLegal start target = false →
        game.attempt (start, target) = game ∧
          game.play start target = .error (game.refusal start target))) ∧
    (game.outcome.isSome = true ↔ ∀ start target, game.isLegal start target = false) ∧
    ∀ outcome, game.outcome = some outcome →
      outcome.winner = game.sideToMove.opponent ∧
      outcome =
        (if game.inCheck.get game.sideToMove then .checkmate game.sideToMove.opponent
        else .stalemate game.sideToMove.opponent) ∧
      ∀ later, (game.run later).outcome = some outcome := by
  intro game
  have settled : game.Settled := settled_run board first calls
  have rules := allPieces_run complete first calls
  refine ⟨?_, settled.outcome_isSome_iff, ?_⟩
  · intro start target
    refine ⟨⟨?_, settled.play_of_isLegal rules⟩, ?_⟩
    · intro given
      obtain ⟨record, next, accepted⟩ := given
      obtain ⟨_, mover, standing, owned, legal, _⟩ := play_eq_ok_iff.mp accepted
      exact isLegal_iff.mpr ⟨mover, standing, owned, legal⟩
    · intro illegal
      have refused := play_of_not_isLegal illegal
      exact ⟨attempt_of_error refused, refused⟩
  · intro outcome ended
    have decided := settled.outcome_eq ended
    refine ⟨?_, decided, ?_⟩
    · rw [decided]
      split <;> rfl
    · intro later
      rw [run_of_outcome_isSome (by rw [ended]; rfl) later]
      exact ended

/-- The king of red may step out of the column and mates by it; the rook may not step out. -/
theorem play_legality_outcome_miniature :
    (∃ record next, Miniature.game.play ⟨1, 0⟩ ⟨2, 0⟩ = .ok (record, next)) ∧
      Miniature.game.attempt (⟨1, 1⟩, ⟨0, 1⟩) = Miniature.game ∧
      Miniature.game.play ⟨1, 1⟩ ⟨0, 1⟩ = .error (.illegalDestination ⟨1, 1⟩ ⟨0, 1⟩) ∧
      ∀ later, ((Miniature.game.run [(⟨1, 0⟩, ⟨2, 0⟩)]).run later).outcome =
        some (.checkmate .red) := by
  have complete : Miniature.board.position.AllPieces
      (fun piece => piece.template.rules.IsComplete) := by decide +kernel
  have opening := play_legality_outcome Miniature.board complete .red []
  have mate := play_legality_outcome Miniature.board complete .red [(⟨1, 0⟩, ⟨2, 0⟩)]
  have legal : Miniature.game.isLegal ⟨1, 0⟩ ⟨2, 0⟩ = true := by decide +kernel
  have illegal : Miniature.game.isLegal ⟨1, 1⟩ ⟨0, 1⟩ = false := by decide +kernel
  have reason : Miniature.game.refusal ⟨1, 1⟩ ⟨0, 1⟩ = .illegalDestination ⟨1, 1⟩ ⟨0, 1⟩ := by
    decide +kernel
  have ended : (Miniature.game.run [(⟨1, 0⟩, ⟨2, 0⟩)]).outcome = some (.checkmate .red) := by
    decide +kernel
  obtain ⟨unchanged, refused⟩ := (opening.1 ⟨1, 1⟩ ⟨0, 1⟩).2 illegal
  exact ⟨(opening.1 ⟨1, 0⟩ ⟨2, 0⟩).1.mpr legal, unchanged, reason ▸ refused,
    (mate.2.2 _ ended).2.2⟩

end Match

end TerrainChess

import TerrainChess.Proofs.Run

/-!
# The position determines the match

What a match records about moves, checks and its end is a function of the
position and of the side to move, and so is its future. Two matches of two runs
that have come to one position therefore agree for good, however they have come
to it: `Match.position_determines_match`. The captured pieces and the history are
the only memory of a match.
-/

set_option autoImplicit false

namespace TerrainChess

/-- Boards with the same terrain and the same piece on each of their squares have one position. -/
theorem Board.position_ext {left right : Board} (dims : left.dims = right.dims)
    (same : ∀ square ∈ left.dims.squares, left.terrainAt square = right.terrainAt square ∧
      left.pieceAt square = right.pieceAt square) : left.position = right.position := by
  have everywhere : ∀ square, left.terrainAt square = right.terrainAt square ∧
      left.pieceAt square = right.pieceAt square := by
    intro square
    by_cases inside : left.dims.Contains square
    · exact same square (Dims.mem_squares.mpr inside)
    · have outside : ¬ right.dims.Contains square := dims ▸ inside
      rw [terrainAt_eq_none inside, terrainAt_eq_none outside, pieceAt, pieceAt,
        occupantAt_eq_none inside, occupantAt_eq_none outside]
      exact ⟨rfl, rfl⟩
  unfold position
  rw [dims, funext (fun square => (everywhere square).1),
    funext (fun square => (everywhere square).2)]

namespace Match

/-- Two matches that differ at most in what has been captured and played before. -/
structure Agrees (left right : Match) : Prop where
  board : left.board = right.board
  sideToMove : left.sideToMove = right.sideToMove
  inCheck : left.inCheck = right.inCheck
  outcome : left.outcome = right.outcome

namespace Settled

variable {left right : Match} (leftSettled : left.Settled) (rightSettled : right.Settled)
  (samePosition : left.board.position = right.board.position)
  (sameSide : left.sideToMove = right.sideToMove)

include leftSettled rightSettled samePosition sameSide

theorem board_eq : left.board = right.board := by
  apply Board.ext (Board.dims_congr samePosition)
  · intro square
    rw [Board.terrainAt_congr samePosition]
  · intro square
    rw [leftSettled.occupants, rightSettled.occupants, Board.pieceAt_congr samePosition,
      samePosition, sameSide]

theorem inCheck_eq : left.inCheck = right.inCheck := by
  have mover : left.inCheck.get right.sideToMove = right.inCheck.get right.sideToMove := by
    rw [rightSettled.mover, ← samePosition, ← sameSide, leftSettled.mover]
  have waiting : left.inCheck.get right.sideToMove.opponent =
      right.inCheck.get right.sideToMove.opponent := by
    rw [rightSettled.waiting, ← sameSide, leftSettled.waiting]
  cases toMove : right.sideToMove with
  | red =>
    rw [toMove] at mover waiting
    exact BySide.ext mover waiting
  | black =>
    rw [toMove] at mover waiting
    exact BySide.ext waiting mover

theorem agrees : left.Agrees right where
  board := leftSettled.board_eq rightSettled samePosition sameSide
  sideToMove := sameSide
  inCheck := leftSettled.inCheck_eq rightSettled samePosition sameSide
  outcome := by rw [leftSettled.outcome, rightSettled.outcome, samePosition, sameSide]

end Settled

namespace Agrees

variable {left right : Match} (agrees : left.Agrees right)

include agrees

theorem symm : right.Agrees left :=
  ⟨agrees.board.symm, agrees.sideToMove.symm, agrees.inCheck.symm, agrees.outcome.symm⟩

/-- A call that one of two agreeing matches accepts is accepted by the other, and the matches
after it agree. -/
theorem exists_play {start target : Square} {record : MoveRecord} {next : Match}
    (accepted : left.play start target = .ok (record, next)) :
    ∃ otherRecord other, right.play start target = .ok (otherRecord, other) ∧
      next.Agrees other := by
  obtain ⟨running, mover, standing, owned, legal, common, taken, board, moved, _, _⟩ :=
    play_eq_ok_iff.mp accepted
  rw [agrees.outcome] at running
  rw [agrees.board] at standing common moved
  rw [agrees.sideToMove] at owned
  have answered : right.play start target =
      .ok (right.recordOf mover.piece start target taken,
        (right.passTurn board taken (right.recordOf mover.piece start target taken)).refresh) :=
    play_eq_ok_iff.mpr
      ⟨running, mover, standing, owned, legal, common, taken, board, moved, rfl, rfl⟩
  refine ⟨_, _, answered, (settled_of_play accepted).agrees (settled_of_play answered) ?_ ?_⟩
  · rw [position_of_play accepted, position_of_play answered, agrees.board]
  · rw [sideToMove_of_play accepted, sideToMove_of_play answered, agrees.sideToMove]

theorem isOk_play (start target : Square) :
    (left.play start target).isOk = (right.play start target).isOk := by
  have accepts : ∀ {first second : Match}, first.Agrees second →
      (first.play start target).isOk = true → (second.play start target).isOk = true := by
    intro first second same accepted
    obtain ⟨record, next, played⟩ := exists_of_isOk_play accepted
    obtain ⟨otherRecord, other, answered, _⟩ := same.exists_play played
    rw [answered]
    rfl
  rw [Bool.eq_iff_iff]
  exact ⟨accepts agrees, accepts agrees.symm⟩

theorem attempt (call : Square × Square) : (left.attempt call).Agrees (right.attempt call) := by
  cases played : left.play call.1 call.2 with
  | ok result =>
    obtain ⟨record, next⟩ := result
    obtain ⟨otherRecord, other, answered, after⟩ := agrees.exists_play played
    rw [attempt_of_ok played, attempt_of_ok answered]
    exact after
  | error reason =>
    cases answered : right.play call.1 call.2 with
    | ok result =>
      have same := agrees.isOk_play call.1 call.2
      rw [played, answered] at same
      cases same
    | error otherReason =>
      rw [attempt_of_error played, attempt_of_error answered]
      exact agrees

theorem run (calls : List (Square × Square)) : (left.run calls).Agrees (right.run calls) := by
  induction calls generalizing left right with
  | nil => exact agrees
  | cons call rest ih => exact ih (agrees.attempt call)

end Agrees

end Match

namespace Miniature

def aside : Match := (Match.start board .red).run [(⟨1, 1⟩, ⟨1, 2⟩), (⟨1, 3⟩, ⟨2, 3⟩)]

/-- The board after the king has stepped aside, with the black rook on another square and moves
recorded for it that it does not have. -/
def nearRook : Board :=
  (aside.board.remove ⟨0, 3⟩).put ⟨0, 2⟩
    (some ⟨⟨rook, .black⟩, ⟨OrderedSet.ofList [⟨2, 2⟩], ∅, true⟩⟩)

def retreat : Match := (Match.start nearRook .black).run [(⟨0, 2⟩, ⟨0, 3⟩)]

end Miniature

namespace Match

/-- Two matches of two runs, on boards and by calls that may differ, that have come to the same
position with the same side to move record the same moves of every piece, the same checks and the
same outcome; every later call is accepted by both or by neither, and they never differ again. A
match started anew from the position records the same too, whatever moves stand on its board. -/
theorem position_determines_match (leftBoard rightBoard : Board) (leftFirst rightFirst : Side)
    (leftCalls rightCalls : List (Square × Square))
    (samePosition : ((start leftBoard leftFirst).run leftCalls).board.position =
      ((start rightBoard rightFirst).run rightCalls).board.position)
    (sameSide : ((start leftBoard leftFirst).run leftCalls).sideToMove =
      ((start rightBoard rightFirst).run rightCalls).sideToMove) :
    let left := (start leftBoard leftFirst).run leftCalls
    let right := (start rightBoard rightFirst).run rightCalls
    left.Agrees right ∧
      (∀ later, (left.run later).Agrees (right.run later) ∧ ∀ start target,
        ((left.run later).play start target).isOk = ((right.run later).play start target).isOk) ∧
      ∀ stale : Board, stale.position = left.board.position →
        (Match.start stale left.sideToMove).Agrees left := by
  intro left right
  have settled : left.Settled := settled_run leftBoard leftFirst leftCalls
  have agrees : left.Agrees right :=
    settled.agrees (settled_run rightBoard rightFirst rightCalls) samePosition sameSide
  refine ⟨agrees, ?_, ?_⟩
  · intro later
    exact ⟨agrees.run later, (agrees.run later).isOk_play⟩
  · intro stale same
    exact (settled_start stale left.sideToMove).agrees settled
      ((position_start stale left.sideToMove).trans same) (sideToMove_refresh _)

/-- One position after two moves and after one, on boards and with first sides that differ. -/
theorem position_determines_match_miniature :
    Miniature.aside.history.length = 2 ∧ Miniature.retreat.history.length = 1 ∧
      Miniature.aside.Agrees Miniature.retreat ∧
      (∀ later, (Miniature.aside.run later).Agrees (Miniature.retreat.run later) ∧
        ∀ start target, ((Miniature.aside.run later).play start target).isOk =
          ((Miniature.retreat.run later).play start target).isOk) ∧
      ∀ stale : Board, stale.position = Miniature.aside.board.position →
        (Match.start stale Miniature.aside.sideToMove).Agrees Miniature.aside := by
  have facts : (Miniature.aside.history.length = 2 ∧ Miniature.retreat.history.length = 1) ∧
      Miniature.aside.sideToMove = Miniature.retreat.sideToMove ∧
      Miniature.aside.board.dims = Miniature.retreat.board.dims ∧
      ∀ square ∈ Miniature.aside.board.dims.squares,
        Miniature.aside.board.terrainAt square = Miniature.retreat.board.terrainAt square ∧
          Miniature.aside.board.pieceAt square = Miniature.retreat.board.pieceAt square := by
    decide +kernel
  obtain ⟨lengths, sameSide, dims, squares⟩ := facts
  have samePosition := Board.position_ext dims squares
  exact ⟨lengths.1, lengths.2,
    position_determines_match Miniature.board Miniature.nearRook .red .black _ _ samePosition
      sameSide⟩

end Match

end TerrainChess

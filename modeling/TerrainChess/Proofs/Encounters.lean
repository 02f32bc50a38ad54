import TerrainChess.Proofs.Destination
import TerrainChess.Proofs.Outlook
import TerrainChess.Proofs.Run

/-!
# Encounters before and after a move

An encounter rule is judged before the move, from the square on which the mover
would stand, and once more after it, from the square on which the mover stands.
The mover sees the same both times unless it looks back at a piece that it has
captured: `Board.encounter_judged_alike`.
-/

set_option autoImplicit false

namespace TerrainChess

namespace Position

variable {position : Position} {mover : Piece} {home target square : Square}

/-- After its move a piece sees what it has seen before, but on the square that it has entered. -/
theorem seenAt_move
    (clear : position.pieceAt target = none ∨ target = home ∨ square ≠ target) :
    (position.move home target).seenAt target square = position.seenAt home square := by
  unfold seenAt
  rw [pieceAt_move]
  by_cases arrived : square = target
  · subst arrived
    rw [if_pos rfl]
    rcases clear with vacant | same | apart
    · rw [vacant, ite_self]
    · rw [if_pos same]
    · exact absurd rfl apart
  · rw [if_neg arrived, if_neg arrived]

theorem judgeEncounter_move {forbidden : Selector} {paths : List ScopedPath}
    (declared : Rule.encounter forbidden paths ∈ mover.template.rules.rules)
    (clear : position.pieceAt target = none ∨ target = home ∨
      ∀ outlook ∈ mover.outlooks, target ∉ outlook.walk target) :
    (position.move home target).judgeEncounter mover target forbidden paths target =
      position.judgeEncounter mover home forbidden paths target := by
  refine judgeEncounter_congr ?_
  intro outlook member admitted
  refine firstMet_congr rfl ?_
  intro square visited
  refine seenAt_move ?_
  rcases clear with vacant | same | away
  · exact Or.inl vacant
  · exact Or.inr (Or.inl same)
  · refine Or.inr (Or.inr ?_)
    intro back
    exact away outlook.path (Piece.path_mem_outlooks declared member admitted) (back ▸ visited)

section Movement

variable {path : Path} (clear : position.pieceAt (path.destination home) = none ∨
  path.destination home = home ∨
    ∀ outlook ∈ mover.outlooks, path.destination home ∉ outlook.walk (path.destination home))

include clear

/-- The rule refuses a movement exactly if the mover would break it. -/
theorem encounter_refuses_iff :
    (∃ rule, mover.template.rules.get? .encounter = some rule ∧
        position.answer mover home path rule = .notValid) ↔
      (position.move home (path.destination home)).encounterViolated mover
        (path.destination home) = true := by
  rw [encounterViolated_iff]
  constructor
  · intro given
    obtain ⟨rule, declared, refuses⟩ := given
    obtain ⟨forbidden, paths, rfl, member⟩ := RuleSet.exists_of_get?_encounter declared
    exact ⟨forbidden, paths, declared, (judgeEncounter_move member clear).trans refuses⟩
  · intro given
    obtain ⟨forbidden, paths, declared, breaks⟩ := given
    have member : Rule.encounter forbidden paths ∈ mover.template.rules.rules :=
      List.mem_of_find?_eq_some declared
    exact ⟨_, declared, (judgeEncounter_move member clear).symm.trans breaks⟩

theorem encounterViolated_move_of_classify
    (passes : position.classify mover home path ≠ .notValid) :
    (position.move home (path.destination home)).encounterViolated mover
      (path.destination home) = false := by
  rw [Bool.eq_false_iff]
  intro breaks
  obtain ⟨rule, declared, refuses⟩ := (encounter_refuses_iff clear).mpr breaks
  have member : rule ∈ mover.template.rules.byPriority :=
    RuleSet.mem_byPriority.mpr (List.mem_of_find?_eq_some declared)
  exact answer_ne_notValid_of_judgeAll passes member refuses

end Movement

end Position

namespace Board

theorem exists_movePiece {board : Board} {home target : Square} {piece : Piece}
    (standing : board.pieceAt home = some piece) (inside : board.dims.Contains target) :
    ∃ taken next, board.movePiece home target = .ok (taken, next) := by
  obtain ⟨occupant, found, _⟩ := Option.map_eq_some_iff.mp standing
  exact ⟨_, _, movePiece_eq_ok_iff.mpr ⟨inside, occupant, found, rfl, rfl⟩⟩

/-- Let a piece go along a path to a square of the board that is empty or its own, or back to which
none of its views leads. Its encounter rule refuses the movement exactly if the piece breaks the
rule on the board on which the move has been made, captures included. A movement that is not
refused leaves the piece out of any forbidden encounter. -/
theorem encounter_judged_alike (board : Board) {home : Square} {piece : Piece}
    (standing : board.pieceAt home = some piece) (path : Path)
    (inside : board.dims.Contains (path.destination home))
    (clear : board.pieceAt (path.destination home) = none ∨ path.destination home = home ∨
      ∀ outlook ∈ piece.outlooks,
        path.destination home ∉ outlook.walk (path.destination home)) :
    let target := path.destination home
    ∃ taken next, board.movePiece home target = .ok (taken, next) ∧
      next.pieceAt target = some piece ∧
      ((∃ rule, piece.template.rules.get? .encounter = some rule ∧
          board.position.answer piece home path rule = .notValid) ↔
        next.position.encounterViolated piece target = true) ∧
      (board.position.classify piece home path ≠ .notValid →
        next.position.encounterViolated piece target = false) := by
  intro target
  obtain ⟨taken, next, moved⟩ := exists_movePiece standing inside
  have after : next.position = board.position.move home target := position_movePiece moved
  have arrived : next.pieceAt target = some piece := by
    have placed := congrArg (fun position => position.pieceAt target) after
    simp only [Position.pieceAt_move, if_true] at placed
    exact placed.trans standing
  refine ⟨taken, next, moved, arrived, ?_, ?_⟩
  · rw [after]
    exact Position.encounter_refuses_iff clear
  · rw [after]
    exact Position.encounterViolated_move_of_classify clear

end Board

namespace Miniature

def raid : Board :=
  [(⟨0, 0⟩, ⟨king, .red⟩), (⟨1, 0⟩, ⟨rook, .black⟩), (⟨1, 3⟩, ⟨king, .black⟩)].foldl
    (fun current placed => current.put placed.1 (some ⟨placed.2, Moves.none⟩))
    (Board.empty ⟨3, 4⟩)

end Miniature

namespace Board

/-- The red king may not take the rook, because it would then face the black king. -/
theorem encounter_judged_alike_miniature :
    ∃ taken next, Miniature.raid.movePiece ⟨0, 0⟩ ⟨1, 0⟩ = .ok (taken, next) ∧
      next.position.encounterViolated ⟨Miniature.king, .red⟩ ⟨1, 0⟩ = true := by
  have standing : Miniature.raid.pieceAt ⟨0, 0⟩ = some ⟨Miniature.king, .red⟩ := by
    decide +kernel
  obtain ⟨taken, next, moved, _, alike, _⟩ := encounter_judged_alike Miniature.raid standing
    (Path.single ⟨1, 0⟩) (by decide) (Or.inr (Or.inr (by decide +kernel)))
  refine ⟨taken, next, moved, alike.mp ⟨_, rfl, ?_⟩⟩
  decide +kernel

end Board

end TerrainChess

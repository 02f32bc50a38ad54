import TerrainChess.Proofs.Destination
import TerrainChess.Proofs.Reflection.Pieces

/-!
# Reflected judgements

On a compact position no walk reaches the end of the range of coordinates. Then
each rule answers to the reflected movement of the reflected mover what it answers
to the movement, and so does the whole judgement: `Position.classify_reflect`.
-/

set_option autoImplicit false

namespace TerrainChess

namespace Position

/-- The position seen from the other end of the board, with the sides exchanged. -/
def reflect (position : Position) : Position where
  dims := position.dims
  terrainAt square := position.terrainAt (position.dims.mirror square)
  pieceAt square := (position.pieceAt (position.dims.mirror square)).map Piece.reflect

/-- A position of a small board, off which there is nothing, whose pieces have short paths. -/
structure Compact (position : Position) : Prop where
  small : position.dims.Small
  terrainOff : ∀ square, ¬ position.dims.Contains square → position.terrainAt square = none
  pieceOff : ∀ square, ¬ position.dims.Contains square → position.pieceAt square = none
  short : position.AllPieces (fun piece => piece.template.IsShort)

namespace Compact

variable {position : Position} (compact : position.Compact)

include compact

theorem contains_of_pieceAt {square : Square} {piece : Piece}
    (standing : position.pieceAt square = some piece) : position.dims.Contains square := by
  by_cases inside : position.dims.Contains square
  · exact inside
  · rw [compact.pieceOff square inside] at standing
    cases standing

theorem stands_of_pieceAt {square : Square} {piece : Piece}
    (standing : position.pieceAt square = some piece) : position.Stands square piece :=
  ⟨compact.contains_of_pieceAt standing, standing⟩

private theorem mirror_off {square : Square} (outside : ¬ position.dims.Contains square) :
    ¬ position.dims.Contains (position.dims.mirror (position.dims.mirror square)) := by
  rw [Dims.contains_mirror compact.small, Dims.contains_mirror compact.small]
  exact outside

theorem terrainAt_reflect (square : Square) :
    position.reflect.terrainAt (position.dims.mirror square) = position.terrainAt square := by
  show position.terrainAt (position.dims.mirror (position.dims.mirror square)) = _
  by_cases inside : position.dims.Contains square
  · rw [Dims.mirror_mirror inside]
  · rw [compact.terrainOff _ (compact.mirror_off inside), compact.terrainOff square inside]

theorem pieceAt_reflect (square : Square) :
    position.reflect.pieceAt (position.dims.mirror square) =
      (position.pieceAt square).map Piece.reflect := by
  show (position.pieceAt (position.dims.mirror (position.dims.mirror square))).map _ = _
  by_cases inside : position.dims.Contains square
  · rw [Dims.mirror_mirror inside]
  · rw [compact.pieceOff _ (compact.mirror_off inside), compact.pieceOff square inside]

theorem isOccupied_reflect (square : Square) :
    position.reflect.isOccupied (position.dims.mirror square) = position.isOccupied square := by
  rw [isOccupied, isOccupied, compact.pieceAt_reflect, Option.isSome_map]

end Compact

end Position

theorem judgeJump_reflect (jumps passed : UInt32) (eatOnlyOnLast : Bool) (side : Side)
    (occupant : Option Piece) :
    judgeJump jumps eatOnlyOnLast side.opponent passed (occupant.map Piece.reflect) =
      judgeJump jumps eatOnlyOnLast side passed occupant := by
  cases occupant with
  | none => rfl
  | some piece =>
    have own : (Piece.reflect piece).side = side.opponent ↔ piece.side = side :=
      Side.opponent_eq_iff
    simp only [Option.map_some, judgeJump, own]
    rfl

/-!
## What a mover meets
-/

namespace Position

namespace Compact

variable {position : Position} (compact : position.Compact) {home : Square}
  (homeInside : position.dims.Contains home)

include compact homeInside

private theorem mirror_ne_home (square : Square) :
    position.dims.mirror square ≠ position.dims.mirror home ↔ square ≠ home :=
  not_congr (Dims.mirror_eq_iff compact.small homeInside)

theorem passed_reflect {path : Path} {start : Square} (short : path.Short)
    (startInside : position.dims.Contains start) :
    position.reflect.passed (position.dims.mirror home) path.negated
        (position.dims.mirror start) =
      position.passed home path start := by
  unfold passed
  rw [Path.walk_negated compact.small short startInside, List.filter_map, List.length_map]
  simp only [Function.comp_def, compact.isOccupied_reflect, compact.mirror_ne_home homeInside]

theorem firstMet_reflect (squares : List Square) :
    position.reflect.firstMet (position.dims.mirror home) (squares.map position.dims.mirror) =
      (position.firstMet home squares).map Piece.reflect := by
  induction squares with
  | nil => rfl
  | cons square rest ih =>
    have inside : position.reflect.dims.Contains (position.dims.mirror square) ↔
        position.dims.Contains square := Dims.contains_mirror compact.small
    rw [List.map_cons, firstMet, firstMet, compact.pieceAt_reflect, ih]
    simp only [inside, Dims.mirror_eq_iff compact.small homeInside]
    split
    · split
      · rfl
      · cases position.pieceAt square with
        | none => rfl
        | some piece => rfl
    · rfl

theorem firstOpponent_reflect {path : Path} {start : Square} (side : Side) (short : path.Short)
    (startInside : position.dims.Contains start) :
    position.reflect.firstOpponent side.opponent (position.dims.mirror home) path.negated
        (position.dims.mirror start) =
      (position.firstOpponent side home path start).map Piece.reflect := by
  unfold firstOpponent
  rw [Path.walk_negated compact.small short startInside, compact.firstMet_reflect homeInside]
  cases position.firstMet home (path.walk start) with
  | none => rfl
  | some piece =>
    have opposing : (Piece.reflect piece).side ≠ side.opponent ↔ piece.side ≠ side :=
      not_congr Side.opponent_eq_iff
    simp only [Option.map_some, Option.filter_some, opposing]
    split <;> rfl

end Compact

/-!
## The answers of the rules
-/

namespace Compact

variable {position : Position} (compact : position.Compact) {mover : Piece} {home square : Square}
  (homeInside : position.dims.Contains home) (squareInside : position.dims.Contains square)

include compact

theorem judgeTerrain_reflect (allowed : Selector) (square : Square) :
    position.reflect.judgeTerrain allowed (position.dims.mirror square) =
      position.judgeTerrain allowed square := by
  unfold judgeTerrain
  rw [compact.terrainAt_reflect]

include homeInside

include squareInside in
theorem judgeEncounter_reflect (forbidden : Selector) {paths : List ScopedPath}
    (short : ∀ outlook ∈ paths, outlook.path.Short) :
    position.reflect.judgeEncounter mover.reflect (position.dims.mirror home) forbidden
        (paths.map ScopedPath.reflect) (position.dims.mirror square) =
      position.judgeEncounter mover home forbidden paths square := by
  cases forbidden with
  | all => rfl
  | nothing => rfl
  | listed names =>
    have admitted : ∀ outlook : ScopedPath, (ScopedPath.reflect outlook).side.admits
        (Piece.reflect mover).side = outlook.side.admits mover.side :=
      fun outlook => SideScope.admits_reflect outlook.side mover.side
    have sees : ∀ outlook ∈ paths,
        position.reflect.sees mover.reflect (position.dims.mirror home) names
            (position.dims.mirror square) outlook.reflect =
          position.sees mover home names square outlook := by
      intro outlook member
      have seen : position.reflect.firstOpponent (Piece.reflect mover).side
            (position.dims.mirror home) (ScopedPath.reflect outlook).path
            (position.dims.mirror square) =
          (position.firstOpponent mover.side home outlook.path square).map Piece.reflect :=
        compact.firstOpponent_reflect homeInside mover.side (short outlook member) squareInside
      unfold Position.sees
      rw [seen]
      cases position.firstOpponent mover.side home outlook.path square with
      | none => rfl
      | some opponent => rfl
    have violates : ((paths.map ScopedPath.reflect).filter
          (fun outlook => outlook.side.admits (Piece.reflect mover).side)).any
            (position.reflect.sees mover.reflect (position.dims.mirror home) names
              (position.dims.mirror square)) =
        (paths.filter (fun outlook => outlook.side.admits mover.side)).any
          (position.sees mover home names square) := by
      rw [List.filter_map, List.any_map, Bool.eq_iff_iff, List.any_eq_true, List.any_eq_true]
      simp only [Function.comp_def, admitted, List.mem_filter]
      refine exists_congr (fun outlook => and_congr_right (fun member => ?_))
      rw [sees outlook member.1]
    rw [judgeEncounter_listed, judgeEncounter_listed, violates]

include squareInside in
theorem judge_reflect {path : Path} {rule : Rule} (short : path.Short)
    (outlooksShort : ∀ outlook ∈ rule.outlooks, outlook.path.Short) :
    position.reflect.judge mover.reflect (position.dims.mirror home) path.negated
        (position.dims.mirror square) rule.reflect =
      position.judge mover home path square rule := by
  cases rule with
  | jump jumps eatOnlyOnLast =>
    have passes := compact.passed_reflect homeInside short squareInside
    have arrives := Path.destination_negated compact.small short squareInside
    show judgeJump jumps eatOnlyOnLast mover.side.opponent _ _ = judgeJump _ _ _ _ _
    rw [passes, arrives, compact.pieceAt_reflect, judgeJump_reflect]
  | finalTerrain allowed => exact compact.judgeTerrain_reflect allowed square
  | encounter forbidden paths =>
    exact compact.judgeEncounter_reflect homeInside squareInside forbidden outlooksShort

section Movement

variable {path : Path} (short : path.Short)
  (arrival : position.dims.Contains (path.destination home))

include short arrival

theorem answer_reflect {rule : Rule}
    (outlooksShort : ∀ outlook ∈ rule.outlooks, outlook.path.Short) :
    position.reflect.answer mover.reflect (position.dims.mirror home) path.negated rule.reflect =
      position.answer mover home path rule := by
  unfold answer
  rw [rule.stage_reflect, Path.destination_negated compact.small short homeInside]
  split
  · exact compact.judge_reflect homeInside arrival short outlooksShort
  · exact compact.judge_reflect homeInside homeInside short outlooksShort

theorem judgeAll_reflect {rules : List Rule}
    (outlooksShort : ∀ rule ∈ rules, ∀ outlook ∈ rule.outlooks, outlook.path.Short)
    (before : Validity) :
    position.reflect.judgeAll mover.reflect (position.dims.mirror home) path.negated
        (rules.map Rule.reflect) before =
      position.judgeAll mover home path rules before := by
  induction rules generalizing before with
  | nil => rfl
  | cons rule rest ih =>
    have first : position.reflect.answer mover.reflect (position.dims.mirror home) path.negated
        rule.reflect = position.answer mover home path rule :=
      compact.answer_reflect homeInside short arrival (outlooksShort rule List.mem_cons_self)
    have later := ih (fun other member => outlooksShort other (List.mem_cons_of_mem _ member))
    rw [List.map_cons, judgeAll_cons, judgeAll_cons, first, later]

/-- The reflected movement of the reflected mover is in the same class. -/
theorem classify_reflect (shortMover : mover.template.IsShort) :
    position.reflect.classify mover.reflect (position.dims.mirror home) path.negated =
      position.classify mover home path := by
  have rules : (Piece.reflect mover).template.rules.byPriority =
      mover.template.rules.byPriority.map Rule.reflect :=
    RuleSet.byPriority_reflect mover.template.rules
  unfold classify
  rw [rules]
  exact compact.judgeAll_reflect homeInside short arrival
    (fun rule member => shortMover.2 rule (RuleSet.mem_byPriority.mp member)) .canCapture

end Movement

theorem encounterViolated_reflect (shortMover : mover.template.IsShort) :
    position.reflect.encounterViolated mover.reflect (position.dims.mirror home) =
      position.encounterViolated mover home := by
  have declared : (Piece.reflect mover).template.rules.get? .encounter =
      (mover.template.rules.get? .encounter).map Rule.reflect :=
    RuleSet.get?_reflect mover.template.rules .encounter
  unfold encounterViolated
  rw [declared]
  cases found : mover.template.rules.get? .encounter with
  | none => rfl
  | some rule =>
    have member : rule ∈ mover.template.rules.rules := List.mem_of_find?_eq_some found
    have still : Path.Short ⟨[]⟩ := by decide
    have judged : position.reflect.judge mover.reflect (position.dims.mirror home)
          (Path.negated ⟨[]⟩) (position.dims.mirror home) rule.reflect =
        position.judge mover home ⟨[]⟩ home rule :=
      compact.judge_reflect homeInside homeInside still (shortMover.2 rule member)
    have same : Path.negated ⟨[]⟩ = ⟨[]⟩ := rfl
    rw [same] at judged
    simp only [Option.map_some, judged]

end Compact

end Position

end TerrainChess

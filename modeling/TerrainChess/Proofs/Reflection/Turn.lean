import TerrainChess.Proofs.Reflection.Safety
import TerrainChess.Proofs.Turn

/-!
# Reflected turns

What a turn records on the reflected position, with the other side to move, is the
reflection of what it records on the position: the moves of both sides, check, and
the end of the match.
-/

set_option autoImplicit false

namespace TerrainChess

def Outcome.reflect : Outcome → Outcome
  | checkmate winner => checkmate winner.opponent
  | stalemate winner => stalemate winner.opponent

namespace Position

namespace Compact

variable {position : Position} (compact : position.Compact) (single : position.SingleRoyals)

include compact single

theorem hostileZone_reflect (us : Side) :
    position.reflect.hostileZone us.opponent =
      SquareSet.reflect position.dims (position.hostileZone us) := by
  have reached : ∀ {square piece}, position.Stands square piece →
      (position.reflect.reachFrom none piece.reflect (position.dims.mirror square)).covered =
        SquareSet.reflect position.dims (position.reachFrom none piece square).covered := by
    intro square piece stands
    have same : position.reflect.reachFrom none piece.reflect (position.dims.mirror square) =
        (position.reachFrom none piece square).reflect position.dims :=
      compact.reachFrom_reflect stands.1 (compact.short.of_stands stands) none
    rw [same]
    rfl
  apply OrderedSet.ext
  intro target
  unfold hostileZone
  rw [SquareSet.mem_reflect]
  refine ((compact.singleRoyals_reflect single).ofSide _).mem_covered_sideReport_iff.trans
    (compact.exists_stands_reflect.trans ?_)
  constructor
  · intro found
    obtain ⟨square, piece, stands, owned, covers⟩ := found
    rw [reached stands, SquareSet.mem_reflect] at covers
    obtain ⟨covered, member, arrives⟩ := covers
    refine ⟨covered, ?_, arrives⟩
    exact (single.ofSide _).mem_covered_sideReport_iff.mpr
      ⟨square, piece, stands, Side.opponent_eq_iff.mp owned, member⟩
  · intro found
    obtain ⟨covered, member, arrives⟩ := found
    obtain ⟨square, piece, stands, owned, covers⟩ := (single.ofSide _).mem_covered_sideReport_iff.mp member
    refine ⟨square, piece, stands, congrArg Side.opponent owned, ?_⟩
    rw [reached stands]
    exact SquareSet.mem_reflect.mpr ⟨covered, covers, arrives⟩

theorem turnMoves_reflect {us : Side} {square : Square} {piece : Piece}
    (stands : position.Stands square piece) :
    position.reflect.turnMoves us.opponent (position.dims.mirror square) piece.reflect =
      (position.turnMoves us square piece).reflect position.dims := by
  have image := compact.singleRoyals_reflect single
  have standsReflected := compact.stands_reflect stands
  have short := compact.short.of_stands stands
  rcases Side.eq_or_eq_opponent us piece.side with owned | opposing
  · have reached : position.reflect.reachFrom
          (some (SquareSet.reflect position.dims (position.hostileZone us))) piece.reflect
          (position.dims.mirror square) =
        (position.reachFrom (some (position.hostileZone us)) piece square).reflect
          position.dims := compact.reachFrom_reflect stands.1 short (some (position.hostileZone us))
    have safe : ∀ target, position.reflect.isSafeMove (position.dims.mirror square)
        (position.dims.mirror target) = position.isSafeMove square target :=
      compact.isSafeMove_reflect single square
    rw [image.turnMoves_of_own standsReflected (congrArg Side.opponent owned),
      single.turnMoves_of_own stands owned, compact.hostileZone_reflect single, reached]
    simp only [Reach.reflect, Moves.reflect, SquareSet.filter_reflect, safe]
  · have reached : position.reflect.reachFrom none piece.reflect (position.dims.mirror square) =
        (position.reachFrom none piece square).reflect position.dims :=
      compact.reachFrom_reflect stands.1 short none
    rw [image.turnMoves_of_opponent standsReflected (congrArg Side.opponent opposing),
      single.turnMoves_of_opponent stands opposing, reached]
    rfl

theorem inCheck_reflect (us : Side) :
    position.reflect.inCheck us.opponent = position.inCheck us := by
  unfold inCheck
  rw [((compact.singleRoyals_reflect single).ofSide _).threatensRoyal_sideReport,
    (single.ofSide _).threatensRoyal_sideReport, compact.threatensRoyal_reflect,
    compact.royalExposed_reflect single]

theorem isStuck_reflect (us : Side) :
    position.reflect.isStuck us.opponent = position.isStuck us := by
  rw [Bool.eq_iff_iff, isStuck_iff, isStuck_iff]
  refine compact.forall_stands_reflect.trans ?_
  refine forall_congr' (fun square => forall_congr' (fun piece => forall_congr' ?_))
  intro stands
  rw [piece.side_reflect, Side.opponent_eq_iff, compact.turnMoves_reflect single stands]
  exact imp_congr_right (fun _ => iff_of_eq (congrArg (fun empty => empty = true)
    SquareSet.isEmpty_reflect))

theorem verdict_reflect (us : Side) :
    position.reflect.verdict us.opponent = (position.verdict us).map Outcome.reflect := by
  unfold verdict
  rw [compact.isStuck_reflect single, compact.inCheck_reflect single]
  split
  · split <;> rfl
  · rfl

end Compact

end Position

end TerrainChess

import Mathlib.Data.List.Basic
import TerrainChess.Proofs.Generation
import TerrainChess.Proofs.Reflection.Judging

/-!
# Reflected moves

The reflected piece has the reflected candidates in the same order. What it
reaches is therefore the reflection of what the piece reaches, on every square and
for every hostile zone: `Position.reach?_reflect`.
-/

set_option autoImplicit false

namespace TerrainChess

def Candidate.reflect (dims : Dims) (candidate : Candidate) : Candidate :=
  { candidate with target := dims.mirror candidate.target }

namespace Reach

def reflect (dims : Dims) (reach : Reach) : Reach where
  moves := reach.moves.reflect dims
  covered := SquareSet.reflect dims reach.covered

theorem threatensRoyal_reflect (dims : Dims) (reach : Reach) :
    (reach.reflect dims).moves.threatensRoyal = reach.moves.threatensRoyal := rfl

variable (dims : Dims) (candidates : List Candidate)

theorem targets_reflect (counts : Validity → Bool) :
    targets (candidates.map (Candidate.reflect dims)) counts =
      SquareSet.reflect dims (targets candidates counts) := by
  unfold targets
  rw [SquareSet.reflect_ofList, List.filter_map, List.map_map, List.map_map]
  rfl

theorem ofCandidates_reflect :
    ofCandidates (candidates.map (Candidate.reflect dims)) =
      (ofCandidates candidates).reflect dims := by
  unfold ofCandidates reflect Moves.reflect
  rw [targets_reflect, targets_reflect, targets_reflect, List.any_map]
  rfl

end Reach

namespace Position

namespace Compact

variable {position : Position} (compact : position.Compact) {zone : Option SquareSet}
  {mover : Piece} {home : Square}

include compact

theorem settle_reflect {target : Square} (inside : position.dims.Contains target)
    (validity : Validity) :
    position.reflect.settle (zone.map (SquareSet.reflect position.dims)) mover.reflect
        (position.dims.mirror target) validity =
      position.settle zone mover target validity := by
  have opposing : ∀ occupant : Piece,
      (Piece.reflect occupant).side ≠ (Piece.reflect mover).side ↔ occupant.side ≠ mover.side :=
    fun occupant => not_congr Side.opponent_eq_iff
  have hostile : ∀ squares : SquareSet,
      position.dims.mirror target ∈ SquareSet.reflect position.dims squares ↔ target ∈ squares :=
    fun squares => SquareSet.mem_reflect_mirror compact.small inside
  unfold settle
  rw [compact.pieceAt_reflect]
  cases position.pieceAt target with
  | none =>
    cases zone with
    | none => rfl
    | some squares =>
      simp only [Option.map_none, Option.map_some, hostile]
      rfl
  | some occupant =>
    cases zone with
    | none =>
      simp only [Option.map_none, Option.map_some, opposing]
      rfl
    | some squares =>
      simp only [Option.map_some, opposing, hostile]
      rfl

section Home

variable (homeInside : position.dims.Contains home) (shortMover : mover.template.IsShort)

include homeInside shortMover

theorem candidates_reflect {patterns : List MovementPattern}
    (short : ∀ pattern ∈ patterns, ∀ path ∈ pattern.paths, path.Short) (tier : Tier) :
    position.reflect.candidates (zone.map (SquareSet.reflect position.dims)) mover.reflect
        (position.dims.mirror home) (patterns.map MovementPattern.reflect) tier =
      (position.candidates zone mover home patterns tier).map
        (Candidate.reflect position.dims) := by
  have paths : ((patterns.map MovementPattern.reflect).filter
        (fun pattern => pattern.tag.specification.inTier tier)).flatMap MovementPattern.paths =
      ((patterns.filter (fun pattern => pattern.tag.specification.inTier tier)).flatMap
        MovementPattern.paths).map Path.negated := by
    rw [List.filter_map, List.flatMap_map, List.map_flatMap]
    rfl
  unfold candidates
  rw [paths, List.filterMap_map, List.map_filterMap]
  apply List.filterMap_congr
  intro path member
  obtain ⟨pattern, chosen, here⟩ := List.mem_flatMap.mp member
  have pathShort := short pattern (List.mem_filter.mp chosen).1 path here
  have arrives := Path.destination_negated compact.small pathShort homeInside
  dsimp only [Function.comp_apply]
  rw [arrives]
  have inside : position.reflect.dims.Contains
        (position.dims.mirror (path.destination home)) ↔
      position.dims.Contains (path.destination home) := Dims.contains_mirror compact.small
  by_cases arrival : position.dims.Contains (path.destination home)
  · rw [if_pos (inside.mpr arrival), if_pos arrival,
      compact.classify_reflect homeInside pathShort arrival shortMover,
      compact.settle_reflect arrival]
    rfl
  · rw [if_neg (fun there => arrival (inside.mp there)), if_neg arrival]
    rfl

theorem reachFrom_reflect (zone : Option SquareSet) :
    position.reflect.reachFrom (zone.map (SquareSet.reflect position.dims)) mover.reflect
        (position.dims.mirror home) =
      (position.reachFrom zone mover home).reflect position.dims := by
  let used := mover.template.patternsOn mover.side ((position.terrainAt home).getD defaultTerrain)
  have reflected : (Piece.reflect mover).template.patternsOn (Piece.reflect mover).side
        ((position.terrainAt home).getD defaultTerrain) = used.map MovementPattern.reflect :=
    mover.template.patternsOn_reflect mover.side _
  have short : ∀ pattern ∈ used, ∀ path ∈ pattern.paths, path.Short := fun pattern member =>
    shortMover.1 pattern (Template.mem_patterns_of_mem_patternsOn member)
  have tried : ∀ tier,
      position.reflect.candidates (zone.map (SquareSet.reflect position.dims)) mover.reflect
          (position.dims.mirror home) (used.map MovementPattern.reflect) tier =
        (position.candidates zone mover home used tier).map (Candidate.reflect position.dims) :=
    compact.candidates_reflect homeInside shortMover short
  have stuck : ((Reach.ofCandidates (position.candidates zone mover home used
        .standard)).reflect position.dims).moves.legal.isEmpty =
      (Reach.ofCandidates (position.candidates zone mover home used
        .standard)).moves.legal.isEmpty := SquareSet.isEmpty_reflect
  unfold reachFrom
  dsimp only
  rw [compact.terrainAt_reflect, reflected, tried .standard, tried .alternate,
    Reach.ofCandidates_reflect, ← List.map_append, Reach.ofCandidates_reflect, stuck]
  split <;> rfl

end Home

/-- What is generated for the reflection of a square is the reflection of what is generated for
the square. -/
theorem reach?_reflect (zone : Option SquareSet) (square : Square) :
    position.reflect.reach? (zone.map (SquareSet.reflect position.dims))
        (position.dims.mirror square) =
      (position.reach? zone square).map (Reach.reflect position.dims) := by
  unfold reach?
  rw [compact.pieceAt_reflect]
  cases standing : position.pieceAt square with
  | none => rfl
  | some piece =>
    have stands := compact.stands_of_pieceAt standing
    simp only [Option.map_some]
    rw [compact.reachFrom_reflect stands.1 (compact.short.of_stands stands) zone]

end Compact

end Position

end TerrainChess

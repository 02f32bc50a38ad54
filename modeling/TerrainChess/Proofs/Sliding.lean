import TerrainChess.Notation.PieceText
import TerrainChess.Proofs.Attacks
import TerrainChess.Proofs.Grouping
import TerrainChess.Proofs.Reading.Repeated
import TerrainChess.Proofs.Screens

/-!
# Sliding pieces

What a piece with one sliding line can do is decided by the pieces between its
square and the target, whatever its jump rule says: `Board.sliding_moves`. Every
square of the board on the ray is the destination of one of the repeated paths,
the pieces that such a path passes are those between and the one on the target,
and no count and no coordinate comes near the end of its range.
-/

set_option autoImplicit false

namespace TerrainChess

/-- A piece type whose movements are what its block has read after one sliding line, and which has
no rule that refuses anything but the jump rule. -/
structure Template.Slides (template : Template) (dims : Dims) (step : Offset) (jumps : UInt32)
    (eatOnlyOnLast : Bool) : Prop where
  patterns : ∃ scope : Notation.PieceScope, scope.dims = dims ∧
    template.patterns = MovementPattern.group (Notation.movementStep scope
      (Notation.PieceBlock.opened template.name) (Notation.slidingLine step)).1.movements
  jump : Rule.jump jumps eatOnlyOnLast ∈ template.rules.rules
  rules : ∀ rule ∈ template.rules.rules, rule = .jump jumps eatOnlyOnLast ∨
    rule = .finalTerrain .all ∨ ∃ paths, rule = .encounter .nothing paths

def Template.slidingTag (template : Template) : MovementTag :=
  ⟨template.name, defaultTerrain, .standard, .both⟩

/-!
## The class of a slide
-/

/-- The class of a slide by the number of pieces between and the piece on the target, for a mover
that is not hindered by a hostile zone. -/
def judgeSlide (jumps : Nat) (eatOnlyOnLast : Bool) (side : Side) (screens : Nat) :
    Option Piece → Validity
  | none =>
    if screens = jumps then if eatOnlyOnLast then .threatenedOnly else .canCapture
    else if eatOnlyOnLast ∧ screens < jumps then .moveOnly
    else .notValid
  | some occupant =>
    if jumps < screens ∨ eatOnlyOnLast ∧ screens ≠ jumps then .notValid
    else if occupant.side = side then .threatenedOnly
    else if occupant.isRoyal then .check
    else .canCapture

theorem toNat_saturatingSucc (count : UInt32) :
    (saturatingSucc count).toNat = min (count.toNat + 1) 4294967295 := by
  have bound := count.toNat_lt
  unfold saturatingSucc
  split
  · next top =>
    subst top
    decide
  · next below =>
    have different : count.toNat ≠ 4294967295 := fun same => below (UInt32.toNat_inj.mp same)
    rw [UInt32.toNat_add]
    have one : (1 : UInt32).toNat = 1 := rfl
    omega

section JumpRule

variable {jumps passed : UInt32} {eatOnlyOnLast : Bool} {screens : Nat} {mover : Piece}
  {position : Position} {target : Square}

theorem settle_judgeJump_none (vacant : position.pieceAt target = none)
    (counted : passed.toNat = screens) :
    position.settle none mover target (judgeJump jumps eatOnlyOnLast mover.side passed none) =
      judgeSlide jumps.toNat eatOnlyOnLast mover.side screens none := by
  have same : passed = jumps ↔ screens = jumps.toNat := by rw [← UInt32.toNat_inj, counted]
  have fewer : passed < jumps ↔ screens < jumps.toNat := by
    rw [UInt32.lt_iff_toNat_lt, counted]
  simp only [Position.settle, vacant, judgeJump, judgeSlide, same, fewer]
  cases eatOnlyOnLast with
  | false => by_cases reached : screens = jumps.toNat <;> simp [reached]
  | true =>
    by_cases below : screens < jumps.toNat
    · simp [below, Nat.ne_of_lt below]
    · by_cases reached : screens = jumps.toNat <;> simp [below, reached]

theorem settle_judgeJump_some {occupant : Piece}
    (standing : position.pieceAt target = some occupant) (counted : passed.toNat = screens + 1)
    (small : screens < 4294967294) :
    position.settle none mover target
        (judgeJump jumps eatOnlyOnLast mover.side passed (some occupant)) =
      judgeSlide jumps.toNat eatOnlyOnLast mover.side screens (some occupant) := by
  have bound := jumps.toNat_lt
  have same : passed = saturatingSucc jumps ↔ screens = jumps.toNat := by
    rw [← UInt32.toNat_inj, counted, toNat_saturatingSucc]
    omega
  have more : saturatingSucc jumps < passed ↔ jumps.toNat < screens := by
    rw [UInt32.lt_iff_toNat_lt, counted, toNat_saturatingSucc]
    omega
  simp only [Position.settle, standing, judgeJump, judgeSlide, ne_eq, same, more]
  cases eatOnlyOnLast with
  | false =>
    by_cases behind : jumps.toNat < screens
    · simp [behind]
    · by_cases own : occupant.side = mover.side <;> simp [own, behind]
  | true =>
    by_cases reached : screens = jumps.toNat
    · by_cases own : occupant.side = mover.side <;> simp [own, reached]
    · simp [reached]

end JumpRule

namespace Template.Slides

variable {template : Template} {dims : Dims} {step : Offset} {jumps : UInt32}
  {eatOnlyOnLast : Bool} (slides : template.Slides dims step jumps eatOnlyOnLast)
  (reaches : dims.WithinReach step)

include slides reaches

/-!
## The patterns of a sliding piece
-/

theorem collects : MovementPattern.Collects
    ((Notation.repetitions dims step).map (fun path => ⟨template.slidingTag, path⟩))
    template.patterns := by
  obtain ⟨scope, rfl, patterns⟩ := slides.patterns
  have read := Notation.readMovements_slidingLine reaches
  simp only [Notation.movementStep, Notation.PieceBlock.opened, read, List.nil_append,
    List.map_map] at patterns
  rw [patterns]
  exact MovementPattern.collects_group _

theorem tag_eq {pattern : MovementPattern} (member : pattern ∈ template.patterns) :
    pattern.tag = template.slidingTag := by
  obtain ⟨movement, given, same⟩ := (slides.collects reaches).exists_movement member
  obtain ⟨path, _, rfl⟩ := List.mem_map.mp given
  exact same.symm

theorem exists_pattern_iff {path : Path} :
    (∃ pattern ∈ template.patterns, path ∈ pattern.paths) ↔
      path ∈ Notation.repetitions dims step := by
  have collects := slides.collects reaches
  constructor
  · intro given
    obtain ⟨pattern, member, here⟩ := given
    obtain ⟨other, repeats, same⟩ := List.mem_map.mp ((collects.mem_paths_iff member).mp here)
    have equal : other = path := congrArg TaggedPath.path same
    exact equal ▸ repeats
  · intro repeats
    have given : (⟨template.slidingTag, path⟩ : TaggedPath) ∈
        (Notation.repetitions dims step).map (fun path => ⟨template.slidingTag, path⟩) :=
      List.mem_map_of_mem repeats
    obtain ⟨pattern, member, same⟩ := List.mem_map.mp (collects.covered _ given)
    exact ⟨pattern, member, (collects.mem_paths_iff member).mpr (same ▸ given)⟩

theorem patternsOn_eq (side : Side) (terrain : String) :
    template.patternsOn side terrain = template.patterns := by
  have usable : template.patternsFor side = template.patterns := by
    refine List.filter_eq_self.mpr ?_
    intro pattern member
    simp [MovementPattern.appliesTo, slides.tag_eq reaches member, slidingTag, SideScope.admits]
  have fallback : template.patterns.filter (fun pattern => pattern.tag.isDefaultTerrain) =
      template.patterns := by
    refine List.filter_eq_self.mpr ?_
    intro pattern member
    simp [MovementTag.isDefaultTerrain, slides.tag_eq reaches member, slidingTag]
  simp only [Template.patternsOn, usable, fallback]
  split
  · rfl
  · next declared =>
    refine List.filter_eq_self.mpr ?_
    intro pattern member
    by_contra other
    refine declared (List.isEmpty_iff.mpr (List.filter_eq_nil_iff.mpr ?_))
    intro rival again
    rwa [slides.tag_eq reaches again, ← slides.tag_eq reaches member]

end Template.Slides

namespace Position

/-!
## What a sliding piece reaches
-/

variable {position : Position} {zone : Option SquareSet} {mover : Piece} {home target : Square}
  {path : Path} {candidate : Candidate} {step : Offset} {count : Nat}

section Slides

variable {jumps : UInt32} {eatOnlyOnLast : Bool}

variable (slides : mover.template.Slides position.dims step jumps eatOnlyOnLast)

include slides

theorem classify_of_slides : position.classify mover home path =
    judgeJump jumps eatOnlyOnLast mover.side (position.passed home path home)
      (position.pieceAt (path.destination home)) := by
  refine judgeAll_of_single_answer ?_ (Or.inr ⟨rfl, _, RuleSet.mem_byPriority.mpr slides.jump, rfl⟩)
  intro rule member
  rcases slides.rules rule (RuleSet.mem_byPriority.mp member) with rfl | rfl | ⟨paths, rfl⟩
  · exact Or.inr rfl
  · exact Or.inl rfl
  · exact Or.inl rfl

variable (reaches : position.dims.WithinReach step)

include reaches

theorem mem_evaluated_of_slides : candidate ∈ position.evaluated zone mover home ↔
    ∃ path ∈ Notation.repetitions position.dims step,
      position.dims.Contains (path.destination home) ∧
        candidate = ⟨path.destination home, position.settle zone mover (path.destination home)
          (position.classify mover home path)⟩ := by
  have standard : ∀ pattern ∈ mover.template.patterns, ∀ tier,
      pattern.tag.specification.inTier tier = true ↔ tier = .standard := by
    intro pattern member tier
    rw [slides.tag_eq reaches member]
    cases tier <;> simp [Template.slidingTag, Specification.inTier]
  have tried : ∀ tier,
      candidate ∈ position.candidates zone mover home mover.template.patterns tier ↔
      tier = .standard ∧ ∃ path ∈ Notation.repetitions position.dims step,
        position.dims.Contains (path.destination home) ∧
          candidate = ⟨path.destination home, position.settle zone mover (path.destination home)
            (position.classify mover home path)⟩ := by
    intro tier
    rw [mem_candidates]
    constructor
    · intro given
      obtain ⟨pattern, member, counts, path, here, found⟩ := given
      exact ⟨(standard pattern member tier).mp counts, path,
        (slides.exists_pattern_iff reaches).mp ⟨pattern, member, here⟩, found⟩
    · intro given
      obtain ⟨counts, path, repeats, found⟩ := given
      obtain ⟨pattern, member, here⟩ := (slides.exists_pattern_iff reaches).mpr repeats
      exact ⟨pattern, member, (standard pattern member tier).mpr counts, path, here, found⟩
  simp only [evaluated, slides.patternsOn_eq reaches]
  split <;> simp [tried]

variable (bounded : position.Bounded) (here : position.dims.Contains home)
  (moving : step ≠ ⟨0, 0⟩)

include bounded here moving

omit reaches in
theorem settle_of_onRay (ray : position.OnRay home step count target) :
    position.settle none mover target (position.classify mover home (Path.repeated step count)) =
      judgeSlide jumps.toNat eatOnlyOnLast mover.side (position.screens home step count)
        (position.pieceAt target) := by
  have counted := ray.toNat_passed bounded here moving
  have less := screens_lt position home step ray.positive
  have short := ray.count_le here moving
  have extent := position.dims.maxExtent.greatest
  rw [classify_of_slides slides, ray.destination_eq]
  cases standing : position.pieceAt target with
  | none =>
    refine settle_judgeJump_none standing ?_
    simpa [isOccupied, standing] using counted
  | some occupant =>
    refine settle_judgeJump_some standing ?_ (by omega)
    simpa [isOccupied, standing] using counted

/-- The candidates of a sliding piece are the squares of its ray on the board. -/
theorem mem_evaluated_iff_onRay : candidate ∈ position.evaluated none mover home ↔
    ∃ count target, position.OnRay home step count target ∧
      candidate = ⟨target, judgeSlide jumps.toNat eatOnlyOnLast mover.side
        (position.screens home step count) (position.pieceAt target)⟩ := by
  rw [mem_evaluated_of_slides slides reaches]
  constructor
  · intro given
    obtain ⟨path, repeats, inside, rfl⟩ := given
    obtain ⟨count, positive, _, rfl⟩ := Notation.mem_repetitions.mp repeats
    rw [Path.destination_repeated] at inside
    obtain ⟨target, exact, there⟩ := Square.contains_along_iff.mp inside
    have ray : position.OnRay home step count target := ⟨positive, exact, there⟩
    refine ⟨count, target, ray, ?_⟩
    rw [ray.destination_eq, settle_of_onRay slides bounded here moving ray]
  · intro given
    obtain ⟨count, target, ray, rfl⟩ := given
    refine ⟨_, ray.repeated_mem here moving, ?_, ?_⟩
    · rw [ray.destination_eq]
      exact ray.inside
    · rw [ray.destination_eq, settle_of_onRay slides bounded here moving ray]

theorem mem_targets_iff_onRay {counts : Validity → Bool} :
    target ∈ Reach.targets (position.evaluated none mover home) counts ↔
      ∃ count, position.OnRay home step count target ∧
        counts (judgeSlide jumps.toNat eatOnlyOnLast mover.side
          (position.screens home step count) (position.pieceAt target)) = true := by
  have evaluated : ∀ {candidate}, candidate ∈ position.evaluated none mover home ↔ _ :=
    mem_evaluated_iff_onRay slides reaches bounded here moving
  rw [Reach.mem_targets]
  constructor
  · intro given
    obtain ⟨candidate, member, counted, rfl⟩ := given
    obtain ⟨count, target, ray, rfl⟩ := evaluated.mp member
    exact ⟨count, ray, counted⟩
  · intro given
    obtain ⟨count, ray, counted⟩ := given
    exact ⟨_, evaluated.mpr ⟨count, target, ray, rfl⟩, counted, rfl⟩

end Slides

/-!
## Landing and threatening
-/

def Holds (position : Position) (owner : Side) (square : Square) : Prop :=
  ∃ piece, position.pieceAt square = some piece ∧ piece.side = owner

/-- A slide over a number of pieces may end on a square: on an empty one or on an opposing piece
that is not royal. Without the word for captures behind the last piece, an empty square needs
exactly the given number of jumps and a capture at most that number; with it, an empty square needs
fewer and a capture exactly that number. -/
def SlideLands (position : Position) (side : Side) (jumps : Nat) (eatOnlyOnLast : Bool)
    (screens : Nat) (target : Square) : Prop :=
  match eatOnlyOnLast with
  | false =>
    position.pieceAt target = none ∧ screens = jumps ∨
      (position.Holds side.opponent target ∧ ¬ position.HoldsRoyal side.opponent target) ∧
        screens ≤ jumps
  | true =>
    position.pieceAt target = none ∧ screens < jumps ∨
      (position.Holds side.opponent target ∧ ¬ position.HoldsRoyal side.opponent target) ∧
        screens = jumps

/-- A slide over a number of pieces threatens a square. Without the word for captures behind the
last piece these are the squares on which it may end, the own pieces and the opposing royal pieces
being no obstacle; with it these are all squares behind exactly the given number of pieces. -/
def SlideThreatens (position : Position) (side : Side) (jumps : Nat) (eatOnlyOnLast : Bool)
    (screens : Nat) (target : Square) : Prop :=
  match eatOnlyOnLast with
  | false =>
    position.SlideLands side jumps false screens target ∨
      (position.Holds side target ∨ position.HoldsRoyal side.opponent target) ∧ screens ≤ jumps
  | true => screens = jumps

section Landing

variable {side : Side} {jumps screens : Nat} {eatOnlyOnLast : Bool} {occupant : Piece}

theorem isLegal_judgeSlide_none :
    Reach.isLegal (judgeSlide jumps eatOnlyOnLast side screens none) = true ↔
      if eatOnlyOnLast then screens < jumps else screens = jumps := by
  unfold judgeSlide
  cases eatOnlyOnLast <;> grind [Reach.isLegal]

theorem isLegal_judgeSlide_some :
    Reach.isLegal (judgeSlide jumps eatOnlyOnLast side screens (some occupant)) = true ↔
      (occupant.side ≠ side ∧ occupant.isRoyal = false) ∧
        if eatOnlyOnLast then screens = jumps else screens ≤ jumps := by
  unfold judgeSlide
  cases eatOnlyOnLast <;> grind [Reach.isLegal]

theorem isThreat_judgeSlide_none :
    Reach.isThreat (judgeSlide jumps eatOnlyOnLast side screens none) = true ↔
      screens = jumps := by
  unfold judgeSlide
  cases eatOnlyOnLast <;> grind [Reach.isThreat]

theorem isThreat_judgeSlide_some :
    Reach.isThreat (judgeSlide jumps eatOnlyOnLast side screens (some occupant)) = true ↔
      if eatOnlyOnLast then screens = jumps else screens ≤ jumps := by
  unfold judgeSlide
  cases eatOnlyOnLast <;> grind [Reach.isThreat]

theorem isLegal_judgeSlide_iff :
    Reach.isLegal (judgeSlide jumps eatOnlyOnLast side screens (position.pieceAt target)) = true ↔
      position.SlideLands side jumps eatOnlyOnLast screens target := by
  cases standing : position.pieceAt target with
  | none =>
    rw [isLegal_judgeSlide_none]
    cases eatOnlyOnLast <;> simp [SlideLands, Holds, standing]
  | some occupant =>
    have opposing := @Side.eq_opponent_iff side occupant.side
    rw [isLegal_judgeSlide_some]
    cases eatOnlyOnLast <;> grind [SlideLands, Holds, HoldsRoyal]

theorem isThreat_judgeSlide_iff :
    Reach.isThreat (judgeSlide jumps eatOnlyOnLast side screens (position.pieceAt target)) = true ↔
      position.SlideThreatens side jumps eatOnlyOnLast screens target := by
  cases standing : position.pieceAt target with
  | none =>
    rw [isThreat_judgeSlide_none]
    cases eatOnlyOnLast <;> simp [SlideThreatens, SlideLands, Holds, HoldsRoyal, standing]
  | some occupant =>
    have opposing := @Side.eq_opponent_iff side occupant.side
    rw [isThreat_judgeSlide_some]
    cases eatOnlyOnLast <;> grind [SlideThreatens, SlideLands, Holds, HoldsRoyal]

end Landing

end Position

namespace Board

theorem bounded_position (board : Board) : board.position.Bounded := by
  intro square occupied
  obtain ⟨piece, standing⟩ := Option.isSome_iff_exists.mp occupied
  exact (stands_iff.mpr standing).1

/-- What generation gives for a piece that slides by a step, under any jump rule. A square on the
ray is legal or threatened by the number of pieces strictly between and by the piece on it; the
piece threatens a royal piece exactly if an opposing one stands on a threatened square. Every
square of the board on the ray is the destination of a path of the expanded line, and what the path
passes are the pieces between and the one on the square, as exact numbers. -/
theorem sliding_moves (board : Board) {home : Square} {piece : Piece}
    (standing : board.pieceAt home = some piece) {step : Offset} {jumps : UInt32}
    {eatOnlyOnLast : Bool} (slides : piece.template.Slides board.dims step jumps eatOnlyOnLast)
    (reaches : board.dims.WithinReach step) (moving : step ≠ ⟨0, 0⟩) :
    let position := board.position
    ∃ moves, position.moves? home = some moves ∧
      (∀ target, target ∈ moves.legal ↔ ∃ count, position.OnRay home step count target ∧
        position.SlideLands piece.side jumps.toNat eatOnlyOnLast
          (position.screens home step count) target) ∧
      (∀ target, target ∈ moves.threatened ↔ ∃ count, position.OnRay home step count target ∧
        position.SlideThreatens piece.side jumps.toNat eatOnlyOnLast
          (position.screens home step count) target) ∧
      (moves.threatensRoyal = true ↔
        ∃ target ∈ moves.threatened, position.HoldsRoyal piece.side.opponent target) ∧
      ∀ count target, position.OnRay home step count target →
        Path.repeated step count ∈ Notation.repetitions position.dims step ∧
        (Path.repeated step count).destination home = target ∧
        (position.passed home (Path.repeated step count) home).toNat =
          position.screens home step count + if position.isOccupied target then 1 else 0 := by
  intro position
  have here : position.dims.Contains home := (stands_iff.mpr standing).1
  have bounded : position.Bounded := board.bounded_position
  have targets : ∀ {counts : Validity → Bool} {target : Square},
      target ∈ Reach.targets (position.evaluated none piece home) counts ↔ _ :=
    Position.mem_targets_iff_onRay slides reaches bounded here moving
  refine ⟨(position.reachFrom none piece home).moves, ?generated, ?legal, ?threatened, ?royal,
    ?exact⟩
  case generated => rw [Position.moves?, Position.reach?_of_pieceAt standing, Option.map_some]
  case legal =>
    intro target
    rw [Position.reachFrom_eq_ofCandidates]
    exact targets.trans (exists_congr fun _ => and_congr_right fun _ =>
      Position.isLegal_judgeSlide_iff)
  case threatened =>
    intro target
    rw [Position.reachFrom_eq_ofCandidates]
    exact targets.trans (exists_congr fun _ => and_congr_right fun _ =>
      Position.isThreat_judgeSlide_iff)
  case royal => exact Position.threatensRoyal_reachFrom_iff
  case exact =>
    intro count target ray
    refine ⟨ray.repeated_mem here moving, ray.destination_eq, ?_⟩
    exact ray.toNat_passed bounded here moving

end Board

namespace Miniature

def cannon : Template where
  name := "cannon"
  weight := 3
  royal := false
  textures := ⟨"red", "black"⟩
  patterns := [⟨⟨"cannon", defaultTerrain, .standard, .both⟩, Notation.repetitions ⟨1, 6⟩ ⟨0, 1⟩⟩]
  rules := ⟨[.finalTerrain .all, .jump 1 true, .encounter .nothing []], by decide⟩

/-- A column with a red cannon, a red rook in its way and a black rook behind it. -/
def column : Board :=
  [(⟨0, 0⟩, ⟨cannon, .red⟩), (⟨0, 2⟩, ⟨rook, .red⟩), (⟨0, 4⟩, ⟨rook, .black⟩)].foldl
    (fun current placed => current.put placed.1 (some ⟨placed.2, Moves.none⟩))
    (Board.empty ⟨1, 6⟩)

theorem cannon_slides : cannon.Slides column.dims ⟨0, 1⟩ 1 true where
  patterns := ⟨⟨⟨∅, ∅, ⟨1, 6⟩⟩, some⟩, by decide, by decide +kernel⟩
  jump := by decide
  rules := by simp [cannon]

end Miniature

namespace Board

/-- The cannon may move up to its screen and take the rook behind it, and it threatens the empty
square between these two. -/
theorem sliding_moves_miniature :
    ∃ moves, Miniature.column.position.moves? ⟨0, 0⟩ = some moves ∧
      ⟨0, 1⟩ ∈ moves.legal ∧ ⟨0, 4⟩ ∈ moves.legal ∧ ⟨0, 3⟩ ∈ moves.threatened := by
  have pieces : Miniature.column.pieceAt ⟨0, 0⟩ = some ⟨Miniature.cannon, .red⟩ ∧
      Miniature.column.position.pieceAt ⟨0, 1⟩ = none ∧
      Miniature.column.position.pieceAt ⟨0, 4⟩ = some ⟨Miniature.rook, .black⟩ := by
    decide +kernel
  obtain ⟨standing, vacant, captured⟩ := pieces
  obtain ⟨moves, generated, legal, threatened, _⟩ := sliding_moves Miniature.column standing
    Miniature.cannon_slides (by decide) (by decide)
  have ray : ∀ count target, 0 < count → (⟨0, 0⟩ : Square).ahead? ⟨0, 1⟩ count = some target →
      Miniature.column.dims.Contains target →
      Miniature.column.position.OnRay ⟨0, 0⟩ ⟨0, 1⟩ count target :=
    fun _ _ positive exact inside => ⟨positive, exact, inside⟩
  have common : ¬ Miniature.column.position.HoldsRoyal .black ⟨0, 4⟩ := by
    rw [Position.holdsRoyal_iff captured]
    decide
  refine ⟨moves, generated, (legal _).mpr ⟨1, ray _ _ (by decide) (by decide) (by decide), ?_⟩,
    (legal _).mpr ⟨4, ray _ _ (by decide) (by decide) (by decide), ?_⟩,
    (threatened _).mpr ⟨3, ray _ _ (by decide) (by decide) (by decide), ?_⟩⟩
  · exact Or.inl ⟨vacant, by decide +kernel⟩
  · exact Or.inr ⟨⟨⟨_, captured, rfl⟩, common⟩, by decide +kernel⟩
  · show Miniature.column.position.screens ⟨0, 0⟩ ⟨0, 1⟩ 3 = 1
    decide +kernel

end Board

end TerrainChess

import TerrainChess.Proofs.Generation

/-!
# Tiers of movements

What a piece reaches is described without the order in which its movements are
tried. The patterns that apply are those of the terrain under the piece, or the
default ones if there are none; the standard tier always counts, and the alternate
tier counts if the standard tier has no legal move: `Position.isReference_reachFrom`.
-/

set_option autoImplicit false

namespace TerrainChess

namespace Template

/-- A pattern that a side uses on a terrain: one for that terrain, or one for the default terrain
if the side has no pattern for the terrain at all. -/
def Selects (template : Template) (side : Side) (terrain : String) (pattern : MovementPattern) :
    Prop :=
  pattern ∈ template.patterns ∧ pattern.appliesTo side = true ∧
    (pattern.tag.terrain = terrain ∨ pattern.tag.terrain = defaultTerrain ∧
      ∀ other ∈ template.patterns, other.appliesTo side = true → other.tag.terrain ≠ terrain)

theorem mem_patternsOn {template : Template} {side : Side} {terrain : String}
    {pattern : MovementPattern} :
    pattern ∈ template.patternsOn side terrain ↔ template.Selects side terrain pattern := by
  have undeclared : ((template.patternsFor side).filter
        (fun pattern => decide (pattern.tag.terrain = terrain))).isEmpty = true ↔
      ∀ other ∈ template.patterns, other.appliesTo side = true → other.tag.terrain ≠ terrain := by
    simp only [List.isEmpty_iff, List.filter_eq_nil_iff, patternsFor, List.mem_filter,
      decide_eq_true_eq, and_imp, ne_eq]
  unfold patternsOn Selects
  dsimp only
  split
  · next missing =>
    have absent := undeclared.mp missing
    simp only [patternsFor, MovementTag.isDefaultTerrain, List.mem_filter, decide_eq_true_eq,
      and_assoc]
    refine and_congr_right (fun member => and_congr_right (fun applies => ?_))
    exact ⟨fun anywhere => Or.inr ⟨anywhere, absent⟩,
      fun given => (given.resolve_left (absent pattern member applies)).1⟩
  · next declared =>
    simp only [patternsFor, List.mem_filter, decide_eq_true_eq, and_assoc]
    refine and_congr_right (fun _ => and_congr_right (fun _ => ?_))
    exact ⟨Or.inl, fun given => given.resolve_right
      (fun fallback => declared (undeclared.mpr fallback.2))⟩

end Template

namespace Position

def Yields (position : Position) (zone : Option SquareSet) (mover : Piece) (home : Square)
    (tier : Tier) (target : Square) (validity : Validity) : Prop :=
  ∃ pattern, mover.template.Selects mover.side ((position.terrainAt home).getD defaultTerrain)
      pattern ∧ pattern.tag.specification.inTier tier = true ∧
    ∃ path ∈ pattern.paths, path.destination home = target ∧ position.dims.Contains target ∧
      position.settle zone mover target (position.classify mover home path) = validity

/-- The squares to which the movements of a tier lead that are in one of some classes. -/
def Lands (position : Position) (zone : Option SquareSet) (mover : Piece) (home : Square)
    (tier : Tier) (counts : Validity → Bool) (target : Square) : Prop :=
  ∃ validity, position.Yields zone mover home tier target validity ∧ counts validity = true

def MovesStandard (position : Position) (zone : Option SquareSet) (mover : Piece)
    (home : Square) : Prop :=
  ∃ target, position.Lands zone mover home .standard Reach.isLegal target

def Counts (position : Position) (zone : Option SquareSet) (mover : Piece) (home : Square) :
    Tier → Prop
  | .standard => True
  | .alternate => ¬ position.MovesStandard zone mover home

/-- What a piece reaches, said by tiers. -/
structure IsReference (position : Position) (zone : Option SquareSet) (mover : Piece)
    (home : Square) (reach : Reach) : Prop where
  legal_of_standard : position.MovesStandard zone mover home → ∀ target,
    target ∈ reach.moves.legal ↔ position.Lands zone mover home .standard Reach.isLegal target
  legal_of_alternate : ¬ position.MovesStandard zone mover home → ∀ target,
    target ∈ reach.moves.legal ↔ position.Lands zone mover home .alternate Reach.isLegal target
  threatened : ∀ target, target ∈ reach.moves.threatened ↔ ∃ tier,
    position.Counts zone mover home tier ∧ position.Lands zone mover home tier Reach.isThreat target
  threatensRoyal : reach.moves.threatensRoyal = true ↔ ∃ tier target,
    position.Counts zone mover home tier ∧ position.Yields zone mover home tier target .check
  covered : ∀ target, target ∈ reach.covered ↔ ∃ tier,
    position.Counts zone mover home tier ∧ position.Lands zone mover home tier Reach.isCover target

variable {position : Position} {zone : Option SquareSet} {mover : Piece} {home target : Square}
  {tier : Tier} {validity : Validity} {counts : Validity → Bool}

theorem yields_iff_mem_candidates :
    position.Yields zone mover home tier target validity ↔
      (⟨target, validity⟩ : Candidate) ∈ position.candidates zone mover home
        (mover.template.patternsOn mover.side ((position.terrainAt home).getD defaultTerrain))
        tier := by
  rw [mem_candidates, Yields]
  refine exists_congr (fun pattern => and_congr Template.mem_patternsOn.symm
    (and_congr_right (fun _ => exists_congr (fun path => and_congr_right (fun _ => ?_)))))
  constructor
  · intro given
    obtain ⟨rfl, inside, rfl⟩ := given
    exact ⟨inside, rfl⟩
  · intro given
    obtain ⟨inside, same⟩ := given
    cases same
    exact ⟨rfl, inside, rfl⟩

theorem lands_iff_mem_targets : position.Lands zone mover home tier counts target ↔
    target ∈ Reach.targets (position.candidates zone mover home
      (mover.template.patternsOn mover.side ((position.terrainAt home).getD defaultTerrain)) tier)
      counts := by
  rw [Reach.mem_targets, Lands]
  constructor
  · intro given
    obtain ⟨validity, yields, counted⟩ := given
    exact ⟨_, yields_iff_mem_candidates.mp yields, counted, rfl⟩
  · intro given
    obtain ⟨candidate, member, counted, rfl⟩ := given
    exact ⟨candidate.validity, yields_iff_mem_candidates.mpr member, counted⟩

theorem movesStandard_iff : position.MovesStandard zone mover home ↔
    (Reach.ofCandidates (position.candidates zone mover home
      (mover.template.patternsOn mover.side ((position.terrainAt home).getD defaultTerrain))
      .standard)).moves.legal.isEmpty = false := by
  rw [← Bool.not_eq_true, OrderedSet.isEmpty_iff, Classical.not_forall]
  exact exists_congr (fun target => lands_iff_mem_targets.trans Classical.not_not.symm)

instance (position : Position) (zone : Option SquareSet) (mover : Piece) (home : Square) :
    Decidable (position.MovesStandard zone mover home) := decidable_of_iff _ movesStandard_iff.symm

theorem mem_evaluated_iff_counts : (⟨target, validity⟩ : Candidate) ∈
      position.evaluated zone mover home ↔
    ∃ tier, position.Counts zone mover home tier ∧
      position.Yields zone mover home tier target validity := by
  have tiers : (∃ tier, position.Counts zone mover home tier ∧
        position.Yields zone mover home tier target validity) ↔
      position.Yields zone mover home .standard target validity ∨
        ¬ position.MovesStandard zone mover home ∧
          position.Yields zone mover home .alternate target validity := by
    constructor
    · rintro ⟨tier, counted, yields⟩
      cases tier with
      | standard => exact Or.inl yields
      | alternate => exact Or.inr ⟨counted, yields⟩
    · rintro (standard | ⟨stuck, alternate⟩)
      · exact ⟨.standard, trivial, standard⟩
      · exact ⟨.alternate, stuck, alternate⟩
  rw [tiers, yields_iff_mem_candidates, yields_iff_mem_candidates, movesStandard_iff,
    Bool.not_eq_false]
  unfold evaluated
  dsimp only
  split
  · next stuck => simp [stuck]
  · next free => simp [free]

theorem mem_targets_evaluated_iff_counts :
    target ∈ Reach.targets (position.evaluated zone mover home) counts ↔
      ∃ tier, position.Counts zone mover home tier ∧
        position.Lands zone mover home tier counts target := by
  rw [Reach.mem_targets]
  constructor
  · intro given
    obtain ⟨candidate, member, counted, rfl⟩ := given
    obtain ⟨tier, tried, yields⟩ := mem_evaluated_iff_counts.mp member
    exact ⟨tier, tried, candidate.validity, yields, counted⟩
  · intro given
    obtain ⟨tier, tried, validity, yields, counted⟩ := given
    exact ⟨_, mem_evaluated_iff_counts.mpr ⟨tier, tried, yields⟩, counted, rfl⟩

theorem threatensRoyal_reachFrom_iff_yields :
    (position.reachFrom zone mover home).moves.threatensRoyal = true ↔
      ∃ tier target, position.Counts zone mover home tier ∧
        position.Yields zone mover home tier target .check := by
  have flag : (position.reachFrom zone mover home).moves.threatensRoyal = true ↔
      ∃ candidate ∈ position.evaluated zone mover home, candidate.validity = .check := by
    simp [reachFrom_eq_ofCandidates, Reach.ofCandidates]
  rw [flag, exists_comm]
  constructor
  · rintro ⟨⟨target, validity⟩, member, rfl⟩
    exact ⟨target, mem_evaluated_iff_counts.mp member⟩
  · rintro ⟨target, given⟩
    exact ⟨_, mem_evaluated_iff_counts.mpr given, rfl⟩

/-- Generation gives what the tiers say. -/
theorem isReference_reachFrom (zone : Option SquareSet) (mover : Piece) (home : Square) :
    position.IsReference zone mover home (position.reachFrom zone mover home) := by
  have targets : ∀ {counts target}, target ∈ Reach.targets (position.evaluated zone mover home)
        counts ↔ ∃ tier, position.Counts zone mover home tier ∧
          position.Lands zone mover home tier counts target :=
    mem_targets_evaluated_iff_counts
  rw [reachFrom_eq_ofCandidates]
  refine
    { legal_of_standard := ?_
      legal_of_alternate := ?_
      threatened := fun _ => targets
      threatensRoyal := ?_
      covered := fun _ => targets }
  · intro moves target
    refine targets.trans ⟨?_, fun lands => ⟨.standard, trivial, lands⟩⟩
    rintro ⟨tier, counted, lands⟩
    cases tier with
    | standard => exact lands
    | alternate => exact absurd moves counted
  · intro stuck target
    refine targets.trans ⟨?_, fun lands => ⟨.alternate, stuck, lands⟩⟩
    rintro ⟨tier, counted, lands⟩
    cases tier with
    | standard => exact absurd ⟨target, lands⟩ stuck
    | alternate => exact lands
  · rw [← reachFrom_eq_ofCandidates]
    exact threatensRoyal_reachFrom_iff_yields

end Position

end TerrainChess

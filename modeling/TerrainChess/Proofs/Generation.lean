import TerrainChess.Proofs.Position

/-!
# What generation records

The moves of a piece are read through the candidates that are evaluated for it,
the report on a side through the squares of the generation order, and a board
after `generateSide` through its occupants: exactly the pieces of the generation
order have new moves.
-/

set_option autoImplicit false

namespace TerrainChess

namespace Reach

theorem mem_targets {candidates : List Candidate} {counts : Validity → Bool} {target : Square} :
    target ∈ targets candidates counts ↔
      ∃ candidate ∈ candidates, counts candidate.validity = true ∧ candidate.target = target := by
  unfold targets
  simp only [OrderedSet.mem_ofList, List.mem_map, List.mem_filter, and_assoc]

theorem isLegal_iff {validity : Validity} :
    isLegal validity = true ↔ validity = .moveOnly ∨ validity = .canCapture := by
  cases validity <;> simp [isLegal]

end Reach

namespace Position

variable {position : Position} {zone : Option SquareSet}

/-!
## The moves of one piece
-/

theorem mem_candidates {mover : Piece} {home : Square} {patterns : List MovementPattern}
    {tier : Tier} {candidate : Candidate} :
    candidate ∈ position.candidates zone mover home patterns tier ↔
      ∃ pattern ∈ patterns, pattern.tag.specification.inTier tier = true ∧
        ∃ path ∈ pattern.paths, position.dims.Contains (path.destination home) ∧
          candidate = ⟨path.destination home,
            position.settle zone mover (path.destination home)
              (position.classify mover home path)⟩ := by
  unfold candidates
  simp only [List.mem_filterMap, List.mem_flatMap, List.mem_filter]
  constructor
  · intro given
    obtain ⟨path, ⟨pattern, ⟨member, counts⟩, here⟩, kept⟩ := given
    split at kept
    · next inside => exact ⟨pattern, member, counts, path, here, inside, (Option.some.inj kept).symm⟩
    · cases kept
  · intro given
    obtain ⟨pattern, member, counts, path, here, inside, rfl⟩ := given
    exact ⟨path, ⟨pattern, ⟨member, counts⟩, here⟩, if_pos inside⟩

/-- The candidates of the standard tier, and those of the alternate tier if no standard one is
legal. -/
def evaluated (position : Position) (zone : Option SquareSet) (mover : Piece) (home : Square) :
    List Candidate :=
  let terrain := (position.terrainAt home).getD defaultTerrain
  let patterns := mover.template.patternsOn mover.side terrain
  let standard := position.candidates zone mover home patterns .standard
  if (Reach.ofCandidates standard).moves.legal.isEmpty then
    standard ++ position.candidates zone mover home patterns .alternate
  else standard

theorem reachFrom_eq_ofCandidates (mover : Piece) (home : Square) :
    position.reachFrom zone mover home =
      Reach.ofCandidates (position.evaluated zone mover home) := by
  unfold reachFrom evaluated
  dsimp only
  split <;> rfl

/-- A path of the patterns for the terrain of the home is tried in the standard tier, and in the
alternate tier if no standard one is legal. -/
def Tries (position : Position) (zone : Option SquareSet) (mover : Piece) (home : Square)
    (path : Path) : Prop :=
  let terrain := (position.terrainAt home).getD defaultTerrain
  let patterns := mover.template.patternsOn mover.side terrain
  ∃ pattern ∈ patterns, path ∈ pattern.paths ∧
    (pattern.tag.specification.inTier .standard = true ∨
      pattern.tag.specification.inTier .alternate = true ∧
        (Reach.ofCandidates
          (position.candidates zone mover home patterns .standard)).moves.legal.isEmpty = true)

instance (position : Position) (zone : Option SquareSet) (mover : Piece) (home : Square)
    (path : Path) : Decidable (position.Tries zone mover home path) :=
  inferInstanceAs (Decidable (∃ pattern ∈ mover.template.patternsOn mover.side
    ((position.terrainAt home).getD defaultTerrain), _))

/-- Evaluation gives the class of every path that is tried and ends on the board. -/
theorem mem_evaluated {mover : Piece} {home : Square} {candidate : Candidate} :
    candidate ∈ position.evaluated zone mover home ↔
      ∃ path, position.Tries zone mover home path ∧
        position.dims.Contains (path.destination home) ∧
          candidate = ⟨path.destination home,
            position.settle zone mover (path.destination home)
              (position.classify mover home path)⟩ := by
  constructor
  · intro member
    unfold evaluated at member
    dsimp only at member
    split at member
    · next stuck =>
      rcases List.mem_append.mp member with standard | alternate
      · obtain ⟨pattern, given, counts, path, here, inside, same⟩ := mem_candidates.mp standard
        exact ⟨path, ⟨pattern, given, here, Or.inl counts⟩, inside, same⟩
      · obtain ⟨pattern, given, counts, path, here, inside, same⟩ := mem_candidates.mp alternate
        exact ⟨path, ⟨pattern, given, here, Or.inr ⟨counts, stuck⟩⟩, inside, same⟩
    · obtain ⟨pattern, given, counts, path, here, inside, same⟩ := mem_candidates.mp member
      exact ⟨path, ⟨pattern, given, here, Or.inl counts⟩, inside, same⟩
  · intro tried
    obtain ⟨path, ⟨pattern, given, here, tier⟩, inside, same⟩ := tried
    unfold evaluated
    dsimp only
    rcases tier with standard | ⟨alternate, stuck⟩
    · have member := mem_candidates.mpr ⟨pattern, given, standard, path, here, inside, same⟩
      split
      · exact List.mem_append_left _ member
      · exact member
    · rw [if_pos stuck]
      exact List.mem_append_right _
        (mem_candidates.mpr ⟨pattern, given, alternate, path, here, inside, same⟩)

theorem mem_targets_evaluated {mover : Piece} {home target : Square} {counts : Validity → Bool} :
    target ∈ Reach.targets (position.evaluated zone mover home) counts ↔
      ∃ path, position.Tries zone mover home path ∧ path.destination home = target ∧
        position.dims.Contains target ∧
        counts (position.settle zone mover target (position.classify mover home path)) = true := by
  refine Reach.mem_targets.trans ?_
  constructor
  · intro given
    obtain ⟨candidate, member, counted, rfl⟩ := given
    obtain ⟨path, tried, inside, rfl⟩ := mem_evaluated.mp member
    exact ⟨path, tried, rfl, inside, counted⟩
  · intro given
    obtain ⟨path, tried, rfl, inside, counted⟩ := given
    exact ⟨_, mem_evaluated.mpr ⟨path, tried, inside, rfl⟩, counted, rfl⟩

theorem mem_legal_reachFrom {mover : Piece} {home target : Square} :
    target ∈ (position.reachFrom zone mover home).moves.legal ↔
      ∃ path, position.Tries zone mover home path ∧ path.destination home = target ∧
        position.dims.Contains target ∧
        Reach.isLegal
          (position.settle zone mover target (position.classify mover home path)) = true := by
  rw [reachFrom_eq_ofCandidates]
  exact mem_targets_evaluated

theorem mem_covered_reachFrom {mover : Piece} {home target : Square} :
    target ∈ (position.reachFrom zone mover home).covered ↔
      ∃ path, position.Tries zone mover home path ∧ path.destination home = target ∧
        position.dims.Contains target ∧
        Reach.isCover
          (position.settle zone mover target (position.classify mover home path)) = true := by
  rw [reachFrom_eq_ofCandidates]
  exact mem_targets_evaluated

/-- A legal move follows a path to a square of the board on which its class is a move. -/
theorem exists_path_of_mem_legal {mover : Piece} {home target : Square}
    (legal : target ∈ (position.reachFrom zone mover home).moves.legal) :
    ∃ path : Path, path.destination home = target ∧ position.dims.Contains target ∧
      Reach.isLegal
        (position.settle zone mover target (position.classify mover home path)) = true := by
  obtain ⟨path, _, arrived, inside, counts⟩ := mem_legal_reachFrom.mp legal
  exact ⟨path, arrived, inside, counts⟩

theorem reachFrom_of_not_royal {mover : Piece} (common : mover.isRoyal = false) (home : Square) :
    position.reachFrom zone mover home = position.reachFrom none mover home := by
  have settled : ∀ target validity,
      position.settle zone mover target validity = position.settle none mover target validity := by
    intro target validity
    unfold settle
    rw [common]
    rfl
  unfold reachFrom candidates
  simp only [settled]

theorem reach?_eq_some_iff {square : Square} {reach : Reach} :
    position.reach? zone square = some reach ↔
      ∃ piece, position.pieceAt square = some piece ∧
        position.reachFrom zone piece square = reach := Option.map_eq_some_iff

theorem reach?_of_pieceAt {square : Square} {piece : Piece}
    (standing : position.pieceAt square = some piece) (zone : Option SquareSet) :
    position.reach? zone square = some (position.reachFrom zone piece square) := by
  rw [reach?, standing, Option.map_some]

/-!
## The report on a side
-/

theorem mem_reaches {side : Side} {reached : Square × Reach} :
    reached ∈ position.reaches side zone ↔
      reached.1 ∈ position.generationOrder side ∧
        position.reach? zone reached.1 = some reached.2 := by
  unfold reaches
  rw [List.mem_filterMap]
  constructor
  · intro given
    obtain ⟨square, member, kept⟩ := given
    obtain ⟨reach, found, rfl⟩ := Option.map_eq_some_iff.mp kept
    exact ⟨member, found⟩
  · intro given
    obtain ⟨member, found⟩ := given
    exact ⟨reached.1, member, by rw [found]; rfl⟩

theorem mem_covered_sideReport {side : Side} {target : Square} :
    target ∈ (position.sideReport side zone).covered ↔
      ∃ square ∈ position.generationOrder side, ∃ piece,
        position.pieceAt square = some piece ∧
          target ∈ (position.reachFrom zone piece square).covered := by
  simp only [sideReport, OrderedSet.mem_unions, List.mem_map]
  constructor
  · intro given
    obtain ⟨_, ⟨reached, member, rfl⟩, covers⟩ := given
    obtain ⟨ordered, found⟩ := mem_reaches.mp member
    obtain ⟨piece, standing, same⟩ := reach?_eq_some_iff.mp found
    exact ⟨reached.1, ordered, piece, standing, same ▸ covers⟩
  · intro given
    obtain ⟨square, ordered, piece, standing, covers⟩ := given
    have member : (square, position.reachFrom zone piece square) ∈ position.reaches side zone :=
      mem_reaches.mpr ⟨ordered, reach?_of_pieceAt standing zone⟩
    exact ⟨_, ⟨_, member, rfl⟩, covers⟩

theorem threatensRoyal_sideReport_iff {side : Side} :
    (position.sideReport side zone).threatensRoyal = true ↔
      ∃ square ∈ position.generationOrder side, ∃ piece,
        position.pieceAt square = some piece ∧
          (position.reachFrom zone piece square).moves.threatensRoyal = true := by
  simp only [sideReport, List.any_eq_true]
  constructor
  · intro given
    obtain ⟨reached, member, threat⟩ := given
    obtain ⟨ordered, found⟩ := mem_reaches.mp member
    obtain ⟨piece, standing, same⟩ := reach?_eq_some_iff.mp found
    exact ⟨reached.1, ordered, piece, standing, same ▸ threat⟩
  · intro given
    obtain ⟨square, ordered, piece, standing, threat⟩ := given
    have member : (square, position.reachFrom zone piece square) ∈ position.reaches side zone :=
      mem_reaches.mpr ⟨ordered, reach?_of_pieceAt standing zone⟩
    exact ⟨_, member, threat⟩

theorem threatensRoyal_iff {attacker : Side} :
    position.threatensRoyal attacker = true ↔
      ∃ square piece, position.Stands square piece ∧ piece.side = attacker ∧
        (position.reachFrom none piece square).moves.threatensRoyal = true := by
  simp only [threatensRoyal, List.any_eq_true, mem_piecesOf, Prod.exists, and_assoc]

/-- A threat that the report on a side names is found without generating the side. -/
theorem threatensRoyal_of_sideReport {side : Side}
    (threat : (position.sideReport side none).threatensRoyal = true) :
    position.threatensRoyal side = true := by
  obtain ⟨square, ordered, piece, standing, attacks⟩ := threatensRoyal_sideReport_iff.mp threat
  obtain ⟨other, stands, owned, _⟩ := mem_generationOrder.mp ordered
  have same : other = piece := Option.some.inj (stands.2.symm.trans standing)
  subst same
  exact threatensRoyal_iff.mpr ⟨square, other, stands, owned, attacks⟩

namespace SingleRoyal

variable {side : Side} (single : position.SingleRoyal side)

include single

private theorem exists_generated_iff {property : Square → Piece → Prop} :
    (∃ square ∈ position.generationOrder side, ∃ piece,
        position.pieceAt square = some piece ∧ property square piece) ↔
      ∃ square piece, position.Stands square piece ∧ piece.side = side ∧
        property square piece := by
  constructor
  · intro found
    obtain ⟨square, ordered, piece, standing, holds⟩ := found
    obtain ⟨other, stands, owned⟩ := single.mem_generationOrder_iff.mp ordered
    have same : other = piece := Option.some.inj (stands.2.symm.trans standing)
    subst same
    exact ⟨square, other, stands, owned, holds⟩
  · intro found
    obtain ⟨square, piece, stands, owned, holds⟩ := found
    have ordered := single.mem_generationOrder_iff.mpr ⟨piece, stands, owned⟩
    exact ⟨square, ordered, piece, stands.2, holds⟩

theorem mem_covered_sideReport_iff {target : Square} :
    target ∈ (position.sideReport side zone).covered ↔
      ∃ square piece, position.Stands square piece ∧ piece.side = side ∧
        target ∈ (position.reachFrom zone piece square).covered :=
  mem_covered_sideReport.trans single.exists_generated_iff

theorem threatensRoyal_sideReport_iff :
    (position.sideReport side zone).threatensRoyal = true ↔
      ∃ square piece, position.Stands square piece ∧ piece.side = side ∧
        (position.reachFrom zone piece square).moves.threatensRoyal = true :=
  Position.threatensRoyal_sideReport_iff.trans single.exists_generated_iff

/-- The two ways to find a threat to the royal piece agree. -/
theorem threatensRoyal_sideReport :
    (position.sideReport side none).threatensRoyal = position.threatensRoyal side := by
  rw [Bool.eq_iff_iff, threatensRoyal_iff]
  exact single.threatensRoyal_sideReport_iff

end SingleRoyal

end Position

/-!
## The board after generation
-/

namespace Board

private theorem occupantAt_foldl_recordMoves {entries : List (Square × Reach)}
    {value : Square → Moves} (agree : ∀ entry ∈ entries, entry.2.moves = value entry.1)
    (board : Board) (square : Square) :
    (entries.foldl (fun current entry => current.recordMoves entry.1 entry.2.moves)
        board).occupantAt square =
      if square ∈ entries.map Prod.fst then
        (board.occupantAt square).map (fun occupant => { occupant with moves := value square })
      else board.occupantAt square := by
  induction entries generalizing board with
  | nil => rfl
  | cons entry rest ih =>
    rw [List.foldl_cons, ih (fun later member => agree later (List.mem_cons_of_mem _ member)),
      occupantAt_recordMoves, agree entry List.mem_cons_self]
    by_cases here : square = entry.1
    · subst here
      by_cases later : entry.1 ∈ rest.map Prod.fst
      · simp [later, Function.comp_def]
      · simp [later]
    · have squares : square ∈ (entry :: rest).map Prod.fst ↔ square ∈ rest.map Prod.fst := by
        rw [List.map_cons, List.mem_cons, or_iff_right here]
      simp only [if_neg here, squares]

private theorem position_foldl_recordMoves (entries : List (Square × Reach)) (board : Board) :
    (entries.foldl (fun current entry => current.recordMoves entry.1 entry.2.moves)
        board).position = board.position := by
  induction entries generalizing board with
  | nil => rfl
  | cons entry rest ih => rw [List.foldl_cons, ih, position_recordMoves]

/-- Generation changes nothing that the rules of movement see. -/
theorem position_generateSide (board : Board) (side : Side) (zone : Option SquareSet) :
    (board.generateSide side zone).1.position = board.position :=
  position_foldl_recordMoves _ board

/-- Exactly the pieces of the generation order have new moves. -/
theorem occupantAt_generateSide (board : Board) (side : Side) (zone : Option SquareSet)
    (square : Square) :
    (board.generateSide side zone).1.occupantAt square =
      if square ∈ board.position.generationOrder side then
        (board.occupantAt square).map (fun occupant =>
          { occupant with moves := (board.position.reachFrom zone occupant.piece square).moves })
      else board.occupantAt square := by
  let value := fun square : Square =>
    ((board.position.reach? zone square).map Reach.moves).getD Moves.none
  have agree : ∀ entry ∈ board.position.reaches side zone, entry.2.moves = value entry.1 := by
    intro entry member
    simp only [value, (Position.mem_reaches.mp member).2, Option.map_some, Option.getD_some]
  have squares : square ∈ (board.position.reaches side zone).map Prod.fst ↔
      square ∈ board.position.generationOrder side := by
    rw [List.mem_map]
    constructor
    · intro given
      obtain ⟨entry, member, rfl⟩ := given
      exact (Position.mem_reaches.mp member).1
    · intro ordered
      obtain ⟨piece, stands, _⟩ := Position.mem_generationOrder.mp ordered
      have found := Position.reach?_of_pieceAt stands.2 zone
      exact ⟨(square, _), Position.mem_reaches.mpr ⟨ordered, found⟩, rfl⟩
  refine (occupantAt_foldl_recordMoves agree board square).trans ?_
  simp only [squares]
  split
  · cases standing : board.occupantAt square with
    | none => rfl
    | some occupant =>
      have found : board.position.pieceAt square = some occupant.piece := by
        show (board.occupantAt square).map Occupant.piece = some occupant.piece
        rw [standing]
        rfl
      simp only [Option.map_some, value, Position.reach?, found, Option.getD_some]
  · rfl

end Board

end TerrainChess

import TerrainChess.Proofs.Intrusion
import TerrainChess.Proofs.MoverSafety

/-!
# Captures into the hostile zone

A royal piece may not capture its way onto a square that the opponent covers. The
zone is generated with the royal piece still on its old square, so that a covering
movement can be gone once the royal piece has moved: `Board.zone_prunes_safe_moves`
lists the ways in which that happens. A covering movement that the departure leaves
as it is gives check on the new square, and then the zone takes no safe move away:
`Board.zone_prunes_unsafe_moves`.
-/

set_option autoImplicit false

namespace TerrainChess

namespace Position

variable {position : Position} {zone : Option SquareSet} {squares : SquareSet}
  {mover guard royal : Piece} {home start target : Square} {path : Path} {validity : Validity}

/-!
## The zone and the moves of a piece
-/

/-- All that a hostile zone does is to refuse captures by a royal piece. -/
theorem settle_some : position.settle (some squares) mover target validity =
    if position.settle none mover target validity = .canCapture ∧ mover.isRoyal = true ∧
        target ∈ squares then .notValid
    else position.settle none mover target validity := by
  unfold settle
  by_cases captures : validity = .canCapture
  · cases position.pieceAt target with
    | none => by_cases hostile : target ∈ squares <;> simp [captures, hostile]
    | some occupant =>
      by_cases faces : occupant.side ≠ mover.side ∧ occupant.isRoyal = true
      · simp [captures, faces]
      · by_cases hostile : target ∈ squares <;> simp [captures, faces, hostile]
  · simp [captures]

theorem isCover_of_settle
    (covers : Reach.isCover (position.settle zone mover target validity) = true) :
    Reach.isCover validity = true := by
  by_cases captures : validity = .canCapture
  · rw [captures]
    rfl
  · simpa [settle, captures] using covers

theorem isLegal_settle_none
    (legal : Reach.isLegal (position.settle (some squares) mover target validity) = true) :
    Reach.isLegal (position.settle none mover target validity) = true := by
  rw [settle_some] at legal
  split at legal
  · cases legal
  · exact legal

/-- A hostile zone keeps no path from being tried. -/
theorem Tries.of_none (tried : position.Tries none mover home path) :
    position.Tries (some squares) mover home path := by
  obtain ⟨pattern, selected, member, standard | ⟨alternate, stuck⟩⟩ := tried
  · exact ⟨pattern, selected, member, Or.inl standard⟩
  · refine ⟨pattern, selected, member, Or.inr ⟨alternate, ?_⟩⟩
    rw [OrderedSet.isEmpty_iff] at stuck ⊢
    intro target legal
    obtain ⟨candidate, evaluated, counts, rfl⟩ := Reach.mem_targets.mp legal
    obtain ⟨other, given, tier, way, here, inside, rfl⟩ := mem_candidates.mp evaluated
    exact stuck (way.destination home) (Reach.mem_targets.mpr
      ⟨_, mem_candidates.mpr ⟨other, given, tier, way, here, inside, rfl⟩,
        isLegal_settle_none counts, rfl⟩)

/-!
## Covering movements
-/

structure Covers (position : Position) (guard : Piece) (home : Square) (path : Path) : Prop where
  stands : position.Stands home guard
  tried : position.Tries none guard home path
  inside : position.dims.Contains (path.destination home)
  covers : Reach.isCover (position.settle none guard (path.destination home)
    (position.classify guard home path)) = true

def CoveredBy (position : Position) (side : Side) (target : Square) : Prop :=
  ∃ home guard path, guard.side = side ∧ position.Covers guard home path ∧
    path.destination home = target

theorem SingleRoyals.mem_hostileZone (single : position.SingleRoyals) {us : Side} :
    target ∈ position.hostileZone us ↔ position.CoveredBy us.opponent target := by
  refine (single.ofSide us.opponent).mem_covered_sideReport_iff.trans ?_
  constructor
  · intro given
    obtain ⟨home, guard, stands, owned, covered⟩ := given
    obtain ⟨path, tried, rfl, inside, covers⟩ := mem_covered_reachFrom.mp covered
    exact ⟨home, guard, path, owned, ⟨stands, tried, inside, covers⟩, rfl⟩
  · intro given
    obtain ⟨home, guard, path, owned, covering, rfl⟩ := given
    exact ⟨home, guard, covering.stands, owned, mem_covered_reachFrom.mpr
      ⟨path, covering.tried, rfl, covering.inside, covering.covers⟩⟩

/-- A covering movement that stays as it is when the piece on a start goes to the target: what it
looks at is elsewhere, and it is still tried. -/
structure CoversSteadily (position : Position) (start : Square) (guard : Piece) (home : Square)
    (path : Path) : Prop extends position.Covers guard home path where
  approaches : guard.Approaches home path
  unconcerned : Unconcerned start guard home path
  retried : (position.move start (path.destination home)).Tries none guard home path

def SteadilyCoveredBy (position : Position) (side : Side) (start target : Square) : Prop :=
  ∃ home guard path, guard.side = side ∧ position.CoversSteadily start guard home path ∧
    path.destination home = target

theorem arrival_of_move (standing : position.pieceAt start = some royal) :
    position.Arrival (position.move start target) start target royal where
  dims := rfl
  terrain := rfl
  arrived := by rw [pieceAt_move, if_pos rfl, standing]
  elsewhere := by
    intro square apart
    rw [pieceAt_move, if_neg apart]

/-- A royal piece that goes to the target of such a movement is in check there. -/
theorem CoversSteadily.threatensRoyal (steady : position.CoversSteadily start guard home path)
    (standing : position.pieceAt start = some royal) (owned : royal.side = guard.side.opponent)
    (crowned : royal.isRoyal = true) :
    (position.move start (path.destination home)).threatensRoyal guard.side = true := by
  have arrival : position.Arrival (position.move start (path.destination home)) start
      (path.destination home) royal := arrival_of_move standing
  have checks := arrival.settle_classify steady.approaches steady.unconcerned owned crowned
    (isCover_of_settle steady.covers) none
  have apart : home ≠ start := by
    intro same
    subst same
    obtain rfl := Option.some.inj (standing.symm.trans steady.stands.2)
    exact Side.opponent_ne royal.side owned.symm
  have stays : (position.move start (path.destination home)).Stands home guard := by
    refine ⟨steady.stands.1, ?_⟩
    rw [pieceAt_move, if_neg steady.approaches.apart.symm, if_neg apart]
    exact steady.stands.2
  refine threatensRoyal_iff.mpr ⟨home, guard, stays, rfl, threatensRoyal_reachFrom_iff.mpr ?_⟩
  refine ⟨path.destination home, mem_threatened_reachFrom.mpr ?_, royal, arrival.arrived, owned,
    crowned⟩
  refine ⟨_, mem_evaluated.mpr ⟨path, steady.retried, steady.inside, rfl⟩, ?_, rfl⟩
  rw [checks]
  rfl

theorem isSelfCheckAfter_of_threatensRoyal (standing : position.pieceAt start = some mover)
    (threat : (position.move start target).threatensRoyal mover.side.opponent = true) :
    position.isSelfCheckAfter start target = true := by
  rw [isSelfCheckAfter, Bool.not_eq_true', Bool.eq_false_iff]
  intro safe
  have unthreatened := (isSafeFor_iff.mp (isSafeFor_move_of_isSafeMove standing safe)).1
  rw [threat] at unthreatened
  cases unthreatened

theorem SteadilyCoveredBy.isSelfCheckAfter
    (covered : position.SteadilyCoveredBy royal.side.opponent start target)
    (standing : position.pieceAt start = some royal) (crowned : royal.isRoyal = true) :
    position.isSelfCheckAfter start target = true := by
  obtain ⟨home, guard, path, owned, steady, rfl⟩ := covered
  refine isSelfCheckAfter_of_threatensRoyal standing ?_
  rw [← owned]
  refine steady.threatensRoyal standing ?_ crowned
  rw [owned, Side.opponent_opponent]

/-!
## Pruned captures
-/

/-- A path of the patterns for the terrain of a royal piece by which it would capture, were its
target not in the hostile zone. -/
structure Prunes (position : Position) (squares : SquareSet) (royal : Piece) (start : Square)
    (path : Path) : Prop where
  selected : ∃ pattern ∈ royal.template.patternsOn royal.side
    ((position.terrainAt start).getD defaultTerrain), path ∈ pattern.paths
  inside : position.dims.Contains (path.destination start)
  hostile : path.destination start ∈ squares
  captures : position.settle none royal (path.destination start)
    (position.classify royal start path) = .canCapture

instance (position : Position) (squares : SquareSet) (royal : Piece) (start : Square)
    (path : Path) : Decidable (position.Prunes squares royal start path) :=
  decidable_of_iff ((∃ pattern ∈ royal.template.patternsOn royal.side
      ((position.terrainAt start).getD defaultTerrain), path ∈ pattern.paths) ∧
    position.dims.Contains (path.destination start) ∧ path.destination start ∈ squares ∧
    position.settle none royal (path.destination start) (position.classify royal start path) =
      .canCapture)
    ⟨fun given => ⟨given.1, given.2.1, given.2.2.1, given.2.2.2⟩,
      fun pruned => ⟨pruned.selected, pruned.inside, pruned.hostile, pruned.captures⟩⟩

theorem mem_legal_of_not_prunes
    (legal : target ∈ (position.reachFrom none mover start).moves.legal)
    (unpruned : ∀ path, path.destination start = target →
      ¬ position.Prunes squares mover start path) :
    target ∈ (position.reachFrom (some squares) mover start).moves.legal := by
  obtain ⟨path, tried, rfl, inside, counts⟩ := mem_legal_reachFrom.mp legal
  refine mem_legal_reachFrom.mpr ⟨path, tried.of_none, rfl, inside, ?_⟩
  rw [settle_some, if_neg ?_]
  · exact counts
  · intro refused
    obtain ⟨pattern, selected, member, _⟩ := tried
    exact unpruned path rfl ⟨⟨pattern, selected, member⟩, inside, refused.2.2, refused.1⟩

end Position

namespace Match

/-- A match does not end at its start if a piece of the side to move has a safe move that the zone
leaves. -/
theorem outcome_start_eq_none {board : Board} {start target : Square} {piece : Piece}
    (single : board.position.SingleRoyals) (standing : board.pieceAt start = some piece)
    (legal : target ∈ (board.position.reachFrom
      (some (board.position.hostileZone piece.side)) piece start).moves.legal)
    (safe : board.position.isSelfCheckAfter start target = false) :
    (Match.start board piece.side).outcome = none := by
  have stands := Board.stands_iff.mpr standing
  have free : board.position.isStuck piece.side ≠ true := by
    intro stuck
    have empty := Position.isStuck_iff.mp stuck start piece stands rfl
    rw [single.turnMoves_of_own stands rfl, OrderedSet.isEmpty_iff] at empty
    refine empty target (OrderedSet.mem_filter.mpr ⟨legal, ?_⟩)
    rwa [Position.isSelfCheckAfter, Bool.not_eq_false'] at safe
  have mover : (Match.start board piece.side).sideToMove = piece.side := sideToMove_refresh _
  rw [(settled_start board piece.side).outcome, position_start, mover, Position.verdict,
    if_neg free]

end Match

namespace Miniature

def prince : Template where
  name := "prince"
  weight := 1
  royal := true
  textures := ⟨"red", "black"⟩
  patterns := [⟨⟨"prince", defaultTerrain, .standard, .both⟩, [Path.single ⟨0, 1⟩]⟩]
  rules := RuleSet.defaults

def hunter (standard alternate : List Path) (declared : RuleSet) : Template where
  name := "hunter"
  weight := 1
  royal := false
  textures := ⟨"red", "black"⟩
  patterns := [⟨⟨"hunter", defaultTerrain, .standard, .both⟩, standard⟩,
    ⟨⟨"hunter", defaultTerrain, .alternate, .both⟩, alternate⟩]
  rules := declared.complete

def hunt (home : Square) (hunter : Template) (others : List (Square × Piece)) : Board :=
  ((⟨0, 1⟩, ⟨prince, .red⟩) :: (home, ⟨hunter, .black⟩) :: others).foldl
    (fun current placed => current.put placed.1 (some ⟨placed.2, Moves.none⟩))
    (Board.empty ⟨2, 3⟩)

def shuns (name : String) (steps : List Offset) : Rule :=
  .encounter (.listed (OrderedSet.ofList [name])) [⟨.both, ⟨steps⟩⟩]

def princeIsScreen : Board :=
  hunt ⟨0, 0⟩ (hunter [⟨[⟨0, 1⟩, ⟨0, 1⟩]⟩] [] ⟨[.jump 1 true], by decide⟩) []

def princeHidesCannon : Board :=
  hunt ⟨1, 2⟩ (hunter [⟨[⟨-1, 0⟩]⟩] [] ⟨[shuns "cannon" [⟨0, -1⟩, ⟨0, -1⟩]], by decide⟩)
    [(⟨0, 0⟩, ⟨cannon, .red⟩)]

def princeBlocksStandardMove : Board :=
  hunt ⟨1, 1⟩ (hunter [⟨[⟨-1, 0⟩]⟩] [⟨[⟨-1, 1⟩]⟩] .empty) []

def hunterComesBack : Board := hunt ⟨0, 2⟩ (hunter [⟨[⟨0, 1⟩, ⟨0, -1⟩]⟩] [] .empty) []

def hunterVisitsTwice : Board :=
  hunt ⟨1, 2⟩ (hunter [⟨[⟨-1, 0⟩, ⟨0, 1⟩, ⟨0, -1⟩]⟩] [] .empty) []

def hunterShunsPrince : Board :=
  hunt ⟨1, 2⟩ (hunter [⟨[⟨-1, 0⟩]⟩] [] ⟨[shuns "prince" [⟨1, 0⟩, ⟨-1, 0⟩]], by decide⟩) []

/-- Boards on which the hunter covers the square in front of the prince, and no longer covers it
once the prince is there. -/
def hunts : List Board :=
  [princeIsScreen, princeHidesCannon, princeBlocksStandardMove, hunterComesBack, hunterVisitsTwice,
    hunterShunsPrince]

end Miniature

namespace Board

/-- A royal piece has a capture that is pruned by the zone of the opponent, and that would be safe
by the judgement of the position after it. -/
def PrunesSafeMove (board : Board) (royal : Piece) (start : Square) (path : Path) : Prop :=
  board.position.SingleRoyals ∧ board.pieceAt start = some royal ∧ royal.isRoyal = true ∧
    board.position.Prunes (board.generateSide royal.side.opponent none).2.covered royal start
      path ∧
    board.position.isSelfCheckAfter start (path.destination start) = false

instance (board : Board) (royal : Piece) (start : Square) (path : Path) :
    Decidable (board.PrunesSafeMove royal start path) :=
  inferInstanceAs (Decidable (_ ∧ _))

/-- The zone takes a safe move away, and with it the last one. -/
theorem zone_prunes_safe_moves : Miniature.hunts.Forall (fun board =>
    board.PrunesSafeMove ⟨Miniature.prince, .red⟩ ⟨0, 1⟩ (Path.single ⟨0, 1⟩) ∧
      (Match.start board .red).outcome.isSome = true) := by
  decide +kernel

/-- A capture that the zone takes from a royal piece ends on a square that an opposing piece covers.
If some opposing piece covers it by a movement that the departure of the royal piece leaves as it
is, the look-ahead rejects the capture too. If this is so for every capture that is pruned, each
safe move of the royal piece stays legal, and the match does not end as long as there is one. -/
theorem zone_prunes_unsafe_moves (board : Board) (single : board.position.SingleRoyals)
    {start : Square} {royal : Piece} (standing : board.pieceAt start = some royal)
    (crowned : royal.isRoyal = true) :
    let position := board.position
    let zone := (board.generateSide royal.side.opponent none).2.covered
    (∀ path, position.Prunes zone royal start path →
      position.CoveredBy royal.side.opponent (path.destination start) ∧
      (position.SteadilyCoveredBy royal.side.opponent start (path.destination start) →
        position.isSelfCheckAfter start (path.destination start) = true)) ∧
    ((∀ path, position.Prunes zone royal start path →
        position.SteadilyCoveredBy royal.side.opponent start (path.destination start)) →
      ∀ target ∈ (position.reachFrom none royal start).moves.legal,
        position.isSelfCheckAfter start target = false →
          target ∈ (position.reachFrom (some zone) royal start).moves.legal ∧
            (Match.start board royal.side).outcome = none) := by
  intro position zone
  refine ⟨?_, ?_⟩
  · intro path pruned
    refine ⟨single.mem_hostileZone.mp pruned.hostile, ?_⟩
    intro covered
    exact covered.isSelfCheckAfter standing crowned
  · intro steady target legal safe
    have kept : target ∈ (position.reachFrom (some zone) royal start).moves.legal := by
      refine Position.mem_legal_of_not_prunes legal ?_
      intro path arrived pruned
      have rejected := (steady path pruned).isSelfCheckAfter standing crowned
      rw [arrived, safe] at rejected
      cases rejected
    exact ⟨kept, Match.outcome_start_eq_none single standing kept safe⟩

/-- The black rook looks down its column, into which the king must not capture. The king may step
to the other side. -/
theorem zone_prunes_unsafe_moves_miniature :
    let position := Miniature.board.position
    let zone := (Miniature.board.generateSide .black none).2.covered
    position.Prunes zone ⟨Miniature.king, .red⟩ ⟨1, 0⟩ (Path.single ⟨-1, 0⟩) ∧
      position.isSelfCheckAfter ⟨1, 0⟩ ⟨0, 0⟩ = true ∧
      ⟨2, 0⟩ ∈ (position.reachFrom (some zone) ⟨Miniature.king, .red⟩ ⟨1, 0⟩).moves.legal ∧
      (Match.start Miniature.board .red).outcome = none := by
  intro position zone
  have single : position.SingleRoyals := by decide +kernel
  have standing : Miniature.board.pieceAt ⟨1, 0⟩ = some ⟨Miniature.king, .red⟩ := by
    decide +kernel
  have pruned : position.Prunes zone ⟨Miniature.king, .red⟩ ⟨1, 0⟩ (Path.single ⟨-1, 0⟩) := by
    decide +kernel
  have covers : position.Covers ⟨Miniature.rook, .black⟩ ⟨0, 3⟩ (Path.repeated ⟨0, -1⟩ 3) :=
    ⟨by decide +kernel, by decide +kernel, by decide, by decide +kernel⟩
  have steady : position.SteadilyCoveredBy .black ⟨1, 0⟩ ⟨0, 0⟩ :=
    ⟨⟨0, 3⟩, ⟨Miniature.rook, .black⟩, Path.repeated ⟨0, -1⟩ 3, rfl,
      { toCovers := covers
        approaches := ⟨by decide, by decide, by decide, by decide⟩
        unconcerned := ⟨by decide, fun _ _ => by decide⟩
        retried := by decide +kernel }, by decide⟩
  obtain ⟨rejects, keeps⟩ := zone_prunes_unsafe_moves Miniature.board single standing rfl
  have alone : ∀ pattern ∈ Miniature.king.patternsOn .red
      ((position.terrainAt ⟨1, 0⟩).getD defaultTerrain), ∀ path ∈ pattern.paths,
      position.Prunes zone ⟨Miniature.king, .red⟩ ⟨1, 0⟩ path →
        path.destination ⟨1, 0⟩ = ⟨0, 0⟩ := by
    decide +kernel
  have allSteady : ∀ path, position.Prunes zone ⟨Miniature.king, .red⟩ ⟨1, 0⟩ path →
      position.SteadilyCoveredBy .black ⟨1, 0⟩ (path.destination ⟨1, 0⟩) := by
    intro path given
    obtain ⟨pattern, selected, member⟩ := given.selected
    rw [alone pattern selected path member given]
    exact steady
  have safe : ⟨2, 0⟩ ∈ (position.reachFrom none ⟨Miniature.king, .red⟩ ⟨1, 0⟩).moves.legal ∧
      position.isSelfCheckAfter ⟨1, 0⟩ ⟨2, 0⟩ = false := by
    decide +kernel
  exact ⟨pruned, (rejects _ pruned).2 steady, keeps allSteady _ safe.1 safe.2⟩

end Board

end TerrainChess

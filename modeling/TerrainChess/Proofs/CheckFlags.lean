import TerrainChess.Proofs.HostileZone
import TerrainChess.Proofs.Tiers

/-!
# Flags of check after a move

The side that has moved is out of check, and no movement of the opponent that is
tried without a hostile zone threatens its royal piece. The moves recorded for the
opponent are generated with a zone, which may take all legal standard moves from
the royal piece of the opponent and so switch on its alternate tier. The flags
that are set come from there and from nowhere else: `Match.check_flags_of_run`.
-/

set_option autoImplicit false

namespace TerrainChess

namespace Position

variable {position : Position} {squares : SquareSet} {mover : Piece} {home target : Square}
  {tier : Tier}

/-- A zone takes all legal standard moves from a piece, of which an alternate movement then gives
check. -/
structure ChecksByFallback (position : Position) (squares : SquareSet) (mover : Piece)
    (home : Square) : Prop where
  movable : position.MovesStandard none mover home
  stuck : ¬ position.MovesStandard (some squares) mover home
  checks : ∃ target, position.Yields (some squares) mover home .alternate target .check

/-- A zone changes captures only, and so no movement gives check because of it. -/
theorem yields_check_some_iff :
    position.Yields (some squares) mover home tier target .check ↔
      position.Yields none mover home tier target .check := by
  have same : ∀ validity, position.settle (some squares) mover target validity = .check ↔
      position.settle none mover target validity = .check := by
    intro validity
    rw [settle_some]
    split
    · next pruned => simp [pruned.1]
    · rfl
  simp only [Yields, same]

/-- A piece that threatens no royal piece does so with a zone exactly by the fallback to its
alternate tier. -/
theorem threatensRoyal_some_iff
    (harmless : (position.reachFrom none mover home).moves.threatensRoyal = false) :
    (position.reachFrom (some squares) mover home).moves.threatensRoyal = true ↔
      position.ChecksByFallback squares mover home := by
  have unyielded : ∀ tier target, position.Counts none mover home tier →
      ¬ position.Yields none mover home tier target .check := by
    intro tier target counted yields
    have threat := threatensRoyal_reachFrom_iff_yields.mpr ⟨tier, target, counted, yields⟩
    rw [harmless] at threat
    cases threat
  rw [threatensRoyal_reachFrom_iff_yields]
  constructor
  · rintro ⟨tier, target, counted, yields⟩
    have plain := yields_check_some_iff.mp yields
    cases tier with
    | standard => exact absurd plain (unyielded .standard target trivial)
    | alternate =>
      refine ⟨?_, counted, target, yields⟩
      by_contra immovable
      exact unyielded .alternate target immovable plain
  · intro fallback
    obtain ⟨target, yields⟩ := fallback.checks
    exact ⟨.alternate, target, fallback.stuck, yields⟩

theorem threatensRoyal_some_iff_of_royal
    (harmless : (position.reachFrom none mover home).moves.threatensRoyal = false) :
    (position.reachFrom (some squares) mover home).moves.threatensRoyal = true ↔
      mover.isRoyal = true ∧ position.ChecksByFallback squares mover home := by
  rw [threatensRoyal_some_iff harmless, iff_and_self]
  intro fallback
  by_contra common
  have flagged := (threatensRoyal_some_iff harmless).mpr fallback
  rw [reachFrom_of_not_royal (Bool.eq_false_iff.mpr common), harmless] at flagged
  cases flagged

end Position

namespace Match

theorem isSafeFor_run (board : Board) (first : Side) (calls : List (Square × Square))
    (played : ((start board first).run calls).history ≠ []) :
    ((start board first).run calls).board.position.isSafeFor
      ((start board first).run calls).sideToMove.opponent = true := by
  refine Settled.run_invariant
    (fun game => game.history ≠ [] →
      game.board.position.isSafeFor game.sideToMove.opponent = true)
    ?_ (settled_start board first) ?_ calls played
  · intro game next start target record settled _ accepted _
    rw [sideToMove_of_play accepted, Side.opponent_opponent]
    exact settled.isSafeFor_of_play accepted
  · intro begun
    exact absurd (history_refresh _) begun

end Match

namespace Miniature

def regent : Template where
  name := "regent"
  weight := 1
  royal := true
  textures := ⟨"red", "black"⟩
  patterns := [⟨⟨"regent", defaultTerrain, .standard, .only .red⟩, [Path.single ⟨0, 1⟩]⟩,
    ⟨⟨"regent", defaultTerrain, .standard, .only .black⟩, [Path.single ⟨0, -1⟩]⟩,
    ⟨⟨"regent", defaultTerrain, .alternate, .both⟩, [Path.single ⟨1, 0⟩]⟩]
  rules := RuleSet.defaults

def regency : Board :=
  let guard := hunter [Path.single ⟨0, -1⟩] [] .empty
  [(⟨0, 0⟩, ⟨regent, .red⟩), (⟨2, 2⟩, ⟨guard, .red⟩), (⟨1, 1⟩, ⟨regent, .black⟩),
    (⟨0, 2⟩, ⟨guard, .black⟩)].foldl
      (fun current placed => current.put placed.1 (some ⟨placed.2, Moves.none⟩))
      (Board.empty ⟨3, 3⟩)

def intrusion : Match := (Match.start regency .black).run [(⟨1, 1⟩, ⟨1, 0⟩)]

theorem occupantAt_intrusion : intrusion.board.occupantAt ⟨0, 0⟩ =
    some ⟨⟨regent, .red⟩, ⟨∅, OrderedSet.ofList [⟨1, 0⟩], true⟩⟩ := by
  decide +kernel

end Miniature

namespace Match

/-- The red regent is recorded with a threat to the black one although black, which has just moved,
is out of check. -/
theorem check_flag_of_intrusion :
    Miniature.regency.position.SingleRoyals ∧ Miniature.intrusion.history ≠ [] ∧
      Miniature.intrusion.inCheck.get Miniature.intrusion.sideToMove.opponent = false ∧
      ∃ occupant, Miniature.intrusion.board.occupantAt ⟨0, 0⟩ = some occupant ∧
        occupant.piece.side = Miniature.intrusion.sideToMove ∧
        occupant.moves.threatensRoyal = true :=
  ⟨by decide +kernel, by decide +kernel, by decide +kernel, _, Miniature.occupantAt_intrusion,
    by decide +kernel, rfl⟩

/-- In every state of a match after an accepted move, the side that has moved is out of check, and
the side to move generated without a zone threatens no royal piece. With the zone that the opponent
covers, exactly those of its royal pieces are flagged from which the zone takes all legal standard
moves and of which an alternate movement then gives check. -/
theorem check_flags_of_run (board : Board) (single : board.position.SingleRoyals) (first : Side)
    (calls : List (Square × Square))
    (played : ((start board first).run calls).history ≠ []) :
    let game := (start board first).run calls
    let position := game.board.position
    let us := game.sideToMove
    let zone := (game.board.generateSide us.opponent none).2.covered
    game.inCheck.get us.opponent = false ∧
      (game.board.generateSide us none).2.threatensRoyal = false ∧
      (∀ square occupant, game.board.occupantAt square = some occupant →
        occupant.piece.side = us →
          (occupant.moves.threatensRoyal = true ↔ occupant.piece.isRoyal = true ∧
            position.ChecksByFallback zone occupant.piece square)) ∧
      ((game.board.generateSide us (some zone)).2.threatensRoyal = true ↔
        ∃ square royal, position.Stands square royal ∧ royal.side = us ∧
          royal.isRoyal = true ∧ position.ChecksByFallback zone royal square) := by
  intro game position us zone
  have settled : game.Settled := settled_run board first calls
  have alone : position.SingleRoyals := singleRoyals_run single first calls
  have unthreatened : position.threatensRoyal us = false := by
    have safe := (Position.isSafeFor_iff.mp (isSafeFor_run board first calls played)).1
    rwa [Side.opponent_opponent] at safe
  have harmless : ∀ square piece, position.Stands square piece → piece.side = us →
      (position.reachFrom none piece square).moves.threatensRoyal = false := by
    intro square piece stands owned
    refine Bool.eq_false_iff.mpr (fun threat => ?_)
    have found := Position.threatensRoyal_iff.mpr ⟨square, piece, stands, owned, threat⟩
    rw [unthreatened] at found
    cases found
  refine ⟨settled.waiting, ?_, ?_, ?_⟩
  · exact (alone.ofSide us).threatensRoyal_sideReport.trans unthreatened
  · intro square occupant standing owned
    have stands := Board.stands_of_occupantAt standing
    have recorded : occupant.moves.threatensRoyal =
        (position.reachFrom (some zone) occupant.piece square).moves.threatensRoyal := by
      rw [settled.moves_eq standing, alone.turnMoves_of_own stands owned]
      rfl
    rw [recorded]
    exact Position.threatensRoyal_some_iff_of_royal (harmless square _ stands owned)
  · refine (alone.ofSide us).threatensRoyal_sideReport_iff.trans
      (exists_congr (fun square => exists_congr (fun piece => ?_)))
    constructor
    · rintro ⟨stands, owned, threat⟩
      exact ⟨stands, owned,
        (Position.threatensRoyal_some_iff_of_royal (harmless square piece stands owned)).mp threat⟩
    · rintro ⟨stands, owned, fallback⟩
      exact ⟨stands, owned, (Position.threatensRoyal_some_iff_of_royal
        (harmless square piece stands owned)).mpr fallback⟩

/-- The black hunter takes the step forward from the red regent. -/
theorem check_flags_of_run_intrusion :
    let zone := (Miniature.intrusion.board.generateSide .black none).2.covered
    Miniature.intrusion.history ≠ [] ∧ Miniature.intrusion.inCheck.get .black = false ∧
      (Miniature.intrusion.board.generateSide .red none).2.threatensRoyal = false ∧
      (Miniature.intrusion.board.generateSide .red (some zone)).2.threatensRoyal = true ∧
      Miniature.intrusion.board.position.ChecksByFallback zone ⟨Miniature.regent, .red⟩ ⟨0, 0⟩ := by
  intro zone
  have single : Miniature.regency.position.SingleRoyals := by decide +kernel
  have played : Miniature.intrusion.history ≠ [] := by decide +kernel
  have standing := Miniature.occupantAt_intrusion
  obtain ⟨unchecked, unthreatened, flags, report⟩ :=
    check_flags_of_run Miniature.regency single .black [(⟨1, 1⟩, ⟨1, 0⟩)] played
  have fallback := ((flags ⟨0, 0⟩ _ standing rfl).mp rfl).2
  exact ⟨played, unchecked, unthreatened,
    report.mpr ⟨⟨0, 0⟩, _, Board.stands_of_occupantAt standing, rfl, rfl, fallback⟩, fallback⟩

end Match

end TerrainChess

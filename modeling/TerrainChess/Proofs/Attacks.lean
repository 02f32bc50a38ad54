import TerrainChess.Proofs.Destination
import TerrainChess.Proofs.Run

/-!
# Attacks on royal pieces

A threat to a square is a check exactly if an opposing royal piece stands there,
by any rules, in either jump mode and in either tier. The flags, the threatened
squares and the covered squares that generation leaves behind are therefore
accounts of one thing: `Board.generateSide_accounts`.
-/

set_option autoImplicit false

namespace TerrainChess

/-!
## Jumps to an occupied square
-/

section Jump

variable {jumps passed : UInt32} {eatOnlyOnLast : Bool} {side : Side}

theorem judgeJump_of_opposing_royal {royal : Piece} (opposing : royal.side ≠ side)
    (crowned : royal.isRoyal = true) :
    judgeJump jumps eatOnlyOnLast side passed (some royal) = .notValid ∨
      judgeJump jumps eatOnlyOnLast side passed (some royal) = .canCapture ∨
      judgeJump jumps eatOnlyOnLast side passed (some royal) = .check := by
  unfold judgeJump
  simp only [opposing, crowned, if_true, if_false]
  split <;> split <;> simp

theorem judgeJump_eq_check {occupant : Option Piece}
    (gives : judgeJump jumps eatOnlyOnLast side passed occupant = .check) :
    ∃ royal, occupant = some royal ∧ royal.side ≠ side ∧ royal.isRoyal = true := by
  cases occupant with
  | none =>
    unfold judgeJump at gives
    dsimp only at gives
    repeat' split at gives
    all_goals cases gives
  | some piece =>
    unfold judgeJump at gives
    dsimp only at gives
    repeat' split at gives
    any_goals cases gives
    next opposing crowned => exact ⟨piece, rfl, opposing, crowned⟩

end Jump

namespace Position

def HoldsRoyal (position : Position) (owner : Side) (square : Square) : Prop :=
  ∃ royal, position.pieceAt square = some royal ∧ royal.side = owner ∧ royal.isRoyal = true

theorem holdsRoyal_iff {position : Position} {owner : Side} {square : Square} {piece : Piece}
    (standing : position.pieceAt square = some piece) :
    position.HoldsRoyal owner square ↔ piece.side = owner ∧ piece.isRoyal = true := by
  simp [HoldsRoyal, standing]

variable {position : Position} {zone : Option SquareSet} {mover : Piece} {home target : Square}
  {path : Path}

/-!
## One movement
-/

theorem classify_of_holdsRoyal
    (royal : position.HoldsRoyal mover.side.opponent (path.destination home)) :
    position.classify mover home path = .notValid ∨
      position.classify mover home path = .canCapture ∨
      position.classify mover home path = .check := by
  obtain ⟨king, standing, owned, crowned⟩ := royal
  have opposing : king.side ≠ mover.side := owned ▸ Side.opponent_ne mover.side
  refine classify_of_judgeJump
    (fun validity => validity = .notValid ∨ validity = .canCapture ∨ validity = .check)
    (by simp) (by simp) ?_
  intro jumps eatOnlyOnLast
  rw [standing]
  exact judgeJump_of_opposing_royal opposing crowned

theorem classify_ne_check
    (noRoyal : ¬ position.HoldsRoyal mover.side.opponent (path.destination home)) :
    position.classify mover home path ≠ .check := by
  refine classify_of_judgeJump (fun validity => validity ≠ .check) (by simp) (by simp) ?_
  intro jumps eatOnlyOnLast gives
  obtain ⟨royal, standing, opposing, crowned⟩ := judgeJump_eq_check gives
  exact noRoyal ⟨royal, standing, Side.eq_opponent_iff.mpr opposing, crowned⟩

theorem settle_of_holdsRoyal (royal : position.HoldsRoyal mover.side.opponent target)
    (validity : Validity) : position.settle zone mover target validity =
      if validity = .canCapture then .check else validity := by
  obtain ⟨king, standing, owned, crowned⟩ := royal
  simp [settle, standing, owned, crowned, Side.opponent_ne]

theorem settle_of_not_holdsRoyal (noRoyal : ¬ position.HoldsRoyal mover.side.opponent target)
    (validity : Validity) : position.settle zone mover target validity = .notValid ∨
      position.settle zone mover target validity = validity := by
  have faces : ∀ piece, position.pieceAt target = some piece → piece.side ≠ mover.side →
      piece.isRoyal = false := by
    intro piece standing opposing
    rw [holdsRoyal_iff standing] at noRoyal
    have owned := Side.eq_opponent_iff.mpr opposing
    simpa [owned] using noRoyal
  by_cases captures : validity = .canCapture
  · subst captures
    cases standing : position.pieceAt target with
    | none =>
      simp only [settle, standing, if_true, Bool.false_eq_true, if_false]
      repeat' split
      all_goals simp
    | some piece =>
      have unfaced : (decide (piece.side ≠ mover.side) && piece.isRoyal) = false := by
        by_cases opposing : piece.side ≠ mover.side
        · simp [faces piece standing opposing]
        · simp [opposing]
      simp only [settle, standing, unfaced, if_true, Bool.false_eq_true, if_false]
      repeat' split
      all_goals simp
  · exact Or.inr (by simp [settle, captures])

/-- A movement gives check exactly if it threatens a square with an opposing royal piece. -/
theorem settled_eq_check_iff :
    position.settle zone mover (path.destination home) (position.classify mover home path) =
        .check ↔
      Reach.isThreat (position.settle zone mover (path.destination home)
          (position.classify mover home path)) = true ∧
        position.HoldsRoyal mover.side.opponent (path.destination home) := by
  constructor
  · intro gives
    refine ⟨by simp [gives, Reach.isThreat], ?_⟩
    by_contra noRoyal
    rcases settle_of_not_holdsRoyal noRoyal (position.classify mover home path) with
      refused | same
    · rw [refused] at gives
      cases gives
    · exact classify_ne_check noRoyal (same ▸ gives)
  · intro given
    obtain ⟨threat, royal⟩ := given
    rw [settle_of_holdsRoyal royal] at threat ⊢
    rcases classify_of_holdsRoyal royal with refused | captures | gives
    · simp [refused, Reach.isThreat] at threat
    · simp [captures]
    · simp [gives]

end Position

theorem Reach.isCover_iff {validity : Validity} :
    isCover validity = true ↔ isThreat validity = true ∧ validity ≠ .check := by
  cases validity <;> simp [isCover, isThreat]

namespace Position

variable {position : Position} {zone : Option SquareSet} {mover : Piece} {home target : Square}

/-!
## One piece
-/

theorem mem_threatened_reachFrom :
    target ∈ (position.reachFrom zone mover home).moves.threatened ↔
      ∃ candidate ∈ position.evaluated zone mover home,
        Reach.isThreat candidate.validity = true ∧ candidate.target = target := by
  rw [reachFrom_eq_ofCandidates]
  exact Reach.mem_targets

theorem eq_check_iff_of_mem_evaluated {candidate : Candidate}
    (member : candidate ∈ position.evaluated zone mover home) :
    candidate.validity = .check ↔ Reach.isThreat candidate.validity = true ∧
      position.HoldsRoyal mover.side.opponent candidate.target := by
  obtain ⟨path, _, _, rfl⟩ := mem_evaluated.mp member
  exact settled_eq_check_iff

theorem threatensRoyal_reachFrom_iff :
    (position.reachFrom zone mover home).moves.threatensRoyal = true ↔
      ∃ target ∈ (position.reachFrom zone mover home).moves.threatened,
        position.HoldsRoyal mover.side.opponent target := by
  have flag : (position.reachFrom zone mover home).moves.threatensRoyal = true ↔
      ∃ candidate ∈ position.evaluated zone mover home, candidate.validity = .check := by
    simp [reachFrom_eq_ofCandidates, Reach.ofCandidates]
  rw [flag]
  constructor
  · intro given
    obtain ⟨candidate, member, gives⟩ := given
    obtain ⟨threat, royal⟩ := (eq_check_iff_of_mem_evaluated member).mp gives
    exact ⟨candidate.target, mem_threatened_reachFrom.mpr ⟨candidate, member, threat, rfl⟩, royal⟩
  · intro given
    obtain ⟨target, threatened, royal⟩ := given
    obtain ⟨candidate, member, threat, rfl⟩ := mem_threatened_reachFrom.mp threatened
    exact ⟨candidate, member, (eq_check_iff_of_mem_evaluated member).mpr ⟨threat, royal⟩⟩

/-- A piece covers what it threatens but the squares with an opposing royal piece. -/
theorem mem_covered_reachFrom_iff :
    target ∈ (position.reachFrom zone mover home).covered ↔
      target ∈ (position.reachFrom zone mover home).moves.threatened ∧
        ¬ position.HoldsRoyal mover.side.opponent target := by
  have covers : target ∈ (position.reachFrom zone mover home).covered ↔
      ∃ candidate ∈ position.evaluated zone mover home,
        Reach.isCover candidate.validity = true ∧ candidate.target = target := by
    rw [reachFrom_eq_ofCandidates]
    exact Reach.mem_targets
  rw [covers, mem_threatened_reachFrom]
  constructor
  · intro given
    obtain ⟨candidate, member, cover, rfl⟩ := given
    obtain ⟨threat, noCheck⟩ := Reach.isCover_iff.mp cover
    refine ⟨⟨candidate, member, threat, rfl⟩, ?_⟩
    intro royal
    exact noCheck ((eq_check_iff_of_mem_evaluated member).mpr ⟨threat, royal⟩)
  · intro given
    obtain ⟨⟨candidate, member, threat, rfl⟩, noRoyal⟩ := given
    refine ⟨candidate, member, Reach.isCover_iff.mpr ⟨threat, ?_⟩, rfl⟩
    intro gives
    exact noRoyal ((eq_check_iff_of_mem_evaluated member).mp gives).2

end Position

namespace Board

/-!
## One side
-/

variable {board : Board} {side : Side} {zone : Option SquareSet} {square : Square}
  {occupant : Occupant}

theorem occupantAt_generateSide_of_other (other : occupant.piece.side ≠ side) :
    (board.generateSide side zone).1.occupantAt square = some occupant ↔
      board.occupantAt square = some occupant := by
  have skipped : ∀ standing, board.occupantAt square = some standing →
      standing.piece.side ≠ side → square ∉ board.position.generationOrder side := by
    intro standing found apart ordered
    obtain ⟨piece, again, owned, _⟩ := Position.mem_generationOrder.mp ordered
    exact apart ((stands_of_occupantAt found).unique again ▸ owned)
  rw [occupantAt_generateSide]
  cases found : board.occupantAt square with
  | none => simp
  | some standing =>
    constructor
    · intro given
      split at given
      · next ordered =>
        obtain rfl := Option.some.inj given
        exact absurd ordered (skipped standing found other)
      · exact given
    · intro given
      obtain rfl := Option.some.inj given
      rw [if_neg (skipped standing found other)]

/-- If the side has one royal piece at most, each of its pieces has the moves that generation gives
for its square. -/
theorem occupantAt_generateSide_of_own (single : board.position.SingleRoyal side) :
    (board.generateSide side zone).1.occupantAt square = some occupant ∧
        occupant.piece.side = side ↔
      board.position.Stands square occupant.piece ∧ occupant.piece.side = side ∧
        occupant.moves = (board.position.reachFrom zone occupant.piece square).moves := by
  rw [occupantAt_generateSide]
  constructor
  · intro given
    obtain ⟨recorded, owned⟩ := given
    split at recorded
    · obtain ⟨before, found, rfl⟩ := Option.map_eq_some_iff.mp recorded
      have stands : board.position.Stands square before.piece := stands_of_occupantAt found
      exact ⟨stands, owned, rfl⟩
    · next skipped =>
      have ordered := single.mem_generationOrder_iff.mpr
        ⟨occupant.piece, stands_of_occupantAt recorded, owned⟩
      exact absurd ordered skipped
  · intro given
    obtain ⟨stands, owned, recorded⟩ := given
    obtain ⟨before, found, same⟩ := Option.map_eq_some_iff.mp (stands_iff.mp stands)
    have ordered := single.mem_generationOrder_iff.mpr ⟨occupant.piece, stands, owned⟩
    rw [if_pos ordered, found, Option.map_some, same, ← recorded]
    exact ⟨rfl, owned⟩

private theorem exists_own_generateSide_iff (single : board.position.SingleRoyal side)
    (property : Moves → Prop) :
    (∃ square occupant, (board.generateSide side zone).1.occupantAt square = some occupant ∧
        occupant.piece.side = side ∧ property occupant.moves) ↔
      ∃ square piece, board.position.Stands square piece ∧ piece.side = side ∧
        property (board.position.reachFrom zone piece square).moves := by
  constructor
  · intro given
    obtain ⟨square, occupant, recorded, owned, holds⟩ := given
    obtain ⟨stands, _, same⟩ := (occupantAt_generateSide_of_own single).mp ⟨recorded, owned⟩
    exact ⟨square, occupant.piece, stands, owned, same ▸ holds⟩
  · intro given
    obtain ⟨square, piece, stands, owned, holds⟩ := given
    let occupant : Occupant := ⟨piece, (board.position.reachFrom zone piece square).moves⟩
    have recorded := (occupantAt_generateSide_of_own single).mpr
      (show board.position.Stands square occupant.piece ∧ _ from ⟨stands, owned, rfl⟩)
    exact ⟨square, occupant, recorded.1, owned, holds⟩

/-- A board after generation for a side with one royal piece at most: nothing that the rules of
movement see has changed, and neither have the records of the other side; each piece of the side
has what generation gives for its square, its flag says whether it threatens a square with an
opposing royal piece, and the report is the disjunction of these flags and the union of the
threatened squares without those of the opposing royal pieces. -/
theorem generateSide_accounts (board : Board) (side : Side) (zone : Option SquareSet)
    (single : board.position.SingleRoyal side) :
    let after := (board.generateSide side zone).1
    let report := (board.generateSide side zone).2
    after.position = board.position ∧
    (∀ square occupant, occupant.piece.side ≠ side →
      (after.occupantAt square = some occupant ↔ board.occupantAt square = some occupant)) ∧
    (∀ square occupant, after.occupantAt square = some occupant → occupant.piece.side = side →
      (∃ reach, board.position.reach? zone square = some reach ∧ occupant.moves = reach.moves) ∧
      (occupant.moves.threatensRoyal = true ↔ ∃ target ∈ occupant.moves.threatened,
        board.position.HoldsRoyal side.opponent target)) ∧
    (report.threatensRoyal = true ↔ ∃ square occupant, after.occupantAt square = some occupant ∧
      occupant.piece.side = side ∧ occupant.moves.threatensRoyal = true) ∧
    (∀ target, target ∈ report.covered ↔
      (∃ square occupant, after.occupantAt square = some occupant ∧
        occupant.piece.side = side ∧ target ∈ occupant.moves.threatened) ∧
      ¬ board.position.HoldsRoyal side.opponent target) ∧
    (board.generateSide side none).2.threatensRoyal = board.position.threatensRoyal side := by
  intro after report
  refine ⟨position_generateSide board side zone, ?others, ?own, ?flag, ?covered,
    single.threatensRoyal_sideReport⟩
  case others =>
    intro square occupant other
    exact occupantAt_generateSide_of_other other
  case own =>
    intro square occupant recorded owned
    obtain ⟨stands, rfl, same⟩ := (occupantAt_generateSide_of_own single).mp ⟨recorded, owned⟩
    refine ⟨⟨_, Position.reach?_of_pieceAt stands.2 zone, same⟩, ?_⟩
    rw [same]
    exact Position.threatensRoyal_reachFrom_iff
  case flag =>
    rw [exists_own_generateSide_iff single (fun moves => moves.threatensRoyal = true)]
    exact single.threatensRoyal_sideReport_iff
  case covered =>
    intro target
    rw [exists_own_generateSide_iff single (fun moves => target ∈ moves.threatened)]
    refine single.mem_covered_sideReport_iff.trans ?_
    constructor
    · intro given
      obtain ⟨square, piece, stands, rfl, covers⟩ := given
      obtain ⟨threatens, noRoyal⟩ := Position.mem_covered_reachFrom_iff.mp covers
      exact ⟨⟨square, piece, stands, rfl, threatens⟩, noRoyal⟩
    · intro given
      obtain ⟨⟨square, piece, stands, rfl, threatens⟩, noRoyal⟩ := given
      exact ⟨square, piece, stands, rfl, Position.mem_covered_reachFrom_iff.mpr
        ⟨threatens, noRoyal⟩⟩

/-- The red rook of the small board gives check to the black king: its flag says so, the report says
so, and the square of the king is the one that it threatens and does not cover. -/
theorem generateSide_accounts_miniature :
    let zone := some (OrderedSet.ofList [⟨0, 0⟩])
    let after := (Miniature.board.generateSide .red zone).1
    let report := (Miniature.board.generateSide .red zone).2
    Miniature.board.position.SingleRoyal .red ∧
    (∃ rook, after.occupantAt ⟨1, 1⟩ = some rook ∧ ⟨1, 3⟩ ∈ rook.moves.threatened ∧
      rook.moves.threatensRoyal = true) ∧
    report.threatensRoyal = true ∧ ⟨1, 3⟩ ∉ report.covered := by
  intro zone after report
  have single : Miniature.board.position.SingleRoyal .red := by decide +kernel
  obtain ⟨_, _, own, flag, covered, _⟩ := generateSide_accounts Miniature.board .red zone single
  have facts : (after.occupantAt ⟨1, 1⟩).any (fun rook =>
      decide (rook.piece.side = .red ∧ ⟨1, 3⟩ ∈ rook.moves.threatened)) = true ∧
      Miniature.board.position.pieceAt ⟨1, 3⟩ = some ⟨Miniature.king, .black⟩ := by
    decide +kernel
  obtain ⟨generated, standing⟩ := facts
  obtain ⟨rook, recorded, seen⟩ := (Option.any_eq_true _ _).mp generated
  obtain ⟨owned, threatened⟩ := of_decide_eq_true seen
  have royal : Miniature.board.position.HoldsRoyal .black ⟨1, 3⟩ := ⟨_, standing, rfl, rfl⟩
  have checks := (own ⟨1, 1⟩ rook recorded owned).2.mpr ⟨⟨1, 3⟩, threatened, royal⟩
  refine ⟨single, ⟨rook, recorded, threatened, checks⟩, ?_, ?_⟩
  · exact flag.mpr ⟨⟨1, 1⟩, rook, recorded, owned, checks⟩
  · intro covers
    exact ((covered ⟨1, 3⟩).mp covers).2 royal

end Board

end TerrainChess

import TerrainChess.Proofs.Declaration
import TerrainChess.Proofs.HostileZone

/-!
# Interchangeable templates

Two positions are alike if the pieces on each square are of one side and of equal
or interchangeable templates. Everything that generation does with a position
respects this relation, and so the order in which a piece type has been declared
does not matter to any move, zone or judgement of safety:
`Board.generation_exchange`.
-/

set_option autoImplicit false

namespace TerrainChess

structure Piece.Alike (left right : Piece) : Prop where
  side : left.side = right.side
  template : left.template = right.template ∨ left.template.Interchangeable right.template

namespace Piece.Alike

variable {left right : Piece}

theorem refl (piece : Piece) : piece.Alike piece := ⟨rfl, Or.inl rfl⟩

theorem symm (alike : left.Alike right) : right.Alike left := by
  refine ⟨alike.side.symm, ?_⟩
  rcases alike.template with same | interchangeable
  · exact Or.inl same.symm
  · exact Or.inr interchangeable.symm

theorem name_eq (alike : left.Alike right) : left.name = right.name := by
  rcases alike.template with same | interchangeable
  · exact congrArg Template.name same
  · exact interchangeable.name

theorem isRoyal_eq (alike : left.Alike right) : left.isRoyal = right.isRoyal := by
  rcases alike.template with same | interchangeable
  · exact congrArg Template.royal same
  · exact interchangeable.royal

theorem offers_iff (alike : left.Alike right) {terrain : String} {specification : Specification}
    {path : Path} : left.template.Offers left.side terrain specification path ↔
      right.template.Offers right.side terrain specification path := by
  rw [alike.side]
  rcases alike.template with same | interchangeable
  · rw [same]
  · exact interchangeable.offers_iff

end Piece.Alike

theorem judgeJump_congr {jumps passed : UInt32} {eatOnlyOnLast : Bool} {side : Side}
    {left right : Option Piece} (alike : Option.Rel Piece.Alike left right) :
    judgeJump jumps eatOnlyOnLast side passed left =
      judgeJump jumps eatOnlyOnLast side passed right := by
  cases alike with
  | some same => simp only [judgeJump, same.side, same.isRoyal_eq]
  | none => rfl

/-- What candidates amount to does not depend on their order. -/
theorem Reach.ofCandidates_congr {left right : List Candidate}
    (same : ∀ candidate, candidate ∈ left ↔ candidate ∈ right) :
    Reach.ofCandidates left = Reach.ofCandidates right := by
  have targets : ∀ counts, Reach.targets left counts = Reach.targets right counts := by
    intro counts
    refine OrderedSet.ext (fun target => ?_)
    simp only [Reach.mem_targets, same]
  have flags : left.any (fun candidate => decide (candidate.validity = .check)) =
      right.any (fun candidate => decide (candidate.validity = .check)) := by
    rw [Bool.eq_iff_iff, List.any_eq_true, List.any_eq_true]
    simp only [same]
  simp only [Reach.ofCandidates, targets, flags]

namespace Position

/-- The class of a movement is the answer of the one jump rule if the other rules pass it, and a
refusal if one of them does not: the order of the rules does not enter. -/
theorem classify_eq_ite {position : Position} {mover : Piece} {home : Square} {path : Path}
    {declared : Rule} (member : declared ∈ mover.template.rules.rules) (jump : declared.kind = .jump) :
    position.classify mover home path =
      if ∀ rule ∈ mover.template.rules.rules, rule.kind ≠ .jump →
        position.answer mover home path rule = .canCapture
      then position.answer mover home path declared
      else .notValid := by
  split
  · next passes =>
    cases declared with
    | jump jumps eatOnlyOnLast => exact classify_eq_judgeJump member passes
    | finalTerrain allowed => cases jump
    | encounter forbidden outlooks => cases jump
  · next refused =>
    by_contra valid
    exact refused (fun rule given noJump => answer_of_classify valid given noJump)

theorem yields_iff_offers {position : Position} {zone : Option SquareSet} {mover : Piece}
    {home target : Square} {tier : Tier} {validity : Validity} :
    position.Yields zone mover home tier target validity ↔ ∃ specification path,
      mover.template.Offers mover.side ((position.terrainAt home).getD defaultTerrain)
          specification path ∧
        specification.inTier tier = true ∧ path.destination home = target ∧
        position.dims.Contains target ∧
        position.settle zone mover target (position.classify mover home path) = validity := by
  constructor
  · rintro ⟨pattern, selected, counts, path, member, arrived, inside, same⟩
    exact ⟨_, path, ⟨pattern, selected, rfl, member⟩, counts, arrived, inside, same⟩
  · rintro ⟨_, path, ⟨pattern, selected, rfl, member⟩, counts, arrived, inside, same⟩
    exact ⟨pattern, selected, counts, path, member, arrived, inside, same⟩

/-- The pieces of which something holds, by the squares of the board. -/
theorem squares_of_pieces (position : Position) (keep : Piece → Bool) :
    (position.pieces.filter (fun placed => keep placed.2)).map Prod.fst =
      position.dims.squares.filter (fun square => (position.pieceAt square).any keep) := by
  unfold pieces
  induction position.dims.squares with
  | nil => rfl
  | cons square rest ih =>
    cases standing : position.pieceAt square with
    | none => simpa [standing] using ih
    | some piece =>
      cases kept : keep piece with
      | true => simpa [standing, kept] using ih
      | false => simpa [standing, kept] using ih

theorem roster_eq_filter (position : Position) (side : Side) : position.roster side =
    position.dims.squares.filter (fun square => (position.pieceAt square).any
      (fun piece => !piece.isRoyal && decide (piece.side = side))) := by
  rw [← squares_of_pieces, roster, piecesOf, List.filter_filter]

theorem royalSquare?_eq_head? (position : Position) (side : Side) : position.royalSquare? side =
    (position.dims.squares.filter (fun square => (position.pieceAt square).any
      (fun piece => piece.isRoyal && decide (piece.side = side)))).head? := by
  have crowned := position.squares_of_pieces
    (fun piece => piece.isRoyal && decide (piece.side = side))
  rw [royalSquare?, piecesOf, ← List.head?_filter, ← List.head?_map, List.filter_filter, crowned]

/-- Positions of the same terrain on which alike pieces stand on the same squares. -/
structure Alike (left right : Position) : Prop where
  dims : left.dims = right.dims
  terrainAt : left.terrainAt = right.terrainAt
  pieceAt : ∀ square, Option.Rel Piece.Alike (left.pieceAt square) (right.pieceAt square)

namespace Alike

variable {left right : Position} (alike : left.Alike right) {mover other : Piece}
  (movers : mover.Alike other) {home square : Square} {path : Path}

include alike

/-- Each square is free on both positions, or occupied by alike pieces. -/
theorem occupants (square : Square) :
    left.pieceAt square = none ∧ right.pieceAt square = none ∨
      ∃ piece counterpart, left.pieceAt square = some piece ∧
        right.pieceAt square = some counterpart ∧ piece.Alike counterpart := by
  have here := alike.pieceAt square
  generalize left.pieceAt square = occupant, right.pieceAt square = opposite at here ⊢
  cases here with
  | some same => exact Or.inr ⟨_, _, rfl, rfl, same⟩
  | none => exact Or.inl ⟨rfl, rfl⟩

theorem symm : right.Alike left where
  dims := alike.dims.symm
  terrainAt := alike.terrainAt.symm
  pieceAt := by
    intro square
    obtain ⟨free, freeToo⟩ | ⟨piece, counterpart, standing, opposite, same⟩ :=
      alike.occupants square
    · rw [free, freeToo]
      exact .none
    · rw [standing, opposite]
      exact .some same.symm

/-- A question to which alike pieces have the same answer has the same answer on each square. -/
theorem any_eq {keep : Piece → Bool}
    (respects : ∀ {piece counterpart : Piece}, piece.Alike counterpart →
      keep piece = keep counterpart) (square : Square) :
    (left.pieceAt square).any keep = (right.pieceAt square).any keep := by
  obtain ⟨free, freeToo⟩ | ⟨piece, counterpart, standing, opposite, same⟩ := alike.occupants square
  · rw [free, freeToo]
  · rw [standing, opposite]
    exact respects same

theorem isOccupied_eq (square : Square) : left.isOccupied square = right.isOccupied square := by
  obtain ⟨free, freeToo⟩ | ⟨piece, counterpart, standing, opposite, _⟩ := alike.occupants square
  · rw [isOccupied, isOccupied, free, freeToo]
  · rw [isOccupied, isOccupied, standing, opposite]
    rfl

/-!
## Judgements
-/

theorem passed_eq (start : Square) :
    left.passed home path start = right.passed home path start := by
  simp only [passed, alike.isOccupied_eq]

theorem firstMet_alike (squares : List Square) :
    Option.Rel Piece.Alike (left.firstMet home squares) (right.firstMet home squares) := by
  induction squares with
  | nil => exact .none
  | cons square rest ih =>
    rw [firstMet, firstMet, alike.dims]
    split
    · split
      · exact ih
      · obtain ⟨free, freeToo⟩ | ⟨piece, counterpart, standing, opposite, same⟩ :=
          alike.occupants square
        · rw [free, freeToo]
          exact ih
        · rw [standing, opposite]
          exact .some same
    · exact .none

theorem judgeTerrain_eq (allowed : Selector) :
    left.judgeTerrain allowed square = right.judgeTerrain allowed square := by
  unfold judgeTerrain
  rw [alike.terrainAt]

include movers

theorem sees_eq {names : OrderedSet String} {outlook : ScopedPath} :
    left.sees mover home names square outlook = right.sees other home names square outlook := by
  have met : Option.Rel Piece.Alike (left.firstMet home (outlook.path.walk square))
      (right.firstMet home (outlook.path.walk square)) := alike.firstMet_alike _
  rw [Bool.eq_iff_iff, sees_iff, sees_iff]
  generalize left.firstMet home (outlook.path.walk square) = seen,
    right.firstMet home (outlook.path.walk square) = counterpart at met ⊢
  cases met with
  | some same => simp [same.side, same.name_eq, movers.side]
  | none => simp

theorem judgeEncounter_eq {forbidden : Selector} {outlooks otherOutlooks : List ScopedPath}
    (same : ∀ outlook, outlook ∈ outlooks ↔ outlook ∈ otherOutlooks) :
    left.judgeEncounter mover home forbidden outlooks square =
      right.judgeEncounter other home forbidden otherOutlooks square := by
  cases forbidden with
  | all => rfl
  | nothing => rfl
  | listed names =>
    have refused : (outlooks.filter (fun outlook => outlook.side.admits mover.side)).any
          (left.sees mover home names square) =
        (otherOutlooks.filter (fun outlook => outlook.side.admits other.side)).any
          (right.sees other home names square) := by
      rw [Bool.eq_iff_iff, List.any_eq_true, List.any_eq_true]
      simp only [List.mem_filter, same, movers.side, alike.sees_eq movers]
    rw [judgeEncounter_listed, judgeEncounter_listed, refused]

theorem answer_eq {rule counterpart : Rule} (same : rule.Alike counterpart) :
    left.answer mover home path rule = right.answer other home path counterpart := by
  cases same with
  | jump =>
    show judgeJump _ _ _ (left.passed home path home) _ =
      judgeJump _ _ _ (right.passed home path home) _
    rw [movers.side, alike.passed_eq]
    exact judgeJump_congr (alike.pieceAt _)
  | finalTerrain => exact alike.judgeTerrain_eq _
  | encounter outlooks => exact alike.judgeEncounter_eq movers outlooks

theorem judgeAll_eq (rules : List Rule) (before : Validity) :
    left.judgeAll mover home path rules before = right.judgeAll other home path rules before := by
  induction rules generalizing before with
  | nil => rfl
  | cons rule rest ih =>
    have first : left.answer mover home path rule = right.answer other home path rule :=
      alike.answer_eq movers (.refl rule)
    rw [judgeAll_cons, judgeAll_cons, first, ih]

theorem classify_eq : left.classify mover home path = right.classify other home path := by
  rcases movers.template with same | interchangeable
  · rw [classify, classify, ← same]
    exact alike.judgeAll_eq movers _ _
  · have rules := interchangeable.allAlike
    obtain ⟨declared, member, jump⟩ := RuleSet.contains_iff.mp (interchangeable.isComplete .jump)
    obtain ⟨counterpart, there, same⟩ := rules.forth declared member
    have passes : (∀ rule ∈ mover.template.rules.rules, rule.kind ≠ .jump →
          left.answer mover home path rule = .canCapture) ↔
        ∀ rule ∈ other.template.rules.rules, rule.kind ≠ .jump →
          right.answer other home path rule = .canCapture := by
      constructor
      · intro passed rule given noJump
        obtain ⟨original, found, sameRule⟩ := rules.back rule given
        rw [← alike.answer_eq movers sameRule]
        exact passed original found (sameRule.kind_eq ▸ noJump)
      · intro passed rule given noJump
        obtain ⟨original, found, sameRule⟩ := rules.forth rule given
        rw [alike.answer_eq movers sameRule]
        exact passed original found (sameRule.kind_eq ▸ noJump)
    rw [classify_eq_ite member jump, classify_eq_ite there (same.kind_eq ▸ jump),
      alike.answer_eq movers same]
    simp only [passes]

theorem settle_eq {zone : Option SquareSet} {target : Square} {validity : Validity} :
    left.settle zone mover target validity = right.settle zone other target validity := by
  obtain ⟨free, freeToo⟩ | ⟨piece, counterpart, standing, opposite, same⟩ := alike.occupants target
  · simp only [settle, free, freeToo, movers.isRoyal_eq]
  · simp only [settle, standing, opposite, same.side, same.isRoyal_eq, movers.side,
      movers.isRoyal_eq]

private theorem encounterViolated_of_alike
    (violated : left.encounterViolated mover square = true) :
    right.encounterViolated other square = true := by
  obtain ⟨forbidden, outlooks, declared, refused⟩ := encounterViolated_iff.mp violated
  rcases movers.template with same | interchangeable
  · rw [alike.judgeEncounter_eq movers (fun _ => Iff.rfl)] at refused
    exact encounterViolated_iff.mpr ⟨forbidden, outlooks, same ▸ declared, refused⟩
  · obtain ⟨member, _⟩ := RuleSet.get?_eq_some_iff.mp declared
    obtain ⟨counterpart, there, rules⟩ := interchangeable.allAlike.forth _ member
    cases rules with
    | @encounter _ _ otherOutlooks outlooksSame =>
      rw [alike.judgeEncounter_eq movers outlooksSame] at refused
      exact encounterViolated_iff.mpr
        ⟨forbidden, otherOutlooks, RuleSet.get?_eq_some_iff.mpr ⟨there, rfl⟩, refused⟩

theorem encounterViolated_eq :
    left.encounterViolated mover square = right.encounterViolated other square := by
  rw [Bool.eq_iff_iff]
  exact ⟨alike.encounterViolated_of_alike movers, alike.symm.encounterViolated_of_alike movers.symm⟩

/-!
## Generation
-/

theorem yields_iff {zone : Option SquareSet} {tier : Tier} {target : Square}
    {validity : Validity} :
    left.Yields zone mover home tier target validity ↔
      right.Yields zone other home tier target validity := by
  rw [yields_iff_offers, yields_iff_offers, alike.terrainAt, alike.dims]
  simp only [movers.offers_iff, alike.classify_eq movers, alike.settle_eq movers]

theorem counts_iff {zone : Option SquareSet} {tier : Tier} :
    left.Counts zone mover home tier ↔ right.Counts zone other home tier := by
  cases tier with
  | standard => exact Iff.rfl
  | alternate => simp only [Counts, MovesStandard, Lands, alike.yields_iff movers]

theorem reachFrom_eq (zone : Option SquareSet) :
    left.reachFrom zone mover home = right.reachFrom zone other home := by
  rw [reachFrom_eq_ofCandidates, reachFrom_eq_ofCandidates]
  refine Reach.ofCandidates_congr ?_
  rintro ⟨target, validity⟩
  simp only [mem_evaluated_iff_counts, alike.counts_iff movers, alike.yields_iff movers]

omit movers

theorem reach?_eq (zone : Option SquareSet) (square : Square) :
    left.reach? zone square = right.reach? zone square := by
  obtain ⟨free, freeToo⟩ | ⟨piece, counterpart, standing, opposite, same⟩ := alike.occupants square
  · rw [reach?, reach?, free, freeToo, Option.map_none, Option.map_none]
  · rw [reach?_of_pieceAt standing, reach?_of_pieceAt opposite, alike.reachFrom_eq same]

theorem roster_eq (side : Side) : left.roster side = right.roster side := by
  rw [roster_eq_filter, roster_eq_filter, alike.dims]
  refine List.filter_congr (fun square _ => alike.any_eq ?_ square)
  intro piece counterpart same
  rw [same.side, same.isRoyal_eq]

theorem royalSquare?_eq (side : Side) : left.royalSquare? side = right.royalSquare? side := by
  rw [royalSquare?_eq_head?, royalSquare?_eq_head?, alike.dims]
  refine congrArg List.head? (List.filter_congr (fun square _ => alike.any_eq ?_ square))
  intro piece counterpart same
  rw [same.side, same.isRoyal_eq]

theorem generationOrder_eq (side : Side) :
    left.generationOrder side = right.generationOrder side := by
  rw [generationOrder, generationOrder, alike.roster_eq, alike.royalSquare?_eq]

theorem sideReport_eq (side : Side) (zone : Option SquareSet) :
    left.sideReport side zone = right.sideReport side zone := by
  simp only [sideReport, reaches, alike.generationOrder_eq, alike.reach?_eq]

/-!
## Safety
-/

private theorem threatensRoyal_of_alike {attacker : Side}
    (threat : left.threatensRoyal attacker = true) : right.threatensRoyal attacker = true := by
  obtain ⟨square, piece, stands, owned, attacks⟩ := threatensRoyal_iff.mp threat
  obtain ⟨free, _⟩ | ⟨mover, counterpart, standing, opposite, same⟩ := alike.occupants square
  · rw [stands.2] at free
    cases free
  · obtain rfl : piece = mover := Option.some.inj (stands.2.symm.trans standing)
    rw [alike.reachFrom_eq same none] at attacks
    exact threatensRoyal_iff.mpr
      ⟨square, counterpart, ⟨alike.dims ▸ stands.1, opposite⟩, same.side ▸ owned, attacks⟩

theorem threatensRoyal_eq (attacker : Side) :
    left.threatensRoyal attacker = right.threatensRoyal attacker := by
  rw [Bool.eq_iff_iff]
  exact ⟨alike.threatensRoyal_of_alike, alike.symm.threatensRoyal_of_alike⟩

theorem royalExposed_eq (side : Side) : left.royalExposed side = right.royalExposed side := by
  unfold royalExposed
  rw [alike.royalSquare?_eq]
  cases right.royalSquare? side with
  | none => rfl
  | some square =>
    obtain ⟨free, freeToo⟩ | ⟨royal, counterpart, standing, opposite, same⟩ :=
      alike.occupants square
    · simp only [free, freeToo]
    · simp only [standing, opposite, alike.encounterViolated_eq same]

theorem isSafeFor_eq (side : Side) : left.isSafeFor side = right.isSafeFor side := by
  rw [isSafeFor, isSafeFor, alike.threatensRoyal_eq, alike.royalExposed_eq]

theorem move (start target : Square) :
    (left.move start target).Alike (right.move start target) where
  dims := alike.dims
  terrainAt := alike.terrainAt
  pieceAt := by
    intro square
    rw [pieceAt_move, pieceAt_move]
    split
    · exact alike.pieceAt start
    · split
      · exact .none
      · exact alike.pieceAt square

theorem isSafeMove_eq (start target : Square) :
    left.isSafeMove start target = right.isSafeMove start target := by
  obtain ⟨free, freeToo⟩ | ⟨mover, counterpart, standing, opposite, same⟩ := alike.occupants start
  · simp only [isSafeMove, free, freeToo]
  · simp only [isSafeMove, standing, opposite, same.side, alike.dims,
      (alike.move start target).isSafeFor_eq]

end Alike

end Position

namespace Board

/-- The board on which the pieces of one template that stand on chosen squares are of another
template. What is recorded of their moves stays. -/
def exchange (board : Board) (old new : Template) (chosen : Square → Bool) : Board :=
  { board with
    occupants := Grid.tabulate board.dims (fun square =>
      (board.occupantAt square).map (fun occupant =>
        if chosen square = true ∧ occupant.piece.template = old then
          { occupant with piece := ⟨new, occupant.piece.side⟩ }
        else occupant)) }

variable {old new : Template}

theorem occupantAt_exchange (board : Board) (chosen : Square → Bool) (square : Square) :
    (board.exchange old new chosen).occupantAt square =
      (board.occupantAt square).map (fun occupant =>
        if chosen square = true ∧ occupant.piece.template = old then
          { occupant with piece := ⟨new, occupant.piece.side⟩ }
        else occupant) := by
  show ((Grid.tabulate board.dims _).get? square).join = _
  rw [Grid.get?_tabulate]
  split
  · rw [Option.join_some]
  · next outside =>
    rw [occupantAt_eq_none outside]
    rfl

theorem alike_exchange (alike : old.Interchangeable new) (board : Board)
    (chosen : Square → Bool) :
    board.position.Alike (board.exchange old new chosen).position where
  dims := rfl
  terrainAt := rfl
  pieceAt := by
    intro square
    show Option.Rel Piece.Alike ((board.occupantAt square).map Occupant.piece)
      (((board.exchange old new chosen).occupantAt square).map Occupant.piece)
    rw [occupantAt_exchange]
    cases board.occupantAt square with
    | none => exact .none
    | some occupant =>
      refine .some ?_
      dsimp only
      split
      · next replaced => exact ⟨rfl, Or.inr (replaced.2 ▸ alike)⟩
      · exact .refl _

theorem movesAt_exchange (board : Board) (chosen : Square → Bool) (square : Square) :
    (board.exchange old new chosen).movesAt square = board.movesAt square := by
  rw [movesAt, movesAt, occupantAt_exchange]
  cases board.occupantAt square with
  | none => rfl
  | some occupant =>
    rw [Option.map_some, Option.map_some, Option.map_some]
    split <;> rfl

theorem movesAt_generateSide (board : Board) (side : Side) (zone : Option SquareSet)
    (square : Square) : (board.generateSide side zone).1.movesAt square =
      if square ∈ board.position.generationOrder side then
        (board.position.reach? zone square).map Reach.moves
      else board.movesAt square := by
  have seen : board.position.pieceAt square = (board.occupantAt square).map Occupant.piece := rfl
  rw [movesAt, movesAt, occupantAt_generateSide, Position.reach?, seen]
  split
  · rw [Option.map_map, Option.map_map, Option.map_map]
    rfl
  · rfl

end Board

namespace Miniature

def riding : List TaggedPath :=
  [⟨⟨"hunter", defaultTerrain, .both, .both⟩, Path.single ⟨0, 1⟩⟩,
    ⟨⟨"hunter", defaultTerrain, .standard, .only .black⟩, Path.single ⟨-1, 0⟩⟩,
    ⟨⟨"hunter", "lake", .alternate, .both⟩, Path.single ⟨1, 0⟩⟩,
    ⟨⟨"hunter", defaultTerrain, .both, .both⟩, Path.single ⟨0, -1⟩⟩]

def rider (movements : List TaggedPath) (declared : RuleSet) : Template where
  name := "hunter"
  weight := 1
  royal := false
  textures := ⟨"red", "black"⟩
  patterns := MovementPattern.group movements
  rules := declared.complete

def forward : Template :=
  rider riding ⟨[.jump 0 false, shuns "cannon" [⟨0, 1⟩]], by decide⟩

/-- The rider with its movements declared backwards and then once more, and with its rules
declared backwards. -/
def backward : Template :=
  rider (riding.reverse ++ riding) ⟨[shuns "cannon" [⟨0, 1⟩], .jump 0 false], by decide⟩

def riders (template : Template) : Board := hunt ⟨1, 1⟩ template []

theorem interchangeable_riders : forward.Interchangeable backward where
  name := rfl
  royal := rfl
  declared := by
    let rules : List Rule := [.jump 0 false, shuns "cannon" [⟨0, 1⟩]]
    let otherRules : List Rule := [shuns "cannon" [⟨0, 1⟩], .jump 0 false]
    refine ⟨riding, riding.reverse ++ riding, rules, otherRules, ⟨rfl, ⟨rules, by decide⟩, rfl, rfl⟩,
      ⟨rfl, ⟨otherRules, by decide⟩, rfl, rfl⟩, ?_, ?_⟩
    · intro declaration
      simp only [List.map_append, List.map_reverse, List.mem_append, List.mem_reverse, or_self]
    · refine ⟨?_, ?_⟩
      · intro rule member
        exact ⟨rule, (List.Perm.swap _ _ _).mem_iff.mp member, .refl rule⟩
      · intro rule member
        exact ⟨rule, (List.Perm.swap _ _ _).mem_iff.mp member, .refl rule⟩

end Miniature

namespace Board

/-- Whatever board its pieces stand on, replacing a template by an interchangeable one changes
neither what a piece reaches, nor what the generation of a side records and reports, nor which
moves are safe. And what a piece reaches is what the tiers of its movements say. -/
theorem generation_exchange {old new : Template} (alike : old.Interchangeable new) (board : Board)
    (chosen : Square → Bool) :
    let other := board.exchange old new chosen
    (∀ zone square, other.position.reach? zone square = board.position.reach? zone square) ∧
      (∀ side zone, (other.generateSide side zone).2 = (board.generateSide side zone).2 ∧
        ∀ square, (other.generateSide side zone).1.movesAt square =
          (board.generateSide side zone).1.movesAt square) ∧
      (∀ start target,
        other.position.isSafeMove start target = board.position.isSafeMove start target) ∧
      ∀ zone square piece, board.pieceAt square = some piece →
        ∃ reach, board.position.reach? zone square = some reach ∧
          board.position.IsReference zone piece square reach := by
  intro other
  have same : board.position.Alike other.position := alike_exchange alike board chosen
  refine ⟨?_, ?_, ?_, ?_⟩
  · intro zone square
    exact (same.reach?_eq zone square).symm
  · intro side zone
    refine ⟨(same.sideReport_eq side zone).symm, ?_⟩
    intro square
    rw [movesAt_generateSide, movesAt_generateSide, same.generationOrder_eq, same.reach?_eq,
      movesAt_exchange]
  · intro start target
    exact (same.isSafeMove_eq start target).symm
  · intro zone square piece standing
    exact ⟨_, Position.reach?_of_pieceAt standing zone,
      Position.isReference_reachFrom zone piece square⟩

theorem generation_exchange_miniature :
    let board := Miniature.riders Miniature.forward
    let other := board.exchange Miniature.forward Miniature.backward (fun _ => true)
    other.pieceAt ⟨1, 1⟩ = some ⟨Miniature.backward, .black⟩ ∧
      other.position.reach? none ⟨1, 1⟩ = board.position.reach? none ⟨1, 1⟩ ∧
      (board.position.reach? none ⟨1, 1⟩).map (fun reach => reach.moves.legal.toList) =
        some [⟨1, 0⟩, ⟨1, 2⟩] ∧
      ∃ reach, board.position.reach? none ⟨1, 1⟩ = some reach ∧
        board.position.IsReference none ⟨Miniature.forward, .black⟩ ⟨1, 1⟩ reach := by
  intro board other
  have standing : board.pieceAt ⟨1, 1⟩ = some ⟨Miniature.forward, .black⟩ := by decide +kernel
  obtain ⟨reaches, _, _, reference⟩ :=
    generation_exchange Miniature.interchangeable_riders board (fun _ => true)
  exact ⟨by decide +kernel, reaches none ⟨1, 1⟩, by decide +kernel,
    reference none ⟨1, 1⟩ _ standing⟩

end Board

end TerrainChess

import TerrainChess.Proofs.Destination
import TerrainChess.Proofs.Run

/-!
# Confinement to terrains

A movement that any rule refuses is no move, and so a move ends on a terrain that
the rules of its piece allow, whatever tier, pattern or capture it belongs to.
Over a run this gives `Match.terrain_confinement`: what stands on a square to
which the history has led stands on a terrain that is allowed to it, and a piece
that is allowed none stays where it is until it is captured.
-/

set_option autoImplicit false

namespace TerrainChess

def Selector.Allows (allowed : Selector) (terrain : String) : Prop :=
  match allowed with
  | all => True
  | nothing => False
  | listed names => terrain ∈ names

namespace Piece

def MayEndOn (piece : Piece) (terrain : String) : Prop :=
  ∀ allowed, Rule.finalTerrain allowed ∈ piece.template.rules.rules → allowed.Allows terrain

/-- A piece has a rule that allows no terrain, be it by the word for none or by an empty list. -/
def Immobile (piece : Piece) : Prop :=
  Rule.finalTerrain .nothing ∈ piece.template.rules.rules ∨
    Rule.finalTerrain (.listed ∅) ∈ piece.template.rules.rules

instance (piece : Piece) : Decidable piece.Immobile := inferInstanceAs (Decidable (_ ∨ _))

theorem Immobile.not_mayEndOn {piece : Piece} (immobile : piece.Immobile) (terrain : String) :
    ¬ piece.MayEndOn terrain := by
  intro allows
  cases immobile with
  | inl nothing => exact allows .nothing nothing
  | inr empty => exact OrderedSet.not_mem_empty terrain (allows (.listed ∅) empty)

end Piece

namespace Position

variable {position : Position} {mover : Piece} {home : Square} {path : Path}

/-!
## What no rule refuses
-/

theorem classify_ne_notValid_of_isLegal {zone : Option SquareSet} {target : Square}
    (legal : Reach.isLegal
      (position.settle zone mover target (position.classify mover home path)) = true) :
    position.classify mover home path ≠ .notValid := by
  cases Reach.isLegal_iff.mp legal with
  | inl moves => simp [settle_eq_moveOnly moves]
  | inr captures => simp [(settle_eq_canCapture captures).1]

theorem allows_of_judgeTerrain {allowed : Selector} {square : Square} {terrain : String}
    (found : position.terrainAt square = some terrain)
    (passes : position.judgeTerrain allowed square ≠ .notValid) : allowed.Allows terrain := by
  cases allowed with
  | all => trivial
  | nothing => exact absurd rfl passes
  | listed names => simpa [judgeTerrain, found, Selector.Allows] using passes

theorem mayEndOn_of_mem_legal {zone : Option SquareSet} {target : Square} {terrain : String}
    (found : position.terrainAt target = some terrain)
    (legal : target ∈ (position.reachFrom zone mover home).moves.legal) :
    mover.MayEndOn terrain := by
  obtain ⟨path, rfl, _, counts⟩ := exists_path_of_mem_legal legal
  intro allowed declared
  have answered := answer_ne_notValid_of_judgeAll (classify_ne_notValid_of_isLegal counts)
    (RuleSet.mem_byPriority.mpr declared)
  exact allows_of_judgeTerrain found answered

end Position

theorem Board.exists_terrainAt {board : Board} {square : Square}
    (inside : board.dims.Contains square) : ∃ terrain, board.terrainAt square = some terrain :=
  Grid.exists_get? board.terrain inside

namespace Match

def StandsAllowed (game : Match) (square : Square) : Prop :=
  ∀ piece, game.board.pieceAt square = some piece →
    ∃ terrain, game.board.terrainAt square = some terrain ∧ piece.MayEndOn terrain

/-- Every square to which the history has led is empty or holds a piece that may end a move
there. -/
def Confined (game : Match) : Prop := ∀ record ∈ game.history, game.StandsAllowed record.target

section Accepted

variable {game next : Match} {start target : Square} {record : MoveRecord}

/-- The mover arrives on a terrain that its rules allow. -/
theorem Settled.mayEndOn_of_play (settled : game.Settled)
    (accepted : game.play start target = .ok (record, next)) :
    ∃ mover terrain, game.board.pieceAt start = some mover ∧
      game.board.terrainAt target = some terrain ∧ mover.MayEndOn terrain := by
  obtain ⟨_, mover, standing, _, legal, _⟩ := play_eq_ok_iff.mp accepted
  rw [settled.moves_eq standing] at legal
  obtain ⟨terrain, found⟩ :=
    Board.exists_terrainAt (Position.contains_of_mem_legal_turnMoves legal)
  obtain ⟨zone, reached⟩ := Position.mem_legal_of_mem_turnMoves legal
  exact ⟨mover.piece, terrain, (Board.stands_of_occupantAt standing).2, found,
    Position.mayEndOn_of_mem_legal found reached⟩

/-- After a move its target is allowed to the mover, and any other square holds what it held or
nothing. -/
theorem standsAllowed_of_play (settled : game.Settled)
    (accepted : game.play start target = .ok (record, next)) {square : Square}
    (before : square = target ∨ game.StandsAllowed square) : next.StandsAllowed square := by
  intro piece standing
  rw [pieceAt_of_play accepted] at standing
  rw [terrainAt_of_play accepted]
  by_cases arrived : square = target
  · subst arrived
    obtain ⟨mover, terrain, moved, found, allowed⟩ := settled.mayEndOn_of_play accepted
    rw [if_pos rfl, moved] at standing
    cases standing
    exact ⟨terrain, found, allowed⟩
  · rw [if_neg arrived] at standing
    split at standing
    · cases standing
    · exact before.resolve_left arrived piece standing

theorem Confined.of_play (confined : game.Confined) (settled : game.Settled)
    (accepted : game.play start target = .ok (record, next)) : next.Confined := by
  obtain ⟨history, _, arrived⟩ := history_of_play accepted
  intro entry member
  rw [history] at member
  apply standsAllowed_of_play settled accepted
  cases List.mem_append.mp member with
  | inl old => exact Or.inr (confined entry old)
  | inr new =>
    cases List.mem_singleton.mp new
    exact Or.inl arrived

end Accepted

theorem confined_run (board : Board) (first : Side) (calls : List (Square × Square)) :
    ((start board first).run calls).Confined := by
  refine (settled_start board first).run_invariant Confined
    (fun settled confined accepted => confined.of_play settled accepted) ?_ calls
  intro record member
  simp [start, history_refresh] at member

/-!
## Pieces that are allowed no terrain
-/

/-- Since a point of a match, a piece has stayed on its square or has been captured there. -/
def StaysSince (game : Match) (square : Square) (piece : Piece) (later : Match) : Prop :=
  ∃ moves, later.history = game.history ++ moves ∧
    (later.board.pieceAt square = some piece ∨ ∃ record ∈ moves, record.target = square)

section Immobile

variable {game : Match} {square : Square} {piece : Piece} (immobile : piece.Immobile)

include immobile

theorem Settled.play_of_immobile (settled : game.Settled)
    (standing : game.board.pieceAt square = some piece) (target : Square) :
    ∃ reason, game.play square target = .error reason := by
  cases played : game.play square target with
  | error reason => exact ⟨reason, rfl⟩
  | ok result =>
    obtain ⟨mover, terrain, moved, _, allowed⟩ := settled.mayEndOn_of_play played
    rw [standing] at moved
    cases moved
    exact absurd allowed (immobile.not_mayEndOn terrain)

theorem StaysSince.of_play {later next : Match} {start target : Square} {record : MoveRecord}
    (stays : game.StaysSince square piece later) (settled : later.Settled)
    (accepted : later.play start target = .ok (record, next)) :
    game.StaysSince square piece next := by
  obtain ⟨moves, history, kept⟩ := stays
  obtain ⟨extended, _, arrived⟩ := history_of_play accepted
  refine ⟨moves ++ [record], by simp [extended, history], ?_⟩
  cases kept with
  | inr captured =>
    obtain ⟨entry, member, here⟩ := captured
    exact Or.inr ⟨entry, List.mem_append_left _ member, here⟩
  | inl standing =>
    by_cases taken : target = square
    · exact Or.inr ⟨record, by simp, arrived.trans taken⟩
    · have left : start ≠ square := by
        intro same
        subst same
        obtain ⟨reason, refused⟩ := settled.play_of_immobile immobile standing target
        rw [refused] at accepted
        cases accepted
      refine Or.inl ?_
      rw [pieceAt_of_play accepted, if_neg (Ne.symm taken), if_neg (Ne.symm left)]
      exact standing

theorem staysSince_run (settled : game.Settled)
    (standing : game.board.pieceAt square = some piece) (later : List (Square × Square)) :
    game.StaysSince square piece (game.run later) :=
  settled.run_invariant (game.StaysSince square piece)
    (fun current stays accepted => stays.of_play immobile current accepted)
    ⟨[], by simp, Or.inl standing⟩ later

end Immobile

/-- In every match of a run, a piece on a square to which a recorded move has led stands on a
terrain that all its rules on final terrains allow. A piece with such a rule that allows no
terrain cannot be played from its square, and no later call moves it: it stands there until a
move to its square captures it. -/
theorem terrain_confinement (board : Board) (first : Side) (calls : List (Square × Square)) :
    let game := (start board first).run calls
    (∀ record ∈ game.history, ∀ piece, game.board.pieceAt record.target = some piece →
      ∃ terrain, game.board.terrainAt record.target = some terrain ∧
        ∀ allowed, Rule.finalTerrain allowed ∈ piece.template.rules.rules →
          allowed.Allows terrain) ∧
    ∀ square piece, game.board.pieceAt square = some piece → piece.Immobile →
      (∀ target, ∃ reason, game.play square target = .error reason) ∧
      ∀ later, game.StaysSince square piece (game.run later) := by
  intro game
  have settled : game.Settled := settled_run board first calls
  refine ⟨confined_run board first calls, ?_⟩
  intro square piece standing immobile
  exact ⟨settled.play_of_immobile immobile standing, staysSince_run immobile settled standing⟩

end Match

namespace Miniature

def guard : Template :=
  { rook with
    name := "guard"
    rules := ⟨[.jump 0 false, .finalTerrain (.listed (OrderedSet.ofList ["palace"]))], by decide⟩ }

def statue : Template :=
  { rook with name := "statue", rules := ⟨[.finalTerrain .nothing], by decide⟩ }

def palace : Board :=
  [(⟨0, 0⟩, ⟨guard, .red⟩), (⟨2, 0⟩, ⟨statue, .red⟩), (⟨1, 3⟩, ⟨rook, .black⟩)].foldl
    (fun current placed => current.put placed.1 (some ⟨placed.2, Moves.none⟩))
    ((Board.empty ⟨3, 4⟩).paint (.rectangle ⟨0, 0⟩ ⟨2, 1⟩) "palace")

/-- The guard has moved up, the rook has come into its column, and the guard may not take it. -/
def siege : Match :=
  (Match.start palace .red).run [(⟨0, 0⟩, ⟨0, 1⟩), (⟨1, 3⟩, ⟨0, 3⟩), (⟨0, 1⟩, ⟨0, 3⟩)]

end Miniature

namespace Match

/-- The guard stands on its second square, in the palace, and the statue cannot take the step that
the guard could take in its place. -/
theorem terrain_confinement_miniature :
    Miniature.siege.history.map MoveRecord.target = [⟨0, 1⟩, ⟨0, 3⟩] ∧
      (∃ terrain, Miniature.siege.board.terrainAt ⟨0, 1⟩ = some terrain ∧
        (Selector.listed (OrderedSet.ofList ["palace"])).Allows terrain) ∧
      (∃ reason, Miniature.siege.play ⟨2, 0⟩ ⟨2, 1⟩ = .error reason) ∧
      ∀ later, Miniature.siege.StaysSince ⟨2, 0⟩ ⟨Miniature.statue, .red⟩
        (Miniature.siege.run later) := by
  have facts : Miniature.siege.history.map MoveRecord.target = [⟨0, 1⟩, ⟨0, 3⟩] ∧
      Miniature.siege.board.pieceAt ⟨0, 1⟩ = some ⟨Miniature.guard, .red⟩ ∧
      Miniature.siege.board.pieceAt ⟨2, 0⟩ = some ⟨Miniature.statue, .red⟩ := by
    decide +kernel
  obtain ⟨targets, guard, statue⟩ := facts
  obtain ⟨confined, immobile⟩ := terrain_confinement Miniature.palace .red
    [(⟨0, 0⟩, ⟨0, 1⟩), (⟨1, 3⟩, ⟨0, 3⟩), (⟨0, 1⟩, ⟨0, 3⟩)]
  have led : (⟨0, 1⟩ : Square) ∈ Miniature.siege.history.map MoveRecord.target := by
    simp [targets]
  obtain ⟨record, member, arrived⟩ := List.mem_map.mp led
  obtain ⟨terrain, found, allowed⟩ := confined record member _ (arrived ▸ guard)
  obtain ⟨refused, stays⟩ := immobile _ _ statue (by decide)
  exact ⟨targets, ⟨terrain, arrived ▸ found, allowed _ (by decide)⟩, refused _, stays⟩

end Match

end TerrainChess

import TerrainChess.Notation.BoardText
import TerrainChess.Proofs.Run
import TerrainChess.Proofs.Reading.LinePass

/-!
# Boards that are read from a text

Whatever the lines of a board text say, in whatever order and however sections
are interrupted, the board that is read has known terrain, pieces of the
catalogue and one royal piece of each side at most: `Notation.readBoard_wellFormed`.
Every line that is accepted keeps these properties of the draft on which it works.
-/

set_option autoImplicit false

namespace TerrainChess

namespace Position

theorem royalSquare?_eq_none_iff {position : Position} {side : Side} :
    position.royalSquare? side = none ↔ ∀ square piece, position.Stands square piece →
      piece.side = side → piece.isRoyal = false := by
  constructor
  · intro missing square piece stands owned
    rw [Bool.eq_false_iff]
    intro crowned
    have found := royalSquare?_isSome stands owned crowned
    rw [missing] at found
    cases found
  · intro common
    cases found : position.royalSquare? side with
    | none => rfl
    | some square =>
      obtain ⟨royal, stands, owned, crowned⟩ := stands_of_royalSquare? found
      rw [common square royal stands owned] at crowned
      cases crowned

end Position

namespace Board

section Place

variable {board next : Board} {template : Template} {side : Side} {square : Square}
  (placed : board.place template side square = .ok next)

include placed

/-- After a piece has been placed it stands on its square, and all others stay. -/
theorem stands_place_iff {other : Square} {piece : Piece} :
    next.position.Stands other piece ↔
      other = square ∧ piece = ⟨template, side⟩ ∨ board.position.Stands other piece := by
  obtain ⟨inside, vacant, rfl⟩ := place_eq_ok_iff.mp placed
  have standing : (board.put square (some ⟨⟨template, side⟩, Moves.none⟩)).pieceAt other =
      if other = square then some ⟨template, side⟩ else board.pieceAt other :=
    pieceAt_put inside other
  show board.dims.Contains other ∧ _ = some piece ↔ _
  rw [show (put board square _).position.pieceAt other = _ from standing]
  by_cases here : other = square
  · subst here
    have free : board.pieceAt other = none := by rw [pieceAt, vacant, Option.map_none]
    rw [if_pos rfl, Option.some.injEq]
    constructor
    · intro given
      exact Or.inl ⟨rfl, given.2.symm⟩
    · intro given
      rcases given with ⟨_, same⟩ | ⟨_, old⟩
      · exact ⟨inside, same.symm⟩
      · exact absurd (free.symm.trans old) (by simp)
  · rw [if_neg here]
    constructor
    · exact Or.inr
    · intro given
      rcases given with ⟨same, _⟩ | old
      · exact absurd same here
      · exact old

theorem dims_place : next.dims = board.dims := by
  obtain ⟨_, _, rfl⟩ := place_eq_ok_iff.mp placed
  rfl

theorem terrainAt_place (other : Square) : next.terrainAt other = board.terrainAt other := by
  obtain ⟨_, _, rfl⟩ := place_eq_ok_iff.mp placed
  rfl

theorem royalSquare?_place_of_ne {other : Side} (different : other ≠ side)
    (missing : board.position.royalSquare? other = none) :
    next.position.royalSquare? other = none := by
  rw [Position.royalSquare?_eq_none_iff] at missing ⊢
  intro there piece stands owned
  rcases (stands_place_iff placed).mp stands with ⟨_, rfl⟩ | old
  · exact absurd owned.symm different
  · exact missing there piece old owned

/-- A piece may be placed where its side has no royal piece, or if it is none itself. -/
theorem singleRoyals_place (single : board.position.SingleRoyals)
    (missing : template.royal = true → board.position.royalSquare? side = none) :
    next.position.SingleRoyals := by
  have unrivalled : ∀ other piece, board.position.Stands other piece → piece.isRoyal = true →
      template.royal = true → piece.side ≠ side := by
    intro other piece stands crowned royal owned
    rw [Position.royalSquare?_eq_none_iff.mp (missing royal) other piece stands owned] at crowned
    cases crowned
  intro first firstMember second secondMember firstCrowned secondCrowned sameSide
  rcases (stands_place_iff placed).mp (Position.mem_pieces.mp firstMember) with
    ⟨firstHere, firstNew⟩ | firstOld
  · rcases (stands_place_iff placed).mp (Position.mem_pieces.mp secondMember) with
      ⟨secondHere, _⟩ | secondOld
    · exact firstHere.trans secondHere.symm
    · rw [firstNew] at firstCrowned sameSide
      exact absurd sameSide.symm (unrivalled _ _ secondOld secondCrowned firstCrowned)
  · rcases (stands_place_iff placed).mp (Position.mem_pieces.mp secondMember) with
      ⟨_, secondNew⟩ | secondOld
    · rw [secondNew] at secondCrowned sameSide
      exact absurd sameSide (unrivalled _ _ firstOld firstCrowned secondCrowned)
    · exact single.unique firstOld secondOld firstCrowned secondCrowned sameSide

end Place

structure Admissible (dims : Dims) (terrains : TerrainCatalogue) (pieces : PieceCatalogue)
    (board : Board) : Prop where
  dims_eq : board.dims = dims
  terrain : ∀ square name, board.terrainAt square = some name → terrains.isKnown name = true
  listed : board.position.AllPieces (fun piece => pieces.get? piece.name = some piece.template)
  single : board.position.SingleRoyals

namespace Admissible

variable {dims : Dims} {terrains : TerrainCatalogue} {pieces : PieceCatalogue} {board : Board}

theorem initial : (empty dims).Admissible dims terrains pieces where
  dims_eq := rfl
  terrain square name found := by
    rw [terrainAt_empty] at found
    split at found
    · cases found
      rfl
    · cases found
  listed placed member := by
    have standing := (Position.mem_pieces.mp member).2
    rw [show (empty dims).position.pieceAt placed.1 = none by
      show (empty dims).pieceAt placed.1 = none
      rw [pieceAt, occupantAt_empty, Option.map_none]] at standing
    cases standing
  single first member := by
    have standing := (Position.mem_pieces.mp member).2
    rw [show (empty dims).position.pieceAt first.1 = none by
      show (empty dims).pieceAt first.1 = none
      rw [pieceAt, occupantAt_empty, Option.map_none]] at standing
    cases standing

theorem paint (admissible : board.Admissible dims terrains pieces) (region : Region)
    {name : String} (known : terrains.isKnown name = true) :
    (board.paint region name).Admissible dims terrains pieces where
  dims_eq := admissible.dims_eq
  terrain square found there := by
    by_cases inside : board.dims.Contains square
    · rw [terrainAt_paint inside] at there
      split at there
      · cases there
        exact known
      · exact admissible.terrain square found there
    · have missing : (board.paint region name).terrainAt square = none :=
        terrainAt_eq_none inside
      rw [missing] at there
      cases there
  listed := admissible.listed
  single := admissible.single

theorem place (admissible : board.Admissible dims terrains pieces) {next : Board}
    {template : Template} {side : Side} {square : Square}
    (placed : board.place template side square = .ok next)
    (entry : pieces.get? template.name = some template)
    (missing : template.royal = true → board.position.royalSquare? side = none) :
    next.Admissible dims terrains pieces where
  dims_eq := (dims_place placed).trans admissible.dims_eq
  terrain other name found := by
    rw [terrainAt_place placed] at found
    exact admissible.terrain other name found
  listed other member := by
    rcases (stands_place_iff placed).mp (Position.mem_pieces.mp member) with ⟨_, new⟩ | old
    · rw [new]
      exact entry
    · exact admissible.listed.of_stands old
  single := singleRoyals_place placed admissible.single missing

end Admissible

end Board

namespace Notation

variable {dims : Dims} {terrains : TerrainCatalogue} {pieces : PieceCatalogue} {board next : Board}

/-- An accepted ground line paints one region with a known terrain. -/
theorem exists_paint_of_paintLine {line : List Char}
    (painted : paintLine terrains board line = .ok next) :
    ∃ region name, terrains.isKnown name = true ∧ next = board.paint region name := by
  unfold paintLine at painted
  split at painted
  · cases painted
  · split at painted
    · cases painted
    · next name _ =>
      split at painted
      · next known =>
        split at painted
        · cases painted
        · split at painted
          · next region _ =>
            cases painted
            exact ⟨region, name, known, rfl⟩
          · cases painted
      · cases painted

theorem checkTarget_eq_ok_iff {royal : Bool} {side : Side} {square : Square} :
    checkTarget board royal side square = .ok () ↔
      board.dims.Contains square ∧ board.isOccupied square = false ∧
        (royal = true → board.position.royalSquare? side = none) := by
  unfold checkTarget Board.royalSquare?
  by_cases inside : board.dims.Contains square
  · cases board.isOccupied square <;> cases royal <;>
      cases board.position.royalSquare? side <;> simp [inside]
  · simp [inside]

/-- The targets of a piece belong to different sides, and each of them has been checked. -/
theorem checked_of_placements {royal mirrored : Bool} {side : Side} {square : Square}
    {targets : List (Side × Square)}
    (found : placements board royal side square mirrored = .ok targets) :
    (targets.map Prod.fst).Nodup ∧
      ∀ target ∈ targets, checkTarget board royal target.1 target.2 = .ok () := by
  unfold placements at found
  split at found
  · cases found
  · next own =>
    split at found
    · dsimp only at found
      split at found
      · cases found
      · split at found
        · cases found
        · next other =>
          cases found
          have different := Side.opponent_ne side
          simp only [List.map_cons, List.map_nil, List.nodup_cons, List.not_mem_nil,
            List.mem_cons, or_false, forall_eq_or_imp, forall_eq]
          exact ⟨⟨different.symm, not_false, List.nodup_nil⟩, own, other⟩
    · cases found
      simp only [List.map_cons, List.map_nil, List.mem_singleton, forall_eq]
      exact ⟨List.nodup_cons.mpr ⟨List.not_mem_nil, List.nodup_nil⟩, own⟩

/-- An accepted line of a pieces section places a template of the catalogue on checked targets. -/
theorem exists_placements_of_placeLine {side : Option Side} {mirrored : Bool} {line : List Char}
    (placed : placeLine pieces side mirrored board line = .ok next) :
    ∃ name template owner square targets, pieces.get? name = some template ∧
      placements board template.royal owner square mirrored = .ok targets ∧
      placeOn template targets board = .ok next := by
  unfold placeLine at placed
  split at placed
  · cases placed
  · split at placed
    · next name square _ _ =>
      split at placed
      · cases placed
      · next template entry =>
        split at placed
        · cases placed
        · next owner =>
          split at placed
          · cases placed
          · next targets found =>
            exact ⟨name, template, owner, square, targets, entry, found, placed⟩
    · cases placed

/-- A piece of one template that is placed for different sides stays the only royal piece of each
of them. -/
theorem admissible_placeOn (admissible : board.Admissible dims terrains pieces)
    {template : Template} (entry : pieces.get? template.name = some template)
    {targets : List (Side × Square)} (different : (targets.map Prod.fst).Nodup)
    (missing : ∀ target ∈ targets,
      template.royal = true → board.position.royalSquare? target.1 = none)
    (placed : placeOn template targets board = .ok next) :
    next.Admissible dims terrains pieces := by
  induction targets generalizing board with
  | nil =>
    cases placed
    exact admissible
  | cons target rest ih =>
    rw [List.map_cons, List.nodup_cons] at different
    unfold placeOn at placed
    split at placed
    · cases placed
    · next middle first =>
      refine ih (admissible.place first entry (missing target List.mem_cons_self)) different.2 ?_
        placed
      intro later member royal
      have apart : later.1 ≠ target.1 := by
        intro same
        exact different.1 (same ▸ List.mem_map_of_mem member)
      exact Board.royalSquare?_place_of_ne first apart
        (missing later (List.mem_cons_of_mem _ member) royal)

theorem admissible_placeLine (admissible : board.Admissible dims terrains pieces)
    {side : Option Side} {mirrored : Bool} {line : List Char}
    (placed : placeLine pieces side mirrored board line = .ok next) :
    next.Admissible dims terrains pieces := by
  obtain ⟨name, template, owner, square, targets, entry, found, done⟩ :=
    exists_placements_of_placeLine placed
  obtain ⟨different, checked⟩ := checked_of_placements found
  rw [← PieceCatalogue.name_of_get? entry] at entry
  exact admissible_placeOn admissible entry different
    (fun target member => (checkTarget_eq_ok_iff.mp (checked target member)).2.2) done

/-!
## The pass over the lines
-/

structure BoardState.Admissible (dims : Dims) (terrains : TerrainCatalogue)
    (pieces : PieceCatalogue) (state : BoardState) : Prop where
  board : state.board.Admissible dims terrains pieces
  draft : ∀ current ∈ state.openSection, current.draft.Admissible dims terrains pieces

section Step

variable {state : BoardState} (admissible : state.Admissible dims terrains pieces)

include admissible

theorem admissible_openSection (kind : SectionKind) :
    (openSection state kind).1.Admissible dims terrains pieces where
  board := admissible.board
  draft := by
    intro current opened
    cases opened
    exact admissible.board

theorem admissible_closeSection (line : List Char) :
    (closeSection state line).1.Admissible dims terrains pieces := by
  unfold closeSection
  split
  · exact admissible
  · next current opened =>
    refine ⟨admissible.draft current opened, ?_⟩
    intro other none
    cases none

theorem admissible_contentStep (line : List Char) :
    (contentStep terrains pieces state line).1.Admissible dims terrains pieces := by
  unfold contentStep
  split
  · exact admissible
  · next current opened =>
    have before := admissible.draft current opened
    dsimp only
    split
    · exact admissible
    · next draft accepted =>
      refine ⟨admissible.board, ?_⟩
      intro other same
      cases same
      show draft.Admissible dims terrains pieces
      cases kind : current.kind with
      | ground =>
        rw [kind] at accepted
        obtain ⟨region, name, known, rfl⟩ := exists_paint_of_paintLine accepted
        exact before.paint region known
      | pieces =>
        rw [kind] at accepted
        exact admissible_placeLine before accepted

theorem admissible_boardStep (line : List Char) :
    (boardStep terrains pieces state line).1.Admissible dims terrains pieces := by
  unfold boardStep
  by_cases ground : line = Word.groundSection
  · rw [if_pos ground]
    exact admissible_openSection admissible .ground
  · rw [if_neg ground]
    by_cases placing : line = Word.piecesSection
    · rw [if_pos placing]
      exact admissible_openSection admissible .pieces
    · rw [if_neg placing]
      split
      · exact ⟨admissible.board, admissible.draft⟩
      · split
        · exact ⟨admissible.board, admissible.draft⟩
        · split
          · exact ⟨admissible.board, admissible.draft⟩
          · split
            · exact admissible_closeSection admissible line
            · exact admissible_contentStep admissible line

end Step

theorem admissible_readBoard (dims : Dims) (terrains : TerrainCatalogue)
    (pieces : PieceCatalogue) (text : String) :
    (readBoard dims terrains pieces text).1.Admissible dims terrains pieces := by
  unfold readBoard
  dsimp only
  rw [LineStep.fst_run]
  have initial : (BoardState.initial dims).Admissible dims terrains pieces := by
    refine ⟨Board.Admissible.initial, ?_⟩
    intro current none
    cases none
  exact (LineStep.after_invariant (boardStep terrains pieces)
    (fun state => state.Admissible dims terrains pieces)
    (fun _ line _ admissible => LineStep.onLine_invariant (boardStep terrains pieces) admissible
      (admissible_boardStep admissible line)) initial).board

end Notation

namespace Miniature

def pieces : PieceCatalogue := (PieceCatalogue.insert ∅ king).insert rook

/-- A text that places a king for both sides, then a second king for red, which is refused, and a
rook. -/
def layoutText : String :=
  "-GROUND-\n[DEFAULT]:FULL\n/\n" ++
    "-PIECES-\n*SYMETRICAL*\n(king):1,0\n*RED*\n(king):2,0\n(rook):0,0\n/"

def layout : Board := (Notation.readBoard ⟨3, 4⟩ ∅ pieces layoutText).1

end Miniature

namespace Notation

/-- The board that is read from any text has the given dimensions. Every piece is listed under its
own square, which is on the board, and its template is the entry of the catalogue for its name.
Two royal pieces of one side are the same piece, and every square has a known terrain. -/
theorem readBoard_wellFormed (dims : Dims) (terrains : TerrainCatalogue) (pieces : PieceCatalogue)
    (text : String) :
    let board := (readBoard dims terrains pieces text).1
    board.dims = dims ∧
    (∀ square placed, board.placedAt square = some placed →
      placed.square = square ∧ dims.Contains square ∧
        pieces.get? placed.piece.name = some placed.piece.template) ∧
    (∀ side, ∀ first ∈ board.piecesOf side, ∀ second ∈ board.piecesOf side,
      first.piece.isRoyal = true → second.piece.isRoyal = true → first = second) ∧
    ∀ square, dims.Contains square →
      ∃ name, board.terrainAt square = some name ∧ terrains.isKnown name = true := by
  intro board
  have admissible : board.Admissible dims terrains pieces :=
    admissible_readBoard dims terrains pieces text
  have stands : ∀ {square placed}, board.placedAt square = some placed →
      placed.square = square ∧ board.position.Stands square placed.piece := by
    intro square placed found
    obtain ⟨occupant, standing, rfl⟩ := Option.map_eq_some_iff.mp found
    exact ⟨rfl, Board.stands_of_occupantAt standing⟩
  refine ⟨admissible.dims_eq, ?_, ?_, ?_⟩
  · intro square placed found
    obtain ⟨here, standing⟩ := stands found
    exact ⟨here, admissible.dims_eq ▸ standing.1, admissible.listed.of_stands standing⟩
  · intro side first firstMember second secondMember firstCrowned secondCrowned
    rw [Board.piecesOf, List.mem_filter, Board.mem_pieces, decide_eq_true_eq]
      at firstMember secondMember
    have same := admissible.single.unique (stands firstMember.1).2 (stands secondMember.1).2
      firstCrowned secondCrowned (firstMember.2.trans secondMember.2.symm)
    have found := firstMember.1
    rw [same, secondMember.1] at found
    exact (Option.some.inj found).symm
  · intro square inside
    obtain ⟨name, found⟩ := Grid.exists_get? board.terrain (admissible.dims_eq ▸ inside)
    exact ⟨name, found, admissible.terrain square name found⟩

theorem readBoard_wellFormed_miniature :
    Miniature.layout.pieceAt ⟨1, 3⟩ = some ⟨Miniature.king, .black⟩ ∧
      Miniature.layout.pieceAt ⟨2, 0⟩ = none ∧
      Miniature.layout.pieceAt ⟨0, 0⟩ = some ⟨Miniature.rook, .red⟩ ∧
      Miniature.layout.dims = ⟨3, 4⟩ ∧
      (∀ square placed, Miniature.layout.placedAt square = some placed →
        placed.square = square ∧ Dims.Contains ⟨3, 4⟩ square ∧
          Miniature.pieces.get? placed.piece.name = some placed.piece.template) ∧
      (∀ side, ∀ first ∈ Miniature.layout.piecesOf side,
        ∀ second ∈ Miniature.layout.piecesOf side,
          first.piece.isRoyal = true → second.piece.isRoyal = true → first = second) ∧
      ∀ square, Dims.Contains ⟨3, 4⟩ square → ∃ name,
        Miniature.layout.terrainAt square = some name ∧
          TerrainCatalogue.isKnown ∅ name = true := by
  have placed : Miniature.layout.pieceAt ⟨1, 3⟩ = some ⟨Miniature.king, .black⟩ ∧
      Miniature.layout.pieceAt ⟨2, 0⟩ = none ∧
      Miniature.layout.pieceAt ⟨0, 0⟩ = some ⟨Miniature.rook, .red⟩ := by
    decide +kernel
  exact ⟨placed.1, placed.2.1, placed.2.2,
    readBoard_wellFormed ⟨3, 4⟩ ∅ Miniature.pieces Miniature.layoutText⟩

end Notation

end TerrainChess

import TerrainChess.Proofs.Reading.Ground

/-!
# Mirrored setups

A text whose side markers all ask for mirroring sets up a board that looks the same from
both ends: `Notation.readBoard_pointSymmetric`. Each accepted line places a piece and its
counterpart or nothing, and no other line changes a piece, so that the board and the draft
stay symmetric under every line.
-/

set_option autoImplicit false

namespace TerrainChess

def Piece.counterpart (piece : Piece) : Piece := ⟨piece.template, piece.side.opponent⟩

@[simp] theorem Piece.counterpart_counterpart (piece : Piece) :
    piece.counterpart.counterpart = piece := by
  simp [counterpart]

namespace Dims

variable {dims : Dims} {square other : Square}

theorem mirror_eq_of_contains (inside : dims.Contains square) (same : dims.mirror square = other) :
    dims.mirror other = square := same ▸ mirror_mirror inside

theorem mirror_eq_of_val (column : other.x.val = dims.width.val - 1 - square.x.val)
    (row : other.y.val = dims.height.val - 1 - square.y.val) : dims.mirror square = other := by
  rw [mirror, ← column, ← row, Coord.clamp_val, Coord.clamp_val]

theorem map_mirror_squares_perm (dims : Dims) :
    (dims.squares.map dims.mirror).Perm dims.squares := by
  have nodup : (dims.squares.map dims.mirror).Nodup := by
    rw [List.Nodup, List.pairwise_map]
    refine dims.nodup_squares.imp_of_mem ?_
    intro first second firstMember secondMember different same
    have back := mirror_eq_of_contains (mem_squares.mp firstMember) same
    exact different (back.symm.trans (mirror_mirror (mem_squares.mp secondMember)))
  refine (List.perm_ext_iff_of_nodup nodup dims.nodup_squares).mpr fun square => ?_
  rw [List.mem_map, mem_squares]
  constructor
  · intro given
    obtain ⟨source, member, rfl⟩ := given
    exact contains_mirror_of_contains (mem_squares.mp member)
  · intro inside
    exact ⟨dims.mirror square, mem_squares.mpr (contains_mirror_of_contains inside),
      mirror_mirror inside⟩

end Dims

namespace Board

def PointSymmetric (board : Board) : Prop :=
  ∀ square piece, board.pieceAt square = some piece →
    board.pieceAt (board.dims.mirror square) = some piece.counterpart

theorem pointSymmetric_empty (dims : Dims) : (empty dims).PointSymmetric := by
  intro square piece standing
  rw [pieceAt, occupantAt_empty] at standing
  cases standing

theorem pieceAt_of_gains {board next : Board} {template : Template} {side : Side} {square : Square}
    (gains : board.Gains template side square true next) (other : Square) :
    next.pieceAt other =
      if other = square then some ⟨template, side⟩
      else if other = board.dims.mirror square then some ⟨template, side.opponent⟩
      else board.pieceAt other := by
  rw [pieceAt, gains.occupants other]
  simp only [true_and]
  split
  · rfl
  · split <;> rfl

namespace PointSymmetric

variable {board next : Board} {template : Template} {side : Side} {square reflected : Square}

/-- A piece that is placed with its counterpart keeps the symmetry. -/
theorem gains (symmetric : board.PointSymmetric) (inside : board.dims.Contains square)
    (apart : board.dims.mirror square ≠ square)
    (gains : board.Gains template side square true next) : next.PointSymmetric := by
  intro other piece standing
  rw [gains.dims_eq, pieceAt_of_gains gains]
  rw [pieceAt_of_gains gains] at standing
  by_cases here : other = square
  · subst here
    rw [if_pos rfl] at standing
    cases standing
    rw [if_neg apart, if_pos rfl]
    rfl
  · rw [if_neg here] at standing
    by_cases there : other = board.dims.mirror square
    · subst there
      rw [if_pos rfl] at standing
      cases standing
      rw [Dims.mirror_mirror inside, if_pos rfl]
      simp [Piece.counterpart]
    · rw [if_neg there] at standing
      have onBoard : board.dims.Contains other := (stands_iff.mpr standing).1
      have notThere : board.dims.mirror other ≠ square :=
        fun same => there (Dims.mirror_eq_of_contains onBoard same).symm
      have notHere : board.dims.mirror other ≠ board.dims.mirror square := by
        intro same
        have back := Dims.mirror_eq_of_contains onBoard same
        rw [Dims.mirror_mirror inside] at back
        exact here back.symm
      rw [if_neg notThere, if_neg notHere]
      exact symmetric other piece standing

theorem pieceAt_iff (symmetric : board.PointSymmetric)
    (column : reflected.x.val = board.dims.width.val - 1 - square.x.val)
    (row : reflected.y.val = board.dims.height.val - 1 - square.y.val) (piece : Piece) :
    board.pieceAt square = some piece ↔ board.pieceAt reflected = some piece.counterpart := by
  have there : board.dims.mirror square = reflected := Dims.mirror_eq_of_val column row
  have back : board.dims.mirror reflected = square :=
    Dims.mirror_eq_of_val (by omega) (by omega)
  constructor
  · intro standing
    rw [← there]
    exact symmetric square piece standing
  · intro standing
    have returned := symmetric reflected piece.counterpart standing
    rwa [back, Piece.counterpart_counterpart] at returned

theorem occupantAt_centre (symmetric : board.PointSymmetric)
    (column : 2 * square.x.val + 1 = board.dims.width.val)
    (row : 2 * square.y.val + 1 = board.dims.height.val) : board.occupantAt square = none := by
  cases standing : board.occupantAt square with
  | none => rfl
  | some occupant =>
    have found : board.pieceAt square = some occupant.piece := by
      rw [pieceAt, standing, Option.map_some]
    have again : board.pieceAt square = some occupant.piece.counterpart :=
      (symmetric.pieceAt_iff (by omega) (by omega) occupant.piece).mp found
    have same := congrArg Piece.side (Option.some.inj (found.symm.trans again))
    exact absurd same.symm (Side.opponent_ne occupant.piece.side)

theorem length_piecesOf (symmetric : board.PointSymmetric) :
    (board.piecesOf .red).length = (board.piecesOf .black).length := by
  have counted : ∀ side, (board.piecesOf side).length = board.dims.squares.countP
      (fun square => decide (∃ piece, board.pieceAt square = some piece ∧ piece.side = side)) := by
    intro side
    rw [piecesOf, ← List.countP_eq_length_filter, pieces, List.countP_filterMap]
    refine List.countP_congr fun square _ => ?_
    unfold placedAt pieceAt
    cases board.occupantAt square <;> simp
  rw [counted, counted, ← (Dims.map_mirror_squares_perm board.dims).countP_eq, List.countP_map]
  refine List.countP_congr fun square member => ?_
  obtain ⟨column, row⟩ := Dims.val_mirror_of_contains (Dims.mem_squares.mp member)
  have exchange := symmetric.pieceAt_iff column row
  rw [Function.comp_apply, decide_eq_true_eq, decide_eq_true_eq]
  constructor
  · intro given
    obtain ⟨piece, standing, owned⟩ := given
    refine ⟨piece.counterpart, (exchange piece.counterpart).mpr ?_, congrArg Side.opponent owned⟩
    rw [Piece.counterpart_counterpart]
    exact standing
  · intro given
    obtain ⟨piece, standing, owned⟩ := given
    exact ⟨piece.counterpart, (exchange piece).mp standing, congrArg Side.opponent owned⟩

theorem royalSquare?_isSome (symmetric : board.PointSymmetric) (side : Side)
    (found : (board.royalSquare? side).isSome = true) :
    (board.royalSquare? side.opponent).isSome = true := by
  obtain ⟨square, there⟩ := Option.isSome_iff_exists.mp found
  obtain ⟨royal, stands, owned, crowned⟩ := Position.stands_of_royalSquare? there
  have opposite := symmetric square royal stands.2
  exact Position.royalSquare?_isSome (stands_iff.mpr opposite) (congrArg Side.opponent owned)
    crowned

end PointSymmetric

end Board

namespace Notation

variable {terrains : TerrainCatalogue} {pieces : PieceCatalogue} {board next : Board}
  {state : BoardState} {line : List Char}

/-- An accepted line keeps the symmetry of the draft if every selected side is mirrored. -/
theorem pointSymmetric_placeLine {selected : Option Side} {mirrored : Bool}
    (symmetric : board.PointSymmetric) (always : selected ≠ none → mirrored = true)
    (placed : placeLine pieces selected mirrored board line = .ok next) : next.PointSymmetric := by
  obtain ⟨_, side, square, owned, inside, apart, gains⟩ := exists_gains_of_placeLine placed
  have mirrors : mirrored = true := always (by rw [owned]; exact Option.some_ne_none side)
  rw [mirrors] at gains
  exact symmetric.gains inside (apart mirrors) gains

/-- The board and the draft are symmetric, and a selected side is mirrored. -/
structure BoardState.PointSymmetric (state : BoardState) : Prop where
  board : state.board.PointSymmetric
  draft : ∀ current ∈ state.openSection, current.draft.PointSymmetric
  mirrored : state.side ≠ none → state.mirrored = true

section Step

variable (symmetric : state.PointSymmetric)

include symmetric

theorem pointSymmetric_contentStep :
    (contentStep terrains pieces state line).1.PointSymmetric := by
  unfold contentStep
  split
  · exact symmetric
  · next current opened =>
    have before := symmetric.draft current opened
    dsimp only
    split
    · exact symmetric
    · next draft accepted =>
      refine ⟨symmetric.board, ?_, symmetric.mirrored⟩
      intro other same
      cases same
      show draft.PointSymmetric
      cases kind : current.kind with
      | ground =>
        rw [kind] at accepted
        obtain ⟨region, name, _, rfl⟩ := exists_paint_of_paintLine accepted
        exact before
      | pieces =>
        rw [kind] at accepted
        exact pointSymmetric_placeLine before symmetric.mirrored accepted

theorem pointSymmetric_boardStep (notRed : line ≠ Word.redMarker)
    (notBlack : line ≠ Word.blackMarker) :
    (boardStep terrains pieces state line).1.PointSymmetric := by
  cases lineView terrains pieces line with
  | header kind =>
    rw [boardStep_header]
    refine ⟨symmetric.board, ?_, symmetric.mirrored⟩
    intro current opened
    cases opened
    exact symmetric.board
  | marker _ _ marks =>
    rcases marks with red | black | rfl
    · exact absurd red notRed
    · exact absurd black notBlack
    · exact ⟨symmetric.board, symmetric.draft, fun _ => rfl⟩
  | blockEnd =>
    rw [boardStep_blockEnd]
    unfold closeSection
    split
    · exact symmetric
    · next current opened =>
      refine ⟨symmetric.draft current opened, ?_, symmetric.mirrored⟩
      intro other none
      cases none
  | content _ steps =>
    rw [steps]
    exact pointSymmetric_contentStep symmetric

end Step

theorem pointSymmetric_readBoard (dims : Dims) (terrains : TerrainCatalogue)
    (pieces : PieceCatalogue) {text : String}
    (mirrored : ∀ line ∈ Text.trimmedLines text.toList,
      line ≠ Word.redMarker ∧ line ≠ Word.blackMarker) :
    (readBoard dims terrains pieces text).1.PointSymmetric := by
  unfold readBoard
  dsimp only
  rw [LineStep.fst_run]
  have initial : (BoardState.initial dims).PointSymmetric := by
    refine ⟨Board.pointSymmetric_empty dims, ?_, fun missing => absurd rfl missing⟩
    intro current none
    cases none
  refine (LineStep.after_invariant (boardStep terrains pieces) BoardState.PointSymmetric ?_
    initial).board
  intro state line member symmetric
  obtain ⟨notRed, notBlack⟩ := mirrored line member
  exact LineStep.onLine_invariant (boardStep terrains pieces) symmetric
    (pointSymmetric_boardStep symmetric notRed notBlack)

theorem dims_readBoard (dims : Dims) (terrains : TerrainCatalogue) (pieces : PieceCatalogue)
    (text : String) : (readBoard dims terrains pieces text).1.dims = dims := by
  unfold readBoard
  dsimp only
  rw [LineStep.fst_run]
  exact (BoardState.agrees_after dims terrains pieces _).board

/-- If the only side markers of a text are those for mirroring, whatever its other lines say, then
every piece of the board has its counterpart of the other side on the reflected square, and nothing
else stands there. The sides have equally many pieces, both or neither have a royal piece, and
nothing stands on the centre of a board that has one. -/
theorem readBoard_pointSymmetric (dims : Dims) (terrains : TerrainCatalogue)
    (pieces : PieceCatalogue) (text : String)
    (mirrored : ∀ line ∈ Text.trimmedLines text.toList,
      line ≠ Word.redMarker ∧ line ≠ Word.blackMarker) :
    let board := (readBoard dims terrains pieces text).1
    (∀ square reflected : Square, reflected.x.val = dims.width.val - 1 - square.x.val →
      reflected.y.val = dims.height.val - 1 - square.y.val → ∀ template side,
        board.pieceAt square = some ⟨template, side⟩ ↔
          board.pieceAt reflected = some ⟨template, side.opponent⟩) ∧
    (board.piecesOf .red).length = (board.piecesOf .black).length ∧
    ((board.royalSquare? .red).isSome = true ↔ (board.royalSquare? .black).isSome = true) ∧
    ∀ square : Square, 2 * square.x.val + 1 = dims.width.val →
      2 * square.y.val + 1 = dims.height.val → board.occupantAt square = none := by
  intro board
  have symmetric : board.PointSymmetric := pointSymmetric_readBoard dims terrains pieces mirrored
  have sized : board.dims = dims := dims_readBoard dims terrains pieces text
  refine ⟨?_, symmetric.length_piecesOf, ⟨symmetric.royalSquare?_isSome .red,
    symmetric.royalSquare?_isSome .black⟩, ?_⟩
  · intro square reflected column row template side
    rw [← sized] at column row
    exact symmetric.pieceAt_iff column row ⟨template, side⟩
  · intro square column row
    rw [← sized] at column row
    exact symmetric.occupantAt_centre column row

/-- Two lines are refused for what would stand on the reflected square, another one for the centre,
and a section is given up. -/
theorem readBoard_pointSymmetric_miniature :
    let text := "-PIECES-\n*SYMETRICAL*\n(king):0,0\n(king):2,0\n(rook):2,2\n(rook):1,1\n" ++
      "(rook):1,0\n/\n-PIECES-\n(rook):2,1\n-GROUND-\n/"
    let board := (readBoard ⟨3, 3⟩ ∅ Miniature.pieces text).1
    (board.pieceAt ⟨0, 0⟩ = some ⟨Miniature.king, .red⟩ ∧
      board.pieceAt ⟨1, 2⟩ = some ⟨Miniature.rook, .black⟩ ∧ board.pieceAt ⟨2, 1⟩ = none) ∧
      board.pieceAt ⟨2, 2⟩ = some ⟨Miniature.king, .black⟩ ∧
      (board.piecesOf .red).length = (board.piecesOf .black).length ∧
      board.occupantAt ⟨1, 1⟩ = none := by
  intro text board
  have placed : board.pieceAt ⟨0, 0⟩ = some ⟨Miniature.king, .red⟩ ∧
      board.pieceAt ⟨1, 2⟩ = some ⟨Miniature.rook, .black⟩ ∧ board.pieceAt ⟨2, 1⟩ = none := by
    decide +kernel
  have mirrored : ∀ line ∈ Text.trimmedLines text.toList,
      line ≠ Word.redMarker ∧ line ≠ Word.blackMarker := by
    decide +kernel
  obtain ⟨reflects, counts, _, centre⟩ :=
    readBoard_pointSymmetric ⟨3, 3⟩ ∅ Miniature.pieces text mirrored
  exact ⟨placed, (reflects ⟨0, 0⟩ ⟨2, 2⟩ rfl rfl Miniature.king .red).mp placed.1, counts,
    centre ⟨1, 1⟩ rfl rfl⟩

end Notation

end TerrainChess

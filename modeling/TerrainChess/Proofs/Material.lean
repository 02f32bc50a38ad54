import Mathlib.Data.List.Basic
import TerrainChess.Proofs.Destination
import TerrainChess.Proofs.Run

/-!
# Conservation of material

Moves neither make nor lose pieces: what stands on the board and what has been
captured is always the material of the first board, and no royal piece is among
the captured ones. The history numbers the moves, lets the sides alternate and
names exactly what has been captured: `Match.material_and_history`.
-/

set_option autoImplicit false

namespace TerrainChess

namespace Position

def material (position : Position) : List Piece := position.pieces.map Prod.snd

theorem material_eq_filterMap (position : Position) :
    position.material = position.dims.squares.filterMap position.pieceAt := by
  unfold material pieces
  rw [List.map_filterMap]
  simp only [Option.map_map, Function.comp_def, Option.map_id']

def royalCount (position : Position) (side : Side) : Nat :=
  position.material.countP (fun piece => decide (piece.side = side) && piece.isRoyal)

section Move

variable {position : Position} {start target : Square} {mover : Piece}

/-- A move changes the material by the piece that stood on the target. -/
theorem material_move_perm (standing : position.Stands start mover)
    (inside : position.dims.Contains target) (apart : target ≠ start) :
    ((position.move start target).material ++ (position.pieceAt target).toList).Perm
      position.material := by
  let others := (position.dims.squares.erase start).erase target
  let kept := others.filterMap position.pieceAt
  have unique := position.dims.nodup_squares
  have squares : position.dims.squares.Perm (start :: target :: others) :=
    (List.perm_cons_erase (Dims.mem_squares.mpr standing.1)).trans
      ((List.perm_cons_erase
        (unique.mem_erase_iff.mpr ⟨apart, Dims.mem_squares.mpr inside⟩)).cons start)
  have before : position.material.Perm
      (mover :: ((position.pieceAt target).toList ++ kept)) := by
    rw [material_eq_filterMap]
    refine (squares.filterMap position.pieceAt).trans (List.Perm.of_eq ?_)
    rw [List.filterMap_cons_some standing.2]
    cases there : position.pieceAt target with
    | none => rw [List.filterMap_cons_none there]; rfl
    | some occupant => rw [List.filterMap_cons_some there]; rfl
  have unmoved : others.filterMap (position.move start target).pieceAt = kept := by
    apply List.filterMap_congr
    intro square member
    obtain ⟨notTarget, rest⟩ := (unique.erase start).mem_erase_iff.mp member
    obtain ⟨notStart, _⟩ := unique.mem_erase_iff.mp rest
    rw [pieceAt_move, if_neg notTarget, if_neg notStart]
  have after : (position.move start target).material.Perm (mover :: kept) := by
    rw [material_eq_filterMap]
    refine (squares.filterMap (position.move start target).pieceAt).trans (List.Perm.of_eq ?_)
    have left : (position.move start target).pieceAt start = none := by
      rw [pieceAt_move, if_neg apart.symm, if_pos rfl]
    have arrived : (position.move start target).pieceAt target = some mover := by
      rw [pieceAt_move, if_pos rfl, standing.2]
    rw [List.filterMap_cons_none left, List.filterMap_cons_some arrived, unmoved]
  calc List.Perm ((position.move start target).material ++ (position.pieceAt target).toList)
        (mover :: kept ++ (position.pieceAt target).toList) := after.append_right _
    List.Perm _ (mover :: ((position.pieceAt target).toList ++ kept)) :=
      List.perm_append_comm.cons mover
    List.Perm _ position.material := before.symm

end Move

end Position

def Side.atPly (first : Side) : Nat → Side
  | 0 => first
  | plies + 1 => (first.atPly plies).opponent

namespace Match

def material (game : Match) : List Piece :=
  game.board.position.material ++
    (game.captured.red ++ game.captured.black).map PlacedPiece.piece

/-!
## The record of the moves
-/

/-- The history numbers its moves from one, its sides alternate up to the side to move, and the
captures it names for a side are those of that side. -/
structure Chronicled (first : Side) (game : Match) : Prop where
  toMove : game.sideToMove = first.atPly game.history.length
  moves : ∀ index record, game.history[index]? = some record →
    record.ply = (index + 1).toUInt32 ∧ record.side = first.atPly index
  captures : ∀ side,
    (game.history.filter (fun record => decide (record.side = side))).filterMap
      MoveRecord.captured = (game.captured.get side).map (fun placed => placed.piece.name)

section Accepted

variable {game next : Match} {start target : Square} {record : MoveRecord}

/-- What an accepted move writes down. -/
theorem exists_recordOf_play (accepted : game.play start target = .ok (record, next)) :
    ∃ mover taken, game.board.position.Stands start mover ∧
      taken = (game.board.remove start).placedAt target ∧
      record = game.recordOf mover start target taken ∧
      next.history = game.history ++ [record] ∧
      next.captured = game.captured.set game.sideToMove
        (game.captured.get game.sideToMove ++ taken.toList) := by
  obtain ⟨_, mover, standing, _, _, _, taken, board, moved, rfl, rfl⟩ :=
    play_eq_ok_iff.mp accepted
  obtain ⟨_, _, _, captured, _⟩ := Board.movePiece_eq_ok_iff.mp moved
  exact ⟨mover.piece, taken, Board.stands_of_occupantAt standing, captured, rfl,
    history_refresh _, captured_refresh _⟩

theorem Chronicled.of_play {first : Side} (chronicled : game.Chronicled first)
    (accepted : game.play start target = .ok (record, next)) : next.Chronicled first := by
  obtain ⟨mover, taken, _, _, recorded, history, captured⟩ := exists_recordOf_play accepted
  have mover : record.side = game.sideToMove := by rw [recorded]; rfl
  have number : record.ply = (game.history.length + 1).toUInt32 := by
    rw [recorded]
    exact (UInt32.ofNat_add game.history.length 1).symm
  have named : record.captured = taken.map (fun placed => placed.piece.name) := by
    rw [recorded]
    rfl
  refine ⟨?_, ?_, ?_⟩
  · rw [sideToMove_of_play accepted, history, List.length_append, chronicled.toMove]
    rfl
  · intro index entry found
    rw [history, List.getElem?_append] at found
    split at found
    · exact chronicled.moves index entry found
    · next beyond =>
      obtain ⟨here, same⟩ := List.getElem?_eq_some_iff.mp found
      have last : index = game.history.length := by
        rw [List.length_singleton] at here
        omega
      subst last
      rw [List.getElem_singleton] at same
      rw [← same, number, mover, chronicled.toMove]
      exact ⟨rfl, rfl⟩
  · intro side
    rw [history, List.filter_append, List.filterMap_append, chronicled.captures side, captured]
    by_cases owned : record.side = side
    · rw [List.filter_cons_of_pos (by simpa using owned), List.filter_nil, ← mover, owned,
        BySide.get_set_self, List.map_append]
      cases taken with
      | none => rw [List.filterMap_cons_none named]; rfl
      | some placed => rw [List.filterMap_cons_some named]; rfl
    · rw [List.filter_cons_of_neg (by simpa using owned),
        BySide.get_set_of_ne _ _ (fun same => owned (mover.trans same.symm))]
      exact List.append_nil _

end Accepted

theorem chronicled_run (board : Board) (first : Side) (calls : List (Square × Square)) :
    ((start board first).run calls).Chronicled first := by
  refine run_invariant (fun game => game.Chronicled first) Chronicled.of_play ?_ calls
  refine ⟨?_, ?_, ?_⟩
  · rw [start, sideToMove_refresh, history_refresh]
    rfl
  · intro index record found
    rw [start, history_refresh] at found
    cases found
  · intro side
    rw [start, history_refresh, captured_refresh, BySide.get_both]
    rfl

/-!
## The captured pieces
-/

/-- Nothing is missing on the board but the captured pieces, which are opposing ones that are not
royal. -/
structure Conserves (position : Position) (game : Match) : Prop where
  material : game.material.Perm position.material
  captures : ∀ side, ∀ placed ∈ game.captured.get side,
    placed.piece.side = side.opponent ∧ placed.piece.isRoyal = false

section Accepted

variable {game next : Match} {start target : Square} {record : MoveRecord}
  (settled : game.Settled)
  (complete : game.board.position.AllPieces (fun piece => piece.template.rules.IsComplete))

include settled complete

/-- A legal move leaves its square, and what stands on the target is an opposing piece that is not
royal. -/
theorem Settled.occupant_of_play (accepted : game.play start target = .ok (record, next)) :
    game.board.position.dims.Contains target ∧ target ≠ start ∧
      ∀ occupant, game.board.pieceAt target = some occupant →
        occupant.side = game.sideToMove.opponent ∧ occupant.isRoyal = false := by
  obtain ⟨_, mover, standing, owned, legal, _⟩ := play_eq_ok_iff.mp accepted
  have stands := Board.stands_of_occupantAt standing
  rw [settled.moves_eq standing] at legal
  obtain ⟨zone, reached⟩ := Position.mem_legal_of_mem_turnMoves legal
  obtain ⟨inside, opposing⟩ := Position.occupant_of_mem_legal (complete.of_stands stands) reached
  refine ⟨inside, ?_, ?_⟩
  · intro same
    exact (opposing mover.piece (same ▸ stands.2)).1 rfl
  · intro occupant there
    obtain ⟨other, common⟩ := opposing occupant there
    rw [owned] at other
    exact ⟨Side.eq_opponent_iff.mpr other, common⟩

theorem Conserves.of_play {position : Position} (conserves : game.Conserves position)
    (accepted : game.play start target = .ok (record, next)) : next.Conserves position := by
  obtain ⟨mover, taken, stands, took, _, _, captured⟩ := exists_recordOf_play accepted
  obtain ⟨inside, apart, opposing⟩ := settled.occupant_of_play complete accepted
  have occupant : taken.map PlacedPiece.piece = game.board.pieceAt target := by
    rw [took, Board.placedAt, Board.occupantAt_remove, if_neg apart, Option.map_map]
    rfl
  refine ⟨?_, ?_⟩
  · have taking : ((next.captured.red ++ next.captured.black).map PlacedPiece.piece).Perm
        ((game.board.pieceAt target).toList ++
          (game.captured.red ++ game.captured.black).map PlacedPiece.piece) := by
      have added : taken.toList.map PlacedPiece.piece = (game.board.pieceAt target).toList := by
        rw [← occupant, Option.toList_map]
      rw [captured, ← added, List.map_append, List.map_append]
      cases game.sideToMove with
      | red =>
        simp only [BySide.set, BySide.get, List.map_append, List.append_assoc]
        exact List.perm_append_comm_assoc _ _ _
      | black =>
        simp only [BySide.set, BySide.get, List.map_append]
        rw [← List.append_assoc]
        exact List.perm_append_comm
    have moved := Position.material_move_perm stands inside apart
    unfold Match.material
    rw [position_of_play accepted]
    refine (taking.append_left _).trans ?_
    rw [← List.append_assoc]
    exact (moved.append_right _).trans conserves.material
  · intro side placed member
    rw [captured] at member
    by_cases owned : side = game.sideToMove
    · rw [owned, BySide.get_set_self, List.mem_append, ← owned] at member
      rcases member with old | new
      · exact conserves.captures side placed old
      · rw [Option.mem_toList.mp new] at occupant
        rw [owned]
        exact opposing placed.piece occupant.symm
    · rw [BySide.get_set_of_ne _ _ owned] at member
      exact conserves.captures side placed member

end Accepted

theorem conserves_run {board : Board}
    (complete : board.position.AllPieces (fun piece => piece.template.rules.IsComplete))
    (first : Side) (calls : List (Square × Square)) :
    ((start board first).run calls).Conserves board.position := by
  let invariant := fun game : Match =>
    game.board.position.AllPieces (fun piece => piece.template.rules.IsComplete) ∧
      game.Conserves board.position
  have preserved : ∀ {game next : Match} {start target : Square} {record : MoveRecord},
      game.Settled → invariant game → game.play start target = .ok (record, next) →
        invariant next := by
    intro game next start target record settled holds accepted
    obtain ⟨rules, conserves⟩ := holds
    refine ⟨?_, conserves.of_play settled rules accepted⟩
    rw [position_of_play accepted]
    exact rules.move (contains_start_of_play accepted)
  have initial : invariant (start board first) := by
    refine ⟨?_, ?_, ?_⟩
    · rw [position_start]
      exact complete
    · rw [material, position_start, start, captured_refresh]
      exact List.Perm.of_eq (List.append_nil _)
    · intro side placed member
      rw [start, captured_refresh, BySide.get_both] at member
      cases member
  exact ((settled_start board first).run_invariant invariant preserved initial calls).2

/-- The captured pieces hide no royal one, so that each side keeps its royal pieces. -/
theorem Conserves.royalCount_eq {position : Position} {game : Match}
    (conserves : game.Conserves position) (side : Side) :
    game.board.position.royalCount side = position.royalCount side := by
  let royal := fun piece : Piece => decide (piece.side = side) && piece.isRoyal
  have common : ∀ owner, ((game.captured.get owner).map PlacedPiece.piece).countP royal = 0 := by
    intro owner
    rw [List.countP_eq_zero]
    intro piece member
    obtain ⟨placed, held, rfl⟩ := List.mem_map.mp member
    simp [royal, (conserves.captures owner placed held).2]
  have red : (game.captured.red.map PlacedPiece.piece).countP royal = 0 := common .red
  have black : (game.captured.black.map PlacedPiece.piece).countP royal = 0 := common .black
  have counted := conserves.material.countP_eq royal
  unfold Match.material at counted
  rw [List.countP_append, List.map_append, List.countP_append, red, black] at counted
  exact counted

end Match

/-- The match in which the red rook has given check twice and the black king, which might not take
it at first, has taken it. -/
def Miniature.sacrifice : Match :=
  (Match.start board .red).run
    [(⟨1, 1⟩, ⟨1, 2⟩), (⟨1, 3⟩, ⟨1, 2⟩), (⟨1, 3⟩, ⟨2, 3⟩), (⟨1, 2⟩, ⟨2, 2⟩), (⟨2, 3⟩, ⟨2, 2⟩)]

namespace Match

/-- In every match of a run on a board whose pieces have a rule of every kind, the pieces on the
board and the captured ones are those of the first board; a side has captured opposing pieces
only, none of them royal, so that the number of royal pieces of each side stays. The moves are
numbered from one as far as the numbers reach, the sides alternate from the first side to the side
to move, and the captures that the moves of a side name are those of the side, in their order. -/
theorem material_and_history (board : Board)
    (complete : board.position.AllPieces (fun piece => piece.template.rules.IsComplete))
    (first : Side) (calls : List (Square × Square)) :
    let game := (Match.start board first).run calls
    game.material.Perm board.position.material ∧
    (∀ side, ∀ placed ∈ game.captured.get side,
      placed.piece.side = side.opponent ∧ placed.piece.isRoyal = false) ∧
    (∀ side, game.board.position.royalCount side = board.position.royalCount side) ∧
    (game.history.length < UInt32.size - 1 → ∀ index record, game.history[index]? = some record →
      record.ply.toNat = index + 1) ∧
    (∀ index record, game.history[index]? = some record → record.side = first.atPly index) ∧
    game.sideToMove = first.atPly game.history.length ∧
    ∀ side,
      (game.history.filter (fun record => decide (record.side = side))).filterMap
        MoveRecord.captured = (game.captured.get side).map (fun placed => placed.piece.name) := by
  intro game
  have conserves : game.Conserves board.position := conserves_run complete first calls
  have chronicled : game.Chronicled first := chronicled_run board first calls
  refine ⟨conserves.material, conserves.captures, conserves.royalCount_eq, ?_,
    fun index record found => (chronicled.moves index record found).2, chronicled.toMove,
    chronicled.captures⟩
  intro short index record found
  obtain ⟨bound, _⟩ := List.getElem?_eq_some_iff.mp found
  rw [(chronicled.moves index record found).1]
  have fits : index + 1 < UInt32.size := by omega
  exact UInt32.toNat_ofNat_of_lt' fits

/-- After the sacrifice the rook is among the pieces captured by black and nowhere else, and the
fourth move, which is one of black, names it. -/
theorem material_and_history_miniature :
    (Miniature.sacrifice.captured.get .black).map PlacedPiece.piece = [⟨Miniature.rook, .red⟩] ∧
      Miniature.sacrifice.material.Perm Miniature.board.position.material ∧
      (∀ side, Miniature.sacrifice.board.position.royalCount side =
        Miniature.board.position.royalCount side) ∧
      (∃ record, Miniature.sacrifice.history[3]? = some record ∧ record.ply.toNat = 4 ∧
        record.side = .black) ∧
      Miniature.sacrifice.sideToMove = .red ∧
      (Miniature.sacrifice.history.filter (fun record => decide (record.side = .black))).filterMap
        MoveRecord.captured = ["rook"] := by
  have complete : Miniature.board.position.AllPieces
      (fun piece => piece.template.rules.IsComplete) := by decide +kernel
  have facts : Miniature.sacrifice.history.length = 4 ∧
      Miniature.sacrifice.history[3]?.isSome = true ∧
      (Miniature.sacrifice.captured.get .black).map PlacedPiece.piece =
        [⟨Miniature.rook, .red⟩] := by
    decide +kernel
  obtain ⟨length, fourth, taken⟩ := facts
  obtain ⟨record, found⟩ := Option.isSome_iff_exists.mp fourth
  obtain ⟨material, _, royals, plies, sides, toMove, captures⟩ :=
    material_and_history Miniature.board complete .red _
  have short : Miniature.sacrifice.history.length < UInt32.size - 1 := by
    rw [length]
    decide
  have last : Miniature.sacrifice.sideToMove =
      Side.red.atPly Miniature.sacrifice.history.length := toMove
  have names := congrArg (List.map Piece.name) taken
  rw [List.map_map] at names
  refine ⟨taken, material, royals,
    ⟨record, found, plies short 3 record found, sides 3 record found⟩, ?_, (captures .black).trans names⟩
  rw [last, length]
  rfl

end Match

end TerrainChess

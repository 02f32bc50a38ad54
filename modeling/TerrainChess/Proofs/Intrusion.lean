import TerrainChess.Proofs.Outlook
import TerrainChess.Proofs.Sliding

/-!
# Intruders on covered squares

A piece covers a square if it would capture there. `Position.Arrival` compares two
positions, in the second of which an opposing piece has come to the end of a
movement, and `Position.Arrival.classify` carries the class of the movement from
the first to the second. On the way the number of pieces passed grows by one
exactly if the target has been empty, and each answer of the jump rule that covers
the target is one that captures behind as many pieces.
-/

set_option autoImplicit false

namespace TerrainChess

/-- A movement to another square that visits its target only at its end, by fewer steps than a
count can hold, while no view from the target comes back to it. -/
structure Piece.Approaches (mover : Piece) (home : Square) (path : Path) : Prop where
  apart : path.destination home ≠ home
  once : path.destination home ∉ (path.walk home).dropLast
  short : path.length < 4294967295
  clear : ∀ outlook ∈ mover.outlooks, path.destination home ∉ outlook.walk (path.destination home)

/-!
## Counts
-/

theorem Path.walk_eq_dropLast_append {path : Path} {start : Square}
    (moves : path.destination start ≠ start) :
    path.walk start = (path.walk start).dropLast ++ [path.destination start] := by
  have last := getLastD_walk path start
  cases walked : path.walk start with
  | nil =>
    rw [walked] at last
    exact absurd last.symm moves
  | cons square rest =>
    rw [walked, List.getLastD_eq_getLast?, List.getLast?_eq_some_getLast (List.cons_ne_nil _ _),
      Option.getD_some] at last
    rw [← last, List.dropLast_append_getLast]

namespace Position

variable {position other : Position} {mover intruder : Piece} {home start target : Square}
  {path : Path}

/-- The number of occupied squares that a path visits before its last one, the home of the mover
not counted. -/
def crossed (position : Position) (home : Square) (path : Path) : Nat :=
  (path.walk home).dropLast.countP
    (fun square => decide (square ≠ home) && position.isOccupied square)

theorem crossed_lt (position : Position) (moves : path.destination home ≠ home) :
    position.crossed home path < path.length := by
  have bound : position.crossed home path ≤ (path.walk home).dropLast.length :=
    List.countP_le_length
  have lengths := congrArg List.length (Path.walk_eq_dropLast_append moves)
  rw [Path.length_walk, List.length_append, List.length_singleton] at lengths
  omega

/-- A movement passes the pieces before its target and the one on it. -/
theorem toNat_passed (moves : path.destination home ≠ home) (short : path.length < 4294967296) :
    (position.passed home path home).toNat = position.crossed home path +
      if (position.pieceAt (path.destination home)).isSome then 1 else 0 := by
  have less := position.crossed_lt moves
  have counted : (path.walk home).countP
        (fun square => decide (square ≠ home) && position.isOccupied square) =
      position.crossed home path +
        if (position.pieceAt (path.destination home)).isSome then 1 else 0 := by
    conv_lhs => rw [Path.walk_eq_dropLast_append moves]
    rw [List.countP_append, List.countP_singleton, crossed]
    simp [moves, isOccupied]
  rw [passed, ← List.countP_eq_length_filter, counted]
  refine Nat.mod_eq_of_lt ?_
  split <;> omega

end Position

/-!
## The jump rule
-/

section JumpRule

variable {jumps passed : UInt32} {eatOnlyOnLast : Bool} {side : Side} {crossed : Nat}

/-- A movement that covers its target would, with a piece on it, not pass more pieces than a capture
may, and exactly as many if captures are behind the last piece only. -/
theorem crossed_of_judgeJump_covers {occupant : Option Piece}
    (covers : Reach.isCover (judgeJump jumps eatOnlyOnLast side passed occupant) = true)
    (counted : passed.toNat = crossed + if occupant.isSome then 1 else 0)
    (small : crossed < 4294967294) :
    crossed + 1 ≤ (saturatingSucc jumps).toNat ∧
      (eatOnlyOnLast = true → crossed + 1 = (saturatingSucc jumps).toNat) := by
  have limit := toNat_saturatingSucc jumps
  cases occupant with
  | none =>
    have reached : passed = jumps := by
      by_contra different
      cases eatOnlyOnLast with
      | false => simp [judgeJump, different, Reach.isCover] at covers
      | true => by_cases below : passed < jumps <;>
          simp [judgeJump, different, below, Reach.isCover] at covers
    have same : jumps.toNat = crossed := by
      rw [← reached, counted]
      simp
    omega
  | some piece =>
    have counted : passed.toNat = crossed + 1 := counted
    cases eatOnlyOnLast with
    | false =>
      have within : ¬ saturatingSucc jumps < passed := by
        intro more
        simp [judgeJump, more, Reach.isCover] at covers
      rw [UInt32.lt_iff_toNat_lt, counted] at within
      exact ⟨by omega, by simp⟩
    | true =>
      have exact : passed = saturatingSucc jumps := by
        by_contra different
        simp [judgeJump, different, Reach.isCover] at covers
      rw [← exact, counted]
      exact ⟨Nat.le_refl _, fun _ => rfl⟩

theorem judgeJump_of_opposing {intruder : Piece} (opposing : intruder.side ≠ side)
    (counted : passed.toNat = crossed + 1)
    (within : crossed + 1 ≤ (saturatingSucc jumps).toNat)
    (exact : eatOnlyOnLast = true → crossed + 1 = (saturatingSucc jumps).toNat) :
    judgeJump jumps eatOnlyOnLast side passed (some intruder) = .canCapture ∨
      intruder.isRoyal = true ∧
        judgeJump jumps eatOnlyOnLast side passed (some intruder) = .check := by
  cases eatOnlyOnLast with
  | false =>
    have short : ¬ saturatingSucc jumps < passed := by
      rw [UInt32.lt_iff_toNat_lt]
      omega
    simp [judgeJump, short, opposing]
  | true =>
    have same : passed = saturatingSucc jumps := by
      rw [← UInt32.toNat_inj, counted]
      exact exact rfl
    cases crowned : intruder.isRoyal with
    | false => simp [judgeJump, same, opposing, crowned]
    | true => simp [judgeJump, same, opposing, crowned]

end JumpRule

namespace Position

variable {position other : Position} {mover intruder : Piece} {home start : Square} {path : Path}
  {jumps : UInt32} {eatOnlyOnLast : Bool}

/-!
## The whole judgement
-/

theorem answer_of_classify (passes : position.classify mover home path ≠ .notValid) {rule : Rule}
    (declared : rule ∈ mover.template.rules.rules) (noJump : rule.kind ≠ .jump) :
    position.answer mover home path rule = .canCapture :=
  (answer_eq_or_of_ne_jump noJump).resolve_right
    (answer_ne_notValid_of_judgeAll passes (RuleSet.mem_byPriority.mpr declared))

/-- If no other rule refuses a movement, its class is the answer of the jump rule. -/
theorem classify_eq_judgeJump
    (declared : Rule.jump jumps eatOnlyOnLast ∈ mover.template.rules.rules)
    (passes : ∀ rule ∈ mover.template.rules.rules, rule.kind ≠ .jump →
      position.answer mover home path rule = .canCapture) :
    position.classify mover home path = judgeJump jumps eatOnlyOnLast mover.side
      (position.passed home path home) (position.pieceAt (path.destination home)) := by
  refine judgeAll_of_single_answer ?_
    (Or.inr ⟨rfl, _, RuleSet.mem_byPriority.mpr declared, rfl⟩)
  intro rule ordered
  have member := RuleSet.mem_byPriority.mp ordered
  by_cases jump : rule.kind = .jump
  · obtain rfl := RuleSet.eq_of_kind member declared jump
    exact Or.inr rfl
  · exact Or.inl (passes rule member jump)

theorem classify_of_no_jump (noJump : ∀ rule ∈ mover.template.rules.rules, rule.kind ≠ .jump)
    (passes : ∀ rule ∈ mover.template.rules.rules, rule.kind ≠ .jump →
      position.answer mover home path rule = .canCapture) :
    position.classify mover home path = .canCapture := by
  refine judgeAll_of_single_answer ?_ (Or.inl rfl)
  intro rule ordered
  have member := RuleSet.mem_byPriority.mp ordered
  exact Or.inl (passes rule member (noJump rule member))

/-!
## Arrivals
-/

/-- In another position a piece has come to a square from its start, or from off the board if the
start is that square; elsewhere the positions are the same. -/
structure Arrival (position other : Position) (start target : Square) (intruder : Piece) :
    Prop where
  dims : position.dims = other.dims
  terrain : position.terrainAt target = other.terrainAt target
  arrived : other.pieceAt target = some intruder
  elsewhere : ∀ square, square ≠ target →
    other.pieceAt square = if square = start then none else position.pieceAt square

/-- The departure does not concern a movement: the start hides nothing from the views at its end,
and if captures are behind the last piece only, the start is not on its way. -/
structure Unconcerned (start : Square) (mover : Piece) (home : Square) (path : Path) : Prop where
  unhidden : ∀ outlook ∈ mover.outlooks, start ∉ outlook.walk (path.destination home)
  unscreened : ∀ jumps, Rule.jump jumps true ∈ mover.template.rules.rules →
    start ∉ (path.walk home).dropLast

namespace Arrival

variable (arrival : position.Arrival other start (path.destination home) intruder)
  (approaches : mover.Approaches home path)

include arrival approaches

theorem crossed_le : other.crossed home path ≤ position.crossed home path := by
  refine List.countP_mono_left ?_
  intro square visited counted
  have apart : square ≠ path.destination home := fun same => approaches.once (same ▸ visited)
  rw [isOccupied, arrival.elsewhere square apart] at counted
  by_cases left : square = start
  · simp [left] at counted
  · simpa [left, isOccupied] using counted

theorem crossed_eq (away : start ∉ (path.walk home).dropLast) :
    other.crossed home path = position.crossed home path := by
  refine List.countP_congr ?_
  intro square visited
  have apart : square ≠ path.destination home := fun same => approaches.once (same ▸ visited)
  have stayed : square ≠ start := fun same => away (same ▸ visited)
  rw [isOccupied, arrival.elsewhere square apart, if_neg stayed, isOccupied]

variable (unconcerned : Unconcerned start mover home path)

include unconcerned

theorem answer_eq {rule : Rule} (declared : rule ∈ mover.template.rules.rules)
    (noJump : rule.kind ≠ .jump) :
    position.answer mover home path rule = other.answer mover home path rule := by
  cases rule with
  | jump jumps eatOnlyOnLast => exact absurd rfl noJump
  | finalTerrain allowed =>
    show position.judgeTerrain allowed (path.destination home) =
      other.judgeTerrain allowed (path.destination home)
    unfold judgeTerrain
    rw [arrival.terrain]
  | encounter forbidden paths =>
    refine judgeEncounter_congr ?_
    intro outlook member admitted
    have looks := Piece.path_mem_outlooks declared member admitted
    refine firstMet_congr arrival.dims ?_
    intro square visited
    have apart : square ≠ path.destination home :=
      fun same => approaches.clear _ looks (same ▸ visited)
    have stayed : square ≠ start := fun same => unconcerned.unhidden _ looks (same ▸ visited)
    rw [seenAt, seenAt, arrival.elsewhere square apart, if_neg stayed]

/-- The answer of a jump rule that covers the target is turned into a capture of the piece that has
come there, or into check. -/
theorem judgeJump_covers (opposing : intruder.side ≠ mover.side)
    (declared : Rule.jump jumps eatOnlyOnLast ∈ mover.template.rules.rules)
    (covers : Reach.isCover (judgeJump jumps eatOnlyOnLast mover.side
      (position.passed home path home) (position.pieceAt (path.destination home))) = true) :
    judgeJump jumps eatOnlyOnLast mover.side (other.passed home path home) (some intruder) =
        .canCapture ∨
      intruder.isRoyal = true ∧ judgeJump jumps eatOnlyOnLast mover.side
        (other.passed home path home) (some intruder) = .check := by
  have short := approaches.short
  have less := position.crossed_lt approaches.apart
  have counted := position.toNat_passed approaches.apart (by omega)
  obtain ⟨within, exact⟩ := crossed_of_judgeJump_covers covers counted (by omega)
  have fewer := arrival.crossed_le approaches
  have arrived : (other.passed home path home).toNat = other.crossed home path + 1 := by
    rw [other.toNat_passed approaches.apart (by omega), arrival.arrived]
    rfl
  refine judgeJump_of_opposing opposing arrived (by omega) ?_
  intro behind
  subst behind
  rw [arrival.crossed_eq approaches (unconcerned.unscreened jumps declared)]
  exact exact rfl

/-- A movement that covers its target captures an opposing piece that has come there, or gives
check to it if it is royal. -/
theorem classify (opposing : intruder.side ≠ mover.side)
    (covers : Reach.isCover (position.classify mover home path) = true) :
    other.classify mover home path = .canCapture ∨
      intruder.isRoyal = true ∧ other.classify mover home path = .check := by
  have allowed : position.classify mover home path ≠ .notValid := by
    intro refused
    rw [refused] at covers
    cases covers
  have before : ∀ rule ∈ mover.template.rules.rules, rule.kind ≠ .jump →
      position.answer mover home path rule = .canCapture :=
    fun rule declared noJump => answer_of_classify allowed declared noJump
  have after : ∀ rule ∈ mover.template.rules.rules, rule.kind ≠ .jump →
      other.answer mover home path rule = .canCapture :=
    fun rule declared noJump =>
      (arrival.answer_eq approaches unconcerned declared noJump).symm.trans
        (before rule declared noJump)
  by_cases jumps : ∃ rule ∈ mover.template.rules.rules, rule.kind = .jump
  · obtain ⟨rule, declared, jump⟩ := jumps
    cases rule with
    | finalTerrain allowed => cases jump
    | encounter forbidden paths => cases jump
    | jump jumps eatOnlyOnLast =>
      rw [classify_eq_judgeJump declared before] at covers
      rw [classify_eq_judgeJump declared after, arrival.arrived]
      exact arrival.judgeJump_covers approaches unconcerned opposing declared covers
  · refine Or.inl (classify_of_no_jump ?_ after)
    intro rule declared jump
    exact jumps ⟨rule, declared, jump⟩

/-- A royal piece that has come to a covered square is given check, whatever zone is hostile. -/
theorem settle_classify (owned : intruder.side = mover.side.opponent)
    (crowned : intruder.isRoyal = true)
    (covers : Reach.isCover (position.classify mover home path) = true)
    (zone : Option SquareSet) :
    other.settle zone mover (path.destination home) (other.classify mover home path) = .check := by
  have opposing : intruder.side ≠ mover.side := Side.eq_opponent_iff.mp owned
  rw [settle_of_holdsRoyal ⟨intruder, arrival.arrived, owned, crowned⟩]
  rcases arrival.classify approaches unconcerned opposing covers with captures | ⟨_, checks⟩
  · rw [if_pos captures]
  · rw [checks, if_neg (by decide)]

end Arrival

end Position

namespace Board

variable {board next : Board} {target : Square} {intruder : Piece}

theorem arrival_of_place
    (placed : (board.remove target).place intruder.template intruder.side target = .ok next) :
    board.position.Arrival next.position target target intruder := by
  obtain ⟨inside, _, rfl⟩ := place_eq_ok_iff.mp placed
  refine ⟨rfl, rfl, ?_, ?_⟩
  · show (((board.remove target).put target _).occupantAt target).map Occupant.piece = some intruder
    rw [occupantAt_put inside, if_pos rfl]
    rfl
  · intro square apart
    show (((board.remove target).put target _).occupantAt square).map Occupant.piece =
      if square = target then none else (board.occupantAt square).map Occupant.piece
    rw [occupantAt_put inside, if_neg apart, occupantAt_remove, if_neg apart, if_neg apart]

/-- Let a piece cover the target of a movement, be it by a capture or by a threat, under any jump
rule and with any rules on terrains and encounters. Then it captures any opposing piece that is put
on the target in place of what stands there, and gives check to it if it is royal. -/
theorem intruder_captured (board : Board) {home : Square} {piece : Piece}
    (standing : board.pieceAt home = some piece) {path : Path}
    (inside : board.dims.Contains (path.destination home))
    (approaches : piece.Approaches home path)
    (covers : board.position.classify piece home path = .canCapture ∨
      board.position.classify piece home path = .threatenedOnly)
    (intruder : Piece) (owned : intruder.side = piece.side.opponent) :
    let target := path.destination home
    ∃ next, (board.remove target).place intruder.template intruder.side target = .ok next ∧
      next.pieceAt home = some piece ∧
      (intruder.isRoyal = false → next.position.classify piece home path = .canCapture) ∧
      (intruder.isRoyal = true → ∀ zone, next.position.settle zone piece target
        (next.position.classify piece home path) = .check) := by
  intro target
  have vacant : (board.remove target).occupantAt target = none := by
    rw [occupantAt_remove, if_pos rfl]
  obtain ⟨next, placed⟩ : ∃ next,
      (board.remove target).place intruder.template intruder.side target = .ok next :=
    ⟨_, place_eq_ok_iff.mpr ⟨inside, vacant, rfl⟩⟩
  have arrival := arrival_of_place placed
  have unconcerned : Position.Unconcerned target piece home path :=
    ⟨approaches.clear, fun _ _ => approaches.once⟩
  have covering : Reach.isCover (board.position.classify piece home path) = true := by
    rcases covers with captures | threatens
    · rw [captures]
      rfl
    · rw [threatens]
      rfl
  refine ⟨next, placed, ?_, ?_, ?_⟩
  · refine (arrival.elsewhere home approaches.apart.symm).trans ?_
    rw [if_neg approaches.apart.symm]
    exact standing
  · intro common
    have opposing : intruder.side ≠ piece.side := Side.eq_opponent_iff.mp owned
    refine (arrival.classify approaches unconcerned opposing covering).resolve_right ?_
    intro given
    rw [common] at given
    cases given.1
  · intro crowned zone
    exact arrival.settle_classify approaches unconcerned owned crowned covering zone

/-- The cannon threatens the square between its screen and the rook behind. A black king there would
be given check. -/
theorem intruder_captured_miniature :
    ∃ next, (Miniature.column.remove ⟨0, 3⟩).place Miniature.king .black ⟨0, 3⟩ = .ok next ∧
      ∀ zone, next.position.settle zone ⟨Miniature.cannon, .red⟩ ⟨0, 3⟩
        (next.position.classify ⟨Miniature.cannon, .red⟩ ⟨0, 0⟩ (Path.repeated ⟨0, 1⟩ 3)) =
          .check := by
  have facts : Miniature.column.pieceAt ⟨0, 0⟩ = some ⟨Miniature.cannon, .red⟩ ∧
      Miniature.column.position.classify ⟨Miniature.cannon, .red⟩ ⟨0, 0⟩
        (Path.repeated ⟨0, 1⟩ 3) = .threatenedOnly := by
    decide +kernel
  have approaches : Piece.Approaches ⟨Miniature.cannon, .red⟩ ⟨0, 0⟩ (Path.repeated ⟨0, 1⟩ 3) :=
    ⟨by decide, by decide, by decide, by decide⟩
  obtain ⟨next, placed, _, _, checked⟩ := intruder_captured Miniature.column facts.1
    (by decide) approaches (Or.inr facts.2) ⟨Miniature.king, .black⟩ rfl
  exact ⟨next, placed, checked rfl⟩

end Board

end TerrainChess

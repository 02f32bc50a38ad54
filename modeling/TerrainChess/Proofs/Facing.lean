import TerrainChess.Proofs.Outlook
import TerrainChess.Proofs.Position
import TerrainChess.Proofs.Reading.Movements
import TerrainChess.Proofs.Reading.Repeated
import TerrainChess.Proofs.Screens

/-!
# Facing royal pieces

Two royal pieces of a type that may not see itself along a polar line break their
rules together, and exactly if one of them stands on the ray of the other and the
squares between are empty: `Board.facing_royals`. The view along all repetitions
of a step is the open line to the first piece on the ray, and the line back from
there is open too.
-/

set_option autoImplicit false

namespace TerrainChess

/-!
## Polar lines
-/

/-- A piece type that may not see an opposing piece of its own name along the paths that the polar
line of a step stands for. -/
def Template.ShunsItself (template : Template) (dims : Dims) (step : Offset) : Prop :=
  ∃ movements, Notation.readMovements dims (Notation.polarLine step) = .ok movements ∧
    template.rules.get? .encounter = some (.encounter
      (.listed (OrderedSet.ofList [template.name]))
      (movements.map (fun movement => ⟨movement.side, movement.path⟩)))

def Side.heading (side : Side) (step : Offset) : Offset :=
  match side with
  | red => step
  | black => -step

theorem Path.negated_repeated (step : Offset) (count : Nat) :
    (repeated step count).negated = repeated (-step) count := by
  rw [negated, repeated, repeated, List.map_replicate]

theorem Notation.repetitions_neg (dims : Dims) (step : Offset) :
    repetitions dims (-step) = (repetitions dims step).map Path.negated := by
  simp only [repetitions, List.map_map, Function.comp_def, Path.negated_repeated]

theorem Template.ShunsItself.get?_encounter {template : Template} {dims : Dims} {step : Offset}
    (shuns : template.ShunsItself dims step) (reaches : dims.WithinReach step) :
    template.rules.get? .encounter = some (.encounter
      (.listed (OrderedSet.ofList [template.name]))
      ((Notation.repetitions dims step).flatMap (fun path =>
        [⟨.only .red, path⟩, ⟨.only .black, path.negated⟩]))) := by
  obtain ⟨movements, read, declared⟩ := shuns
  rw [Notation.readMovements_polarLine reaches] at read
  obtain rfl := Except.ok.inj read
  rw [declared, List.map_flatMap]
  rfl

theorem Side.exists_outlook_iff (side : Side) (dims : Dims) (step : Offset)
    (property : Path → Prop) :
    (∃ outlook ∈ (Notation.repetitions dims step).flatMap (fun path =>
        [(⟨.only .red, path⟩ : ScopedPath), ⟨.only .black, path.negated⟩]),
      outlook.side.admits side = true ∧ property outlook.path) ↔
      ∃ path ∈ Notation.repetitions dims (side.heading step), property path := by
  have member : ∀ outlook : ScopedPath, outlook ∈ (Notation.repetitions dims step).flatMap
        (fun path => [⟨.only .red, path⟩, ⟨.only .black, path.negated⟩]) ↔
      ∃ path ∈ Notation.repetitions dims step,
        outlook = ⟨.only .red, path⟩ ∨ outlook = ⟨.only .black, path.negated⟩ := by simp
  simp only [member]
  constructor
  · intro given
    obtain ⟨outlook, ⟨path, repeats, rfl | rfl⟩, admitted, holds⟩ := given
    · obtain rfl : Side.red = side := of_decide_eq_true admitted
      exact ⟨path, repeats, holds⟩
    · obtain rfl : Side.black = side := of_decide_eq_true admitted
      refine ⟨path.negated, ?_, holds⟩
      rw [heading, Notation.repetitions_neg]
      exact List.mem_map_of_mem repeats
  · intro given
    obtain ⟨path, repeats, holds⟩ := given
    cases side with
    | red => exact ⟨_, ⟨path, repeats, Or.inl rfl⟩, rfl, holds⟩
    | black =>
      rw [heading, Notation.repetitions_neg] at repeats
      obtain ⟨forward, given, rfl⟩ := List.mem_map.mp repeats
      exact ⟨_, ⟨forward, given, Or.inr rfl⟩, rfl, holds⟩

theorem Side.heading_ne_zero (side : Side) {dims : Dims} {step : Offset}
    (reaches : dims.WithinReach step) (moving : step ≠ ⟨0, 0⟩) : side.heading step ≠ ⟨0, 0⟩ := by
  cases side with
  | red => exact moving
  | black =>
    intro still
    exact moving (reaches.neg_neg.symm.trans (congrArg Neg.neg still))

namespace Position

variable {position : Position} {home start target : Square} {step : Offset} {piece : Piece}

/-!
## Open lines
-/

/-- A positive number of steps leads from one square to another, and the squares between are
empty. -/
def OpenLine (position : Position) (step : Offset) (start target : Square) : Prop :=
  ∃ count, 0 < count ∧ start.ahead? step count = some target ∧
    ∀ less, 0 < less → less < count →
      ∃ square, start.ahead? step less = some square ∧ position.pieceAt square = none

theorem OpenLine.back (reaches : position.dims.WithinReach step)
    (line : position.OpenLine step start target) : position.OpenLine (-step) target start := by
  obtain ⟨count, positive, exact, clear⟩ := line
  have whole : start.ahead? step 0 = some start :=
    Square.ahead?_eq_some_iff.mpr ⟨by simp, by simp⟩
  refine ⟨count, positive, ?_, ?_⟩
  · rw [Square.ahead?_neg reaches exact (Nat.le_refl count), Nat.sub_self, whole]
  · intro less started short
    obtain ⟨square, here, vacant⟩ := clear (count - less) (by omega) (by omega)
    exact ⟨square, (Square.ahead?_neg reaches exact (Nat.le_of_lt short)).trans here, vacant⟩

theorem openLine_neg_iff (reaches : position.dims.WithinReach step) :
    position.OpenLine (-step) target start ↔ position.OpenLine step start target := by
  constructor
  · intro line
    have again := line.back reaches.neg
    rwa [reaches.neg_neg] at again
  · exact OpenLine.back reaches

/-- A view along squares visited one after the other ends at the first square with a piece, before
which all squares are on the board and empty. -/
theorem firstMet_range'_eq_some_iff {visit : Nat → Square} {first count : Nat} :
    position.firstMet home ((List.range' first count).map visit) = some piece ↔
      ∃ index, first ≤ index ∧ index < first + count ∧
        (position.dims.Contains (visit index) ∧
          position.seenAt home (visit index) = some piece) ∧
        ∀ less, first ≤ less → less < index → position.dims.Contains (visit less) ∧
          position.seenAt home (visit less) = none := by
  induction count generalizing first with
  | zero =>
    constructor
    · intro met
      cases met
    · intro given
      obtain ⟨index, least, bound, _⟩ := given
      omega
  | succ count ih =>
    rw [List.range'_succ, List.map_cons, firstMet_cons]
    constructor
    · intro met
      split at met
      · next inside =>
        cases seen : position.seenAt home (visit first) with
        | some other =>
          rw [seen, Option.some_or] at met
          exact ⟨first, Nat.le_refl first, by omega, ⟨inside, seen.trans met⟩, by omega⟩
        | none =>
          rw [seen, Option.none_or] at met
          obtain ⟨index, least, bound, hit, clear⟩ := ih.mp met
          refine ⟨index, by omega, by omega, hit, ?_⟩
          intro less started short
          by_cases start : less = first
          · exact start ▸ ⟨inside, seen⟩
          · exact clear less (by omega) short
      · cases met
    · intro given
      obtain ⟨index, least, bound, hit, clear⟩ := given
      by_cases here : index = first
      · subst here
        rw [if_pos hit.1, hit.2, Option.some_or]
      · obtain ⟨inside, seen⟩ := clear first (Nat.le_refl first) (by omega)
        rw [if_pos inside, seen, Option.none_or]
        exact ih.mpr ⟨index, by omega, by omega, hit, fun less started => clear less (by omega)⟩

theorem seenAt_along (moving : step ≠ ⟨0, 0⟩) {count : Nat} (positive : 0 < count)
    (inside : position.dims.Contains (home.along step count)) :
    position.seenAt home (home.along step count) = position.pieceAt (home.along step count) := by
  have away : home.along step count ≠ home := fun same =>
    Square.ahead?_ne_start moving positive (same ▸ Square.ahead?_of_contains inside)
  rw [seenAt, if_neg away]

/-- The repetitions of a step together show the piece at the end of the open line. -/
theorem exists_firstMet_repetitions_iff (here : position.dims.Contains home)
    (moving : step ≠ ⟨0, 0⟩) :
    (∃ path ∈ Notation.repetitions position.dims step,
        position.firstMet home (path.walk home) = some piece) ↔
      ∃ target, position.Stands target piece ∧ position.OpenLine step home target := by
  constructor
  · intro given
    obtain ⟨path, repeats, met⟩ := given
    obtain ⟨count, _, _, rfl⟩ := Notation.mem_repetitions.mp repeats
    rw [Path.walk_repeated] at met
    obtain ⟨index, positive, _, ⟨inside, seen⟩, clear⟩ := firstMet_range'_eq_some_iff.mp met
    rw [seenAt_along moving positive inside] at seen
    refine ⟨_, ⟨inside, seen⟩, index, positive, Square.ahead?_of_contains inside, ?_⟩
    intro less started short
    obtain ⟨between, vacant⟩ := clear less started short
    rw [seenAt_along moving started between] at vacant
    exact ⟨_, Square.ahead?_of_contains between, vacant⟩
  · intro given
    obtain ⟨target, ⟨inside, standing⟩, count, positive, exact, clear⟩ := given
    have ray : position.OnRay home step count target := ⟨positive, exact, inside⟩
    refine ⟨_, ray.repeated_mem here moving, ?_⟩
    have arrived : home.along step count = target := Square.along_of_ahead? exact
    rw [Path.walk_repeated, firstMet_range'_eq_some_iff]
    refine ⟨count, positive, by omega, ⟨arrived ▸ inside, ?_⟩, ?_⟩
    · rw [seenAt_along moving positive (arrived ▸ inside), arrived, standing]
    · intro less started short
      obtain ⟨square, between, vacant⟩ := clear less started short
      obtain ⟨other, same, contained⟩ :=
        Square.exists_ahead?_between here exact inside (Nat.le_of_lt short)
      obtain rfl : square = other := Option.some.inj (between.symm.trans same)
      have visited : home.along step less = square := Square.along_of_ahead? between
      refine ⟨visited ▸ contained, ?_⟩
      rw [seenAt_along moving started (visited ▸ contained), visited, vacant]

/-!
## Two royal pieces
-/

section Shunning

variable {template : Template} {side : Side}
  (shuns : template.ShunsItself position.dims step) (reaches : position.dims.WithinReach step)
  (moving : step ≠ ⟨0, 0⟩) (here : position.dims.Contains home)

include shuns reaches moving here

/-- A piece breaks the rule exactly if an open line leads to an opposing piece of its name. -/
theorem encounterViolated_iff_openLine :
    position.encounterViolated ⟨template, side⟩ home = true ↔
      ∃ target met, position.Stands target met ∧
        position.OpenLine (side.heading step) home target ∧ met.side ≠ side ∧
          met.name = template.name := by
  have heads := side.heading_ne_zero reaches moving
  rw [encounterViolated_of_get? (shuns.get?_encounter reaches),
    judgeEncounter_listed_eq_notValid_iff]
  simp only [sees_iff]
  rw [side.exists_outlook_iff position.dims step (fun path => ∃ met,
    position.firstMet home (path.walk home) = some met ∧ met.side ≠ side ∧
      met.name ∈ OrderedSet.ofList [template.name])]
  simp only [OrderedSet.mem_ofList, List.mem_singleton]
  constructor
  · intro given
    obtain ⟨path, repeats, met, first, opposing, named⟩ := given
    obtain ⟨target, stands, line⟩ :=
      (exists_firstMet_repetitions_iff here heads).mp ⟨path, repeats, first⟩
    exact ⟨target, met, stands, line, opposing, named⟩
  · intro given
    obtain ⟨target, met, stands, line, opposing, named⟩ := given
    obtain ⟨path, repeats, first⟩ :=
      (exists_firstMet_repetitions_iff here heads).mpr ⟨target, stands, line⟩
    exact ⟨path, repeats, met, first, opposing, named⟩

/-- If there is only one other piece of its name, an opposing one, the line has to lead to it. -/
theorem encounterViolated_iff_openLine_of_alone
    (own : position.Stands home ⟨template, side⟩)
    (other : position.Stands target ⟨template, side.opponent⟩)
    (alone : ∀ square piece, position.Stands square piece → piece.name = template.name →
      square = home ∨ square = target) :
    position.encounterViolated ⟨template, side⟩ home = true ↔
      position.OpenLine (side.heading step) home target := by
  rw [encounterViolated_iff_openLine shuns reaches moving here]
  constructor
  · intro given
    obtain ⟨square, met, stands, line, opposing, named⟩ := given
    cases alone square met stands named with
    | inl same =>
      subst same
      obtain rfl := stands.unique own
      exact absurd rfl opposing
    | inr there => rwa [there] at line
  · intro line
    exact ⟨target, _, other, line, Side.opponent_ne side, rfl⟩

end Shunning

theorem royalExposed_of_stands {side : Side} (single : position.SingleRoyal side)
    (stands : position.Stands home piece) (owned : piece.side = side)
    (crowned : piece.isRoyal = true) :
    position.royalExposed side = position.encounterViolated piece home := by
  have found : position.royalSquare? side = some home :=
    single.royalSquare?_eq_some_iff.mpr ⟨piece, stands, owned, crowned⟩
  simp only [royalExposed, found, stands.2]

end Position

namespace Board

/-- Let two royal pieces of one type stand on a board, a red one and a black one, without another
piece of that name, and let the type shun itself along the polar line of a step. Then both break
their rules and both sides are exposed exactly if the step leads from the red piece to the black one
over empty squares. A piece of either side on a square between is enough to screen them. -/
theorem facing_royals (board : Board) (single : board.position.SingleRoyals)
    {template : Template} (crowned : template.royal = true) {step : Offset}
    (reaches : board.dims.WithinReach step) (moving : step ≠ ⟨0, 0⟩)
    (shuns : template.ShunsItself board.dims step) {redSquare blackSquare : Square}
    (redStands : board.pieceAt redSquare = some ⟨template, .red⟩)
    (blackStands : board.pieceAt blackSquare = some ⟨template, .black⟩)
    (alone : ∀ square piece, board.pieceAt square = some piece → piece.name = template.name →
      square = redSquare ∨ square = blackSquare) :
    let position := board.position
    let facing := position.OpenLine step redSquare blackSquare
    (position.encounterViolated ⟨template, .red⟩ redSquare = true ↔ facing) ∧
    (position.encounterViolated ⟨template, .black⟩ blackSquare = true ↔ facing) ∧
    (position.royalExposed .red = true ↔ facing) ∧
    (position.royalExposed .black = true ↔ facing) ∧
    ∀ count less square, redSquare.ahead? step count = some blackSquare →
      0 < less → less < count → redSquare.ahead? step less = some square →
        position.isOccupied square = true → ¬ facing := by
  intro position facing
  have red : position.Stands redSquare ⟨template, .red⟩ := stands_iff.mpr redStands
  have black : position.Stands blackSquare ⟨template, .black⟩ := stands_iff.mpr blackStands
  have redBreaks : position.encounterViolated ⟨template, .red⟩ redSquare = true ↔ facing :=
    Position.encounterViolated_iff_openLine_of_alone shuns reaches moving red.1 red black
      (fun square piece stands named => alone square piece stands.2 named)
  have blackBreaks : position.encounterViolated ⟨template, .black⟩ blackSquare = true ↔
      facing := by
    refine Iff.trans ?_ (Position.openLine_neg_iff reaches)
    exact Position.encounterViolated_iff_openLine_of_alone shuns reaches moving black.1 black red
      (fun square piece stands named => (alone square piece stands.2 named).symm)
  refine ⟨redBreaks, blackBreaks, ?_, ?_, ?_⟩
  · rw [Position.royalExposed_of_stands (single.ofSide .red) red rfl crowned]
    exact redBreaks
  · rw [Position.royalExposed_of_stands (single.ofSide .black) black rfl crowned]
    exact blackBreaks
  · intro count less square exact started short between occupied line
    obtain ⟨other, _, again, clear⟩ := line
    obtain rfl := Square.ahead?_injective moving again exact
    obtain ⟨visited, same, vacant⟩ := clear less started short
    obtain rfl := Option.some.inj (between.symm.trans same)
    rw [Position.isOccupied, vacant] at occupied
    cases occupied

end Board

namespace Miniature

def general : Template where
  name := "general"
  weight := 1
  royal := true
  textures := ⟨"red", "black"⟩
  patterns := [⟨⟨"general", defaultTerrain, .standard, .both⟩, [Path.single ⟨1, 0⟩]⟩]
  rules := ⟨[.jump 0 false, .encounter (.listed (OrderedSet.ofList ["general"]))
    ((Notation.repetitions ⟨3, 4⟩ ⟨0, 1⟩).flatMap (fun path =>
      [⟨.only .red, path⟩, ⟨.only .black, path.negated⟩])), .finalTerrain .all], by decide⟩

def standoff : Board :=
  [(⟨1, 0⟩, ⟨general, .red⟩), (⟨1, 3⟩, ⟨general, .black⟩)].foldl
    (fun current placed => current.put placed.1 (some ⟨placed.2, Moves.none⟩))
    (Board.empty ⟨3, 4⟩)

theorem general_shunsItself : general.ShunsItself ⟨3, 4⟩ ⟨0, 1⟩ :=
  ⟨_, Notation.readMovements_polarLine (by decide), by decide +kernel⟩

end Miniature

namespace Board

/-- The generals face each other over two empty squares. -/
theorem facing_royals_miniature :
    let position := Miniature.standoff.position
    position.encounterViolated ⟨Miniature.general, .red⟩ ⟨1, 0⟩ = true ∧
      position.encounterViolated ⟨Miniature.general, .black⟩ ⟨1, 3⟩ = true ∧
      position.royalExposed .red = true ∧ position.royalExposed .black = true := by
  intro position
  have pieces : Miniature.standoff.pieceAt ⟨1, 0⟩ = some ⟨Miniature.general, .red⟩ ∧
      Miniature.standoff.pieceAt ⟨1, 3⟩ = some ⟨Miniature.general, .black⟩ ∧
      position.pieces = [(⟨1, 0⟩, ⟨Miniature.general, .red⟩),
        (⟨1, 3⟩, ⟨Miniature.general, .black⟩)] ∧ position.SingleRoyals := by
    decide +kernel
  obtain ⟨red, black, all, single⟩ := pieces
  have alone : ∀ square piece, Miniature.standoff.pieceAt square = some piece →
      piece.name = Miniature.general.name → square = ⟨1, 0⟩ ∨ square = ⟨1, 3⟩ := by
    intro square piece standing _
    have member : (square, piece) ∈ position.pieces :=
      Position.mem_pieces.mpr (stands_iff.mpr standing)
    rw [all] at member
    simp only [List.mem_cons, Prod.mk.injEq, List.not_mem_nil, or_false] at member
    exact member.imp And.left And.left
  have facing : position.OpenLine ⟨0, 1⟩ ⟨1, 0⟩ ⟨1, 3⟩ := by
    refine ⟨3, by decide, by decide, ?_⟩
    intro less started short
    obtain rfl | rfl : less = 1 ∨ less = 2 := by omega
    · exact ⟨⟨1, 1⟩, by decide, by decide +kernel⟩
    · exact ⟨⟨1, 2⟩, by decide, by decide +kernel⟩
  obtain ⟨redBreaks, blackBreaks, redExposed, blackExposed, _⟩ :=
    facing_royals Miniature.standoff single rfl (by decide) (by decide)
      Miniature.general_shunsItself red black alone
  exact ⟨redBreaks.mpr facing, blackBreaks.mpr facing, redExposed.mpr facing,
    blackExposed.mpr facing⟩

end Board

end TerrainChess

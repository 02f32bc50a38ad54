import TerrainChess.Proofs.Generation
import TerrainChess.Proofs.RuleSet

/-!
# Destinations of legal moves

A legal move never ends on a piece of the own side nor on a royal piece:
`Position.occupant_of_mem_legal`. A movement to an occupied square is never a
move without capture, the jump rule gives no more than a threat to the own
pieces, and what would capture an opposing royal piece is turned into check. The
jump rule is needed for it, which every completed set of rules has.
-/

set_option autoImplicit false

namespace TerrainChess

/-!
## Movements to an occupied square
-/

theorem judgeJump_of_own {jumps passed : UInt32} {eatOnlyOnLast : Bool} {side : Side}
    {occupant : Piece} (own : occupant.side = side) :
    judgeJump jumps eatOnlyOnLast side passed (some occupant) = .notValid ∨
      judgeJump jumps eatOnlyOnLast side passed (some occupant) = .threatenedOnly := by
  unfold judgeJump
  simp only [own, if_true]
  split <;> split <;> simp

theorem judgeJump_some_ne_moveOnly {jumps passed : UInt32} {eatOnlyOnLast : Bool} {side : Side}
    {occupant : Piece} :
    judgeJump jumps eatOnlyOnLast side passed (some occupant) ≠ .moveOnly := by
  unfold judgeJump
  dsimp only
  repeat' split
  all_goals decide

theorem Validity.andThen_of {property : Validity → Prop} {before answer : Validity}
    (holds : property before) (answered : answer = .canCapture ∨ property answer) :
    property (before.andThen answer) := by
  cases answer with
  | canCapture => exact holds
  | notValid | threatenedOnly | check | moveOnly => simpa [andThen] using answered

namespace Position

variable {position : Position} {mover : Piece} {home : Square} {path : Path}

theorem judgeTerrain_eq_or (allowed : Selector) (square : Square) :
    position.judgeTerrain allowed square = .canCapture ∨
      position.judgeTerrain allowed square = .notValid := by
  unfold judgeTerrain
  repeat' split
  all_goals simp

theorem judgeEncounter_eq_or (forbidden : Selector) (paths : List ScopedPath) (square : Square) :
    position.judgeEncounter mover home forbidden paths square = .canCapture ∨
      position.judgeEncounter mover home forbidden paths square = .notValid := by
  unfold judgeEncounter
  dsimp only
  repeat' split
  all_goals simp

def answer (position : Position) (mover : Piece) (home : Square) (path : Path) (rule : Rule) :
    Validity :=
  position.judge mover home path
    (if rule.stage = .final then path.destination home else home) rule

theorem judgeAll_cons (rule : Rule) (rest : List Rule) (before : Validity) :
    position.judgeAll mover home path (rule :: rest) before =
      if before.andThen (position.answer mover home path rule) = .notValid then .notValid
      else position.judgeAll mover home path rest
        (before.andThen (position.answer mover home path rule)) := rfl

/-- What a refusal has, and every answer that is no pass, the whole judgement keeps. -/
theorem judgeAll_of_answers (property : Validity → Prop) (refusal : property .notValid)
    {rules : List Rule}
    (answers : ∀ rule ∈ rules, position.answer mover home path rule = .canCapture ∨
      property (position.answer mover home path rule))
    {before : Validity} (holds : property before) :
    property (position.judgeAll mover home path rules before) := by
  induction rules generalizing before with
  | nil => exact holds
  | cons rule rest ih =>
    rw [judgeAll_cons]
    split
    · exact refusal
    · exact ih (fun later member => answers later (List.mem_cons_of_mem _ member))
        (Validity.andThen_of holds (answers rule List.mem_cons_self))

/-- If every rule passes or gives one and the same answer, and some rule gives it, then the
judgement is that answer. -/
theorem judgeAll_of_single_answer {answered : Validity} {rules : List Rule}
    (answers : ∀ rule ∈ rules, position.answer mover home path rule = .canCapture ∨
      position.answer mover home path rule = answered)
    {before : Validity} (given : before = answered ∨
      before = .canCapture ∧ ∃ rule ∈ rules, position.answer mover home path rule = answered) :
    position.judgeAll mover home path rules before = answered := by
  induction rules generalizing before with
  | nil => simpa [judgeAll] using given
  | cons rule rest ih =>
    have later := fun other member => answers other (List.mem_cons_of_mem rule member)
    have next : before.andThen (position.answer mover home path rule) = answered ∨
        before.andThen (position.answer mover home path rule) = .canCapture ∧
          ∃ other ∈ rest, position.answer mover home path other = answered := by
      rcases answers rule List.mem_cons_self with passes | same
      · rw [passes]
        rcases given with rfl | ⟨captures, other, member, same⟩
        · exact Or.inl rfl
        · rcases List.mem_cons.mp member with rfl | further
          · exact Or.inl (captures.trans (passes.symm.trans same))
          · exact Or.inr ⟨captures, other, further, same⟩
      · refine Or.inl ?_
        rw [same]
        rcases given with rfl | ⟨rfl, _⟩
        · cases before <;> rfl
        · cases answered <;> rfl
    rw [judgeAll_cons]
    split
    · next refused =>
      rw [refused] at next
      simpa using next
    · exact ih later next

/-- One refusal settles the judgement, wherever it stands among the rules. -/
theorem answer_ne_notValid_of_judgeAll {rules : List Rule} {before : Validity}
    (passes : position.judgeAll mover home path rules before ≠ .notValid) {rule : Rule}
    (member : rule ∈ rules) : position.answer mover home path rule ≠ .notValid := by
  induction rules generalizing before with
  | nil => cases member
  | cons first rest ih =>
    rw [judgeAll_cons] at passes
    split at passes
    · exact absurd rfl passes
    · next allowed =>
      cases member with
      | head =>
        intro refused
        simp [refused, Validity.andThen] at allowed
      | tail _ later => exact ih passes later

/-- Only a jump rule answers more than a pass or a refusal. -/
theorem answer_eq_or_of_ne_jump {rule : Rule} (other : rule.kind ≠ .jump) :
    position.answer mover home path rule = .canCapture ∨
      position.answer mover home path rule = .notValid := by
  cases rule with
  | jump jumps eatOnlyOnLast => exact absurd rfl other
  | finalTerrain allowed => exact judgeTerrain_eq_or allowed _
  | encounter forbidden paths => exact judgeEncounter_eq_or forbidden paths _

theorem exists_answer_of_jump {rule : Rule} (jump : rule.kind = .jump) :
    ∃ jumps eatOnlyOnLast, position.answer mover home path rule =
      judgeJump jumps eatOnlyOnLast mover.side (position.passed home path home)
        (position.pieceAt (path.destination home)) := by
  cases rule with
  | jump jumps eatOnlyOnLast => exact ⟨jumps, eatOnlyOnLast, rfl⟩
  | finalTerrain allowed => cases jump
  | encounter forbidden paths => cases jump

/-- What a refusal, a pass and every answer of a jump rule have, the class of the movement has. -/
theorem classify_of_judgeJump (property : Validity → Prop) (refusal : property .notValid)
    (pass : property .canCapture)
    (answers : ∀ jumps eatOnlyOnLast, property (judgeJump jumps eatOnlyOnLast mover.side
      (position.passed home path home) (position.pieceAt (path.destination home)))) :
    property (position.classify mover home path) := by
  refine judgeAll_of_answers property refusal ?_ pass
  intro rule _
  by_cases jump : rule.kind = .jump
  · obtain ⟨jumps, eatOnlyOnLast, answered⟩ := exists_answer_of_jump jump
    exact Or.inr (answered ▸ answers jumps eatOnlyOnLast)
  · cases answer_eq_or_of_ne_jump jump with
    | inl passes => exact Or.inl passes
    | inr refuses => exact Or.inr (refuses ▸ refusal)

section Occupied

variable {occupant : Piece} (standing : position.pieceAt (path.destination home) = some occupant)

include standing

/-- Once the jump rule has seen a piece of its own side on the destination, the movement is at
most a threat. -/
theorem judgeAll_of_own (own : occupant.side = mover.side) (rules : List Rule) {before : Validity}
    (pending : before = .threatenedOnly ∨
      before = .canCapture ∧ ∃ rule ∈ rules, rule.kind = .jump) :
    position.judgeAll mover home path rules before = .notValid ∨
      position.judgeAll mover home path rules before = .threatenedOnly := by
  induction rules generalizing before with
  | nil =>
    rcases pending with threatened | ⟨_, rule, member, _⟩
    · exact Or.inr threatened
    · cases member
  | cons rule rest ih =>
    rw [judgeAll_cons]
    split
    · exact Or.inl rfl
    · next allowed =>
      refine ih ?_
      by_cases jump : rule.kind = .jump
      · obtain ⟨jumps, eatOnlyOnLast, answered⟩ := exists_answer_of_jump jump
        rw [answered, standing] at allowed ⊢
        rcases judgeJump_of_own own with refuses | threatens
        · rw [refuses] at allowed
          exact absurd rfl allowed
        · rw [threatens]
          exact Or.inl rfl
      · rcases answer_eq_or_of_ne_jump jump with passes | refuses
        · rw [passes]
          rcases pending with threatened | ⟨captures, later, member, isJump⟩
          · exact Or.inl threatened
          · refine Or.inr ⟨captures, later, ?_, isJump⟩
            rcases List.mem_cons.mp member with here | there
            · exact absurd (here ▸ isJump) jump
            · exact there
        · rw [refuses] at allowed
          exact absurd rfl allowed

theorem classify_ne_moveOnly_of_occupied : position.classify mover home path ≠ .moveOnly :=
  classify_of_judgeJump (fun validity => validity ≠ .moveOnly) (by decide) (by decide)
    (fun _ _ => standing ▸ judgeJump_some_ne_moveOnly)

theorem classify_of_own (own : occupant.side = mover.side)
    (complete : mover.template.rules.IsComplete) :
    position.classify mover home path = .notValid ∨
      position.classify mover home path = .threatenedOnly := by
  obtain ⟨rule, member, jump⟩ := RuleSet.contains_iff.mp (complete .jump)
  exact judgeAll_of_own standing own _
    (Or.inr ⟨rfl, rule, RuleSet.mem_byPriority.mpr member, jump⟩)

end Occupied

/-- Only a movement that passes all rules and faces no royal piece remains a capture. -/
theorem settle_eq_canCapture {zone : Option SquareSet} {target : Square} {validity : Validity}
    (captures : position.settle zone mover target validity = .canCapture) :
    validity = .canCapture ∧ ∀ occupant, position.pieceAt target = some occupant →
      occupant.side ≠ mover.side → occupant.isRoyal = false := by
  unfold settle at captures
  dsimp only at captures
  split at captures
  · next passes =>
    refine ⟨passes, ?_⟩
    intro occupant standing opposing
    rw [standing] at captures
    cases royal : occupant.isRoyal with
    | false => rfl
    | true => simp [opposing, royal] at captures
  · next refused => exact absurd captures refused

theorem settle_eq_moveOnly {zone : Option SquareSet} {target : Square} {validity : Validity}
    (moves : position.settle zone mover target validity = .moveOnly) : validity = .moveOnly := by
  unfold settle at moves
  dsimp only at moves
  repeat' split at moves
  all_goals first
    | exact moves
    | cases moves

/-- A legal move ends on the board, and a piece that it meets there is an opposing one that is not
royal. -/
theorem occupant_of_mem_legal {zone : Option SquareSet} {target : Square}
    (complete : mover.template.rules.IsComplete)
    (legal : target ∈ (position.reachFrom zone mover home).moves.legal) :
    position.dims.Contains target ∧ ∀ occupant, position.pieceAt target = some occupant →
      occupant.side ≠ mover.side ∧ occupant.isRoyal = false := by
  obtain ⟨path, rfl, inside, counts⟩ := exists_path_of_mem_legal legal
  refine ⟨inside, ?_⟩
  intro occupant standing
  rcases Reach.isLegal_iff.mp counts with moves | captures
  · exact absurd (settle_eq_moveOnly moves) (classify_ne_moveOnly_of_occupied standing)
  · obtain ⟨passes, common⟩ := settle_eq_canCapture captures
    have opposing : occupant.side ≠ mover.side := by
      intro own
      rcases classify_of_own standing own complete with refused | threatened
      · rw [refused] at passes
        cases passes
      · rw [threatened] at passes
        cases passes
    exact ⟨opposing, common occupant standing opposing⟩

end Position

end TerrainChess

import TerrainChess.Notation.PieceText
import TerrainChess.Proofs.Reading.LinePass

/-!
# The lines of a piece text

What one line can do to the declared piece types and the open block is listed
once, as `PieceState.Step`, and `Notation.step_onLine` says that the pass over a
piece text does nothing else. Every invariant of the pass is a case analysis of
that relation.
-/

set_option autoImplicit false

namespace TerrainChess.Notation

/-- A line that opens a block, or that stands where one should open and has no name. -/
def OpensBlock (line : List Char) : Prop :=
  Text.enclosed '\x7b' '\x7d' line = none ∧ Text.enclosed '(' ')' line ≠ none

instance (line : List Char) : Decidable (OpensBlock line) := inferInstanceAs (Decidable (_ ∧ _))

def StaysInBlock (line : List Char) : Prop := line ≠ Word.blockEnd ∧ ¬ OpensBlock line

instance (line : List Char) : Decidable (StaysInBlock line) :=
  inferInstanceAs (Decidable (_ ∧ _))

namespace PieceBlock

variable {block : PieceBlock} {template : Template}

theorem exists_of_finish (finished : block.finish = .ok template) :
    ∃ weight textures, block.weight = some weight ∧
      (∃ pattern ∈ MovementPattern.group block.movements,
        pattern.tag.isDefaultTerrain = true) ∧
      template = ⟨block.name, weight, block.royal, textures,
        MovementPattern.group block.movements, block.rules.complete⟩ := by
  unfold finish at finished
  dsimp only at finished
  split at finished
  · next anywhere =>
    split at finished
    · next weight red black weighted _ _ =>
      cases finished
      exact ⟨weight, ⟨red, black⟩, weighted, List.any_eq_true.mp anywhere, rfl⟩
    · cases finished
  · cases finished

theorem name_of_finish (finished : block.finish = .ok template) : template.name = block.name := by
  obtain ⟨_, _, _, _, rfl⟩ := exists_of_finish finished
  rfl

theorem royal_of_finish (finished : block.finish = .ok template) :
    template.royal = block.royal := by
  obtain ⟨_, _, _, _, rfl⟩ := exists_of_finish finished
  rfl

end PieceBlock

/-- What a line inside a block may change of it. A line that is rejected or ignored changes
nothing. -/
inductive PieceBlock.Change (scope : PieceScope) (line : List Char) (block : PieceBlock) :
    PieceBlock → Prop where
  | nothing : Change scope line block block
  | rule {body : List Char} {rule : Rule} {rules : RuleSet}
      (read : readRule scope.toRuleScope body = .ok rule)
      (inserted : block.rules.insert rule = .ok rules) :
      Change scope line block { block with rules := rules }
  | terrain {name : String} (known : scope.terrains.isKnown name = true) :
      Change scope line block { block with terrain := some name }
  | undeclaredTerrain : Change scope line block { block with terrain := none }
  | royal (marks : line = Word.royal) : Change scope line block { block with royal := true }
  | texture (side : Side) (found : Option String) :
      Change scope line block { block with textures := block.textures.set side found }
  | weight {weight : UInt32} (positive : 0 < weight) :
      Change scope line block { block with weight := some weight }
  | movements {terrain : String} {movements : List Movement}
      (current : block.terrain = some terrain)
      (read : readMovements scope.dims line = .ok movements) :
      Change scope line block
        { block with
          movements := block.movements ++ movements.map (fun movement =>
            ⟨⟨block.name, terrain, movement.specification, movement.side⟩, movement.path⟩) }

namespace PieceBlock.Change

variable {scope : PieceScope} {line : List Char} {block : PieceBlock}

theorem of_ruleStep (body : List Char) :
    block.Change scope line (ruleStep scope block body).1 := by
  unfold ruleStep
  split
  · exact nothing
  · next rule read =>
    split
    · exact nothing
    · next rules inserted => exact .rule read inserted

theorem of_terrainLineStep (name : String) :
    block.Change scope line (terrainLineStep scope block name).1 := by
  unfold terrainLineStep
  split
  · next known => exact .terrain known
  · exact undeclaredTerrain

theorem of_assignmentStep (written key value : List Char) :
    block.Change scope line (assignmentStep scope block written key value).1 := by
  unfold assignmentStep
  dsimp only
  split
  · exact .texture .red _
  · split
    · exact .texture .black _
    · split
      · split
        · split
          · next positive => exact .weight positive
          · exact nothing
        · exact nothing
      · exact nothing

theorem of_movementStep : block.Change scope line (movementStep scope block line).1 := by
  unfold movementStep
  split
  · exact nothing
  · next terrain current =>
    split
    · exact nothing
    · next movements read => exact .movements current read

theorem royal_eq {changed : PieceBlock} (change : block.Change scope line changed)
    (plain : line ≠ Word.royal) : changed.royal = block.royal := by
  cases change with
  | royal marks => exact absurd marks plain
  | _ => rfl

theorem royal_of_royal {changed : PieceBlock} (change : block.Change scope line changed)
    (royal : block.royal = true) : changed.royal = true := by
  cases change with
  | royal marks => rfl
  | _ => exact royal

end PieceBlock.Change

namespace PieceState

/-- The open block is complete, and its name has not been declared. -/
def Declares (state : PieceState) (template : Template) : Prop :=
  ∃ block, state.openBlock = some block ∧ block.finish = .ok template ∧
    state.declared.contains template.name = false

inductive Step (scope : PieceScope) (line : List Char) (state : PieceState) :
    PieceState → Prop where
  | outside (stays : StaysInBlock line) (closed : state.openBlock = none) :
      Step scope line state state
  | inside {block changed : PieceBlock} (stays : StaysInBlock line)
      (opened : state.openBlock = some block) (change : block.Change scope line changed) :
      Step scope line state (state.continueWith changed)
  | opens {name : String} (leaves : OpensBlock line) (named : name ≠ "") :
      Step scope line state (state.continueWith (PieceBlock.opened name))
  | drops (leaves : OpensBlock line) : Step scope line state ⟨state.declared, none⟩
  | declares {template : Template} (ends : line = Word.blockEnd)
      (complete : state.Declares template) :
      Step scope line state ⟨state.declared.insert template, none⟩
  | refuses (ends : line = Word.blockEnd) (incomplete : ∀ template, ¬ state.Declares template) :
      Step scope line state ⟨state.declared, none⟩

variable {scope : PieceScope} {state : PieceState}

theorem continueWith_self {block : PieceBlock} (opened : state.openBlock = some block) :
    state.continueWith block = state := by
  cases state
  cases opened
  rfl

/-- A line at which the block stays open may be ignored. -/
theorem Step.unchanged {line : List Char} (stays : StaysInBlock line) :
    Step scope line state state := by
  cases opened : state.openBlock with
  | none => exact .outside stays opened
  | some block =>
    have kept : Step scope line state (state.continueWith block) := .inside stays opened .nothing
    rwa [continueWith_self opened] at kept

/-- The end of a block is ignored where no block is open. -/
theorem Step.unchanged_of_closed {line : List Char} (ends : line = Word.blockEnd)
    (closed : state.openBlock = none) : Step scope line state state := by
  have refused : Step scope line state ⟨state.declared, none⟩ := by
    refine .refuses ends ?_
    intro template declares
    obtain ⟨block, opened, _⟩ := declares
    cases closed.symm.trans opened
  rwa [← closed] at refused

theorem step_declarePiece {block : PieceBlock} (opened : state.openBlock = some block) :
    Step scope Word.blockEnd state (declarePiece state block).1 := by
  have only : ∀ {template}, state.Declares template → block.finish = .ok template ∧
      state.declared.contains template.name = false := by
    intro template declares
    obtain ⟨other, same, rest⟩ := declares
    cases opened.symm.trans same
    exact rest
  unfold declarePiece
  split
  · next fault failed =>
    refine .refuses rfl ?_
    intro template declares
    cases failed.symm.trans (only declares).1
  · next template finished =>
    split
    · next known =>
      refine .refuses rfl ?_
      intro other declares
      obtain ⟨same, fresh⟩ := only declares
      cases finished.symm.trans same
      cases known.symm.trans fresh
    · next fresh => exact .declares rfl ⟨block, opened, finished, by simpa using fresh⟩

end PieceState

variable {scope : PieceScope} {state : PieceState}

/-- A line that neither is a rule line nor opens a block changes the open block or ends it. -/
theorem step_blockStep {block : PieceBlock} (opened : state.openBlock = some block)
    {line : List Char} (remains : ¬ OpensBlock line) :
    state.Step scope line (blockStep scope state block line).1 := by
  have inside : ∀ {changed}, line ≠ Word.blockEnd → block.Change scope line changed →
      state.Step scope line (state.continueWith changed) :=
    fun continues change => .inside ⟨continues, remains⟩ opened change
  unfold blockStep
  dsimp only
  split
  · next name bracketed =>
    refine inside ?_ (.of_terrainLineStep _)
    rintro rfl
    cases bracketed
  · split
    · next marks =>
      refine inside ?_ (.royal marks)
      rw [marks]
      decide
    · split
      · next key value assigned =>
        refine inside ?_ (.of_assignmentStep line key value)
        rintro rfl
        cases assigned
      · split
        · next separated =>
          refine inside ?_ .of_movementStep
          rintro rfl
          exact absurd separated (by decide)
        · split
          · next ends =>
            rw [ends]
            exact PieceState.step_declarePiece opened
          · next continues => exact inside continues .nothing

theorem step_pieceStep (scope : PieceScope) (state : PieceState) (line : List Char) :
    state.Step scope line (pieceStep scope state line).1 := by
  unfold pieceStep
  split
  · next body braced =>
    have stays : StaysInBlock line := by
      constructor
      · rintro rfl
        cases braced
      · intro opens
        cases opens.1.symm.trans braced
    split
    · exact .unchanged stays
    · next block opened => exact .inside stays opened (.of_ruleStep body)
  · next unbraced =>
    split
    · next name enclosed =>
      have leaves : OpensBlock line := ⟨unbraced, by rw [enclosed]; exact Option.some_ne_none _⟩
      split
      · exact .drops leaves
      · next present =>
        refine .opens leaves ?_
        intro empty
        exact present (by simpa using empty)
    · next plain =>
      have remains : ¬ OpensBlock line := fun opens => opens.2 plain
      split
      · next closed =>
        by_cases ends : line = Word.blockEnd
        · exact .unchanged_of_closed ends closed
        · exact .unchanged ⟨ends, remains⟩
      · next block opened => exact step_blockStep opened remains

/-- Every line of a piece text does what is listed, a blank line included. -/
theorem step_onLine (scope : PieceScope) (state : PieceState) (line : List Char) :
    state.Step scope line ((pieceStep scope).onLine state line).1 := by
  unfold LineStep.onLine
  split
  · next blank =>
    rw [List.isEmpty_iff.mp blank]
    exact .unchanged (by decide)
  · exact step_pieceStep scope state line

theorem onLine_royal (scope : PieceScope) (state : PieceState) :
    ((pieceStep scope).onLine state Word.royal).1 =
      { state with
        openBlock := state.openBlock.map (fun block => { block with royal := true }) } := by
  obtain ⟨declared, current⟩ := state
  cases current with
  | none => rfl
  | some block => rfl

theorem after_append_royal (scope : PieceScope) (state : PieceState) (before : List (List Char)) :
    (pieceStep scope).after state (before ++ [Word.royal]) =
      { (pieceStep scope).after state before with
        openBlock := ((pieceStep scope).after state before).openBlock.map
          (fun block => { block with royal := true }) } := by
  rw [LineStep.after_append]
  exact onLine_royal scope ((pieceStep scope).after state before)

end TerrainChess.Notation

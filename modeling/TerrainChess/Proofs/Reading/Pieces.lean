import TerrainChess.Proofs.Grouping
import TerrainChess.Proofs.Reading.RoyalBlock
import TerrainChess.Proofs.Reading.Rules
import TerrainChess.Proofs.RuleSet

/-!
# Piece types that are read from a text

A piece text is accepted exactly if one line marks the royal piece and the block
of that line ends with a declaration, and every piece type of an accepted text is
well-formed: `Notation.readPieces_wellFormed`. Each line keeps the open block and
the declared piece types sound, and a sound block gives a well-formed piece type.
-/

set_option autoImplicit false

namespace TerrainChess

structure Template.WellFormed (scope : Notation.RuleScope) (template : Template) : Prop where
  named : template.name ≠ ""
  weighted : 0 < template.weight
  movesAnywhere : ∃ pattern ∈ template.patterns, pattern.tag.terrain = defaultTerrain
  distinctTags : (template.patterns.map MovementPattern.tag).Nodup
  patterns : ∀ pattern ∈ template.patterns, pattern.tag.pieceType = template.name ∧
    scope.terrains.isKnown pattern.tag.terrain = true ∧ pattern.paths ≠ [] ∧
    ∀ path ∈ pattern.paths, path.Fits scope.dims
  oneRule : ∀ kind, (template.rules.rules.map Rule.kind).count kind = 1
  soundRules : ∀ rule ∈ template.rules.rules, rule.Sound scope

namespace Notation

variable {scope : PieceScope}

/-!
## Sound blocks
-/

structure PieceBlock.Sound (scope : PieceScope) (block : PieceBlock) : Prop where
  named : block.name ≠ ""
  weighted : ∀ weight ∈ block.weight, 0 < weight
  movements : ∀ movement ∈ block.movements, movement.tag.pieceType = block.name ∧
    scope.terrains.isKnown movement.tag.terrain = true ∧ movement.path.Fits scope.dims
  terrain : ∀ name ∈ block.terrain, scope.terrains.isKnown name = true
  soundRules : ∀ rule ∈ block.rules.rules, rule.Sound scope.toRuleScope

namespace PieceBlock.Sound

variable {block : PieceBlock}

theorem opened {name : String} (named : name ≠ "") : (PieceBlock.opened name).Sound scope where
  named := named
  weighted weight none := by cases none
  movements movement none := by cases none
  terrain name current := by
    cases current
    rfl
  soundRules rule none := by cases none

theorem change (sound : block.Sound scope) {line : List Char} {changed : PieceBlock}
    (change : block.Change scope line changed) : changed.Sound scope := by
  cases change with
  | nothing => exact sound
  | royal => exact { sound with }
  | texture side found => exact { sound with }
  | undeclaredTerrain =>
    refine { sound with terrain := ?_ }
    intro name none
    cases none
  | terrain known =>
    refine { sound with terrain := ?_ }
    intro name current
    cases current
    exact known
  | weight positive =>
    refine { sound with weighted := ?_ }
    intro weight given
    cases given
    exact positive
  | rule read inserted =>
    refine { sound with soundRules := ?_ }
    intro rule member
    rw [(RuleSet.insert_eq_ok_iff.mp inserted).2] at member
    rcases List.mem_append.mp member with old | new
    · exact sound.soundRules rule old
    · rw [List.mem_singleton.mp new]
      exact sound_of_readRule read
  | movements current read =>
    refine { sound with movements := ?_ }
    intro tagged member
    rcases List.mem_append.mp member with old | new
    · exact sound.movements tagged old
    · obtain ⟨movement, given, rfl⟩ := List.mem_map.mp new
      exact ⟨rfl, sound.terrain _ current, fits_of_readMovements read movement given⟩

/-- A sound block that is complete gives a well-formed template. -/
theorem wellFormed (sound : block.Sound scope) {template : Template}
    (finished : block.finish = .ok template) : template.WellFormed scope.toRuleScope := by
  obtain ⟨weight, textures, weighted, ⟨pattern, member, anywhere⟩, rfl⟩ :=
    exists_of_finish finished
  have collects := MovementPattern.collects_group block.movements
  exact
    { named := sound.named
      weighted := sound.weighted weight weighted
      movesAnywhere := ⟨pattern, member, of_decide_eq_true anywhere⟩
      distinctTags := collects.distinct
      patterns := by
        intro pattern member
        obtain ⟨movement, given, tagged⟩ := collects.exists_movement member
        obtain ⟨owned, known, _⟩ := sound.movements movement given
        rw [tagged] at owned known
        refine ⟨owned, known, collects.inhabited pattern member, ?_⟩
        intro path walked
        exact (sound.movements _ ((collects.mem_paths_iff member).mp walked)).2.2
      oneRule := RuleSet.count_kind_complete block.rules
      soundRules := RuleSet.forall_complete sound.soundRules
        (Rule.sound_default scope.toRuleScope) }

end PieceBlock.Sound

/-!
## Sound states
-/

namespace PieceState

structure Sound (scope : PieceScope) (state : PieceState) : Prop where
  declared : ∀ name template, state.declared.get? name = some template →
    template.WellFormed scope.toRuleScope
  openBlock : ∀ block ∈ state.openBlock, block.Sound scope

theorem sound_initial : initial.Sound scope where
  declared name template found := by
    rw [initial, PieceCatalogue.get?_empty] at found
    cases found
  openBlock block none := by cases none

theorem Sound.step {state next : PieceState} {line : List Char} (sound : state.Sound scope)
    (step : state.Step scope line next) : next.Sound scope := by
  have closed : Sound scope ⟨state.declared, none⟩ := by
    refine ⟨sound.declared, ?_⟩
    intro block none
    cases none
  cases step with
  | outside => exact sound
  | inside stays opened change =>
    refine ⟨sound.declared, ?_⟩
    intro block current
    cases current
    exact (sound.openBlock _ opened).change change
  | opens leaves named =>
    refine ⟨sound.declared, ?_⟩
    intro block current
    cases current
    exact PieceBlock.Sound.opened named
  | drops => exact closed
  | refuses => exact closed
  | declares ends complete =>
    refine ⟨?_, closed.openBlock⟩
    intro name template found
    rw [PieceCatalogue.get?_insert] at found
    split at found
    · obtain ⟨block, opened, finished, _⟩ := complete
      cases found
      exact (sound.openBlock block opened).wellFormed finished
    · exact sound.declared name template found

theorem sound_after (scope : PieceScope) (lines : List (List Char)) :
    ((pieceStep scope).after initial lines).Sound scope :=
  LineStep.after_invariant (pieceStep scope) (fun state => state.Sound scope)
    (fun state line _ sound => sound.step (step_onLine scope state line)) sound_initial

end PieceState

/-- A text is refused with the number of royal lines, or with zero where the one royal line marks
no declared piece type. -/
theorem readPieces_cases (dims : Dims) (resolve : TextureResolver) (terrains : TerrainCatalogue)
    (text : String) :
    let lines := Text.trimmedLines text.toList
    let scope : PieceScope := ⟨⟨terrains, declaredNames lines, dims⟩, resolve⟩
    let declared := ((pieceStep scope).after PieceState.initial lines).declared
    let answer := (readPieces dims resolve terrains text).1
    (royalLines lines = 1 ∧ (∃ template, DeclaresRoyal scope lines template ∧
        declared.royals = [template]) ∧ answer = .ok declared) ∨
      (¬ (royalLines lines = 1 ∧ ∃ template, DeclaresRoyal scope lines template) ∧
        answer = .error (if royalLines lines = 1 then 0 else royalLines lines)) := by
  intro lines scope declared answer
  have answered : answer = if royalLines lines ≠ 1 then .error (royalLines lines)
      else if declared.royals.length = 1 then .ok declared else .error declared.royals.length := by
    show (readPieces dims resolve terrains text).1 = _
    unfold readPieces
    dsimp only
    split
    · rfl
    · rw [LineStep.fst_run]
  by_cases single : royalLines lines = 1
  · rw [if_neg (not_not_intro single)] at answered
    rcases royals_after_initial scope single with ⟨template, declares, count⟩ | ⟨missing, count⟩
    · refine Or.inl ⟨single, ⟨template, declares, count⟩, ?_⟩
      rw [answered, if_pos (by rw [show declared.royals = [template] from count]; rfl)]
    · refine Or.inr ⟨?_, ?_⟩
      · rintro ⟨_, template, declares⟩
        exact missing template declares
      · rw [answered, show declared.royals = [] from count, if_pos single]
        rfl
  · rw [if_pos single] at answered
    rw [answered, if_neg single]
    exact Or.inr ⟨fun given => single given.1, rfl⟩

end Notation

namespace Miniature

def piecesText : String :=
  "(king)\nWINNINGCONDITION\nweight=1\nRED_texture=r\nBLACK_texture=b\n" ++
    "\x7bcannot_encounter;(rook);0,1\x7d\nstd:polar:0,1\n/\n(rook)\n/"

def reading : Except Nat PieceCatalogue := (Notation.readPieces ⟨3, 4⟩ some ∅ piecesText).1

def catalogue : PieceCatalogue := reading.toOption.getD ∅

end Miniature

namespace Notation

/-- A piece text is read exactly if it has one royal line and the block of that line ends with a
declaration. Then that piece type is the only royal one, and every piece type is well-formed and
listed under its name. -/
theorem readPieces_wellFormed (dims : Dims) (resolve : TextureResolver)
    (terrains : TerrainCatalogue) (text : String) :
    let lines := Text.trimmedLines text.toList
    let scope : PieceScope := ⟨⟨terrains, declaredNames lines, dims⟩, resolve⟩
    let answer := (readPieces dims resolve terrains text).1
    ((∃ pieces, answer = .ok pieces) ↔
      royalLines lines = 1 ∧ ∃ template, DeclaresRoyal scope lines template) ∧
    (∀ count, answer = .error count →
      count = if royalLines lines = 1 then 0 else royalLines lines) ∧
    ∀ pieces, answer = .ok pieces →
      (∃ template, DeclaresRoyal scope lines template ∧ pieces.royals = [template]) ∧
      ∀ name template, pieces.get? name = some template →
        template.name = name ∧ template.WellFormed scope.toRuleScope := by
  intro lines scope answer
  rcases readPieces_cases dims resolve terrains text with
    ⟨single, ⟨royal, declares, count⟩, answered⟩ | ⟨refused, answered⟩
  · refine ⟨⟨fun _ => ⟨single, royal, declares⟩, fun _ => ⟨_, answered⟩⟩, ?_, ?_⟩
    · intro count failed
      cases answered.symm.trans failed
    · intro pieces read
      cases answered.symm.trans read
      refine ⟨⟨royal, declares, count⟩, ?_⟩
      intro name template found
      exact ⟨PieceCatalogue.name_of_get? found,
        (PieceState.sound_after scope lines).declared name template found⟩
  · refine ⟨⟨?_, fun given => absurd given refused⟩, ?_, ?_⟩
    · rintro ⟨pieces, read⟩
      cases answered.symm.trans read
    · intro count failed
      cases answered.symm.trans failed
      rfl
    · intro pieces read
      cases answered.symm.trans read

theorem readPieces_wellFormed_miniature :
    Miniature.reading = .ok Miniature.catalogue ∧ Miniature.catalogue.keys = ["king"] ∧
      (∃ royal, Miniature.catalogue.royals = [royal]) ∧
      ∀ name template, Miniature.catalogue.get? name = some template →
        template.name = name ∧ template.WellFormed
          ⟨∅, declaredNames (Text.trimmedLines Miniature.piecesText.toList), ⟨3, 4⟩⟩ := by
  have facts : Miniature.reading = .ok Miniature.catalogue ∧
      Miniature.catalogue.keys = ["king"] := by decide +kernel
  obtain ⟨⟨royal, _, count⟩, formed⟩ :=
    (readPieces_wellFormed ⟨3, 4⟩ some ∅ Miniature.piecesText).2.2 Miniature.catalogue facts.1
  exact ⟨facts.1, facts.2, ⟨royal, count⟩, formed⟩

end Notation

end TerrainChess

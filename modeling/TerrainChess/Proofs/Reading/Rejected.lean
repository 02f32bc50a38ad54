import TerrainChess.Proofs.Reading.Blocks
import TerrainChess.Proofs.Reading.Bracketed
import TerrainChess.Proofs.Reading.Edited
import TerrainChess.Proofs.Reading.LinePass

/-!
# Rejected lines of a piece text

A line that is rejected for what it says, and not for where it stands, leaves the
reading where it was, with one exception: a texture that is not found also takes
away the texture that an earlier line of the block has given. All other rejected
lines could as well be blank: `Notation.readPieces_blankLine`.
-/

set_option autoImplicit false

namespace TerrainChess

namespace Notation

def Word.texture : Side → String
  | .red => Word.redTexture
  | .black => Word.blackTexture

/-- The faults for which a line is rejected as a whole. An undeclared terrain is one of them in a
rule; on a line of its own it takes effect for the movements behind it. -/
def RejectsLine (line : List Char) : Fault → Prop
  | .invalidTexturePath _ | .invalidWeight _ | .unknownParameter _ | .invalidCoordinate _
  | .unknownRuleKind _ | .invalidRuleArgument _ _ | .undeclaredPieceType _
  | .ruleRedefinition _ _ => True
  | .undeclaredTerrain _ => (Text.enclosed '\x7b' '\x7d' line).isSome = true
  | _ => False

/-- A line, which is no rule line, gives a texture of a side, and the open block has one. -/
def PieceState.RepeatsTexture (state : PieceState) (line : List Char) : Prop :=
  Text.enclosed '\x7b' '\x7d' line = none ∧
    ∃ side key value block, Text.splitOnce '=' line = some (key, value) ∧
      String.ofList (Text.trim key) = Word.texture side ∧ state.openBlock = some block ∧
      (block.textures.get side).isSome = true

/-!
## One rejected line
-/

section Steps

variable {scope : PieceScope} {state : PieceState} {block : PieceBlock} {fault : Fault}
  {line body key value : List Char}

theorem ruleStep_of_fault (reported : fault ∈ (ruleStep scope block body).2) :
    ruleStep scope block body = (block, [fault]) := by
  unfold ruleStep at reported ⊢
  cases read : readRule scope.toRuleScope body with
  | error reason =>
    simp only [read, List.mem_singleton] at reported ⊢
    rw [reported]
  | ok rule =>
    cases inserted : block.rules.insert rule with
    | error kind =>
      simp only [read, inserted, List.mem_singleton] at reported ⊢
      rw [reported]
    | ok rules => simp [read, inserted] at reported

theorem movementStep_of_fault (reported : fault ∈ (movementStep scope block line).2) :
    movementStep scope block line = (block, [fault]) := by
  unfold movementStep at reported ⊢
  cases current : block.terrain with
  | none => simp [current] at reported
  | some terrain =>
    cases read : readMovements scope.dims line with
    | error reason =>
      simp only [current, read, List.mem_singleton] at reported ⊢
      rw [reported]
    | ok movements => simp [current, read] at reported

/-- An assignment of a texture stores what the path resolves to, which may be nothing. -/
theorem assignmentStep_texture {side : Side}
    (named : String.ofList (Text.trim key) = Word.texture side) :
    assignmentStep scope block line key value =
      ({ block with textures :=
          block.textures.set side (scope.resolve (String.ofList (Text.trim value))) },
        if (scope.resolve (String.ofList (Text.trim value))).isNone then
          [.invalidTexturePath (String.ofList (Text.trim value))]
        else []) := by
  cases side with
  | red =>
    unfold assignmentStep
    rw [named]
    rfl
  | black =>
    unfold assignmentStep
    rw [named]
    rfl

theorem assignmentStep_of_fault_of_other
    (other : ∀ side, String.ofList (Text.trim key) ≠ Word.texture side)
    (reported : fault ∈ (assignmentStep scope block line key value).2) :
    assignmentStep scope block line key value = (block, [fault]) := by
  have notRed : String.ofList (Text.trim key) ≠ Word.redTexture := other .red
  have notBlack : String.ofList (Text.trim key) ≠ Word.blackTexture := other .black
  simp only [assignmentStep, notRed, notBlack, if_false] at reported ⊢
  split at reported
  · next weighed =>
    rw [if_pos weighed]
    cases read : Text.Numeral.readWord? (Text.trim value) with
    | none => simp_all
    | some weight =>
      by_cases positive : 0 < weight
      · simp [read, positive] at reported
      · simp_all
  · next stray =>
    rw [if_neg stray]
    simp_all

/-- What a rejected line does: nothing, or it takes a texture away. -/
inductive Rejection (scope : PieceScope) (state : PieceState) (line : List Char) (fault : Fault) :
    Prop where
  | nothing (same : pieceStep scope state line = (state, [fault]))
      (quiet : ¬ state.RepeatsTexture line) : Rejection scope state line fault
  | texture {side : Side} {key value : List Char} {block : PieceBlock}
      (noRule : Text.enclosed '\x7b' '\x7d' line = none)
      (assigns : Text.splitOnce '=' line = some (key, value))
      (named : String.ofList (Text.trim key) = Word.texture side)
      (opened : state.openBlock = some block)
      (erased : pieceStep scope state line =
        (state.continueWith { block with textures := block.textures.set side none }, [fault])) :
      Rejection scope state line fault

theorem not_rejectsLine_of_mem_unclosed (reported : fault ∈ state.unclosed) :
    ¬ RejectsLine line fault := by
  obtain ⟨block, _, rfl⟩ := Option.map_eq_some_iff.mp (Option.mem_toList.mp reported)
  exact id

/-- No line that opens a block is rejected as a whole. -/
theorem not_opensBlock_of_rejected (reported : fault ∈ (pieceStep scope state line).2)
    (rejects : RejectsLine line fault) : ¬ OpensBlock line := by
  rintro ⟨noRule, named⟩
  obtain ⟨name, found⟩ := Option.ne_none_iff_exists'.mp named
  unfold pieceStep at reported
  simp only [noRule, found] at reported
  split at reported
  · rcases List.mem_append.mp reported with unclosed | stray
    · exact not_rejectsLine_of_mem_unclosed unclosed rejects
    · rw [List.mem_singleton.mp stray] at rejects
      exact rejects
  · exact not_rejectsLine_of_mem_unclosed reported rejects

theorem ne_royal_of_rejected (reported : fault ∈ (pieceStep scope state line).2)
    (rejects : RejectsLine line fault) : line ≠ Word.royal := by
  rintro rfl
  obtain ⟨declared, current⟩ := state
  cases current with
  | none =>
    rw [show (pieceStep scope ⟨declared, none⟩ Word.royal).2 =
      [.strayText (String.ofList Word.royal)] from rfl, List.mem_singleton] at reported
    rw [reported] at rejects
    exact rejects
  | some block => cases (show fault ∈ [] from reported)

theorem not_rejectsLine_of_mem_declarePiece (reported : fault ∈ (declarePiece state block).2) :
    ¬ RejectsLine line fault := by
  unfold declarePiece at reported
  cases finished : block.finish with
  | error reason =>
    simp only [finished, List.mem_singleton] at reported
    subst reported
    unfold PieceBlock.finish at finished
    dsimp only at finished
    split at finished
    · split at finished
      · cases finished
      · cases finished
        exact id
    · cases finished
      exact id
  | ok template =>
    simp only [finished] at reported
    split at reported
    · rw [List.mem_singleton.mp reported]
      exact id
    · cases reported

theorem rejection_of_blockStep (opened : state.openBlock = some block)
    (noRule : Text.enclosed '\x7b' '\x7d' line = none)
    (steps : pieceStep scope state line = blockStep scope state block line)
    (reported : fault ∈ (pieceStep scope state line).2) (rejects : RejectsLine line fault) :
    Rejection scope state line fault := by
  rw [steps] at reported
  cases bracketed : Text.enclosed '[' ']' line with
  | some name =>
    simp only [blockStep, bracketed, terrainLineStep] at reported
    split at reported
    · cases reported
    · rw [List.mem_singleton.mp reported, RejectsLine, noRule] at rejects
      cases rejects
  | none =>
    have notRoyal := ne_royal_of_rejected (steps ▸ reported) rejects
    cases assigned : Text.splitOnce '=' line with
    | some pair =>
      obtain ⟨key, value⟩ := pair
      simp only [blockStep, bracketed, notRoyal, assigned, if_false] at steps reported
      by_cases named : ∃ side, String.ofList (Text.trim key) = Word.texture side
      · obtain ⟨side, word⟩ := named
        rw [assignmentStep_texture word] at steps reported
        cases resolved : scope.resolve (String.ofList (Text.trim value)) with
        | some path => simp [resolved] at reported
        | none =>
          simp only [resolved, Option.isNone_none, if_true, List.mem_singleton] at steps reported
          rw [← reported] at steps
          exact .texture noRule assigned word opened steps
      · have other := fun side word => named ⟨side, word⟩
        rw [assignmentStep_of_fault_of_other other reported,
          PieceState.continueWith_self opened] at steps
        refine .nothing steps ?_
        rintro ⟨_, side, _, _, _, again, word, _⟩
        cases assigned.symm.trans again
        exact other side word
    | none =>
      by_cases separated : ':' ∈ line ∨ ',' ∈ line
      · simp only [blockStep, bracketed, notRoyal, assigned, if_false, separated, if_true]
          at steps reported
        rw [movementStep_of_fault reported, PieceState.continueWith_self opened] at steps
        refine .nothing steps ?_
        rintro ⟨_, _, _, _, _, again, _⟩
        cases assigned.symm.trans again
      · by_cases ends : line = Word.blockEnd
        · subst ends
          exact absurd rejects (not_rejectsLine_of_mem_declarePiece reported)
        · simp only [blockStep, bracketed, notRoyal, assigned, if_false, separated, ends,
            List.mem_singleton] at reported
          rw [reported] at rejects
          exact absurd rejects id

/-- The effect of a line that is rejected as a whole. -/
theorem rejection_of_pieceStep (reported : fault ∈ (pieceStep scope state line).2)
    (rejects : RejectsLine line fault) : Rejection scope state line fault := by
  have notOpening := not_opensBlock_of_rejected reported rejects
  cases braces : Text.enclosed '\x7b' '\x7d' line with
  | some body =>
    cases opened : state.openBlock with
    | none =>
      simp only [pieceStep, braces, opened, List.mem_singleton] at reported
      rw [reported] at rejects
      exact absurd rejects id
    | some block =>
      have steps : pieceStep scope state line = (state.continueWith (ruleStep scope block body).1,
          (ruleStep scope block body).2) := by
        simp only [pieceStep, braces, opened]
      rw [steps] at reported
      rw [ruleStep_of_fault reported, PieceState.continueWith_self opened] at steps
      refine .nothing steps ?_
      rintro ⟨noRule, _⟩
      cases braces.symm.trans noRule
  | none =>
    have noName : Text.enclosed '(' ')' line = none := by
      cases named : Text.enclosed '(' ')' line with
      | none => rfl
      | some name => exact absurd ⟨braces, by rw [named]; exact Option.some_ne_none _⟩ notOpening
    cases opened : state.openBlock with
    | none =>
      simp only [pieceStep, braces, noName, opened, List.mem_singleton] at reported
      rw [reported] at rejects
      exact absurd rejects id
    | some block =>
      exact rejection_of_blockStep opened braces (by simp only [pieceStep, braces, noName, opened])
        reported rejects

/-- A rejected line has one fault, and it leaves the reading where it was unless it takes a
texture away that the open block has. -/
theorem Rejection.step_iff (rejection : Rejection scope state line fault) :
    (pieceStep scope state line).2 = [fault] ∧
      ((pieceStep scope state line).1 = state ↔ ¬ state.RepeatsTexture line) := by
  cases rejection with
  | nothing same quiet =>
    rw [same]
    exact ⟨rfl, fun _ => quiet, fun _ => rfl⟩
  | @texture side key value block noRule assigns named opened erased =>
    rw [erased]
    refine ⟨rfl, ?_, ?_⟩
    · rintro same ⟨_, again, _, _, other, assignsAgain, namedAgain, openedAgain, given⟩
      cases assigns.symm.trans assignsAgain
      cases opened.symm.trans openedAgain
      obtain rfl : again = side := by
        have words := namedAgain.symm.trans named
        revert words
        cases again <;> cases side <;> decide
      have stored : block.textures.get again = none := by
        have kept := congrArg PieceState.openBlock same
        rw [opened] at kept
        have textures := congrArg PieceBlock.textures (Option.some.inj kept)
        rw [← textures]
        exact BySide.get_set_self _ _ _
      rw [stored] at given
      cases given
    · intro quiet
      have missing : block.textures.get side = none := by
        cases given : block.textures.get side with
        | none => rfl
        | some path =>
          exact absurd ⟨noRule, side, key, value, block, assigns, named, opened, by rw [given]; rfl⟩
            quiet
      have kept : block.textures.set side none = block.textures := by
        rw [← missing]
        cases side <;> rfl
      rw [kept]
      exact PieceState.continueWith_self opened

end Steps

/-!
## The text without the line
-/

/-- A rejected line declares no name without a closing brace. -/
theorem mem_declaredNames_blank {scope : PieceScope} {state : PieceState} {fault : Fault}
    {before behind : List (List Char)} {line name : List Char}
    (reported : fault ∈ (pieceStep scope state line).2) (rejects : RejectsLine line fault)
    (closed : '\x7d' ∉ name) :
    String.ofList name ∈ declaredNames (before ++ [] :: behind) ↔
      String.ofList name ∈ declaredNames (before ++ line :: behind) := by
  have absent : Text.wrapped '(' ')' line ≠ some name := by
    intro wrapped
    cases braces : Text.enclosed '\x7b' '\x7d' line with
    | none =>
      exact not_opensBlock_of_rejected reported rejects
        ⟨braces, Text.enclosed_of_wrapped wrapped⟩
    | some body =>
      -- A rule in parentheses is read as a rule and still declares a name, but one with a brace,
      -- which no rule can name.
      obtain ⟨middle, rfl, rfl⟩ := Text.wrapped_eq_some wrapped
      have brace := (Text.closing_of_enclosed braces).1
      have inside : '\x7d' ∈ middle := by simpa using brace
      exact closed (Text.mem_trim inside (by decide))
  have written : ∀ inner : List Char, String.ofList inner = String.ofList name ↔ inner = name :=
    fun inner => String.ofList_inj
  simp only [declaredNames, OrderedSet.mem_ofList, List.mem_map, List.mem_filterMap, written,
    exists_eq_right, List.mem_append, List.mem_cons]
  constructor
  · rintro ⟨other, given | rfl | given, wrapped⟩
    · exact ⟨other, Or.inl given, wrapped⟩
    · cases wrapped
    · exact ⟨other, Or.inr (Or.inr given), wrapped⟩
  · rintro ⟨other, given | rfl | given, wrapped⟩
    · exact ⟨other, Or.inl given, wrapped⟩
    · exact absurd wrapped absent
    · exact ⟨other, Or.inr (Or.inr given), wrapped⟩

theorem royalLines_append_cons {before behind : List (List Char)} {line : List Char}
    (plain : line ≠ Word.royal) :
    royalLines (before ++ line :: behind) = royalLines (before ++ behind) := by
  simp [royalLines, plain]

theorem readPieces_of_run {dims : Dims} {resolve : TextureResolver} {terrains : TerrainCatalogue}
    {text : String} {lines : List (List Char)} {final : PieceState} {faults : List (Nat × Fault)}
    (cut : Text.trimmedLines text.toList = lines) (single : royalLines lines = 1)
    (run : (pieceStep ⟨⟨terrains, declaredNames lines, dims⟩, resolve⟩).run 1 PieceState.initial
      lines = (final, faults)) :
    readPieces dims resolve terrains text =
      (if final.declared.royals.length = 1 then .ok final.declared
        else .error final.declared.royals.length,
        diagnose .pieces (faults ++ final.unclosed.map (fun fault => (lines.length, fault)))) := by
  unfold readPieces
  simp only [cut, single, run, ne_eq, not_true_eq_false, if_false]

/-- What is dropped is dropped for a line, or for a block that is open at the end of the text. -/
theorem exists_of_mem_readPieces {dims : Dims} {resolve : TextureResolver}
    {terrains : TerrainCatalogue} {text : String} {diagnostic : Diagnostic}
    (reported : diagnostic ∈ (readPieces dims resolve terrains text).2) :
    let lines := Text.trimmedLines text.toList
    let scope : PieceScope := ⟨⟨terrains, declaredNames lines, dims⟩, resolve⟩
    royalLines lines = 1 ∧
      (diagnostic.fault ∈ ((pieceStep scope).after PieceState.initial lines).unclosed ∨
        ∃ before line behind, lines = before ++ line :: behind ∧
          diagnostic = ⟨.pieces, 1 + before.length, diagnostic.fault⟩ ∧
          diagnostic.fault ∈ ((pieceStep scope).onLine
            ((pieceStep scope).after PieceState.initial before) line).2) := by
  intro lines scope
  unfold readPieces at reported
  dsimp only at reported
  split at reported
  · cases reported
  · next single =>
    refine ⟨Decidable.not_not.mp single, ?_⟩
    obtain ⟨⟨number, fault⟩, given, rfl⟩ := List.mem_map.mp reported
    rcases List.mem_append.mp given with inLine | atEnd
    · obtain ⟨before, line, behind, split, rfl, found⟩ := (LineStep.mem_run_iff _).mp inLine
      exact Or.inr ⟨before, line, behind, split, rfl, found⟩
    · obtain ⟨other, unclosed, same⟩ := List.mem_map.mp atEnd
      cases same
      rw [LineStep.fst_run] at unclosed
      exact Or.inl unclosed

/-- Blanking a line that has one fault and no effect drops that fault and changes nothing else. -/
theorem readPieces_of_split {dims : Dims} {resolve : TextureResolver}
    {terrains : TerrainCatalogue} {text : String} {before behind : List (List Char)}
    {line : List Char} {fault : Fault}
    (split : Text.trimmedLines text.toList = before ++ line :: behind)
    (single : royalLines (Text.trimmedLines text.toList) = 1) :
    let scope : PieceScope :=
      ⟨⟨terrains, declaredNames (Text.trimmedLines text.toList), dims⟩, resolve⟩
    let state := (pieceStep scope).after PieceState.initial before
    fault ∈ ((pieceStep scope).onLine state line).2 → RejectsLine line fault →
      ¬ state.RepeatsTexture line →
        readPieces dims resolve terrains
            (String.ofList (Text.blankLine before.length text.toList)) =
          ((readPieces dims resolve terrains text).1,
            (readPieces dims resolve terrains text).2.erase
              ⟨.pieces, 1 + before.length, fault⟩) := by
  rw [split] at single ⊢
  intro scope state given rejects quiet
  have stepped : (pieceStep scope).onLine state line = pieceStep scope state line :=
    LineStep.onLine_of_mem _ given
  have reported : fault ∈ (pieceStep scope state line).2 := stepped ▸ given
  obtain ⟨alone, unmoved⟩ := (rejection_of_pieceStep reported rejects).step_iff
  have idle : (pieceStep scope).onLine state line = (state, [fault]) := by
    rw [stepped, Prod.ext_iff]
    exact ⟨unmoved.mpr quiet, alone⟩
  have blank : Text.trimmedLines (Text.blankLine before.length text.toList) =
      before ++ [] :: behind := by
    rw [Text.trimmedLines_blankLine (by rw [split]; simp), split]
    simp
  let other : PieceScope := ⟨⟨terrains, declaredNames (before ++ [] :: behind), dims⟩, resolve⟩
  have sameSteps : pieceStep other = pieceStep scope :=
    pieceStep_congr ⟨rfl, rfl, fun _ closed => mem_declaredNames_blank reported rejects closed⟩ rfl
  have singleToo : royalLines (before ++ [] :: behind) = 1 := by
    rw [← single, royalLines_append_cons (ne_royal_of_rejected reported rejects),
      royalLines_append_cons (by decide)]
  have count : (before ++ [] :: behind).length = (before ++ line :: behind).length := by simp
  obtain ⟨front, back, run, blankRun, earlier⟩ :=
    (pieceStep scope).run_blank 1 behind idle
  have dropped : ∀ later, (diagnose .pieces (front ++ (1 + before.length, fault) :: later)).erase
      ⟨.pieces, 1 + before.length, fault⟩ = diagnose .pieces (front ++ later) := by
    intro later
    refine diagnose_erase ?_
    intro entry member same
    have smaller := earlier entry member
    rw [same] at smaller
    exact Nat.lt_irrefl _ smaller
  rw [← sameSteps] at blankRun
  rw [readPieces_of_run split single run,
    readPieces_of_run (by rw [String.toList_ofList]; exact blank) singleToo blankRun, count,
    sameSteps, List.append_assoc, List.append_assoc, List.cons_append, dropped]

end Notation

namespace Miniature

def resolver : TextureResolver := fun path => if path = "lost" then none else some path

def kingText (line : String) : String :=
  "(king)\nWINNINGCONDITION\nweight=1\nRED_texture=r\nBLACK_texture=b\n" ++ line ++
    "\nstd:polar:0,1\n/"

end Miniature

namespace Notation

/-- A texture that is not found takes away the one that the block has, and so the royal piece type
is dropped. With a space in place of the line it is declared. -/
theorem readPieces_loses_texture :
    let text := Miniature.kingText "RED_texture=lost"
    let line := (Text.trimmedLines text.toList).getD 5 []
    let fault := Fault.invalidTexturePath "lost"
    (⟨.pieces, 6, fault⟩ : Diagnostic) ∈ (readPieces ⟨3, 4⟩ Miniature.resolver ∅ text).2 ∧
      RejectsLine line fault ∧
      (readPieces ⟨3, 4⟩ Miniature.resolver ∅ text).1.isOk = false ∧
      (readPieces ⟨3, 4⟩ Miniature.resolver ∅
        (String.ofList (Text.blankLine 5 text.toList))).1.isOk = true := by
  intro text line fault
  exact ⟨by decide +kernel, trivial, by decide +kernel, by decide +kernel⟩

/-- A rejected line of a piece text leaves the reading where it was, unless it repeats a texture of
its block. Then the text with a space in place of the line declares the same piece types, or is
refused for the same reason, and all other faults are the same and have the same line numbers. -/
theorem readPieces_blankLine (dims : Dims) (resolve : TextureResolver)
    (terrains : TerrainCatalogue) (text : String) {diagnostic : Diagnostic}
    (reported : diagnostic ∈ (readPieces dims resolve terrains text).2) :
    let lines := Text.trimmedLines text.toList
    let scope : PieceScope := ⟨⟨terrains, declaredNames lines, dims⟩, resolve⟩
    let index := diagnostic.line - 1
    let line := lines.getD index []
    let state := (pieceStep scope).after PieceState.initial (lines.take index)
    let blanked := String.ofList (Text.blankLine index text.toList)
    RejectsLine line diagnostic.fault →
      ((pieceStep scope state line).1 = state ↔ ¬ state.RepeatsTexture line) ∧
      (¬ state.RepeatsTexture line →
        readPieces dims resolve terrains blanked =
          ((readPieces dims resolve terrains text).1,
            (readPieces dims resolve terrains text).2.erase diagnostic)) := by
  intro lines scope index line state blanked rejects
  obtain ⟨single, found⟩ := exists_of_mem_readPieces reported
  rcases found with unclosed | ⟨before, here, behind, split, same, given⟩
  · exact absurd rejects (not_rejectsLine_of_mem_unclosed unclosed)
  have cut : lines = before ++ here :: behind := split
  have place : index = before.length := by
    show diagnostic.line - 1 = _
    rw [same]
    simp
  obtain rfl : here = line := by
    show here = lines.getD index []
    rw [cut, place]
    simp
  have earlier : state = (pieceStep scope).after PieceState.initial before := by
    show (pieceStep scope).after PieceState.initial (lines.take index) = _
    rw [cut, place]
    simp
  rw [← earlier] at given
  refine ⟨?_, ?_⟩
  · have stepped := LineStep.onLine_of_mem _ given
    exact (rejection_of_pieceStep (stepped ▸ given) rejects).step_iff.2
  · intro quiet
    rw [earlier] at given quiet
    have dropped := readPieces_of_split split single given rejects quiet
    rw [← same] at dropped
    show readPieces dims resolve terrains (String.ofList (Text.blankLine index text.toList)) = _
    rw [place]
    exact dropped

/-- A rule with a bad argument. -/
theorem readPieces_blankLine_miniature :
    let text := Miniature.kingText "\x7bjump;x\x7d"
    let fault := Fault.invalidRuleArgument .jump "x"
    (readPieces ⟨3, 4⟩ Miniature.resolver ∅ text).2 = [⟨.pieces, 6, fault⟩] ∧
      readPieces ⟨3, 4⟩ Miniature.resolver ∅ (String.ofList (Text.blankLine 5 text.toList)) =
        ((readPieces ⟨3, 4⟩ Miniature.resolver ∅ text).1, []) := by
  intro text fault
  have faults : (readPieces ⟨3, 4⟩ Miniature.resolver ∅ text).2 = [⟨.pieces, 6, fault⟩] := by
    decide +kernel
  have reported : (⟨.pieces, 6, fault⟩ : Diagnostic) ∈
      (readPieces ⟨3, 4⟩ Miniature.resolver ∅ text).2 := by
    rw [faults]
    exact List.mem_singleton_self _
  have braced : Text.enclosed '\x7b' '\x7d' ((Text.trimmedLines text.toList).getD 5 []) ≠ none := by
    decide +kernel
  have dropped := (readPieces_blankLine ⟨3, 4⟩ Miniature.resolver ∅ text reported trivial).2
    (fun repeats => braced repeats.1)
  rw [faults, List.erase_cons_head] at dropped
  exact ⟨faults, dropped⟩

end Notation

end TerrainChess

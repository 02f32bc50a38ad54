import Mathlib.Data.List.Nodup
import TerrainChess.Proofs.Reading.Blocks
import TerrainChess.Proofs.Reading.Bracketed
import TerrainChess.Proofs.Reading.RuleArguments

/-!
# The order of the blocks of a piece text

A block is read the same wherever it stands: the lines inside of it neither look
at the declared piece types nor change them, and its end declares one piece type
under the name of the block. The names for the rules are collected before. So
`Notation.readPieces_block_order`: a text of whole blocks declares the same piece
types in any order of the blocks, and every block keeps its faults.
-/

set_option autoImplicit false

namespace TerrainChess

namespace Text

variable {opening closing : Char} {text inner : List Char}

theorem splitOnce_of_not_mem {separator : Char} (absent : separator ∉ text) :
    splitOnce separator text = none := by
  cases found : splitOnce separator text with
  | none => rfl
  | some parts =>
    obtain ⟨cut, _⟩ := splitOnce_eq_some found
    rw [cut] at absent
    simp at absent

/-- The brackets that wrap a text are those that enclose a part of it, unless the part has a closing
bracket of its own. -/
theorem enclosed_eq_of_wrapped (found : wrapped opening closing text = some inner)
    (absent : closing ∉ inner) (solid : isBlank closing = false) :
    enclosed opening closing text = some inner := by
  obtain ⟨middle, rfl, rfl⟩ := wrapped_eq_some found
  have plain : closing ∉ middle := fun member => absent (mem_trim member solid)
  rw [enclosed, splitOnce, if_pos rfl]
  dsimp only
  rw [splitOnce_append plain]
  rfl

theorem not_mem_of_wrapped {bracket : Char} (found : wrapped opening closing text = some inner)
    (absent : bracket ∉ inner) (solid : isBlank bracket = false) (first : bracket ≠ opening)
    (last : bracket ≠ closing) : bracket ∉ text := by
  obtain ⟨middle, rfl, rfl⟩ := wrapped_eq_some found
  have plain : bracket ∉ middle := fun member => absent (mem_trim member solid)
  simp [first, last, plain]

end Text

namespace Notation

/-!
## Moving a pass
-/

def shift (number : Nat) (faults : List (Nat × Fault)) : List (Nat × Fault) :=
  faults.map (fun entry => (number + entry.1, entry.2))

theorem shift_shift (first second : Nat) (faults : List (Nat × Fault)) :
    shift first (shift second faults) = shift (first + second) faults := by
  simp [shift, Nat.add_assoc]

theorem shift_zero (faults : List (Nat × Fault)) : shift 0 faults = faults := by
  simp only [shift, Nat.zero_add, List.map_id']

theorem shift_append (number : Nat) (front back : List (Nat × Fault)) :
    shift number (front ++ back) = shift number front ++ shift number back := List.map_append

theorem shift_here (number : Nat) (faults : List Fault) :
    shift number (faults.map (fun fault => (0, fault))) =
      faults.map (fun fault => (number, fault)) := by
  simp [shift]

/-!
## Blocks
-/

def OpensNamed (line : List Char) : Prop :=
  OpensBlock line ∧ Text.enclosed '(' ')' line ≠ some []

instance (line : List Char) : Decidable (OpensNamed line) := inferInstanceAs (Decidable (_ ∧ _))

/-- A line that neither ends a block nor begins another one. -/
def StandsInside (line : List Char) : Prop := line ≠ Word.blockEnd ∧ ¬ OpensNamed line

instance (line : List Char) : Decidable (StandsInside line) := inferInstanceAs (Decidable (_ ∧ _))

/-- The lines of a whole block. Whether its inside makes sense is left open. -/
structure WrittenBlock where
  opening : List Char
  name : List Char
  inside : List (List Char)
  opens : Text.wrapped '(' ')' opening = some name
  named : name ≠ []
  plain : ∀ bracket ∈ ['(', ')', '\x7b', '\x7d'], bracket ∉ name
  stands : ∀ line ∈ inside, StandsInside line

namespace WrittenBlock

def lines (block : WrittenBlock) : List (List Char) :=
  block.opening :: (block.inside ++ [Word.blockEnd])

def key (block : WrittenBlock) : String := String.ofList block.name

/-- The faults of a block on its own, with line 0 as its first line. -/
def faults (scope : PieceScope) (block : WrittenBlock) : List (Nat × Fault) :=
  ((pieceStep scope).run 0 PieceState.initial block.lines).2

def template? (scope : PieceScope) (block : WrittenBlock) : Option Template :=
  ((pieceStep scope).after PieceState.initial block.lines).declared.get? block.key

def addTo (scope : PieceScope) (pieces : PieceCatalogue) (block : WrittenBlock) : PieceCatalogue :=
  match block.template? scope with
  | none => pieces
  | some template => pieces.insert template

/-- The faults of blocks that stand below each other, from a line on. -/
def faultsFrom (scope : PieceScope) : Nat → List WrittenBlock → List (Nat × Fault)
  | _, [] => []
  | number, block :: rest =>
    shift number (block.faults scope) ++ faultsFrom scope (number + block.lines.length) rest

end WrittenBlock

variable {scope : PieceScope} {line : List Char}

/-!
## Lines inside a block
-/

theorem PieceBlock.Change.name_eq {block changed : PieceBlock}
    (change : block.Change scope line changed) : changed.name = block.name := by
  cases change <;> rfl

def OpenAs (name : String) (current : Option PieceBlock) : Prop :=
  ∀ block ∈ current, block.name = name

/-- A line that leaves the block open does not depend on what has been declared, which it does not
change. -/
theorem exists_blockStep (scope : PieceScope) (block : PieceBlock)
    (continues : line ≠ Word.blockEnd) :
    ∃ changed faults, changed.name = block.name ∧ ∀ declared,
      blockStep scope ⟨declared, some block⟩ block line = (⟨declared, some changed⟩, faults) := by
  have stay : ∀ result : PieceBlock × List Fault, block.Change scope line result.1 →
      ∃ changed faults, changed.name = block.name ∧ ∀ declared,
        (PieceState.continueWith ⟨declared, some block⟩ result.1, result.2) =
          (⟨declared, some changed⟩, faults) :=
    fun result change => ⟨result.1, result.2, change.name_eq, fun _ => rfl⟩
  unfold blockStep
  dsimp only
  split
  · next name _ => exact stay (terrainLineStep scope block (String.ofList name)) (.of_terrainLineStep _)
  · split
    · next marks => exact stay ({ block with royal := true }, []) (.royal marks)
    · split
      · next key value _ =>
        exact stay (assignmentStep scope block line key value) (.of_assignmentStep line key value)
      · split
        · exact stay (movementStep scope block line) .of_movementStep
        · exact stay (block, [.strayText (String.ofList line)]) .nothing

/-- The same for all lines inside a block, which a nameless pair of parentheses gives up. -/
theorem exists_onLine (scope : PieceScope) (current : Option PieceBlock) {name : String}
    (opened : OpenAs name current) (stands : StandsInside line) :
    ∃ next faults, OpenAs name next ∧ ∀ declared,
      (pieceStep scope).onLine ⟨declared, current⟩ line = (⟨declared, next⟩, faults) := by
  unfold LineStep.onLine
  split
  · exact ⟨current, [], opened, fun _ => rfl⟩
  · have ignored : ∃ next faults, OpenAs name next ∧ ∀ declared : PieceCatalogue,
        ((⟨declared, none⟩, [.strayText (String.ofList line)]) : PieceState × List Fault) =
          (⟨declared, next⟩, faults) := ⟨none, _, fun _ none => (nomatch none), fun _ => rfl⟩
    unfold pieceStep
    cases braces : Text.enclosed '\x7b' '\x7d' line with
    | some body =>
      cases current with
      | none => exact ignored
      | some block =>
        refine ⟨some (ruleStep scope block body).1, (ruleStep scope block body).2, ?_, fun _ => rfl⟩
        rintro changed ⟨⟩
        have change : block.Change scope line (ruleStep scope block body).1 := .of_ruleStep body
        exact change.name_eq.trans (opened block rfl)
    | none =>
      cases parentheses : Text.enclosed '(' ')' line with
      | some inner =>
        have nameless : inner = [] := by
          by_cases given : inner = []
          · exact given
          · refine absurd ⟨⟨braces, ?_⟩, ?_⟩ stands.2
            · simp [parentheses]
            · simp [parentheses, given]
        subst nameless
        exact ⟨none, PieceState.unclosed ⟨∅, current⟩ ++ [.strayText (String.ofList line)],
          fun _ none => (nomatch none), fun _ => rfl⟩
      | none =>
        cases current with
        | none => exact ignored
        | some block =>
          obtain ⟨changed, faults, sameName, step⟩ := exists_blockStep scope block stands.1
          refine ⟨some changed, faults, ?_, step⟩
          rintro other ⟨⟩
          exact sameName.trans (opened block rfl)

theorem exists_run (scope : PieceScope) (current : Option PieceBlock) {name : String}
    (opened : OpenAs name current) {lines : List (List Char)}
    (stand : ∀ line ∈ lines, StandsInside line) :
    ∃ next faults, OpenAs name next ∧ ∀ declared number,
      (pieceStep scope).run number ⟨declared, current⟩ lines =
        (⟨declared, next⟩, shift number faults) := by
  induction lines generalizing current with
  | nil => exact ⟨current, [], opened, fun _ _ => rfl⟩
  | cons line rest ih =>
    obtain ⟨middle, here, openedThere, step⟩ :=
      exists_onLine scope current opened (stand line List.mem_cons_self)
    obtain ⟨next, later, openedLater, run⟩ :=
      ih middle openedThere (fun other member => stand other (List.mem_cons_of_mem _ member))
    refine ⟨next, here.map (fun fault => (0, fault)) ++ shift 1 later, openedLater, ?_⟩
    intro declared number
    rw [LineStep.run, step]
    dsimp only
    rw [run, shift_append, shift_here, shift_shift]

/-!
## Whole blocks
-/

theorem WrittenBlock.onLine_opening (scope : PieceScope) (block : WrittenBlock)
    (declared : PieceCatalogue) :
    (pieceStep scope).onLine ⟨declared, none⟩ block.opening =
      (⟨declared, some (PieceBlock.opened block.key)⟩, []) := by
  have noBrace : Text.enclosed '\x7b' '\x7d' block.opening = none := by
    have absent := Text.not_mem_of_wrapped block.opens (block.plain '\x7b' (by simp)) (by decide)
      (by decide) (by decide)
    rw [Text.enclosed, Text.splitOnce_of_not_mem absent]
  have named := Text.enclosed_eq_of_wrapped block.opens (block.plain ')' (by simp)) (by decide)
  have solid : block.opening.isEmpty = false := by
    obtain ⟨middle, written, _⟩ := Text.wrapped_eq_some block.opens
    rw [written]
    rfl
  rw [LineStep.onLine_of_solid _ solid]
  unfold pieceStep
  rw [noBrace, named]
  have present : block.name.isEmpty = false := by simpa using block.named
  simp [present, PieceState.continueWith, PieceState.unclosed, WrittenBlock.key]

/-- The end of a block declares what the block is finished as, if its name is new. -/
theorem exists_blockEnd (scope : PieceScope) (current : Option PieceBlock) {name : String}
    (opened : OpenAs name current) :
    ∃ (declaration : Option Template) (faults : List Fault),
      (∀ template ∈ declaration, template.name = name) ∧
      ∀ declared : PieceCatalogue, declared.get? name = none →
        (pieceStep scope).onLine ⟨declared, current⟩ Word.blockEnd =
          (⟨declaration.elim declared declared.insert, none⟩, faults) := by
  cases current with
  | none =>
    refine ⟨none, [.strayText (String.ofList Word.blockEnd)], ?_, fun _ _ => rfl⟩
    intro template none
    cases none
  | some block =>
    have ends : ∀ declared, (pieceStep scope).onLine ⟨declared, some block⟩ Word.blockEnd =
        declarePiece ⟨declared, some block⟩ block := fun _ => rfl
    cases finished : block.finish with
    | error fault =>
      refine ⟨none, [fault], fun template none => (nomatch none), fun declared _ => ?_⟩
      rw [ends, declarePiece, finished]
      rfl
    | ok template =>
      have sameName : template.name = name :=
        (PieceBlock.name_of_finish finished).trans (opened block rfl)
      refine ⟨some template, [], ?_, fun declared fresh => ?_⟩
      · rintro _ ⟨⟩
        exact sameName
      have new : declared.contains name = false := by
        rw [OrderedMap.contains, fresh]
        rfl
      rw [ends, declarePiece, finished]
      simp [new, sameName]

/-- Wherever a block stands, it adds what it declares on its own, and its faults are those on its
own. -/
theorem WrittenBlock.run_lines (scope : PieceScope) (block : WrittenBlock)
    {declared : PieceCatalogue} (fresh : declared.get? block.key = none) (number : Nat) :
    (pieceStep scope).run number ⟨declared, none⟩ block.lines =
      (⟨block.addTo scope declared, none⟩, shift number (block.faults scope)) := by
  have start : OpenAs block.key (some (PieceBlock.opened block.key)) := by
    rintro _ ⟨⟩
    rfl
  obtain ⟨next, inner, opened, runInside⟩ := exists_run scope _ start block.stands
  obtain ⟨declaration, last, named, close⟩ := exists_blockEnd scope next opened
  have whole : ∀ (pieces : PieceCatalogue) (number : Nat), pieces.get? block.key = none →
      (pieceStep scope).run number ⟨pieces, none⟩ block.lines =
        (⟨declaration.elim pieces pieces.insert, none⟩,
          shift number (shift 1 inner ++
            last.map (fun fault => (1 + block.inside.length, fault)))) := by
    intro pieces number new
    rw [lines, LineStep.run, block.onLine_opening scope, LineStep.run_append, runInside]
    simp only [LineStep.run, close pieces new, shift_append, shift_shift]
    simp [shift, Nat.add_assoc]
  have alone : (pieceStep scope).run 0 PieceState.initial block.lines = _ := whole ∅ 0 rfl
  have declares : block.template? scope = declaration := by
    rw [WrittenBlock.template?, ← LineStep.fst_run _ 0, alone]
    cases declaration with
    | none => rfl
    | some template => exact PieceCatalogue.get?_insert.trans (if_pos (named template rfl).symm)
  have sameFaults : block.faults scope = shift 1 inner ++
      last.map (fun fault => (1 + block.inside.length, fault)) := by
    rw [WrittenBlock.faults, alone]
    exact shift_zero _
  rw [whole declared number fresh, sameFaults, addTo, declares]
  cases declaration <;> rfl

theorem WrittenBlock.name_of_template? {block : WrittenBlock} {template : Template}
    (declares : block.template? scope = some template) : template.name = block.key :=
  PieceCatalogue.name_of_get? declares

theorem WrittenBlock.get?_addTo (scope : PieceScope) (block : WrittenBlock)
    {declared : PieceCatalogue} {key : String} (other : key ≠ block.key) :
    (block.addTo scope declared).get? key = declared.get? key := by
  unfold addTo
  cases declares : block.template? scope with
  | none => rfl
  | some template =>
    rw [PieceCatalogue.get?_insert, if_neg (name_of_template? declares ▸ other)]

theorem WrittenBlock.addTo_comm (scope : PieceScope) {first second : WrittenBlock}
    (different : first.key ≠ second.key) (declared : PieceCatalogue) :
    second.addTo scope (first.addTo scope declared) =
      first.addTo scope (second.addTo scope declared) := by
  unfold addTo
  cases declares : first.template? scope with
  | none => rfl
  | some one =>
    cases alsoDeclares : second.template? scope with
    | none => rfl
    | some two =>
      refine PieceCatalogue.insert_comm ?_ declared
      rw [name_of_template? declares, name_of_template? alsoDeclares]
      exact different

theorem WrittenBlock.key_ne {first second : WrittenBlock} (different : first.name ≠ second.name) :
    first.key ≠ second.key := fun same => different (String.ofList_injective same)

theorem run_blocks (scope : PieceScope) (number : Nat) {blocks : List WrittenBlock}
    (distinct : (blocks.map WrittenBlock.name).Nodup) {declared : PieceCatalogue}
    (fresh : ∀ block ∈ blocks, declared.get? block.key = none) :
    (pieceStep scope).run number ⟨declared, none⟩ (blocks.flatMap WrittenBlock.lines) =
      (⟨blocks.foldl (fun pieces block => block.addTo scope pieces) declared, none⟩,
        WrittenBlock.faultsFrom scope number blocks) := by
  induction blocks generalizing number declared with
  | nil => rfl
  | cons block rest ih =>
    rw [List.map_cons, List.nodup_cons] at distinct
    have freshRest : ∀ other ∈ rest, (block.addTo scope declared).get? other.key = none := by
      intro other member
      have different : other.key ≠ block.key := WrittenBlock.key_ne
        (fun same => distinct.1 (same ▸ List.mem_map_of_mem member))
      rw [block.get?_addTo scope different]
      exact fresh other (List.mem_cons_of_mem _ member)
    rw [List.flatMap_cons, LineStep.run_append,
      block.run_lines scope (fresh block List.mem_cons_self)]
    dsimp only
    rw [ih _ distinct.2 freshRest]
    rfl

theorem foldl_addTo_of_perm (scope : PieceScope) {blocks others : List WrittenBlock}
    (distinct : (blocks.map WrittenBlock.name).Nodup) (permuted : blocks.Perm others)
    (declared : PieceCatalogue) :
    blocks.foldl (fun pieces block => block.addTo scope pieces) declared =
      others.foldl (fun pieces block => block.addTo scope pieces) declared := by
  refine permuted.foldl_eq' ?_ declared
  intro first firstMember second secondMember pieces
  by_cases same : first = second
  · rw [same]
  · have different : first.name ≠ second.name := fun named =>
      same (List.inj_on_of_nodup_map distinct firstMember secondMember named)
    exact WrittenBlock.addTo_comm scope (WrittenBlock.key_ne different) pieces

/-!
## Whole texts
-/

variable {blocks others : List WrittenBlock}

theorem declaredNames_of_perm (permuted : blocks.Perm others) :
    declaredNames (blocks.flatMap WrittenBlock.lines) =
      declaredNames (others.flatMap WrittenBlock.lines) := by
  apply OrderedSet.ext
  intro name
  unfold declaredNames
  rw [OrderedSet.mem_ofList, OrderedSet.mem_ofList]
  exact (((permuted.flatMap_right _).filterMap _).map _).mem_iff

theorem royalLines_of_perm (permuted : blocks.Perm others) :
    royalLines (blocks.flatMap WrittenBlock.lines) =
      royalLines (others.flatMap WrittenBlock.lines) :=
  ((permuted.flatMap_right _).filter _).length_eq

theorem key_mem_declaredNames {block : WrittenBlock} (member : block ∈ blocks) :
    block.key ∈ declaredNames (blocks.flatMap WrittenBlock.lines) := by
  refine OrderedSet.mem_ofList.mpr (List.mem_map.mpr ⟨block.name, ?_, rfl⟩)
  refine List.mem_filterMap.mpr ⟨block.opening, ?_, block.opens⟩
  exact List.mem_flatMap.mpr ⟨block, member, List.mem_cons_self⟩

theorem readPieces_of_blocks (dims : Dims) (resolve : TextureResolver) (terrains : TerrainCatalogue)
    (distinct : (blocks.map WrittenBlock.name).Nodup) {text : String}
    (written : Text.trimmedLines text.toList = blocks.flatMap WrittenBlock.lines)
    {names : OrderedSet String} (named : declaredNames (blocks.flatMap WrittenBlock.lines) = names)
    {royals : Nat} (counted : royalLines (blocks.flatMap WrittenBlock.lines) = royals) :
    let scope : PieceScope := ⟨⟨terrains, names, dims⟩, resolve⟩
    let declared := blocks.foldl (fun pieces block => block.addTo scope pieces) ∅
    readPieces dims resolve terrains text =
      if royals = 1 then
        (if declared.royals.length = 1 then .ok declared else .error declared.royals.length,
          diagnose .pieces (WrittenBlock.faultsFrom scope 1 blocks))
      else (.error royals, []) := by
  intro scope declared
  have run : (pieceStep scope).run 1 PieceState.initial (blocks.flatMap WrittenBlock.lines) =
      (⟨declared, none⟩, WrittenBlock.faultsFrom scope 1 blocks) :=
    run_blocks scope 1 distinct (fun _ _ => rfl)
  unfold readPieces
  simp only [written, counted, named]
  by_cases single : royals = 1
  · rw [if_neg (not_not_intro single), if_pos single, run]
    simp [PieceState.unclosed]
  · rw [if_pos single, if_neg single]

end Notation

namespace Miniature

def writtenKing : Notation.WrittenBlock where
  opening := "(king)".toList
  name := "king".toList
  inside := [Notation.Word.royal, "weight=1".toList, "RED_texture=r".toList,
    "BLACK_texture=b".toList, "\x7bcannot_encounter;(rook);0,1\x7d".toList, "std:0,1".toList]
  opens := by decide
  named := by decide
  plain := by simp
  stands := by decide

def writtenRook : Notation.WrittenBlock where
  opening := "(rook)".toList
  name := "rook".toList
  inside := ["castle".toList, "weight=5".toList, "RED_texture=r".toList, "BLACK_texture=b".toList,
    "std:1,0".toList]
  opens := by decide
  named := by decide
  plain := by simp
  stands := by decide

def forwardText : String :=
  "(king)\nWINNINGCONDITION\nweight=1\nRED_texture=r\nBLACK_texture=b\n" ++
    "\x7bcannot_encounter;(rook);0,1\x7d\nstd:0,1\n/\n" ++
    "(rook)\ncastle\nweight=5\nRED_texture=r\nBLACK_texture=b\nstd:1,0\n/"

def backwardText : String :=
  "(rook)\ncastle\nweight=5\nRED_texture=r\nBLACK_texture=b\nstd:1,0\n/\n" ++
    "(king)\nWINNINGCONDITION\nweight=1\nRED_texture=r\nBLACK_texture=b\n" ++
    "\x7bcannot_encounter;(rook);0,1\x7d\nstd:0,1\n/"

end Miniature

namespace Notation

/-- A text of whole blocks with distinct names means the same in any order of the blocks: it declares
the same piece types or is refused for the same number of royal lines, and every block has the same
faults at its place. A rule may name the piece type of any block. -/
theorem readPieces_block_order (dims : Dims) (resolve : TextureResolver)
    (terrains : TerrainCatalogue) (blocks others : List WrittenBlock)
    (distinct : (blocks.map WrittenBlock.name).Nodup) (permuted : blocks.Perm others)
    (text other : String)
    (written : Text.trimmedLines text.toList = blocks.flatMap WrittenBlock.lines)
    (rewritten : Text.trimmedLines other.toList = others.flatMap WrittenBlock.lines) :
    let lines := blocks.flatMap WrittenBlock.lines
    let scope : PieceScope := ⟨⟨terrains, declaredNames lines, dims⟩, resolve⟩
    (readPieces dims resolve terrains other).1 = (readPieces dims resolve terrains text).1 ∧
    (royalLines lines ≠ 1 → (readPieces dims resolve terrains text).2 = [] ∧
      (readPieces dims resolve terrains other).2 = []) ∧
    (royalLines lines = 1 →
      (readPieces dims resolve terrains text).2 =
        diagnose .pieces (WrittenBlock.faultsFrom scope 1 blocks) ∧
      (readPieces dims resolve terrains other).2 =
        diagnose .pieces (WrittenBlock.faultsFrom scope 1 others)) ∧
    ∀ body, ruleKeyword body = RuleKind.encounter.keyword →
      (∀ argument ∈ ruleArguments body, ∃ block ∈ blocks,
        Text.wrapped '(' ')' argument = some block.name) →
      readRule scope.toRuleScope body =
        .ok (statedRule scope.toRuleScope .encounter (ruleArguments body)) := by
  intro lines scope
  have distinctToo : (others.map WrittenBlock.name).Nodup :=
    (permuted.map WrittenBlock.name).nodup_iff.mp distinct
  have read := readPieces_of_blocks dims resolve terrains distinct written rfl rfl
  have readToo := readPieces_of_blocks dims resolve terrains distinctToo rewritten
    (declaredNames_of_perm permuted).symm (royalLines_of_perm permuted).symm
  dsimp only at read readToo
  rw [← foldl_addTo_of_perm _ distinct permuted] at readToo
  rw [read, readToo]
  refine ⟨?_, ?_, ?_, ?_⟩
  · split <;> rfl
  · intro several
    rw [if_neg several, if_neg several]
    exact ⟨rfl, rfl⟩
  · intro single
    rw [if_pos single, if_pos single]
    exact ⟨rfl, rfl⟩
  · intro body keyword names
    refine readRule_of_accepts keyword (fun argument member => ?_)
    obtain ⟨block, given, wrapped⟩ := names argument member
    exact Or.inl ⟨block.name, wrapped, Or.inr (Or.inr (key_mem_declaredNames given))⟩

/-- The rule of the king names the rook, which is declared behind it or before it. Both texts declare
both piece types, and the line that is dropped is reported at its place. -/
theorem readPieces_block_order_miniature :
    let scope : PieceScope := ⟨⟨∅, declaredNames
      ([Miniature.writtenKing, Miniature.writtenRook].flatMap WrittenBlock.lines), ⟨3, 4⟩⟩, some⟩
    (∃ pieces, (readPieces ⟨3, 4⟩ some ∅ Miniature.forwardText).1 = .ok pieces ∧
        (readPieces ⟨3, 4⟩ some ∅ Miniature.backwardText).1 = .ok pieces ∧
        pieces.keys = ["king", "rook"]) ∧
      (readPieces ⟨3, 4⟩ some ∅ Miniature.forwardText).2 = [⟨.pieces, 10, .strayText "castle"⟩] ∧
      (readPieces ⟨3, 4⟩ some ∅ Miniature.backwardText).2 = [⟨.pieces, 2, .strayText "castle"⟩] ∧
      ∃ rule, readRule scope.toRuleScope "cannot_encounter;(rook)".toList = .ok rule := by
  intro scope
  have declares : ∀ answer : Except Nat PieceCatalogue,
      answer.toOption.map (fun pieces => pieces.keys) = some ["king", "rook"] →
        ∃ pieces, answer = .ok pieces ∧ pieces.keys = ["king", "rook"] := by
    intro answer keys
    cases answer with
    | error count => cases keys
    | ok pieces => exact ⟨pieces, rfl, Option.some.inj keys⟩
  obtain ⟨pieces, accepted, both⟩ :=
    declares (readPieces ⟨3, 4⟩ some ∅ Miniature.forwardText).1 (by decide +kernel)
  obtain ⟨sameOutcome, _, faults, names⟩ := readPieces_block_order ⟨3, 4⟩ some ∅
    [Miniature.writtenKing, Miniature.writtenRook] [Miniature.writtenRook, Miniature.writtenKing]
    (by decide) (.swap _ _ _) Miniature.forwardText Miniature.backwardText (by decide +kernel)
    (by decide +kernel)
  obtain ⟨forward, backward⟩ := faults (by decide +kernel)
  refine ⟨⟨pieces, accepted, sameOutcome.trans accepted, both⟩, forward.trans ?_,
    backward.trans ?_, _, names _ (by decide) ?_⟩
  · decide +kernel
  · decide +kernel
  · have lists : ruleArguments "cannot_encounter;(rook)".toList = ["(rook)".toList] := by decide
    rw [lists, List.forall_mem_singleton]
    exact ⟨Miniature.writtenRook, by simp, by decide⟩

end Notation

end TerrainChess

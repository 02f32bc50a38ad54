import TerrainChess.Proofs.Reading.BlockOrder
import TerrainChess.Proofs.Reading.Pieces
import TerrainChess.Proofs.Reading.Rejected

/-!
# The names of a piece text

A piece text is gone through twice. The first pass collects the names for the
rules from the lines that are a name in parentheses and nothing else; the second
one opens a block at any line with a name in parentheses. Main statement:
`Notation.readPieces_knownNames`. A declared name is known to the rules exactly if
a line with nothing but the name opens a block of it.
-/

set_option autoImplicit false

namespace TerrainChess

namespace Text

variable {opening closing first last : Char} {text inner : List Char}

theorem splitOnce_ne_none_iff : splitOnce first text ≠ none ↔ first ∈ text := by
  refine ⟨fun found => ?_, fun member absent => ?_⟩
  · by_contra absent
    exact found (splitOnce_of_not_mem absent)
  · obtain ⟨front, back, cut, plain⟩ := List.eq_append_cons_of_mem member
    rw [cut, splitOnce_append plain] at absent
    cases absent

/-- A text has a part in brackets just if a closing bracket stands behind an opening one. -/
theorem enclosed_ne_none_iff : enclosed first last text ≠ none ↔ [first, last].Sublist text := by
  induction text with
  | nil => simp [enclosed, splitOnce]
  | cons head rest ih =>
    by_cases opens : head = first
    · subst opens
      have behind : enclosed head last (head :: rest) =
          (splitOnce last rest).map (fun parts => trim parts.1) := by
        rw [enclosed, splitOnce, if_pos rfl]
      rw [behind, List.cons_sublist_cons, List.singleton_sublist, ne_eq, Option.map_eq_none_iff]
      exact splitOnce_ne_none_iff
    · have later : enclosed first last (head :: rest) = enclosed first last rest := by
        rw [enclosed, enclosed, splitOnce, if_neg opens]
        cases splitOnce first rest <;> rfl
      rw [later, ih]
      exact ⟨fun behind => behind.cons _, fun whole => whole.of_cons_of_ne (Ne.symm opens)⟩

theorem trim_sublist (text : List Char) : (trim text).Sublist text := by
  have back := (List.dropWhile_suffix isBlank (l := (text.dropWhile isBlank).reverse)).sublist
  have front := (List.dropWhile_suffix isBlank (l := text)).sublist
  exact ((List.reverse_sublist.mpr back).trans (by rw [List.reverse_reverse])).trans front

theorem sublist_of_enclosed (found : enclosed opening closing text = some inner) :
    inner.Sublist text := by
  unfold enclosed at found
  split at found
  · cases found
  · next front rest opened =>
    obtain ⟨⟨middle, back⟩, closed, rfl⟩ := Option.map_eq_some_iff.mp found
    obtain ⟨rfl, _⟩ := splitOnce_eq_some opened
    obtain ⟨rfl, _⟩ := splitOnce_eq_some closed
    refine (trim_sublist middle).trans ?_
    exact (List.sublist_append_left middle _).trans ((List.sublist_cons_self _ _).trans
      (List.sublist_append_right front _))

theorem filter_trim {kind : Char → Bool} (solid : ∀ blank, isBlank blank = true → kind blank = false)
    (text : List Char) : (trim text).filter kind = text.filter kind := by
  have front : ∀ rest : List Char, (rest.dropWhile isBlank).filter kind = rest.filter kind := by
    intro rest
    induction rest with
    | nil => rfl
    | cons head rest ih =>
      rw [List.dropWhile_cons]
      split
      · next blank => rw [ih, List.filter_cons_of_neg (by simp [solid head blank])]
      · rfl
  rw [trim, List.filter_reverse, front, List.filter_reverse, front, List.reverse_reverse]

theorem enclosed_of_wrapped_eq_none (found : wrapped opening closing text = some inner)
    (plain : enclosed first last inner = none) (outer : opening ≠ first ∧ opening ≠ last)
    (outerToo : closing ≠ first ∧ closing ≠ last)
    (solid : isBlank first = false ∧ isBlank last = false) : enclosed first last text = none := by
  obtain ⟨middle, rfl, rfl⟩ := wrapped_eq_some found
  let kind : Char → Bool := fun character => decide (character = first ∨ character = last)
  have solidKind : ∀ blank, isBlank blank = true → kind blank = false := by
    intro blank isBlank
    have notFirst : blank ≠ first := by
      rintro rfl
      simp [isBlank] at solid
    have notLast : blank ≠ last := by
      rintro rfl
      simp [isBlank] at solid
    simp [kind, notFirst, notLast]
  have kept : (opening :: (middle ++ [closing])).filter kind = (trim middle).filter kind := by
    rw [filter_trim solidKind]
    simp [kind, outer, outerToo]
  by_contra given
  have ordered := (enclosed_ne_none_iff.mp given).filter kind
  rw [kept, show [first, last].filter kind = [first, last] by simp [kind]] at ordered
  exact enclosed_ne_none_iff.mpr (ordered.trans List.filter_sublist) plain

end Text

namespace Notation

def OpensAs (line : List Char) (name : String) : Prop :=
  OpensNamed line ∧ Text.enclosed '(' ')' line = some name.toList

def IsBareName (line : List Char) : Prop :=
  ∃ middle, line = '(' :: (middle ++ [')']) ∧ ')' ∉ middle

variable {scope : PieceScope} {state : PieceState} {block : PieceBlock} {name : String}
  {line : List Char} {lines : List (List Char)}

/-!
## The lines that open blocks
-/

/-- A line with a name begins a new block, whatever was open. -/
theorem onLine_of_opensBlock (scope : PieceScope) (state : PieceState) (opens : OpensBlock line) :
    (∃ name, OpensAs line name ∧
      ((pieceStep scope).onLine state line).1 = state.continueWith (PieceBlock.opened name)) ∨
    ((pieceStep scope).onLine state line).1 = ⟨state.declared, none⟩ := by
  obtain ⟨inner, given⟩ := Option.ne_none_iff_exists'.mp opens.2
  have solid : line.isEmpty = false := by
    cases line with
    | nil => cases given
    | cons => rfl
  rw [LineStep.onLine_of_solid _ solid, pieceStep, opens.1, given]
  by_cases nameless : inner = []
  · subst nameless
    exact Or.inr rfl
  · refine Or.inl ⟨String.ofList inner, ⟨⟨opens, ?_⟩, ?_⟩, ?_⟩
    · rw [given]
      simpa using nameless
    · rw [given, String.toList_ofList]
    · simp [nameless]

/-- All names of the open block and of the declared piece types stand in lines that open blocks. -/
structure PieceState.NamesIn (lines : List (List Char)) (state : PieceState) : Prop where
  opened : ∀ block, state.openBlock = some block → ∃ line ∈ lines, OpensAs line block.name
  declared : ∀ name template, state.declared.get? name = some template →
    ∃ line ∈ lines, OpensAs line name

theorem PieceState.NamesIn.onLine (names : state.NamesIn lines) (member : line ∈ lines) :
    ((pieceStep scope).onLine state line).1.NamesIn lines := by
  by_cases leaves : OpensBlock line
  · rcases onLine_of_opensBlock scope state leaves with ⟨name, opens, next⟩ | next
    · rw [next]
      refine ⟨?_, names.declared⟩
      rintro _ ⟨⟩
      exact ⟨line, member, opens⟩
    · rw [next]
      exact ⟨nofun, names.declared⟩
  · have step := step_onLine scope state line
    generalize ((pieceStep scope).onLine state line).1 = next at step
    cases step with
    | outside => exact names
    | inside _ opened change =>
      refine ⟨?_, names.declared⟩
      rintro _ ⟨⟩
      rw [change.name_eq]
      exact names.opened _ opened
    | opens given => exact absurd given leaves
    | drops given => exact absurd given leaves
    | declares _ complete =>
      obtain ⟨block, opened, finished, _⟩ := complete
      refine ⟨nofun, ?_⟩
      intro name template found
      rw [PieceCatalogue.get?_insert] at found
      split at found
      · next same =>
        rw [same, PieceBlock.name_of_finish finished]
        exact names.opened block opened
      · exact names.declared name template found
    | refuses => exact ⟨nofun, names.declared⟩

theorem PieceState.namesIn_after (scope : PieceScope) (lines : List (List Char)) :
    ((pieceStep scope).after PieceState.initial lines).NamesIn lines :=
  LineStep.after_invariant _ (PieceState.NamesIn lines) (fun _ _ member names => names.onLine member)
    ⟨nofun, fun _ _ found => nomatch found⟩

/-!
## The names for the rules
-/

theorem mem_declaredNames_iff :
    name ∈ declaredNames lines ↔ ∃ line ∈ lines, Text.wrapped '(' ')' line = some name.toList := by
  rw [declaredNames, OrderedSet.mem_ofList, List.mem_map]
  constructor
  · rintro ⟨inner, listed, rfl⟩
    obtain ⟨line, member, found⟩ := List.mem_filterMap.mp listed
    exact ⟨line, member, by rw [found, String.toList_ofList]⟩
  · rintro ⟨line, member, found⟩
    exact ⟨name.toList, List.mem_filterMap.mpr ⟨line, member, found⟩, String.ofList_toList⟩

/-- Both passes take the same name from a line that is nothing but a name. -/
theorem wrapped_of_opensAs (opens : OpensAs line name) (bare : IsBareName line) :
    Text.wrapped '(' ')' line = some name.toList := by
  obtain ⟨middle, rfl, plain⟩ := bare
  have found : Text.wrapped '(' ')' ('(' :: (middle ++ [')'])) = some (Text.trim middle) := by
    simp [Text.wrapped]
  have absent : ')' ∉ Text.trim middle := fun member => plain (Text.mem_of_mem_trim member)
  rw [found, ← Text.enclosed_eq_of_wrapped found absent (by decide)]
  exact opens.2

/-- A name that opens a block somewhere opens one on every line that has it in parentheses. -/
theorem opensAs_of_wrapped (found : Text.wrapped '(' ')' line = some name.toList)
    {other : List Char} (opens : OpensAs other name) : OpensAs line name ∧ IsBareName line := by
  obtain ⟨⟨⟨noRule, _⟩, named⟩, given⟩ := opens
  have absent : ')' ∉ name.toList := (Text.closing_of_enclosed given).2
  have noBraces : Text.enclosed '\x7b' '\x7d' name.toList = none := by
    by_contra braces
    have ordered := (Text.enclosed_ne_none_iff.mp braces).trans (Text.sublist_of_enclosed given)
    exact Text.enclosed_ne_none_iff.mpr ordered noRule
  have noRuleHere : Text.enclosed '\x7b' '\x7d' line = none :=
    Text.enclosed_of_wrapped_eq_none found noBraces (by decide) (by decide) (by decide)
  have here := Text.enclosed_eq_of_wrapped found absent (by decide)
  refine ⟨⟨⟨⟨noRuleHere, ?_⟩, ?_⟩, here⟩, ?_⟩
  · simp [here]
  · rw [here, ← given]
    exact named
  · obtain ⟨middle, rfl, trimmed⟩ := Text.wrapped_eq_some found
    refine ⟨middle, rfl, fun member => absent ?_⟩
    rw [trimmed]
    exact Text.mem_trim member (by decide)

/-- The rules know a name with a block exactly if a line with nothing but the name opens one. -/
theorem mem_declaredNames_iff_of_opensAs (opened : ∃ line ∈ lines, OpensAs line name) :
    name ∈ declaredNames lines ↔ ∃ line ∈ lines, OpensAs line name ∧ IsBareName line := by
  obtain ⟨other, _, opens⟩ := opened
  rw [mem_declaredNames_iff]
  constructor
  · rintro ⟨line, member, found⟩
    exact ⟨line, member, opensAs_of_wrapped found opens⟩
  · rintro ⟨line, member, opensHere, bare⟩
    exact ⟨line, member, wrapped_of_opensAs opensHere bare⟩

/-!
## Rules that are refused for a name
-/

theorem readMovements_ne_undeclaredPieceType {dims : Dims} {text : List Char} :
    readMovements dims text ≠ .error (.undeclaredPieceType name) := by
  intro refused
  by_cases meaning : ∀ field ∈ Text.fields text, HasMeaning dims field
  · have read : readMovements dims text = .ok _ := readFields_of_hasMeaning [] meaning
    cases read.symm.trans refused
  · obtain ⟨before, field, rest, cut, earlier, bad⟩ := exists_first_not meaning
    obtain ⟨fault, known, read⟩ := readFields_of_first_bad [] earlier bad rest
    rw [← cut] at read
    have same : readMovements dims text = .error fault := read
    cases same.symm.trans refused
    cases known

/-- A rule is refused for a name only if the scope does not have the name. -/
theorem not_mem_pieceNames_of_readRule {scope : RuleScope} {body : List Char}
    (refused : readRule scope body = .error (.undeclaredPieceType name)) :
    name ∉ scope.pieceNames := by
  cases found : RuleKind.ofKeyword? (ruleKeyword body) with
  | none =>
    rw [readRule_eq, found] at refused
    cases refused
  | some kind =>
    have keyword := RuleKind.ofKeyword?_eq_some_iff.mp found
    have unaccepted : ¬ Accepts scope kind (ruleArguments body) := by
      intro accepted
      rw [readRule_of_accepts keyword accepted] at refused
      cases refused
    obtain ⟨good, argument, _, fault, _, fine, wrong, cause, read⟩ :=
      readRule_of_not_accepts keyword unaccepted
    cases read.symm.trans refused
    cases cause with
    | pieceType named =>
      intro known
      refine wrong (List.forall_mem_append.mpr ⟨fine, List.forall_mem_singleton.mpr ?_⟩)
      exact Or.inl ⟨_, named, Or.inr (Or.inr known)⟩
    | path _ _ bad => exact absurd bad readMovements_ne_undeclaredPieceType

/-- A rule against an unknown name is refused, for this name or for an argument before it. -/
theorem refused_of_not_mem_pieceNames {scope : RuleScope} {body argument : List Char}
    (keyword : ruleKeyword body = RuleKind.encounter.keyword)
    (unknown : name ∉ scope.pieceNames) (plain : isSelectorWord name = false)
    (member : argument ∈ ruleArguments body)
    (named : Text.wrapped '(' ')' argument = some name.toList) :
    ∃ fault, readRule scope body = .error fault := by
  cases read : readRule scope body with
  | error fault => exact ⟨fault, rfl⟩
  | ok rule =>
    exfalso
    obtain ⟨kind, same, accepted⟩ := accepts_of_readRule read
    have encounter : kind = .encounter := Option.some.inj
      ((RuleKind.ofKeyword?_eq_some_iff.mpr same).symm.trans
        (RuleKind.ofKeyword?_eq_some_iff.mpr keyword))
    subst encounter
    rcases accepted argument member with ⟨inner, found, known⟩ | ⟨bare, _⟩
    · cases found.symm.trans named
      rw [String.ofList_toList] at known
      simp only [isSelectorWord, Bool.or_eq_false_iff, decide_eq_false_iff_not] at plain
      rcases known with all | nothing | listed
      · exact plain.1 all
      · exact plain.2 nothing
      · exact unknown listed
    · cases bare.symm.trans named

/-!
## Lines that are rejected for a name
-/

theorem not_mem_pieceNames_of_ruleStep {body : List Char}
    (reported : .undeclaredPieceType name ∈ (ruleStep scope block body).2) :
    name ∉ scope.pieceNames := by
  unfold ruleStep at reported
  cases read : readRule scope.toRuleScope body with
  | error fault =>
    rw [read, List.mem_singleton] at reported
    subst reported
    exact not_mem_pieceNames_of_readRule read
  | ok rule =>
    simp only [read] at reported
    split at reported
    · cases List.mem_singleton.mp reported
    · cases reported

theorem assignmentStep_ne_undeclaredPieceType {key value : List Char} :
    .undeclaredPieceType name ∉ (assignmentStep scope block line key value).2 := by
  unfold assignmentStep
  dsimp only
  repeat' split
  all_goals simp

theorem movementStep_ne_undeclaredPieceType :
    .undeclaredPieceType name ∉ (movementStep scope block line).2 := by
  unfold movementStep
  cases block.terrain with
  | none => exact List.not_mem_nil
  | some terrain =>
    cases read : readMovements scope.dims line with
    | error fault =>
      simp only [List.mem_singleton]
      rintro rfl
      exact readMovements_ne_undeclaredPieceType read
    | ok movements => exact List.not_mem_nil

theorem blockStep_ne_undeclaredPieceType :
    .undeclaredPieceType name ∉ (blockStep scope state block line).2 := by
  unfold blockStep
  dsimp only
  split
  · next terrain _ =>
    show _ ∉ (terrainLineStep scope block (String.ofList terrain)).2
    unfold terrainLineStep
    split
    · exact List.not_mem_nil
    · simp
  · split
    · exact List.not_mem_nil
    · split
      · exact assignmentStep_ne_undeclaredPieceType
      · split
        · exact movementStep_ne_undeclaredPieceType
        · split
          · intro reported
            have kept : ¬ RejectsLine line (.undeclaredPieceType name) :=
              not_rejectsLine_of_mem_declarePiece reported
            exact kept trivial
          · simp

/-- A line is rejected for a name only if the scope does not have the name. -/
theorem not_mem_pieceNames_of_pieceStep
    (reported : .undeclaredPieceType name ∈ (pieceStep scope state line).2) :
    name ∉ scope.pieceNames := by
  by_cases opens : OpensBlock line
  · exact absurd opens (not_opensBlock_of_rejected reported trivial)
  · unfold pieceStep at reported
    cases braces : Text.enclosed '\x7b' '\x7d' line with
    | some body =>
      cases opened : state.openBlock with
      | none => simp [braces, opened] at reported
      | some block =>
        simp only [braces, opened] at reported
        exact not_mem_pieceNames_of_ruleStep reported
    | none =>
      have plain : Text.enclosed '(' ')' line = none := by
        by_contra named
        exact opens ⟨braces, named⟩
      cases opened : state.openBlock with
      | none => simp [braces, plain, opened] at reported
      | some block =>
        simp only [braces, plain, opened] at reported
        exact absurd reported blockStep_ne_undeclaredPieceType

/-- No line of a piece text is rejected for a name that stands alone in parentheses on a line. -/
theorem ne_undeclaredPieceType_of_mem_readPieces {dims : Dims} {resolve : TextureResolver}
    {terrains : TerrainCatalogue} {text : String} {diagnostic : Diagnostic}
    (known : name ∈ declaredNames (Text.trimmedLines text.toList))
    (reported : diagnostic ∈ (readPieces dims resolve terrains text).2) :
    diagnostic.fault ≠ .undeclaredPieceType name := by
  intro rejects
  obtain ⟨_, found⟩ := exists_of_mem_readPieces reported
  rw [rejects] at found
  rcases found with unclosed | ⟨before, line, _, _, _, given⟩
  · have kept : ¬ RejectsLine [] (.undeclaredPieceType name) :=
      not_rejectsLine_of_mem_unclosed unclosed
    exact kept trivial
  · rw [LineStep.onLine_of_mem _ given] at given
    exact not_mem_pieceNames_of_pieceStep given known

end Notation

namespace Miniature

def soldierText (opening : String) : String :=
  "(king)\nWINNINGCONDITION\nweight=1\nRED_texture=r\nBLACK_texture=b\n" ++
    "\x7bcannot_encounter;(soldier)\x7d\nstd:0,1\n/\n" ++ opening ++
    "\nweight=1\nRED_texture=r\nBLACK_texture=b\nstd:0,1\n/"

end Miniature

namespace Notation

/-- A word before the parentheses hides the name from the first pass: the piece type is declared,
and the rule against it is rejected. -/
theorem readPieces_unknownName :
    let text := Miniature.soldierText "type (soldier)"
    let answer := readPieces ⟨3, 4⟩ some ∅ text
    answer.1.toOption.map (fun pieces => pieces.keys) = some ["king", "soldier"] ∧
      "soldier" ∉ declaredNames (Text.trimmedLines text.toList) ∧
      answer.2 = [⟨.pieces, 6, .undeclaredPieceType "soldier"⟩] := by
  decide +kernel

/-- Every declared name stands in parentheses on a line that opens a block. The rules know it exactly
if such a line has nothing but the name. Then no line of the text and no rule at all is refused for
the name; otherwise every rule against it is refused. -/
theorem readPieces_knownNames {dims : Dims} {resolve : TextureResolver}
    {terrains : TerrainCatalogue} {text : String} {pieces : PieceCatalogue}
    (read : (readPieces dims resolve terrains text).1 = .ok pieces) :
    let lines := Text.trimmedLines text.toList
    let scope : RuleScope := ⟨terrains, declaredNames lines, dims⟩
    ∀ name template, pieces.get? name = some template →
      (∃ line ∈ lines, OpensAs line name) ∧
      (name ∈ scope.pieceNames ↔ ∃ line ∈ lines, OpensAs line name ∧ IsBareName line) ∧
      (name ∈ scope.pieceNames →
        (∀ diagnostic ∈ (readPieces dims resolve terrains text).2,
          diagnostic.fault ≠ .undeclaredPieceType name) ∧
        ∀ body, readRule scope body ≠ .error (.undeclaredPieceType name)) ∧
      (name ∉ scope.pieceNames → isSelectorWord name = false →
        ∀ body, ruleKeyword body = RuleKind.encounter.keyword →
          (∃ argument ∈ ruleArguments body,
            Text.wrapped '(' ')' argument = some name.toList) →
          ∃ fault, readRule scope body = .error fault) := by
  intro lines scope name template found
  have opened : ∃ line ∈ lines, OpensAs line name := by
    rcases readPieces_cases dims resolve terrains text with ⟨_, _, answered⟩ | ⟨_, answered⟩
    · cases answered.symm.trans read
      exact (PieceState.namesIn_after _ lines).declared name template found
    · cases answered.symm.trans read
  refine ⟨opened, mem_declaredNames_iff_of_opensAs opened, ?_, ?_⟩
  · intro known
    refine ⟨fun diagnostic => ne_undeclaredPieceType_of_mem_readPieces known, ?_⟩
    intro body refused
    exact not_mem_pieceNames_of_readRule refused known
  · rintro unknown plain body keyword ⟨argument, member, named⟩
    exact refused_of_not_mem_pieceNames keyword unknown plain member named

/-- The same name on a line of its own. -/
theorem readPieces_knownNames_miniature :
    let text := Miniature.soldierText "(soldier)"
    let lines := Text.trimmedLines text.toList
    (∃ line ∈ lines, OpensAs line "soldier" ∧ IsBareName line) ∧
      ∀ body, readRule ⟨∅, declaredNames lines, ⟨3, 4⟩⟩ body ≠
        .error (.undeclaredPieceType "soldier") := by
  intro text lines
  let pieces : PieceCatalogue := (readPieces ⟨3, 4⟩ some ∅ text).1.toOption.getD ∅
  obtain ⟨read, listed, known⟩ : (readPieces ⟨3, 4⟩ some ∅ text).1 = .ok pieces ∧
      (pieces.get? "soldier").isSome = true ∧ "soldier" ∈ declaredNames lines := by
    decide +kernel
  obtain ⟨template, found⟩ := Option.isSome_iff_exists.mp listed
  obtain ⟨_, bare, accepts, _⟩ := readPieces_knownNames read "soldier" template found
  exact ⟨bare.mp known, (accepts known).2⟩

end Notation

end TerrainChess

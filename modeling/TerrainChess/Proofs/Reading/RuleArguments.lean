import TerrainChess.Notation.RuleLine
import TerrainChess.Proofs.Reading.MovementFields

/-!
# The arguments of a rule line

Which arguments a rule takes, and what they say. The arguments are read one after
the other: `Notation.readOn` is the reading of the rest behind the arguments that
have been taken, for all kinds of rules alike. `Notation.readRule_grammar` gives
the rule or the fault of any line.
-/

set_option autoImplicit false

namespace TerrainChess

/-- The choice that a set of names makes. The word for all names hides every other one, and the word
for none hides the names. -/
def Selector.ofSet (names : OrderedSet String) : Selector :=
  if allWord ∈ names then all else if noneWord ∈ names then nothing else listed names

theorem Selector.ofNames_eq (names : List String) :
    ofNames names = ofSet (OrderedSet.ofList names) := by
  simp only [ofNames, ofSet, OrderedSet.mem_ofList]

theorem RuleKind.ofKeyword?_eq_some_iff {word : String} {kind : RuleKind} :
    ofKeyword? word = some kind ↔ word = kind.keyword := by
  constructor
  · intro found
    have matched := List.find?_some found
    exact (of_decide_eq_true matched).symm
  · rintro rfl
    cases kind <;> rfl

inductive Rule.SameUpToOrder : Rule → Rule → Prop where
  | jump (jumps : UInt32) (eatOnlyOnLast : Bool) :
      SameUpToOrder (.jump jumps eatOnlyOnLast) (.jump jumps eatOnlyOnLast)
  | finalTerrain (allowed : Selector) : SameUpToOrder (.finalTerrain allowed) (.finalTerrain allowed)
  | encounter (forbidden : Selector) {left right : List ScopedPath} (reordered : left.Perm right) :
      SameUpToOrder (.encounter forbidden left) (.encounter forbidden right)

namespace Notation

variable {scope : RuleScope} {kind : RuleKind} {argument : List Char}
  {before rest left right : List (List Char)}

/-!
## The grammar
-/

def ruleParts (body : List Char) : List (List Char) := (Text.splitOn ';' body).map Text.trim

def ruleKeyword (body : List Char) : String := String.ofList ((ruleParts body).headD [])

def ruleArguments (body : List Char) : List (List Char) :=
  (ruleParts body).tail.filter (fun argument => !argument.isEmpty)

theorem readRule_eq (scope : RuleScope) (body : List Char) :
    readRule scope body =
      match RuleKind.ofKeyword? (ruleKeyword body) with
      | none => .error (.unknownRuleKind (ruleKeyword body))
      | some kind => readRuleOf scope kind (ruleArguments body) := rfl

structure JumpArguments (arguments : List (List Char)) : Prop where
  known : ∀ argument ∈ arguments, argument = Word.eatOnlyOnLast ∨
    ∃ count, Text.Numeral.readWord? argument = some count
  word : arguments.count Word.eatOnlyOnLast ≤ 1
  numeral : (arguments.filterMap Text.Numeral.readWord?).length ≤ 1

/-- A terrain of the scope in brackets, or one of the two words for all and for none. -/
def NamesTerrain (scope : RuleScope) (argument : List Char) : Prop :=
  ∃ inner, Text.wrapped '[' ']' argument = some inner ∧
    (String.ofList inner = Selector.allWord ∨ String.ofList inner = Selector.noneWord ∨
      String.ofList inner = defaultTerrain ∨ scope.terrains.contains (String.ofList inner) = true)

def NamesPieceType (scope : RuleScope) (argument : List Char) : Prop :=
  ∃ inner, Text.wrapped '(' ')' argument = some inner ∧
    (String.ofList inner = Selector.allWord ∨ String.ofList inner = Selector.noneWord ∨
      String.ofList inner ∈ scope.pieceNames)

def GivesPaths (scope : RuleScope) (argument : List Char) : Prop :=
  Text.wrapped '(' ')' argument = none ∧ ',' ∈ argument ∧
    ∃ movements, readMovements scope.dims argument = .ok movements

/-- The arguments that a rule of a kind takes. -/
def Accepts (scope : RuleScope) : RuleKind → List (List Char) → Prop
  | .jump, arguments => JumpArguments arguments
  | .finalTerrain, arguments => ∀ argument ∈ arguments, NamesTerrain scope argument
  | .encounter, arguments =>
    ∀ argument ∈ arguments, NamesPieceType scope argument ∨ GivesPaths scope argument

/-- The fault of an argument that the arguments before it do not admit. -/
inductive ArgumentFault (scope : RuleScope) : RuleKind → List Char → Fault → Prop where
  | jump (argument : List Char) :
      ArgumentFault scope .jump argument (.invalidRuleArgument .jump (String.ofList argument))
  | noTerrain {argument : List Char} (bare : Text.wrapped '[' ']' argument = none) :
      ArgumentFault scope .finalTerrain argument
        (.invalidRuleArgument .finalTerrain (String.ofList argument))
  | terrain {argument inner : List Char} (named : Text.wrapped '[' ']' argument = some inner) :
      ArgumentFault scope .finalTerrain argument (.undeclaredTerrain (String.ofList inner))
  | pieceType {argument inner : List Char} (named : Text.wrapped '(' ')' argument = some inner) :
      ArgumentFault scope .encounter argument (.undeclaredPieceType (String.ofList inner))
  | noPath {argument : List Char} (bare : Text.wrapped '(' ')' argument = none)
      (plain : ',' ∉ argument) :
      ArgumentFault scope .encounter argument
        (.invalidRuleArgument .encounter (String.ofList argument))
  | path {argument : List Char} {fault : Fault} (bare : Text.wrapped '(' ')' argument = none)
      (comma : ',' ∈ argument) (refused : readMovements scope.dims argument = .error fault) :
      ArgumentFault scope .encounter argument fault

def bracketed (opening closing : Char) (arguments : List (List Char)) : List String :=
  arguments.filterMap (fun argument => (Text.wrapped opening closing argument).map String.ofList)

def argumentPaths (dims : Dims) (argument : List Char) : List ScopedPath :=
  match Text.wrapped '(' ')' argument, readMovements dims argument with
  | none, .ok movements => movements.map (fun movement => ⟨movement.side, movement.path⟩)
  | _, _ => []

def statedRule (scope : RuleScope) : RuleKind → List (List Char) → Rule
  | .jump, arguments =>
    .jump ((arguments.filterMap Text.Numeral.readWord?).head?.getD 0)
      (arguments.contains Word.eatOnlyOnLast)
  | .finalTerrain, arguments =>
    .finalTerrain (.ofSet (OrderedSet.ofList (bracketed '[' ']' arguments)))
  | .encounter, arguments =>
    .encounter (.ofSet (OrderedSet.ofList (bracketed '(' ')' arguments)))
      (arguments.flatMap (argumentPaths scope.dims))

theorem Accepts.nil (scope : RuleScope) (kind : RuleKind) : Accepts scope kind [] := by
  cases kind with
  | jump => exact ⟨by simp, by simp, by simp⟩
  | finalTerrain => exact fun argument member => nomatch member
  | encounter => exact fun argument member => nomatch member

theorem Accepts.of_append (accepted : Accepts scope kind (before ++ rest)) :
    Accepts scope kind before := by
  cases kind with
  | jump =>
    obtain ⟨known, word, numeral⟩ := accepted
    rw [List.count_append] at word
    rw [List.filterMap_append, List.length_append] at numeral
    exact ⟨fun argument member => known argument (List.mem_append_left _ member), by omega, by omega⟩
  | finalTerrain => exact fun argument member => accepted argument (List.mem_append_left _ member)
  | encounter => exact fun argument member => accepted argument (List.mem_append_left _ member)

/-!
## One argument
-/

theorem readTerrainArgument_cases (scope : RuleScope) (argument : List Char) :
    (∃ inner, NamesTerrain scope argument ∧ Text.wrapped '[' ']' argument = some inner ∧
      readTerrainArgument scope argument = .ok (String.ofList inner)) ∨
    ∃ fault, ¬ NamesTerrain scope argument ∧ ArgumentFault scope .finalTerrain argument fault ∧
      readTerrainArgument scope argument = .error fault := by
  unfold readTerrainArgument NamesTerrain
  cases named : Text.wrapped '[' ']' argument with
  | none => exact Or.inr ⟨_, by simp, .noTerrain named, rfl⟩
  | some inner =>
    by_cases known : (isSelectorWord (String.ofList inner) ||
        scope.terrains.isKnown (String.ofList inner)) = true
    · refine Or.inl ⟨inner, ⟨inner, rfl, ?_⟩, rfl, if_pos known⟩
      simpa [isSelectorWord, TerrainCatalogue.isKnown, or_assoc] using known
    · refine Or.inr ⟨_, ?_, .terrain named, if_neg known⟩
      rintro ⟨other, same, listed⟩
      cases same
      exact known (by simpa [isSelectorWord, TerrainCatalogue.isKnown, or_assoc] using listed)

theorem readEncounterArgument_cases (scope : RuleScope) (argument : List Char) :
    ((NamesPieceType scope argument ∨ GivesPaths scope argument) ∧
      readEncounterArgument scope argument =
        .ok (bracketed '(' ')' [argument], argumentPaths scope.dims argument)) ∨
    ∃ fault, ¬ (NamesPieceType scope argument ∨ GivesPaths scope argument) ∧
      ArgumentFault scope .encounter argument fault ∧
      readEncounterArgument scope argument = .error fault := by
  unfold readEncounterArgument NamesPieceType GivesPaths bracketed argumentPaths
  cases named : Text.wrapped '(' ')' argument with
  | some inner =>
    by_cases known : (isSelectorWord (String.ofList inner) ||
        decide (String.ofList inner ∈ scope.pieceNames)) = true
    · refine Or.inl ⟨Or.inl ⟨inner, rfl, ?_⟩, ?_⟩
      · simpa [isSelectorWord, or_assoc] using known
      · simp [named, known]
    · refine Or.inr ⟨_, ?_, .pieceType named, if_neg known⟩
      rintro (⟨other, same, listed⟩ | ⟨bare, _⟩)
      · cases same
        exact known (by simpa [isSelectorWord, or_assoc] using listed)
      · cases bare
  | none =>
    by_cases comma : ',' ∈ argument
    · cases read : readMovements scope.dims argument with
      | error fault => exact Or.inr ⟨fault, by simp, .path named comma read, by simp [comma]⟩
      | ok movements => exact Or.inl ⟨by simp [comma], by simp [comma, named]⟩
    · exact Or.inr ⟨_, by simp [comma], .noPath named comma, if_neg comma⟩

/-!
## The arguments in turn
-/

/-- The rule behind the arguments that have been taken, or the fault of the first one of the rest
that is not. -/
def readOn (scope : RuleScope) : RuleKind → List (List Char) → List (List Char) → Except Fault Rule
  | .jump, before, rest =>
    readJump (before.filterMap Text.Numeral.readWord?).head? (before.contains Word.eatOnlyOnLast) rest
  | .finalTerrain, before, rest =>
    match readTerrainArguments scope rest with
    | .error fault => .error fault
    | .ok names => .ok (.finalTerrain (.ofNames (bracketed '[' ']' before ++ names)))
  | .encounter, before, rest =>
    match readEncounterArguments scope rest with
    | .error fault => .error fault
    | .ok (names, paths) =>
      .ok (.encounter (.ofNames (bracketed '(' ')' before ++ names))
        (before.flatMap (argumentPaths scope.dims) ++ paths))

theorem readOn_start (arguments : List (List Char)) :
    readOn scope kind [] arguments = readRuleOf scope kind arguments := by
  cases kind <;> rfl

theorem readOn_nil (before : List (List Char)) :
    readOn scope kind before [] = .ok (statedRule scope kind before) := by
  cases kind with
  | jump => rfl
  | finalTerrain =>
    simp only [readOn, readTerrainArguments, statedRule, Selector.ofNames_eq, List.append_nil]
  | encounter =>
    simp only [readOn, readEncounterArguments, statedRule, Selector.ofNames_eq, List.append_nil]

theorem readWord?_eatOnlyOnLast : Text.Numeral.readWord? Word.eatOnlyOnLast = none := by decide

theorem readJump_eq (jumps : Option UInt32) (eatOnlyOnLast : Bool) (argument : List Char)
    (rest : List (List Char)) :
    readJump jumps eatOnlyOnLast (argument :: rest) =
      if argument = Word.eatOnlyOnLast ∧ eatOnlyOnLast = false then readJump jumps true rest
      else
        match jumps, Text.Numeral.readWord? argument with
        | none, some count => readJump (some count) eatOnlyOnLast rest
        | _, _ => .error (.invalidRuleArgument .jump (String.ofList argument)) := rfl

theorem readJump_numeral (eatOnlyOnLast : Bool) (rest : List (List Char)) {count : UInt32}
    (read : Text.Numeral.readWord? argument = some count) :
    readJump none eatOnlyOnLast (argument :: rest) = readJump (some count) eatOnlyOnLast rest := by
  have other : argument ≠ Word.eatOnlyOnLast := by
    rintro rfl
    rw [readWord?_eatOnlyOnLast] at read
    cases read
  rw [readJump_eq, if_neg (fun both => other both.1), read]

theorem readJump_refused {jumps : Option UInt32} {eatOnlyOnLast : Bool} (rest : List (List Char))
    (word : argument = Word.eatOnlyOnLast → eatOnlyOnLast = true)
    (numeral : Text.Numeral.readWord? argument = none ∨ jumps ≠ none) :
    readJump jumps eatOnlyOnLast (argument :: rest) =
      .error (.invalidRuleArgument .jump (String.ofList argument)) := by
  have noWord : ¬ (argument = Word.eatOnlyOnLast ∧ eatOnlyOnLast = false) := by
    rintro ⟨same, first⟩
    rw [word same] at first
    cases first
  rw [readJump_eq, if_neg noWord]
  split
  · next read =>
    rcases numeral with none | given
    · rw [read] at none
      cases none
    · exact absurd rfl given
  · rfl

theorem filterMap_readWord?_append (before : List (List Char)) (argument : List Char) :
    (before ++ [argument]).filterMap Text.Numeral.readWord? =
      before.filterMap Text.Numeral.readWord? ++ (Text.Numeral.readWord? argument).toList := by
  cases read : Text.Numeral.readWord? argument <;> simp [read]

theorem jumpArguments_append_word (taken : JumpArguments before) :
    JumpArguments (before ++ [Word.eatOnlyOnLast]) ↔ Word.eatOnlyOnLast ∉ before := by
  constructor
  · intro accepted again
    have twice := accepted.word
    have once := List.count_pos_iff.mpr again
    rw [List.count_append, List.count_singleton_self] at twice
    omega
  · intro first
    refine ⟨?_, ?_, ?_⟩
    · exact List.forall_mem_append.mpr ⟨taken.known, List.forall_mem_singleton.mpr (Or.inl rfl)⟩
    · simp [List.count_append, List.count_eq_zero.mpr first]
    · rw [filterMap_readWord?_append, readWord?_eatOnlyOnLast, Option.toList_none, List.append_nil]
      exact taken.numeral

theorem jumpArguments_append_other (taken : JumpArguments before)
    (other : argument ≠ Word.eatOnlyOnLast) :
    JumpArguments (before ++ [argument]) ↔
      (∃ count, Text.Numeral.readWord? argument = some count) ∧
        before.filterMap Text.Numeral.readWord? = [] := by
  constructor
  · intro accepted
    obtain ⟨count, read⟩ := (accepted.known argument (by simp)).resolve_left other
    have lengths := accepted.numeral
    rw [filterMap_readWord?_append, read, List.length_append, Option.toList_some,
      List.length_singleton] at lengths
    exact ⟨⟨count, read⟩, List.eq_nil_of_length_eq_zero (by omega)⟩
  · rintro ⟨⟨count, read⟩, none⟩
    refine ⟨?_, ?_, ?_⟩
    · exact List.forall_mem_append.mpr
        ⟨taken.known, List.forall_mem_singleton.mpr (Or.inr ⟨count, read⟩)⟩
    · simpa [List.count_append, other] using taken.word
    · simp [read, none]

/-- The second numeral and the second word are refused like any other text. -/
theorem readJump_cons (scope : RuleScope) (taken : JumpArguments before) (argument : List Char)
    (rest : List (List Char)) :
    (JumpArguments (before ++ [argument]) ∧
      readOn scope .jump before (argument :: rest) =
        readOn scope .jump (before ++ [argument]) rest) ∨
    ¬ JumpArguments (before ++ [argument]) ∧
      readOn scope .jump before (argument :: rest) =
        .error (.invalidRuleArgument .jump (String.ofList argument)) := by
  dsimp only [readOn]
  rw [filterMap_readWord?_append]
  by_cases word : argument = Word.eatOnlyOnLast
  · subst word
    rw [jumpArguments_append_word taken, readWord?_eatOnlyOnLast]
    by_cases again : Word.eatOnlyOnLast ∈ before
    · exact Or.inr ⟨absurd again,
        readJump_refused rest (fun _ => List.contains_iff_mem.mpr again)
          (Or.inl readWord?_eatOnlyOnLast)⟩
    · refine Or.inl ⟨again, ?_⟩
      rw [readJump_eq, if_pos ⟨rfl, by simpa using again⟩]
      simp
  · rw [jumpArguments_append_other taken word]
    cases read : Text.Numeral.readWord? argument with
    | none => exact Or.inr ⟨by simp, readJump_refused rest (absurd · word) (Or.inl read)⟩
    | some count =>
      cases given : before.filterMap Text.Numeral.readWord? with
      | nil =>
        refine Or.inl ⟨⟨⟨count, rfl⟩, rfl⟩, ?_⟩
        rw [List.head?_nil, readJump_numeral _ _ read]
        simp [Ne.symm word]
      | cons first others =>
        exact Or.inr ⟨by simp, readJump_refused rest (absurd · word) (Or.inr (by simp))⟩

theorem readOn_cons (taken : Accepts scope kind before) (argument : List Char)
    (rest : List (List Char)) :
    (Accepts scope kind (before ++ [argument]) ∧
      readOn scope kind before (argument :: rest) = readOn scope kind (before ++ [argument]) rest) ∨
    ∃ fault, ¬ Accepts scope kind (before ++ [argument]) ∧
      ArgumentFault scope kind argument fault ∧
      readOn scope kind before (argument :: rest) = .error fault := by
  cases kind with
  | jump =>
    rcases readJump_cons scope taken argument rest with accepted | ⟨refused, read⟩
    · exact Or.inl accepted
    · exact Or.inr ⟨_, refused, .jump argument, read⟩
  | finalTerrain =>
    rcases readTerrainArgument_cases scope argument with
      ⟨inner, known, named, read⟩ | ⟨fault, unknown, cause, read⟩
    · refine Or.inl ⟨List.forall_mem_append.mpr ⟨taken, List.forall_mem_singleton.mpr known⟩, ?_⟩
      simp only [readOn, readTerrainArguments, read]
      cases readTerrainArguments scope rest with
      | error => rfl
      | ok => simp [bracketed, named]
    · refine Or.inr ⟨fault, ?_, cause, by simp only [readOn, readTerrainArguments, read]⟩
      exact fun accepted => unknown (accepted argument (by simp))
  | encounter =>
    rcases readEncounterArgument_cases scope argument with
      ⟨known, read⟩ | ⟨fault, unknown, cause, read⟩
    · refine Or.inl ⟨List.forall_mem_append.mpr ⟨taken, List.forall_mem_singleton.mpr known⟩, ?_⟩
      simp only [readOn, readEncounterArguments, read]
      cases readEncounterArguments scope rest with
      | error => rfl
      | ok => simp [bracketed]
    · refine Or.inr ⟨fault, ?_, cause, by simp only [readOn, readEncounterArguments, read]⟩
      exact fun accepted => unknown (accepted argument (by simp))

/-- The first argument that is not taken decides; without one the arguments state the rule. -/
theorem readOn_cases (taken : Accepts scope kind before) (rest : List (List Char)) :
    (Accepts scope kind (before ++ rest) ∧
      readOn scope kind before rest = .ok (statedRule scope kind (before ++ rest))) ∨
    ∃ good argument later fault, rest = good ++ argument :: later ∧
      Accepts scope kind (before ++ good) ∧ ¬ Accepts scope kind (before ++ good ++ [argument]) ∧
      ArgumentFault scope kind argument fault ∧ readOn scope kind before rest = .error fault := by
  -- The arguments that have been taken are the invariant: each one more is put behind them.
  induction rest generalizing before with
  | nil =>
    rw [List.append_nil]
    exact Or.inl ⟨taken, readOn_nil before⟩
  | cons argument rest ih =>
    rcases readOn_cons taken argument rest with ⟨accepted, read⟩ | ⟨fault, refused, cause, read⟩
    · rw [read]
      rcases ih accepted with ⟨all, stated⟩ | ⟨good, bad, later, fault, rfl, fine, wrong, stop⟩
      · rw [List.append_assoc] at all stated
        exact Or.inl ⟨all, stated⟩
      · refine Or.inr ⟨argument :: good, bad, later, fault, rfl, ?_⟩
        rw [List.append_assoc before] at fine wrong
        exact ⟨fine, wrong, stop⟩
    · refine Or.inr ⟨[], argument, rest, fault, rfl, ?_⟩
      rw [List.append_nil]
      exact ⟨taken, refused, cause, read⟩

/-!
## Arguments in another order
-/

theorem Accepts.of_perm (accepted : Accepts scope kind left) (reordered : left.Perm right) :
    Accepts scope kind right := by
  cases kind with
  | jump =>
    obtain ⟨known, word, numeral⟩ := accepted
    refine ⟨fun argument member => known argument (reordered.mem_iff.mpr member), ?_, ?_⟩
    · rw [← reordered.count_eq]
      exact word
    · rw [← (reordered.filterMap _).length_eq]
      exact numeral
  | finalTerrain => exact fun argument member => accepted argument (reordered.mem_iff.mpr member)
  | encounter => exact fun argument member => accepted argument (reordered.mem_iff.mpr member)

theorem ofSet_bracketed_of_perm (opening closing : Char) (reordered : left.Perm right) :
    Selector.ofSet (OrderedSet.ofList (bracketed opening closing left)) =
      Selector.ofSet (OrderedSet.ofList (bracketed opening closing right)) := by
  have sameSet : OrderedSet.ofList (bracketed opening closing left) =
      OrderedSet.ofList (bracketed opening closing right) := by
    apply OrderedSet.ext
    intro name
    rw [OrderedSet.mem_ofList, OrderedSet.mem_ofList]
    exact (reordered.filterMap _).mem_iff
  rw [sameSet]

theorem sameUpToOrder_of_perm (accepted : Accepts scope kind left) (reordered : left.Perm right) :
    (statedRule scope kind left).SameUpToOrder (statedRule scope kind right) := by
  cases kind with
  | jump =>
    have numerals : left.filterMap Text.Numeral.readWord? =
        right.filterMap Text.Numeral.readWord? := by
      have permuted := reordered.filterMap Text.Numeral.readWord?
      cases given : left.filterMap Text.Numeral.readWord? with
      | nil =>
        rw [given] at permuted
        exact permuted.nil_eq
      | cons first others =>
        have lengths := accepted.numeral
        rw [given, List.length_cons] at lengths
        have alone : others = [] := List.eq_nil_of_length_eq_zero (by omega)
        subst alone
        rw [given] at permuted
        exact List.singleton_perm.mp permuted
    have words : left.contains Word.eatOnlyOnLast = right.contains Word.eatOnlyOnLast := by
      rw [Bool.eq_iff_iff, List.contains_iff_mem, List.contains_iff_mem]
      exact reordered.mem_iff
    rw [statedRule, statedRule, numerals, words]
    exact .jump _ _
  | finalTerrain =>
    rw [statedRule, statedRule, ofSet_bracketed_of_perm '[' ']' reordered]
    exact .finalTerrain _
  | encounter =>
    rw [statedRule, statedRule, ofSet_bracketed_of_perm '(' ')' reordered]
    exact .encounter _ (reordered.flatMap_right _)

/-!
## Whole lines
-/

theorem readRule_of_keyword (scope : RuleScope) {body : List Char}
    (keyword : ruleKeyword body = kind.keyword) :
    readRule scope body = readOn scope kind [] (ruleArguments body) := by
  have found : RuleKind.ofKeyword? (ruleKeyword body) = some kind :=
    RuleKind.ofKeyword?_eq_some_iff.mpr keyword
  rw [readOn_start, readRule_eq, found]

theorem readRule_of_accepts {body : List Char} (keyword : ruleKeyword body = kind.keyword)
    (accepted : Accepts scope kind (ruleArguments body)) :
    readRule scope body = .ok (statedRule scope kind (ruleArguments body)) := by
  rw [readRule_of_keyword scope keyword]
  rcases readOn_cases (Accepts.nil scope kind) (ruleArguments body) with
    ⟨_, read⟩ | ⟨good, argument, later, _, cut, _, refused, _⟩
  · exact read
  · rw [cut, List.append_cons] at accepted
    exact absurd accepted.of_append refused

theorem readRule_of_not_accepts {body : List Char} (keyword : ruleKeyword body = kind.keyword)
    (unaccepted : ¬ Accepts scope kind (ruleArguments body)) :
    ∃ good argument later fault, ruleArguments body = good ++ argument :: later ∧
      Accepts scope kind good ∧ ¬ Accepts scope kind (good ++ [argument]) ∧
      ArgumentFault scope kind argument fault ∧ readRule scope body = .error fault := by
  rw [readRule_of_keyword scope keyword]
  exact (readOn_cases (Accepts.nil scope kind) (ruleArguments body)).resolve_left
    (fun accepted => unaccepted accepted.1)

theorem readRule_of_unknown {body : List Char}
    (unknown : ∀ kind : RuleKind, ruleKeyword body ≠ kind.keyword) :
    readRule scope body = .error (.unknownRuleKind (ruleKeyword body)) := by
  rw [readRule_eq]
  cases found : RuleKind.ofKeyword? (ruleKeyword body) with
  | none => rfl
  | some kind => exact absurd (RuleKind.ofKeyword?_eq_some_iff.mp found) (unknown kind)

theorem accepts_of_readRule {body : List Char} {rule : Rule}
    (read : readRule scope body = .ok rule) :
    ∃ kind : RuleKind, ruleKeyword body = kind.keyword ∧
      Accepts scope kind (ruleArguments body) := by
  cases found : RuleKind.ofKeyword? (ruleKeyword body) with
  | none =>
    rw [readRule_eq, found] at read
    cases read
  | some kind =>
    have keyword := RuleKind.ofKeyword?_eq_some_iff.mp found
    rw [readRule_of_keyword scope keyword] at read
    rcases readOn_cases (Accepts.nil scope kind) (ruleArguments body) with
      ⟨accepted, _⟩ | ⟨_, _, _, _, _, _, _, _, stopped⟩
    · exact ⟨kind, keyword, accepted⟩
    · rw [read] at stopped
      cases stopped

/-- A rule line is accepted just for arguments of its kind, and the rule is the one that they state:
it depends on the set of the names and, but for the order of the paths, not on the order of the
arguments. A line that is refused is refused for its first argument that is not admitted. -/
theorem readRule_grammar (scope : RuleScope) (body : List Char) :
    ((∃ rule, readRule scope body = .ok rule) ↔
      ∃ kind : RuleKind, ruleKeyword body = kind.keyword ∧
        Accepts scope kind (ruleArguments body)) ∧
    (∀ kind : RuleKind, ruleKeyword body = kind.keyword → Accepts scope kind (ruleArguments body) →
      readRule scope body = .ok (statedRule scope kind (ruleArguments body)) ∧
      ∀ other, ruleKeyword other = ruleKeyword body →
        (ruleArguments body).Perm (ruleArguments other) →
        ∃ rule, readRule scope other = .ok rule ∧
          (statedRule scope kind (ruleArguments body)).SameUpToOrder rule) ∧
    (∀ kind : RuleKind, ruleKeyword body = kind.keyword →
      ¬ Accepts scope kind (ruleArguments body) →
      ∃ good argument later fault, ruleArguments body = good ++ argument :: later ∧
        Accepts scope kind good ∧ ¬ Accepts scope kind (good ++ [argument]) ∧
        ArgumentFault scope kind argument fault ∧ readRule scope body = .error fault) ∧
    ((∀ kind : RuleKind, ruleKeyword body ≠ kind.keyword) →
      readRule scope body = .error (.unknownRuleKind (ruleKeyword body))) := by
  refine ⟨⟨fun ⟨_, read⟩ => accepts_of_readRule read, ?_⟩, ?_,
    fun _ => readRule_of_not_accepts, readRule_of_unknown⟩
  · rintro ⟨kind, keyword, accepted⟩
    exact ⟨_, readRule_of_accepts keyword accepted⟩
  · intro kind keyword accepted
    refine ⟨readRule_of_accepts keyword accepted, ?_⟩
    intro other sameKeyword reordered
    exact ⟨_, readRule_of_accepts (sameKeyword.trans keyword) (accepted.of_perm reordered),
      sameUpToOrder_of_perm accepted reordered⟩

/-- A rule that mixes names and paths, the same rule with its arguments turned around, a second
numeral and an unknown keyword. -/
theorem readRule_grammar_miniature :
    let scope : RuleScope := ⟨∅, OrderedSet.ofList ["king"], ⟨3, 4⟩⟩
    let rule : Rule := .encounter (.listed (OrderedSet.ofList ["king"]))
      [⟨.both, ⟨[⟨0, 1⟩]⟩⟩, ⟨.only .red, ⟨[⟨1, 0⟩]⟩⟩]
    readRule scope "cannot_encounter;(king);0,1;RED:1,0".toList = .ok rule ∧
      (∃ turned, readRule scope "cannot_encounter;RED:1,0;0,1;(king)".toList = .ok turned ∧
        rule.SameUpToOrder turned) ∧
      (∃ argument fault, ArgumentFault scope .jump argument fault ∧
        readRule scope "jump;2;3".toList = .error fault) ∧
      readRule scope "fly;1".toList = .error (.unknownRuleKind "fly") := by
  intro scope rule
  have lists : ruleArguments "cannot_encounter;(king);0,1;RED:1,0".toList =
      ["(king)".toList, "0,1".toList, "RED:1,0".toList] := by decide
  have accepted : Accepts scope .encounter
      (ruleArguments "cannot_encounter;(king);0,1;RED:1,0".toList) := by
    rw [lists]
    simp only [Accepts, List.forall_mem_cons]
    exact ⟨Or.inl ⟨"king".toList, by decide, by decide⟩, Or.inr ⟨by decide, by decide, _, rfl⟩,
      Or.inr ⟨by decide, by decide, _, rfl⟩, by simp⟩
  have twice : ¬ Accepts scope .jump (ruleArguments "jump;2;3".toList) :=
    fun jump => absurd jump.numeral (by decide)
  obtain ⟨_, _, refuses, _⟩ := readRule_grammar scope "jump;2;3".toList
  obtain ⟨_, states, _, _⟩ := readRule_grammar scope "cannot_encounter;(king);0,1;RED:1,0".toList
  obtain ⟨read, turns⟩ := states .encounter rfl accepted
  have stated : statedRule scope .encounter
      (ruleArguments "cannot_encounter;(king);0,1;RED:1,0".toList) = rule := by rfl
  rw [stated] at read turns
  refine ⟨read, turns "cannot_encounter;RED:1,0;0,1;(king)".toList (by decide) ?_, ?_, ?_⟩
  · decide
  · obtain ⟨_, argument, _, fault, _, _, _, cause, stopped⟩ := refuses .jump rfl twice
    exact ⟨argument, fault, cause, stopped⟩
  · exact (readRule_grammar scope "fly;1".toList).2.2.2 (fun kind => by cases kind <;> decide)

end Notation

end TerrainChess

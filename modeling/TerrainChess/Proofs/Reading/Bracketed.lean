import TerrainChess.Notation.PieceText

/-!
# Names in brackets

A rule line ends at its first closing brace, so that a name with a closing brace
is never a name of a rule. Rule lines therefore do not depend on which such names
have been declared: `Notation.pieceStep_congr`.
-/

set_option autoImplicit false

namespace TerrainChess

namespace Text

variable {character separator opening closing : Char} {text inner part : List Char}

theorem mem_of_mem_trim (member : character ∈ trim text) : character ∈ text := by
  have front := (List.dropWhile_suffix isBlank).mem (List.mem_reverse.mp member)
  exact (List.dropWhile_suffix isBlank).mem (List.mem_reverse.mp front)

theorem mem_dropWhile_isBlank (member : character ∈ text) (solid : isBlank character = false) :
    character ∈ text.dropWhile isBlank := by
  induction text with
  | nil => cases member
  | cons head rest ih =>
    rw [List.dropWhile_cons]
    split
    · next blank =>
      cases member with
      | head =>
        rw [solid] at blank
        cases blank
      | tail _ later => exact ih later
    · exact member

theorem mem_trim (member : character ∈ text) (solid : isBlank character = false) :
    character ∈ trim text := by
  have front := mem_dropWhile_isBlank member solid
  exact List.mem_reverse.mpr (mem_dropWhile_isBlank (List.mem_reverse.mpr front) solid)

theorem mem_of_mem_splitOn (given : part ∈ splitOn separator text) (member : character ∈ part) :
    character ∈ text := by
  induction text generalizing part with
  | nil =>
    rw [splitOn, List.mem_singleton] at given
    subst given
    cases member
  | cons head rest ih =>
    rw [splitOn] at given
    split at given
    · cases given with
      | head => cases member
      | tail _ later => exact List.mem_cons_of_mem _ (ih later member)
    · split at given
      · rw [List.mem_singleton] at given
        subst given
        exact List.mem_cons.mpr (Or.inl (List.mem_singleton.mp member))
      · next front more shown =>
        cases given with
        | head =>
          cases member with
          | head => exact List.mem_cons_self
          | tail _ later =>
            exact List.mem_cons_of_mem _ (ih (shown ▸ List.mem_cons_self) later)
        | tail _ later =>
          exact List.mem_cons_of_mem _ (ih (shown ▸ List.mem_cons_of_mem _ later) member)

theorem splitOnce_eq_some {front back : List Char}
    (found : splitOnce separator text = some (front, back)) :
    text = front ++ separator :: back ∧ separator ∉ front := by
  induction text generalizing front with
  | nil => cases found
  | cons head rest ih =>
    rw [splitOnce] at found
    split at found
    · next same =>
      cases found
      exact ⟨by rw [same]; rfl, List.not_mem_nil⟩
    · next different =>
      obtain ⟨parts, later, joined⟩ := Option.map_eq_some_iff.mp found
      cases joined
      obtain ⟨split, absent⟩ := ih later
      refine ⟨by rw [split]; rfl, ?_⟩
      rw [List.mem_cons, not_or]
      exact ⟨Ne.symm different, absent⟩

/-- The part in brackets ends at the first closing bracket, which the text contains. -/
theorem closing_of_enclosed (found : enclosed opening closing text = some inner) :
    closing ∈ text ∧ closing ∉ inner := by
  unfold enclosed at found
  split at found
  · cases found
  · next front rest opened =>
    obtain ⟨⟨middle, back⟩, closed, trimmed⟩ := Option.map_eq_some_iff.mp found
    obtain ⟨split, _⟩ := splitOnce_eq_some opened
    obtain ⟨splitToo, absent⟩ := splitOnce_eq_some closed
    refine ⟨?_, fun member => absent (mem_of_mem_trim (trimmed ▸ member))⟩
    rw [split, splitToo]
    simp

theorem wrapped_eq_some (found : wrapped opening closing text = some inner) :
    ∃ middle, text = opening :: (middle ++ [closing]) ∧ inner = trim middle := by
  cases text with
  | nil => cases found
  | cons first rest =>
    rw [wrapped] at found
    split at found
    · next ends =>
      obtain ⟨rfl, last⟩ := ends
      obtain ⟨middle, rfl⟩ := List.getLast?_eq_some_iff.mp last
      rw [List.dropLast_concat, Option.some.injEq] at found
      exact ⟨middle, rfl, found.symm⟩
    · cases found

theorem enclosed_of_wrapped (found : wrapped opening closing text = some inner) :
    enclosed opening closing text ≠ none := by
  obtain ⟨middle, rfl, _⟩ := wrapped_eq_some found
  have closed : ∀ front : List Char, splitOnce closing (front ++ [closing]) ≠ none := by
    intro front
    induction front with
    | nil => simp [splitOnce]
    | cons head rest ih =>
      rw [List.cons_append, splitOnce]
      split
      · exact Option.some_ne_none _
      · rw [ne_eq, Option.map_eq_none_iff]
        exact ih
  unfold enclosed
  rw [splitOnce, if_pos rfl]
  dsimp only
  rw [ne_eq, Option.map_eq_none_iff]
  exact closed middle

end Text

namespace Notation

/-- Scopes that know the same terrains and the same names of piece types, those with a closing
brace apart. -/
structure RuleScope.SameNames (left right : RuleScope) : Prop where
  terrains : left.terrains = right.terrains
  dims : left.dims = right.dims
  pieceNames : ∀ name : List Char, '\x7d' ∉ name →
    (String.ofList name ∈ left.pieceNames ↔ String.ofList name ∈ right.pieceNames)

namespace RuleScope.SameNames

variable {left right : RuleScope} (same : left.SameNames right) {argument body : List Char}
  {arguments : List (List Char)}

include same

theorem readTerrainArguments_eq :
    readTerrainArguments left arguments = readTerrainArguments right arguments := by
  induction arguments with
  | nil => rfl
  | cons argument rest ih =>
    rw [readTerrainArguments, readTerrainArguments, readTerrainArgument, readTerrainArgument,
      same.terrains, ih]

theorem readEncounterArgument_eq (closed : '\x7d' ∉ argument) :
    readEncounterArgument left argument = readEncounterArgument right argument := by
  unfold readEncounterArgument
  cases found : Text.wrapped '(' ')' argument with
  | none => simp only [same.dims]
  | some inner =>
    obtain ⟨middle, rfl, rfl⟩ := Text.wrapped_eq_some found
    have absent : '\x7d' ∉ Text.trim middle := by
      intro member
      have inside := Text.mem_of_mem_trim member
      exact closed (by simp [inside])
    simp only [same.pieceNames _ absent]

theorem readEncounterArguments_eq (closed : ∀ argument ∈ arguments, '\x7d' ∉ argument) :
    readEncounterArguments left arguments = readEncounterArguments right arguments := by
  induction arguments with
  | nil => rfl
  | cons argument rest ih =>
    have later := ih (fun other member => closed other (List.mem_cons_of_mem _ member))
    rw [readEncounterArguments, readEncounterArguments,
      same.readEncounterArgument_eq (closed argument List.mem_cons_self), later]

/-- A rule without closing braces reads the same. -/
theorem readRule_eq (closed : '\x7d' ∉ body) : readRule left body = readRule right body := by
  have parts : ∀ argument ∈ ((Text.splitOn ';' body).map Text.trim).tail.filter
        (fun argument => !argument.isEmpty), '\x7d' ∉ argument := by
    intro argument member inside
    obtain ⟨part, given, rfl⟩ :=
      List.mem_map.mp (List.mem_of_mem_tail (List.mem_filter.mp member).1)
    exact closed (Text.mem_of_mem_splitOn given (Text.mem_of_mem_trim inside))
  unfold readRule
  dsimp only
  cases RuleKind.ofKeyword? (String.ofList (((Text.splitOn ';' body).map Text.trim).headD [])) with
  | none => rfl
  | some kind =>
    cases kind with
    | jump => rfl
    | finalTerrain => simp only [readRuleOf, same.readTerrainArguments_eq]
    | encounter => simp only [readRuleOf, same.readEncounterArguments_eq parts]

end RuleScope.SameNames

/-- A line is read the same whichever names with a closing brace have been declared. -/
theorem pieceStep_congr {left right : PieceScope}
    (same : left.toRuleScope.SameNames right.toRuleScope) (resolve : left.resolve = right.resolve) :
    pieceStep left = pieceStep right := by
  funext state line
  unfold pieceStep
  cases braces : Text.enclosed '\x7b' '\x7d' line with
  | some body =>
    have read := same.readRule_eq (Text.closing_of_enclosed braces).2
    cases state.openBlock with
    | none => rfl
    | some block => simp only [ruleStep, read]
  | none =>
    have blocks : blockStep left = blockStep right := by
      funext state block line
      simp only [blockStep, terrainLineStep, assignmentStep, movementStep, same.terrains,
        same.dims, resolve]
    rw [blocks]

end Notation

end TerrainChess

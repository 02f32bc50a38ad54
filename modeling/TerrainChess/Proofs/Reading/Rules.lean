import TerrainChess.Notation.RuleLine
import TerrainChess.Proofs.Reading.Movements

/-!
# Rules that are read from a line

A rule line that is accepted gives a sound rule: it lists known terrains or
declared piece types only, and its paths fit the board: `Notation.sound_of_readRule`.
The words for all names and for no name never appear as listed names.
-/

set_option autoImplicit false

namespace TerrainChess

def Selector.ListsOnly (valid : String → Prop) : Selector → Prop
  | all => True
  | nothing => True
  | listed names => ∀ name ∈ names, valid name

open Notation

/-- The two words are not listed even where they are accepted as names. -/
theorem Selector.listsOnly_ofNames {names : List String} {valid : String → Prop}
    (accepted : ∀ name ∈ names, isSelectorWord name = true ∨ valid name) :
    (ofNames names).ListsOnly valid := by
  unfold ofNames
  split
  · exact trivial
  · next notAll =>
    split
    · exact trivial
    · next notNone =>
      intro name member
      have given : name ∈ names := OrderedSet.mem_ofList.mp member
      rcases accepted name given with word | good
      · simp only [isSelectorWord, Bool.or_eq_true, decide_eq_true_eq] at word
        rcases word with rfl | rfl
        · exact absurd given notAll
        · exact absurd given notNone
      · exact good

/-- A rule that lists names of the scope only and looks along paths that fit the board. -/
def Rule.Sound (scope : RuleScope) : Rule → Prop
  | jump _ _ => True
  | finalTerrain allowed => allowed.ListsOnly (fun name => scope.terrains.isKnown name = true)
  | encounter forbidden paths =>
    forbidden.ListsOnly (fun name => name ∈ scope.pieceNames) ∧
      ∀ look ∈ paths, look.path.Fits scope.dims

theorem Rule.sound_default (scope : RuleScope) (kind : RuleKind) : (default kind).Sound scope := by
  cases kind with
  | jump => exact trivial
  | finalTerrain => exact trivial
  | encounter => exact ⟨trivial, by simp⟩

namespace Notation

variable {scope : RuleScope}

theorem sound_of_readJump {jumps : Option UInt32} {eatOnlyOnLast : Bool}
    {arguments : List (List Char)} {rule : Rule}
    (read : readJump jumps eatOnlyOnLast arguments = .ok rule) : rule.Sound scope := by
  induction arguments generalizing jumps eatOnlyOnLast with
  | nil =>
    cases read
    exact trivial
  | cons argument rest ih =>
    unfold readJump at read
    split at read
    · exact ih read
    · split at read
      · exact ih read
      · cases read

theorem accepted_of_readTerrainArguments {arguments : List (List Char)} {names : List String}
    (read : readTerrainArguments scope arguments = .ok names) :
    ∀ name ∈ names, isSelectorWord name = true ∨ scope.terrains.isKnown name = true := by
  induction arguments generalizing names with
  | nil =>
    cases read
    simp
  | cons argument rest ih =>
    unfold readTerrainArguments at read
    split at read
    · cases read
    · next first here =>
      split at read
      · cases read
      · next later there =>
        cases read
        intro name member
        rcases List.mem_cons.mp member with rfl | further
        · unfold readTerrainArgument at here
          split at here
          · cases here
          · dsimp only at here
            split at here
            · next known =>
              cases here
              exact Bool.or_eq_true_iff.mp known
            · cases here
        · exact ih there name further

/-- What one argument of an encounter rule gives is acceptable. -/
theorem accepted_of_readEncounterArgument {argument : List Char} {names : List String}
    {paths : List ScopedPath} (read : readEncounterArgument scope argument = .ok (names, paths)) :
    (∀ name ∈ names, isSelectorWord name = true ∨ name ∈ scope.pieceNames) ∧
      ∀ look ∈ paths, look.path.Fits scope.dims := by
  unfold readEncounterArgument at read
  split at read
  · dsimp only at read
    split at read
    · next known =>
      cases read
      refine ⟨?_, by simp⟩
      intro name member
      rw [List.mem_singleton.mp member]
      exact (Bool.or_eq_true_iff.mp known).imp_right of_decide_eq_true
    · cases read
  · split at read
    · split at read
      · cases read
      · next movements moved =>
        cases read
        refine ⟨by simp, ?_⟩
        intro look member
        obtain ⟨movement, given, rfl⟩ := List.mem_map.mp member
        exact fits_of_readMovements moved movement given
    · cases read

theorem accepted_of_readEncounterArguments {arguments : List (List Char)} {names : List String}
    {paths : List ScopedPath} (read : readEncounterArguments scope arguments = .ok (names, paths)) :
    (∀ name ∈ names, isSelectorWord name = true ∨ name ∈ scope.pieceNames) ∧
      ∀ look ∈ paths, look.path.Fits scope.dims := by
  induction arguments generalizing names paths with
  | nil =>
    cases read
    simp
  | cons argument rest ih =>
    unfold readEncounterArguments at read
    split at read
    · cases read
    · next firstNames firstPaths here =>
      split at read
      · cases read
      · next laterNames laterPaths there =>
        cases read
        obtain ⟨firstAccepted, firstFit⟩ := accepted_of_readEncounterArgument here
        obtain ⟨laterAccepted, laterFit⟩ := ih there
        constructor
        · intro name member
          exact (List.mem_append.mp member).elim (firstAccepted name) (laterAccepted name)
        · intro look member
          exact (List.mem_append.mp member).elim (firstFit look) (laterFit look)

theorem sound_of_readRule {body : List Char} {rule : Rule} (read : readRule scope body = .ok rule) :
    rule.Sound scope := by
  unfold readRule at read
  dsimp only at read
  split at read
  · cases read
  · next kind _ =>
    cases kind with
    | jump => exact sound_of_readJump read
    | finalTerrain =>
      unfold readRuleOf at read
      dsimp only at read
      split at read
      · cases read
      · next names accepted =>
        cases read
        exact Selector.listsOnly_ofNames (accepted_of_readTerrainArguments accepted)
    | encounter =>
      unfold readRuleOf at read
      dsimp only at read
      split at read
      · cases read
      · next names paths accepted =>
        cases read
        obtain ⟨known, fit⟩ := accepted_of_readEncounterArguments accepted
        exact ⟨Selector.listsOnly_ofNames known, fit⟩

end Notation

end TerrainChess

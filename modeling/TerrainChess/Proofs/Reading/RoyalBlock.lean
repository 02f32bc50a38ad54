import Mathlib.Data.List.Basic
import TerrainChess.Proofs.Reading.Blocks

/-!
# The royal block of a piece text

With one royal line, a piece text declares one royal piece type if the block of
that line ends with its declaration, and none otherwise: `royals_after_initial`.
The declared royal piece types are counted along the lines before, inside and
behind the marked block.
-/

set_option autoImplicit false

namespace TerrainChess

namespace PieceCatalogue

variable {pieces : PieceCatalogue} {template : Template}

theorem royals_insert_of_common (fresh : pieces.get? template.name = none)
    (common : template.royal = false) :
    (pieces.insert template).royals = pieces.royals := by
  obtain ⟨front, back, parts, inserted⟩ := exists_values_insert fresh
  rw [royals, royals, parts, inserted, List.filter_append, List.filter_append,
    List.filter_cons_of_neg (by rw [common]; decide)]

theorem royals_insert_of_royal (fresh : pieces.get? template.name = none)
    (royal : template.royal = true) (none : pieces.royals = []) :
    (pieces.insert template).royals = [template] := by
  obtain ⟨front, back, parts, inserted⟩ := exists_values_insert fresh
  rw [royals, parts, List.filter_append, List.append_eq_nil_iff] at none
  rw [royals, inserted, List.filter_append, List.filter_cons_of_pos royal, none.1, none.2,
    List.nil_append]

end PieceCatalogue

namespace Notation

variable {scope : PieceScope}

namespace PieceState

/-- The royal piece types declared so far, with no mark in the open block. -/
structure Tally (royals : List Template) (state : PieceState) : Prop where
  declared : state.declared.royals = royals
  unmarked : ∀ block ∈ state.openBlock, block.royal = false

theorem Declares.fresh {state : PieceState} {template : Template}
    (declares : state.Declares template) : state.declared.get? template.name = none := by
  obtain ⟨_, _, _, absent⟩ := declares
  rwa [OrderedMap.contains, Option.isSome_eq_false_iff, Option.isNone_iff_eq_none] at absent

theorem tally_closed {royals : List Template} {declared : PieceCatalogue}
    (count : declared.royals = royals) : Tally royals ⟨declared, none⟩ := by
  refine ⟨count, ?_⟩
  intro block none
  cases none

theorem tally_opened {royals : List Template} {state : PieceState}
    (count : state.declared.royals = royals) (name : String) :
    Tally royals (state.continueWith (PieceBlock.opened name)) := by
  refine ⟨count, ?_⟩
  intro block current
  cases current
  rfl

namespace Tally

variable {royals : List Template} {state : PieceState}

theorem step (tally : state.Tally royals) {line : List Char} (plain : line ≠ Word.royal)
    {next : PieceState} (step : state.Step scope line next) : next.Tally royals := by
  cases step with
  | outside => exact tally
  | inside stays opened change =>
    refine ⟨tally.declared, ?_⟩
    intro block current
    cases current
    rw [change.royal_eq plain]
    exact tally.unmarked _ opened
  | opens => exact tally_opened tally.declared _
  | drops => exact tally_closed tally.declared
  | refuses => exact tally_closed tally.declared
  | declares ends complete =>
    refine tally_closed ?_
    obtain ⟨block, opened, finished, _⟩ := id complete
    have common := (PieceBlock.royal_of_finish finished).trans (tally.unmarked block opened)
    rw [PieceCatalogue.royals_insert_of_common complete.fresh common]
    exact tally.declared

theorem after (tally : state.Tally royals) {lines : List (List Char)}
    (plain : Word.royal ∉ lines) : ((pieceStep scope).after state lines).Tally royals :=
  LineStep.after_invariant (pieceStep scope) (Tally royals)
    (fun current line member before =>
      before.step (fun same => plain (same ▸ member)) (step_onLine scope current line)) tally

end Tally

/-- The open block, if it is not left before, ends with the declaration of a template. -/
def Completes (scope : PieceScope) (state : PieceState) (lines : List (List Char))
    (template : Template) : Prop :=
  ∃ inside behind, lines = inside ++ Word.blockEnd :: behind ∧
    (∀ line ∈ inside, StaysInBlock line) ∧
    ((pieceStep scope).after state inside).Declares template

section Completes

variable {state : PieceState} {rest : List (List Char)} {template : Template}

theorem not_completes_nil : ¬ state.Completes scope [] template := by
  rintro ⟨inside, behind, parts, _⟩
  cases inside <;> cases parts

theorem completes_cons_of_stays {line : List Char} (stays : StaysInBlock line) :
    state.Completes scope (line :: rest) template ↔
      ((pieceStep scope).onLine state line).1.Completes scope rest template := by
  constructor
  · rintro ⟨inside, behind, parts, staying, declares⟩
    cases inside with
    | nil =>
      cases parts
      exact absurd rfl stays.1
    | cons head inside =>
      cases parts
      exact ⟨inside, behind, rfl, fun later member => staying later (List.mem_cons_of_mem _ member),
        declares⟩
  · rintro ⟨inside, behind, rfl, staying, declares⟩
    refine ⟨line :: inside, behind, rfl, ?_, declares⟩
    intro later member
    rcases List.mem_cons.mp member with rfl | further
    · exact stays
    · exact staying later further

/-- At a line where the block does not stay open, it can only end there. -/
theorem completes_cons_of_leaves {line : List Char} (leaves : ¬ StaysInBlock line) :
    state.Completes scope (line :: rest) template ↔
      line = Word.blockEnd ∧ state.Declares template := by
  constructor
  · rintro ⟨inside, behind, parts, staying, declares⟩
    cases inside with
    | nil =>
      cases parts
      exact ⟨rfl, declares⟩
    | cons head inside =>
      cases parts
      exact absurd (staying line List.mem_cons_self) leaves
  · rintro ⟨rfl, declares⟩
    exact ⟨[], rest, rfl, by simp, declares⟩

end Completes

structure Marked (state : PieceState) : Prop where
  declared : state.declared.royals = []
  opened : ∃ block, state.openBlock = some block ∧ block.royal = true

/-- Without a further mark, a royal piece type is declared exactly if the marked block ends with
its declaration. The induction follows the lines until the block is left. -/
theorem Marked.royals_after (scope : PieceScope) {state : PieceState} {lines : List (List Char)}
    (marked : state.Marked) (plain : Word.royal ∉ lines) :
    (∃ template, state.Completes scope lines template ∧
        ((pieceStep scope).after state lines).declared.royals = [template]) ∨
      (∀ template, ¬ state.Completes scope lines template) ∧
        ((pieceStep scope).after state lines).declared.royals = [] := by
  induction lines generalizing state with
  | nil => exact Or.inr ⟨fun template => not_completes_nil, marked.declared⟩
  | cons line rest ih =>
    rw [List.mem_cons, not_or] at plain
    have later := plain.2
    rw [LineStep.after_cons]
    have step := step_onLine scope state line
    generalize result : ((pieceStep scope).onLine state line).1 = next at step ⊢
    obtain ⟨royalBlock, current, royal⟩ := marked.opened
    have left : OpensBlock line → ∀ template, ¬ state.Completes scope (line :: rest) template := by
      intro opens template
      rw [completes_cons_of_leaves (fun stays => stays.2 opens)]
      rintro ⟨rfl, _⟩
      exact absurd opens (by decide)
    cases step with
    | outside stays closed => cases closed.symm.trans current
    | inside stays opened change =>
      cases current.symm.trans opened
      simp only [completes_cons_of_stays stays, result]
      exact ih ⟨marked.declared, _, rfl, change.royal_of_royal royal⟩ later
    | opens leaves named =>
      exact Or.inr ⟨left leaves, ((tally_opened marked.declared _).after later).declared⟩
    | drops leaves =>
      exact Or.inr ⟨left leaves, ((tally_closed marked.declared).after later).declared⟩
    | declares ends complete =>
      refine Or.inl ⟨_, (completes_cons_of_leaves (fun stays => stays.1 ends)).mpr
        ⟨ends, complete⟩, ?_⟩
      obtain ⟨block, opened, finished, _⟩ := id complete
      cases current.symm.trans opened
      have crowned := (PieceBlock.royal_of_finish finished).trans royal
      exact ((tally_closed (PieceCatalogue.royals_insert_of_royal complete.fresh crowned
        marked.declared)).after later).declared
    | refuses ends incomplete =>
      refine Or.inr ⟨?_, ((tally_closed marked.declared).after later).declared⟩
      intro template completes
      exact incomplete template
        ((completes_cons_of_leaves (fun stays => stays.1 ends)).mp completes).2

end PieceState

/-- A block is open at a royal line, and it ends with the declaration of a template. -/
def DeclaresRoyal (scope : PieceScope) (lines : List (List Char)) (template : Template) : Prop :=
  ∃ before behind block, lines = before ++ Word.royal :: behind ∧
    ((pieceStep scope).after PieceState.initial before).openBlock = some block ∧
    ((pieceStep scope).after PieceState.initial (before ++ [Word.royal])).Completes scope behind
      template

theorem exists_of_royalLines_eq_one {lines : List (List Char)} (single : royalLines lines = 1) :
    ∃ before behind, lines = before ++ Word.royal :: behind ∧ Word.royal ∉ before ∧
      Word.royal ∉ behind := by
  obtain ⟨line, filtered⟩ := List.length_eq_one_iff.mp single
  obtain ⟨before, behind, parts, plain, royal, none⟩ := List.filter_eq_cons_iff.mp filtered
  refine ⟨before, behind, ?_, fun member => ?_, fun member => ?_⟩
  · rw [parts, of_decide_eq_true royal]
  · exact plain Word.royal member (by simp)
  · exact List.filter_eq_nil_iff.mp none Word.royal member (by simp)

/-- Where the royal line is unique, it is the line that the declaration is about. -/
theorem declaresRoyal_iff {before behind : List (List Char)} (plainBefore : Word.royal ∉ before)
    (plainBehind : Word.royal ∉ behind) {template : Template} :
    DeclaresRoyal scope (before ++ Word.royal :: behind) template ↔
      (∃ block, ((pieceStep scope).after PieceState.initial before).openBlock = some block) ∧
        ((pieceStep scope).after PieceState.initial (before ++ [Word.royal])).Completes scope
          behind template := by
  constructor
  · rintro ⟨otherBefore, otherBehind, block, parts, opened, completes⟩
    obtain ⟨rfl, _, rfl⟩ :=
      (List.append_cons_inj_of_notMem plainBefore plainBehind).mp parts
    exact ⟨⟨block, opened⟩, completes⟩
  · rintro ⟨⟨block, opened⟩, completes⟩
    exact ⟨before, behind, block, rfl, opened, completes⟩

/-- With one royal line, there is a royal piece type exactly if the block of that line ends with
its declaration. -/
theorem royals_after_initial (scope : PieceScope) {lines : List (List Char)}
    (single : royalLines lines = 1) :
    (∃ template, DeclaresRoyal scope lines template ∧
        ((pieceStep scope).after PieceState.initial lines).declared.royals = [template]) ∨
      (∀ template, ¬ DeclaresRoyal scope lines template) ∧
        ((pieceStep scope).after PieceState.initial lines).declared.royals = [] := by
  obtain ⟨before, behind, rfl, plainBefore, plainBehind⟩ := exists_of_royalLines_eq_one single
  have start : PieceState.initial.Tally [] := PieceState.tally_closed rfl
  have tally : ((pieceStep scope).after PieceState.initial before).Tally [] :=
    start.after plainBefore
  have whole : (pieceStep scope).after PieceState.initial (before ++ Word.royal :: behind) =
      (pieceStep scope).after
        ((pieceStep scope).after PieceState.initial (before ++ [Word.royal])) behind := by
    rw [← LineStep.after_append, List.append_assoc]
    rfl
  have marking := after_append_royal scope PieceState.initial before
  simp only [declaresRoyal_iff plainBefore plainBehind, whole]
  cases current : ((pieceStep scope).after PieceState.initial before).openBlock with
  | none =>
    rw [current, Option.map_none] at marking
    refine Or.inr ⟨?_, ?_⟩
    · rintro template ⟨⟨block, opened⟩, _⟩
      cases opened
    · rw [marking]
      exact ((PieceState.tally_closed tally.declared).after plainBehind).declared
  | some block =>
    rw [current, Option.map_some] at marking
    have marked : ((pieceStep scope).after PieceState.initial (before ++ [Word.royal])).Marked := by
      rw [marking]
      exact ⟨tally.declared, _, rfl, rfl⟩
    rcases marked.royals_after scope plainBehind with
      ⟨template, completes, count⟩ | ⟨incomplete, count⟩
    · exact Or.inl ⟨template, ⟨⟨block, rfl⟩, completes⟩, count⟩
    · exact Or.inr ⟨fun template given => incomplete template given.2, count⟩

end Notation

end TerrainChess

import TerrainChess.Notation.MovementLine
import TerrainChess.Proofs.Reading.Written

/-!
# Lines with the repetition word

A line such as `std:inf:0,1` stands for the paths that repeat its step once,
twice and so on up to the extent of the board: `Notation.readMovements_slidingLine`.
A line such as `polar:inf:0,1` gives these paths to the red side and the negated
ones to the black side: `Notation.readMovements_polarLine`.
-/

set_option autoImplicit false

namespace TerrainChess

namespace Text

variable {front back text : List Char}

theorem fields_of_not_mem (absent : ':' ∉ text) (trimmed : trim text = text)
    (nonempty : text ≠ []) : fields text = [text] := by
  simp [fields, partsOf, splitOn_of_not_mem absent, trimmed, nonempty]

theorem fields_append (absent : ':' ∉ front) (trimmed : trim front = front)
    (nonempty : front ≠ []) : fields (front ++ ':' :: back) = front :: fields back := by
  simp [fields, partsOf, splitOn_append absent, trimmed, nonempty]

end Text

namespace Notation

open Text

variable {dims : Dims} {step : Offset}

theorem comma_mem_toText (step : Offset) : ',' ∈ step.toText := by
  simp [Offset.toText, writePair]

theorem fields_toText (step : Offset) : fields step.toText = [step.toText] :=
  fields_of_not_mem (not_mem_writePair (by decide) (by decide)) trim_writePair
    (List.ne_nil_of_mem (comma_mem_toText step))

/-- Words have no comma, and a written step is none of them. -/
theorem ofText_toText (step : Offset) :
    MovementField.ofText step.toText = .coordinates step.toText := by
  have comma := comma_mem_toText step
  have other : ∀ {word : List Char}, ',' ∉ word → step.toText ≠ word :=
    fun absent same => absent (same ▸ comma)
  have owner : Side.ofKeyword? (String.ofList step.toText) = none := by
    cases found : Side.ofKeyword? (String.ofList step.toText) with
    | none => rfl
    | some side =>
      have same := congrArg String.toList (Side.ofKeyword?_eq_some_iff.mp found)
      rw [String.toList_ofList] at same
      have absent : ',' ∉ side.keyword.toList := by cases side <;> decide
      exact absurd same (other absent)
  simp [MovementField.ofText, owner, comma, other (show ',' ∉ Word.standard by decide),
    other (show ',' ∉ Word.alternate by decide), other (show ',' ∉ Word.infinite by decide),
    other (show ',' ∉ Word.polar by decide)]

theorem readStep_toText (reaches : dims.WithinReach step) :
    readStep dims step.toText = .ok step := by
  simp [readStep, Offset.ofText?_toText, reaches]

/-- Under the repetition word a written step stands for its repetitions. -/
theorem expand_toText (reaches : dims.WithinReach step) :
    expand dims true step.toText = .ok (repetitions dims step) := by
  have absent : '>' ∉ step.toText := not_mem_writePair (by decide) (by decide)
  simp [expand, absent, readStep_toText reaches]

def slidingLine (step : Offset) : List Char :=
  Word.standard ++ ':' :: (Word.infinite ++ ':' :: step.toText)

theorem readMovements_slidingLine (reaches : dims.WithinReach step) :
    readMovements dims (slidingLine step) =
      .ok ((repetitions dims step).map (fun path => ⟨.standard, .both, path⟩)) := by
  have cut : fields (slidingLine step) = [Word.standard, Word.infinite, step.toText] := by
    rw [slidingLine, fields_append (by decide) (by decide) (by decide),
      fields_append (by decide) (by decide) (by decide), fields_toText]
  have tier : MovementField.ofText Word.standard = .specification .standard := by decide
  have repetition : MovementField.ofText Word.infinite = .infinite := by decide
  have plain : Modifiers.movements ⟨.standard, true, false, none⟩ =
      fun path => [⟨.standard, .both, path⟩] := rfl
  simp [readMovements, cut, readFields, tier, repetition, ofText_toText, expand_toText reaches,
    Modifiers.initial, plain, List.map_eq_flatMap]

example : slidingLine ⟨0, 1⟩ = "std:inf:0,1".toList := by decide +kernel

def polarLine (step : Offset) : List Char :=
  Word.polar ++ ':' :: (Word.infinite ++ ':' :: step.toText)

theorem readMovements_polarLine (reaches : dims.WithinReach step) :
    readMovements dims (polarLine step) =
      .ok ((repetitions dims step).flatMap (fun path =>
        [⟨.both, .only .red, path⟩, ⟨.both, .only .black, path.negated⟩])) := by
  have cut : fields (polarLine step) = [Word.polar, Word.infinite, step.toText] := by
    rw [polarLine, fields_append (by decide) (by decide) (by decide),
      fields_append (by decide) (by decide) (by decide), fields_toText]
  have polarity : MovementField.ofText Word.polar = .polar := by decide
  have repetition : MovementField.ofText Word.infinite = .infinite := by decide
  have paired : Modifiers.movements ⟨.both, true, true, none⟩ =
      fun path => [⟨.both, .only .red, path⟩, ⟨.both, .only .black, path.negated⟩] := rfl
  simp [readMovements, cut, readFields, polarity, repetition, ofText_toText, expand_toText reaches,
    Modifiers.initial, paired]

end Notation

end TerrainChess

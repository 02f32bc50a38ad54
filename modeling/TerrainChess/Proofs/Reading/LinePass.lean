import Mathlib.Data.List.Induction
import TerrainChess.Notation.LinePass

/-!
# Passes over lines

The state after a pass does not depend on the numbers of the lines: `LineStep.after`
is the state alone. What every step keeps, a pass over any lines keeps. What a pass
says of a line depends on the lines before it: `eachLine`.
-/

set_option autoImplicit false

namespace TerrainChess.Notation

def eachLine {Value : Type} (said : List (List Char) → List Char → Value)
    (lines : List (List Char)) : List Value :=
  lines.mapIdx (fun index line => said (lines.take index) line)

theorem eachLine_append {Value : Type} (said : List (List Char) → List Char → Value)
    (before : List (List Char)) (line : List Char) :
    eachLine said (before ++ [line]) = eachLine said before ++ [said before line] := by
  unfold eachLine
  rw [List.mapIdx_append]
  congr 1
  · rw [List.mapIdx_eq_mapIdx_iff]
    intro index inside
    rw [List.take_append_of_le_length (by omega)]
  · simp

theorem mem_eachLine {Value : Type} {said : List (List Char) → List Char → Value}
    {lines : List (List Char)} {value : Value} :
    value ∈ eachLine said lines ↔
      ∃ before line behind, lines = before ++ line :: behind ∧ said before line = value := by
  rw [eachLine, List.mem_mapIdx]
  constructor
  · rintro ⟨index, inside, given⟩
    refine ⟨lines.take index, lines[index], lines.drop (index + 1), ?_, given⟩
    rw [List.getElem_cons_drop, List.take_append_drop]
  · rintro ⟨before, line, behind, rfl, given⟩
    exact ⟨before.length, by simp, by simpa using given⟩

namespace LineStep

variable {σ : Type} (step : LineStep σ)

def after (state : σ) (lines : List (List Char)) : σ :=
  lines.foldl (fun current line => (step.onLine current line).1) state

theorem fst_run (number : Nat) (state : σ) (lines : List (List Char)) :
    (step.run number state lines).1 = step.after state lines := by
  induction lines generalizing number state with
  | nil => rfl
  | cons line rest ih => exact ih (number + 1) (step.onLine state line).1

theorem after_cons (state : σ) (line : List Char) (rest : List (List Char)) :
    step.after state (line :: rest) = step.after (step.onLine state line).1 rest := rfl

theorem after_append (state : σ) (first second : List (List Char)) :
    step.after state (first ++ second) = step.after (step.after state first) second :=
  List.foldl_append

theorem onLine_invariant {invariant : σ → Prop} {state : σ} {line : List Char}
    (initial : invariant state) (kept : invariant (step state line).1) :
    invariant (step.onLine state line).1 := by
  unfold onLine
  split
  · exact initial
  · exact kept

theorem after_invariant (invariant : σ → Prop) {lines : List (List Char)}
    (preserved : ∀ state, ∀ line ∈ lines, invariant state → invariant (step.onLine state line).1)
    {state : σ} (initial : invariant state) : invariant (step.after state lines) := by
  induction lines generalizing state with
  | nil => exact initial
  | cons line rest ih =>
    exact ih (fun current later member => preserved current later (List.mem_cons_of_mem _ member))
      (preserved state line List.mem_cons_self initial)

/-- The faults of a pass are those of its lines, with the numbers of the lines. -/
theorem mem_run_iff {number : Nat} {state : σ} {lines : List (List Char)} {entry : Nat × Fault} :
    entry ∈ (step.run number state lines).2 ↔
      ∃ before line behind, lines = before ++ line :: behind ∧
        entry.1 = number + before.length ∧
        entry.2 ∈ (step.onLine (step.after state before) line).2 := by
  constructor
  · intro reported
    induction lines generalizing number state with
    | nil => cases reported
    | cons line rest ih =>
      rcases List.mem_append.mp reported with here | later
      · obtain ⟨fault, given, rfl⟩ := List.mem_map.mp here
        exact ⟨[], line, rest, rfl, rfl, given⟩
      · obtain ⟨before, found, behind, rfl, place, given⟩ := ih later
        refine ⟨line :: before, found, behind, rfl, ?_, given⟩
        rw [place, List.length_cons]
        omega
  · rintro ⟨before, line, behind, rfl, place, given⟩
    rw [← step.fst_run number] at given
    rw [run_append]
    refine List.mem_append_right _ (List.mem_append_left _ (List.mem_map.mpr ⟨entry.2, given, ?_⟩))
    rw [← place]

theorem onLine_of_solid {line : List Char} (solid : line.isEmpty = false) (state : σ) :
    step.onLine state line = step state line := by
  rw [onLine, if_neg (Bool.eq_false_iff.mp solid)]

theorem onLine_of_mem {state : σ} {line : List Char} {fault : Fault}
    (reported : fault ∈ (step.onLine state line).2) : step.onLine state line = step state line := by
  unfold onLine at reported ⊢
  split at reported
  · cases reported
  · next solid => rw [if_neg solid]

/-- A line that leaves the state as it is and has one fault could as well be blank, but for that
fault. -/
theorem run_blank (number : Nat) {state : σ} {before : List (List Char)}
    (behind : List (List Char)) {line : List Char} {fault : Fault}
    (idle : step.onLine (step.after state before) line = (step.after state before, [fault])) :
    ∃ front back,
      step.run number state (before ++ line :: behind) =
        (step.after state (before ++ line :: behind),
          front ++ (number + before.length, fault) :: back) ∧
      step.run number state (before ++ [] :: behind) =
        (step.after state (before ++ line :: behind), front ++ back) ∧
      ∀ entry ∈ front, entry.1 < number + before.length := by
  have skipped : step.onLine (step.after state before) [] = (step.after state before, []) := rfl
  refine ⟨(step.run number state before).2,
    (step.run (number + before.length + 1) (step.after state before) behind).2, ?_, ?_, ?_⟩
  · simp [run_append, run, fst_run, idle, after_append, after_cons]
  · simp [run_append, run, fst_run, idle, skipped, after_append, after_cons]
  · intro entry member
    obtain ⟨earlier, _, _, rfl, place, _⟩ := step.mem_run_iff.mp member
    rw [place, List.length_append, List.length_cons]
    omega

/-- The faults of a pass are those of every line in the state behind the lines before it. -/
theorem snd_run (number : Nat) (state : σ)
    (lines : List (List Char)) :
    (step.run number state lines).2 =
      (eachLine (fun before line => (step.onLine (step.after state before) line).2.map
        (fun fault => (number + before.length, fault))) lines).flatten := by
  induction lines using List.reverseRecOn with
  | nil => rfl
  | append_singleton before line ih =>
    rw [eachLine_append, run_append]
    simp [run, ih, fst_run]

end LineStep

/-- Erasing a diagnostic whose line has no fault before it. -/
theorem diagnose_erase {source : SourceKind} {front back : List (Nat × Fault)}
    {entry : Nat × Fault} (fresh : ∀ other ∈ front, other.1 ≠ entry.1) :
    (diagnose source (front ++ entry :: back)).erase ⟨source, entry.1, entry.2⟩ =
      diagnose source (front ++ back) := by
  have absent : (⟨source, entry.1, entry.2⟩ : Diagnostic) ∉ diagnose source front := by
    intro member
    obtain ⟨other, there, same⟩ := List.mem_map.mp member
    exact fresh other there (congrArg Diagnostic.line same)
  unfold diagnose at absent ⊢
  rw [List.map_append, List.map_cons, List.erase_append_right _ absent, List.erase_cons_head,
    List.map_append]

end TerrainChess.Notation

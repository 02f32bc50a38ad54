import TerrainChess.Notation.Fault
import TerrainChess.Text.Lines

/-!
# Reading a text line by line

The three texts of a game are read in one pass each. A pass is a step that takes
a state and a trimmed line to the next state and the faults of the line. Blank
lines are not shown to the step but count as lines.
-/

set_option autoImplicit false

namespace TerrainChess.Notation

/-- What a pass does with one line. -/
abbrev LineStep (σ : Type) := σ → List Char → σ × List Fault

namespace LineStep

variable {σ : Type}

/-- What a pass does with one trimmed line that may be blank. -/
def onLine (step : LineStep σ) (state : σ) (line : List Char) : σ × List Fault :=
  if line.isEmpty then (state, []) else step state line

/-- The state after a list of trimmed lines, and their faults with the numbers of the lines. -/
def run (step : LineStep σ) : Nat → σ → List (List Char) → σ × List (Nat × Fault)
  | _, state, [] => (state, [])
  | number, state, line :: rest =>
    let here := step.onLine state line
    let later := step.run (number + 1) here.1 rest
    (later.1, here.2.map (fun fault => (number, fault)) ++ later.2)

theorem run_append (step : LineStep σ) (number : Nat) (state : σ)
    (first second : List (List Char)) :
    step.run number state (first ++ second) =
      (let before := step.run number state first
       let after := step.run (number + first.length) before.1 second
       (after.1, before.2 ++ after.2)) := by
  induction first generalizing number state with
  | nil => simp [run]
  | cons line rest ih =>
    have place : number + 1 + rest.length = number + (rest.length + 1) := by omega
    simp [run, ih, place]

end LineStep

def diagnose (source : SourceKind) (faults : List (Nat × Fault)) : List Diagnostic :=
  faults.map (fun entry => ⟨source, entry.1, entry.2⟩)

end TerrainChess.Notation

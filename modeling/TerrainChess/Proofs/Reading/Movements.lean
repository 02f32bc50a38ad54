import TerrainChess.Notation.MovementLine
import TerrainChess.Proofs.Offsets

/-!
# Movements that are read from a line

Every path of a movement line has a step, and every step is shorter than the
board: `Notation.fits_of_readMovements`. This holds of repeated paths and of the
negated paths that polar fields add.
-/

set_option autoImplicit false

namespace TerrainChess

structure Path.Fits (dims : Dims) (path : Path) : Prop where
  nonempty : path.steps ≠ []
  withinReach : ∀ step ∈ path.steps, dims.WithinReach step ∧ dims.WithinReach (-step)

namespace Path.Fits

variable {dims : Dims} {step : Offset} {path : Path}

theorem of_withinReach (nonempty : path.steps ≠ [])
    (reach : ∀ step ∈ path.steps, dims.WithinReach step) : path.Fits dims :=
  ⟨nonempty, fun step member => ⟨reach step member, (reach step member).neg⟩⟩

theorem single (reaches : dims.WithinReach step) : (Path.single step).Fits dims := by
  refine of_withinReach (List.cons_ne_nil _ _) ?_
  intro other member
  rw [List.mem_singleton.mp member]
  exact reaches

theorem repeated (reaches : dims.WithinReach step) (count : Nat) :
    (Path.repeated step (count + 1)).Fits dims := by
  refine of_withinReach (List.cons_ne_nil _ _) ?_
  intro other member
  rw [List.eq_of_mem_replicate member]
  exact reaches

theorem negated (fits : path.Fits dims) : path.negated.Fits dims := by
  refine of_withinReach ?_ ?_
  · rw [Path.negated, ne_eq, List.map_eq_nil_iff]
    exact fits.nonempty
  · intro step member
    obtain ⟨original, given, rfl⟩ := List.mem_map.mp member
    exact (fits.withinReach original given).2

end Path.Fits

theorem Text.splitOn_ne_nil (separator : Char) (text : List Char) :
    Text.splitOn separator text ≠ [] := by
  cases text with
  | nil => exact List.cons_ne_nil _ _
  | cons character rest =>
    unfold Text.splitOn
    split
    · exact List.cons_ne_nil _ _
    · split <;> exact List.cons_ne_nil _ _

namespace Notation

variable {dims : Dims}

theorem withinReach_of_readStep {text : List Char} {step : Offset}
    (read : readStep dims text = .ok step) : dims.WithinReach step := by
  unfold readStep at read
  split at read
  · cases read
  · split at read
    · next reaches =>
      cases read
      exact reaches
    · cases read

theorem steps_of_readSteps {texts : List (List Char)} {steps : List Offset}
    (read : readSteps dims texts = .ok steps) :
    steps.length = texts.length ∧ ∀ step ∈ steps, dims.WithinReach step := by
  induction texts generalizing steps with
  | nil =>
    cases read
    exact ⟨rfl, by simp⟩
  | cons text rest ih =>
    unfold readSteps at read
    split at read
    · cases read
    · next first here =>
      split at read
      · cases read
      · next later there =>
        cases read
        obtain ⟨lengths, reach⟩ := ih there
        refine ⟨congrArg Nat.succ lengths, ?_⟩
        intro step member
        rcases List.mem_cons.mp member with same | further
        · exact same ▸ withinReach_of_readStep here
        · exact reach step further

theorem fits_of_expand {infinite : Bool} {text : List Char} {paths : List Path}
    (expanded : expand dims infinite text = .ok paths) : ∀ path ∈ paths, path.Fits dims := by
  unfold expand at expanded
  split at expanded
  · split at expanded
    · cases expanded
    · next steps read =>
      cases expanded
      obtain ⟨lengths, reach⟩ := steps_of_readSteps read
      intro path member
      rw [List.mem_singleton.mp member]
      refine Path.Fits.of_withinReach ?_ reach
      intro none
      rw [show steps = [] from none] at lengths
      exact Text.splitOn_ne_nil '>' text (List.length_eq_zero_iff.mp lengths.symm)
  · split at expanded
    · cases expanded
    · next step read =>
      have reaches := withinReach_of_readStep read
      cases expanded
      intro path member
      split at member
      · obtain ⟨count, _, rfl⟩ := List.mem_map.mp member
        exact Path.Fits.repeated reaches count
      · rw [List.mem_singleton.mp member]
        exact Path.Fits.single reaches

theorem Modifiers.fits_of_mem_movements {modifiers : Modifiers} {path : Path}
    (fits : path.Fits dims) {movement : Movement} (member : movement ∈ modifiers.movements path) :
    movement.path.Fits dims := by
  unfold Modifiers.movements at member
  split at member
  · rcases List.mem_cons.mp member with rfl | other
    · exact fits
    · rw [List.mem_singleton.mp other]
      exact fits.negated
  · split at member
    · rw [List.mem_singleton.mp member]
      exact fits
    · rw [List.mem_singleton.mp member]
      exact fits

theorem fits_of_readFields {modifiers : Modifiers} {fields : List (List Char)}
    {movements : List Movement} (read : readFields dims modifiers fields = .ok movements) :
    ∀ movement ∈ movements, movement.path.Fits dims := by
  induction fields generalizing modifiers movements with
  | nil =>
    cases read
    simp
  | cons field rest ih =>
    unfold readFields at read
    split at read
    · exact ih read
    · exact ih read
    · exact ih read
    · exact ih read
    · cases read
    · split at read
      · cases read
      · next paths expanded =>
        split at read
        · cases read
        · next later remaining =>
          cases read
          intro movement member
          rcases List.mem_append.mp member with here | there
          · obtain ⟨path, given, made⟩ := List.mem_flatMap.mp here
            exact Modifiers.fits_of_mem_movements (fits_of_expand expanded path given) made
          · exact ih remaining movement there

theorem fits_of_readMovements {line : List Char} {movements : List Movement}
    (read : readMovements dims line = .ok movements) :
    ∀ movement ∈ movements, movement.path.Fits dims :=
  fits_of_readFields read

end Notation

end TerrainChess

/-!
# Key orders

A strict total order that a program can test. Finite sets and catalogues keep
their keys in such an order, so that equal contents are equal values.
-/

set_option autoImplicit false

namespace TerrainChess

/-- A decidable strict total order. -/
class KeyOrder (κ : Type) where
  before : κ → κ → Bool
  irreflexive : ∀ key, before key key = false
  transitive : ∀ {first second third}, before first second = true →
    before second third = true → before first third = true
  total : ∀ first second, before first second = true ∨ first = second ∨ before second first = true

namespace KeyOrder

variable {κ : Type} [KeyOrder κ]

theorem asymmetric {first second : κ} (ascending : before first second = true) :
    before second first = false := by
  cases descending : before second first with
  | false => rfl
  | true =>
    have loop := transitive ascending descending
    rw [irreflexive] at loop
    cases loop

theorem eq_of_not_before {first second : κ} (notAscending : before first second = false)
    (notDescending : before second first = false) : first = second := by
  rcases total first second with ascending | same | descending
  · rw [notAscending] at ascending
    cases ascending
  · exact same
  · rw [notDescending] at descending
    cases descending

theorem ne_of_before {first second : κ} (ascending : before first second = true) :
    first ≠ second := by
  intro same
  subst same
  rw [irreflexive] at ascending
  cases ascending

end KeyOrder

end TerrainChess

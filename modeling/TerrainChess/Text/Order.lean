import TerrainChess.Ordered.Key

/-!
# The order of names

Texts are compared by the code points of their characters, first difference
first; a proper beginning comes before the longer text.
-/

set_option autoImplicit false

namespace TerrainChess.Text

def precedes : List Char → List Char → Bool
  | _, [] => false
  | [], _ :: _ => true
  | first :: firstRest, second :: secondRest =>
    if first.toNat < second.toNat then true
    else if second.toNat < first.toNat then false
    else precedes firstRest secondRest

private theorem char_eq_of_toNat_eq {first second : Char} (same : first.toNat = second.toNat) :
    first = second :=
  Char.ext (UInt32.toNat_inj.mp same)

theorem precedes_irreflexive (text : List Char) : precedes text text = false := by
  induction text with
  | nil => rfl
  | cons head rest ih => simp [precedes, ih]

theorem precedes_transitive {first second third : List Char}
    (left : precedes first second = true) (right : precedes second third = true) :
    precedes first third = true := by
  induction first generalizing second third with
  | nil =>
    cases third with
    | nil => cases second <;> simp [precedes] at right
    | cons => rfl
  | cons firstHead firstRest ih =>
    cases second with
    | nil => simp [precedes] at left
    | cons secondHead secondRest =>
      cases third with
      | nil => simp [precedes] at right
      | cons thirdHead thirdRest =>
        unfold precedes at left right ⊢
        by_cases below : firstHead.toNat < secondHead.toNat
        · by_cases next : thirdHead.toNat < secondHead.toNat
          · have notAbove : ¬ secondHead.toNat < thirdHead.toNat := by omega
            simp [next, notAbove] at right
          · have result : firstHead.toNat < thirdHead.toNat := by omega
            simp [result]
        · by_cases above : secondHead.toNat < firstHead.toNat
          · simp [below, above] at left
          · have same : firstHead.toNat = secondHead.toNat := by omega
            rw [if_neg below, if_neg above] at left
            rw [same]
            by_cases next : secondHead.toNat < thirdHead.toNat
            · simp [next]
            · by_cases back : thirdHead.toNat < secondHead.toNat
              · simp [next, back] at right
              · rw [if_neg next, if_neg back] at right ⊢
                exact ih left right

theorem precedes_total (first second : List Char) :
    precedes first second = true ∨ first = second ∨ precedes second first = true := by
  induction first generalizing second with
  | nil =>
    cases second with
    | nil => exact Or.inr (Or.inl rfl)
    | cons => exact Or.inl rfl
  | cons firstHead firstRest ih =>
    cases second with
    | nil => exact Or.inr (Or.inr rfl)
    | cons secondHead secondRest =>
      unfold precedes
      by_cases below : firstHead.toNat < secondHead.toNat
      · exact Or.inl (by simp [below])
      · by_cases above : secondHead.toNat < firstHead.toNat
        · exact Or.inr (Or.inr (by simp [above]))
        · rw [if_neg below, if_neg above, if_neg above, if_neg below]
          have same := char_eq_of_toNat_eq (show firstHead.toNat = secondHead.toNat by omega)
          rcases ih secondRest with before | equal | after
          · exact Or.inl before
          · exact Or.inr (Or.inl (by rw [same, equal]))
          · exact Or.inr (Or.inr after)

end TerrainChess.Text

namespace TerrainChess

/-- Names are ordered by code points. -/
instance : KeyOrder String where
  before first second := Text.precedes first.toList second.toList
  irreflexive name := Text.precedes_irreflexive name.toList
  transitive := Text.precedes_transitive
  total first second := by
    rcases Text.precedes_total first.toList second.toList with before | same | after
    · exact Or.inl before
    · exact Or.inr (Or.inl (String.ext same))
    · exact Or.inr (Or.inr after)

end TerrainChess

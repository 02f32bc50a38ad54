import TerrainChess.Notation.Coordinates

/-!
# Reading what has been written

A numeral consists of digits and a minus sign, and so the separators of pairs,
moves and lines and the blanks around them are never part of one. Reading a
written square, offset or move therefore gives it back: `Notation.readMove_writeMove`.
-/

set_option autoImplicit false

namespace TerrainChess

namespace Text

/-!
## Cutting at a separator
-/

variable {separator : Char} {front back text : List Char}

theorem splitOnce_append (absent : separator ∉ front) :
    splitOnce separator (front ++ separator :: back) = some (front, back) := by
  induction front with
  | nil => simp [splitOnce]
  | cons head rest ih =>
    simp only [List.mem_cons, not_or] at absent
    simp [splitOnce, Ne.symm absent.1, ih absent.2]

theorem splitOn_of_not_mem (absent : separator ∉ text) : splitOn separator text = [text] := by
  induction text with
  | nil => rfl
  | cons head rest ih =>
    simp only [List.mem_cons, not_or] at absent
    simp [splitOn, Ne.symm absent.1, ih absent.2]

theorem splitOn_append (absent : separator ∉ front) :
    splitOn separator (front ++ separator :: back) = front :: splitOn separator back := by
  induction front with
  | nil => simp [splitOn]
  | cons head rest ih =>
    simp only [List.mem_cons, not_or] at absent
    simp [splitOn, Ne.symm absent.1, ih absent.2]

theorem dropWhile_isBlank_of_solid (solid : ∀ character ∈ text, isBlank character = false) :
    text.dropWhile isBlank = text := by
  cases text with
  | nil => rfl
  | cons head rest => simp [solid head]

theorem trim_of_solid (solid : ∀ character ∈ text, isBlank character = false) :
    trim text = text := by
  have reversed : ∀ character ∈ text.reverse, isBlank character = false :=
    fun character member => solid character (List.mem_reverse.mp member)
  simp [trim, dropWhile_isBlank_of_solid solid, dropWhile_isBlank_of_solid reversed]

namespace Numeral

def IsNumeric (character : Char) : Prop := character = '-' ∨ character.isDigit = true

theorem isNumeric_of_mem_ofCoord {value : Coord} {character : Char}
    (member : character ∈ ofCoord value) : IsNumeric character := by
  unfold ofCoord ofInt at member
  split at member
  · cases member with
    | head => exact Or.inl rfl
    | tail _ digit => exact Or.inr (isDigit_of_mem_ofNat digit)
  · exact Or.inr (isDigit_of_mem_ofNat member)

theorem not_mem_ofCoord {separator : Char} (other : ¬ IsNumeric separator) (value : Coord) :
    separator ∉ ofCoord value :=
  fun member => other (isNumeric_of_mem_ofCoord member)

instance (character : Char) : Decidable (IsNumeric character) :=
  inferInstanceAs (Decidable (_ ∨ _))

theorem isBlank_of_isNumeric {character : Char} (numeric : IsNumeric character) :
    isBlank character = false := by
  cases numeric with
  | inl minus =>
    subst minus
    decide
  | inr digit =>
    simp only [Char.isDigit, Bool.and_eq_true, decide_eq_true_eq, ge_iff_le, UInt32.le_iff_toNat_le]
      at digit
    have least : 48 ≤ character.toNat := digit.1
    have greatest : character.toNat ≤ 57 := digit.2
    simp only [isBlank, CodeRanges.contains, blanks, List.any_cons, List.any_nil, Bool.or_false,
      Bool.or_eq_false_iff, Bool.and_eq_false_imp, decide_eq_true_eq, decide_eq_false_iff_not,
      Nat.not_le]
    omega

end Numeral

end Text

namespace Notation

open Text Numeral

variable {first second : Coord}

theorem mem_writePair {character : Char} (member : character ∈ writePair first second) :
    character = ',' ∨ IsNumeric character := by
  simp only [writePair, List.append_assoc, List.mem_append, List.mem_singleton] at member
  rcases member with numeral | comma | numeral
  · exact Or.inr (isNumeric_of_mem_ofCoord numeral)
  · exact Or.inl comma
  · exact Or.inr (isNumeric_of_mem_ofCoord numeral)

/-- No other separator and no blank is part of a written pair. -/
theorem not_mem_writePair {separator : Char} (notComma : separator ≠ ',')
    (other : ¬ IsNumeric separator) : separator ∉ writePair first second := by
  intro member
  cases mem_writePair member with
  | inl comma => exact notComma comma
  | inr numeric => exact other numeric

theorem trim_writePair : trim (writePair first second) = writePair first second := by
  apply trim_of_solid
  intro character member
  cases mem_writePair member with
  | inl comma =>
    subst comma
    decide
  | inr numeric => exact isBlank_of_isNumeric numeric

theorem readPair?_writePair (first second : Coord) :
    readPair? (writePair first second) = some (first, second) := by
  have trimmed : ∀ value : Coord, trim (ofCoord value) = ofCoord value := fun value =>
    trim_of_solid (fun _ member => isBlank_of_isNumeric (isNumeric_of_mem_ofCoord member))
  have cut : splitOnce ',' (writePair first second) = some (ofCoord first, ofCoord second) := by
    simp [writePair, splitOnce_append (not_mem_ofCoord (show ¬ IsNumeric ',' by decide) first)]
  simp [readPair?, cut, trimmed, readCoord?_ofCoord]

end Notation

theorem Square.ofText?_toText (square : Square) : Square.ofText? square.toText = some square := by
  simp [Square.ofText?, Square.toText, Notation.readPair?_writePair]

theorem Offset.ofText?_toText (offset : Offset) : Offset.ofText? offset.toText = some offset := by
  simp [Offset.ofText?, Offset.toText, Notation.readPair?_writePair]

/-- Reading a written move gives the move back, on whatever squares it starts and ends. -/
theorem Notation.readMove_writeMove (start target : Square) :
    readMove (writeMove start target) = .ok (start, target) := by
  have absent : '>' ∉ start.toText := not_mem_writePair (by decide) (by decide)
  have cut : Text.splitOnce '>' (writeMove start target) = some (start.toText, target.toText) := by
    simp [writeMove, Text.splitOnce_append absent]
  simp [readMove, cut, Square.ofText?_toText]

end TerrainChess

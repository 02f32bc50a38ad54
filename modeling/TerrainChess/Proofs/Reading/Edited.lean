import TerrainChess.Text.Lines

/-!
# Edited texts

A line of a text is blanked by a space in its place, and deleted together with
its end. The lines of the edited text are the other lines of the text in their
order: `lines_blankLine` and `lines_keepLines`.
-/

set_option autoImplicit false

namespace TerrainChess.Text

def lineEnd : List Char → List Char
  | [] => []
  | '\r' :: '\n' :: rest => '\r' :: '\n' :: rest
  | '\n' :: rest => '\n' :: rest
  | _ :: rest => lineEnd rest

def blankLine : Nat → List Char → List Char
  | 0, text => ' ' :: lineEnd text
  | _ + 1, [] => []
  | index + 1, '\r' :: '\n' :: rest => '\r' :: '\n' :: blankLine index rest
  | index + 1, '\n' :: rest => '\n' :: blankLine index rest
  | index + 1, character :: rest => character :: blankLine (index + 1) rest

/-- The lines with their ends that are kept, where the first line has the index given. -/
def keepLines (keep : Nat → Bool) : Nat → List Char → List Char
  | _, [] => []
  | index, '\r' :: '\n' :: rest =>
    (if keep index then ['\r', '\n'] else []) ++ keepLines keep (index + 1) rest
  | index, '\n' :: rest => (if keep index then ['\n'] else []) ++ keepLines keep (index + 1) rest
  | index, character :: rest =>
    (if keep index then [character] else []) ++ keepLines keep index rest

/-- A character that ends no line belongs to the first line of the text behind it. -/
theorem lines_cons {character : Char} {text : List Char} (noFeed : character ≠ '\n')
    (noReturn : character = '\r' → text.head? ≠ some '\n') :
    lines (character :: text) =
      match lines text with
      | [] => [[character]]
      | line :: more => (character :: line) :: more := by
  refine lines.eq_4 character text ?_ noFeed
  rintro rest rfl rfl
  exact noReturn rfl rfl

theorem lines_space_lineEnd (text : List Char) :
    lines (' ' :: lineEnd text) = [' '] :: (lines text).tail := by
  fun_induction lineEnd text with
  | case1 => rfl
  | case2 rest => rfl
  | case3 rest => rfl
  | case4 character rest noReturn noFeed ih =>
    rw [ih, lines.eq_4 character rest noReturn noFeed]
    cases lines rest <;> rfl

/-- Only the first line of a text can be changed at its first character. -/
theorem head?_blankLine_succ (index : Nat) (text : List Char) :
    (blankLine (index + 1) text).head? = text.head? := by
  generalize later : index + 1 = number
  fun_cases blankLine number text with
  | case1 => cases later
  | case2 => rfl
  | case3 => rfl
  | case4 => rfl
  | case5 => rfl

theorem lines_blankLine {index : Nat} {text : List Char} (inside : index < (lines text).length) :
    lines (blankLine index text) = (lines text).set index [' '] := by
  fun_induction blankLine index text with
  | case1 text =>
    rw [lines_space_lineEnd]
    cases shown : lines text with
    | nil => simp [shown] at inside
    | cons line more => rfl
  | case2 => rfl
  | case3 index rest ih =>
    simp only [lines, List.length_cons] at inside ⊢
    rw [ih (Nat.lt_of_succ_lt_succ inside), List.set_cons_succ]
  | case4 index rest ih =>
    simp only [lines, List.length_cons] at inside ⊢
    rw [ih (Nat.lt_of_succ_lt_succ inside), List.set_cons_succ]
  | case5 index character rest noReturn noFeed ih =>
    rw [lines.eq_4 character rest noReturn noFeed] at inside ⊢
    rw [lines_cons noFeed]
    · cases shown : lines rest with
      | nil => simp [shown] at inside
      | cons line more =>
        rw [ih (by simpa [shown] using inside), shown]
        rfl
    · rintro rfl
      rw [head?_blankLine_succ]
      intro feed
      obtain ⟨later, rfl⟩ := List.head?_eq_some_iff.mp feed
      exact noReturn later rfl rfl

theorem trimmedLines_blankLine {index : Nat} {text : List Char}
    (inside : index < (trimmedLines text).length) :
    trimmedLines (blankLine index text) = (trimmedLines text).set index [] := by
  have space : trim [' '] = [] := by decide
  unfold trimmedLines at inside ⊢
  rw [List.length_map] at inside
  rw [lines_blankLine inside, List.map_set, space]

theorem head?_keepLines {keep : Nat → Bool} {index : Nat} (kept : keep index = true)
    (text : List Char) : (keepLines keep index text).head? = text.head? := by
  fun_cases keepLines keep index text with
  | case1 => rfl
  | case2 => simp [kept]
  | case3 => simp [kept]
  | case4 => simp [kept]

def keepFrom {α : Type} (keep : Nat → Bool) : Nat → List α → List α
  | _, [] => []
  | index, value :: rest =>
    (if keep index then [value] else []) ++ keepFrom keep (index + 1) rest

theorem map_keepFrom {α β : Type} (change : α → β) (keep : Nat → Bool) (index : Nat)
    (values : List α) :
    (keepFrom keep index values).map change = keepFrom keep index (values.map change) := by
  induction values generalizing index with
  | nil => rfl
  | cons value rest ih =>
    rw [keepFrom, List.map_append, ih, List.map_cons, keepFrom]
    split <;> rfl

theorem lines_keepLines (keep : Nat → Bool) (index : Nat) (text : List Char) :
    lines (keepLines keep index text) = keepFrom keep index (lines text) := by
  fun_induction keepLines keep index text with
  | case1 => rfl
  | case2 index rest ih =>
    rw [lines, keepFrom, ← ih]
    cases keep index <;> rfl
  | case3 index rest ih =>
    rw [lines, keepFrom, ← ih]
    cases keep index <;> rfl
  | case4 index character rest noReturn noFeed ih =>
    rw [lines.eq_4 character rest noReturn noFeed]
    cases kept : keep index with
    | false =>
      rw [if_neg (by decide), List.nil_append, ih]
      cases lines rest with
      | nil => simp [keepFrom, kept]
      | cons line more => simp [keepFrom, kept]
    | true =>
      rw [if_pos rfl, List.singleton_append, lines_cons noFeed, ih]
      · cases lines rest with
        | nil => simp [keepFrom, kept]
        | cons line more => simp [keepFrom, kept]
      · rintro rfl
        rw [head?_keepLines kept]
        intro feed
        obtain ⟨later, rfl⟩ := List.head?_eq_some_iff.mp feed
        exact noReturn later rfl rfl

theorem trimmedLines_keepLines (keep : Nat → Bool) (index : Nat) (text : List Char) :
    trimmedLines (keepLines keep index text) = keepFrom keep index (trimmedLines text) := by
  rw [trimmedLines, lines_keepLines, map_keepFrom, trimmedLines]

end TerrainChess.Text

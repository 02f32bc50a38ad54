import Mathlib.Data.List.Forall2
import TerrainChess.Proofs.Reading.Bracketed
import TerrainChess.Proofs.Reading.Ground
import TerrainChess.Proofs.Reading.Written

/-!
# The shape of lines in sections

A line of a section has one of a few shapes: how often each form of field occurs in it, in
any order. The reader keeps the last name and whether a word has occurred, so that it
takes a line with a repeated name or word for the line without the repetitions:
`Notation.contentLine_shape`. A line without repetitions is accepted in one of the shapes
only, and `Notation.contentLine_repeatedName` is a line that no shape allows and that is
accepted.
-/

set_option autoImplicit false

namespace TerrainChess

/-!
## Characters of a written square
-/

namespace Text.Numeral

variable {text : List Char} {character : Char}

theorem isDigit_of_readDigits? {value : Nat} (read : readDigits? text = some value)
    (member : character ∈ text) : character.isDigit = true := by
  unfold readDigits? at read
  split at read
  · cases read
  · split at read
    · next digits => exact List.all_eq_true.mp digits character member
    · cases read

theorem isNumeric_of_readCoord? {value : Coord} (read : readCoord? text = some value)
    (member : character ∈ text) : character = '+' ∨ IsNumeric character := by
  obtain ⟨whole, exact, _⟩ := Option.bind_eq_some_iff.mp read
  unfold readInt? at exact
  split at exact
  · next digits =>
    obtain ⟨_, magnitude, _⟩ := Option.map_eq_some_iff.mp exact
    cases member with
    | head => exact Or.inl rfl
    | tail _ later => exact Or.inr (Or.inr (isDigit_of_readDigits? magnitude later))
  · next digits =>
    obtain ⟨_, magnitude, _⟩ := Option.map_eq_some_iff.mp exact
    cases member with
    | head => exact Or.inr (Or.inl rfl)
    | tail _ later => exact Or.inr (Or.inr (isDigit_of_readDigits? magnitude later))
  · obtain ⟨_, magnitude, _⟩ := Option.map_eq_some_iff.mp exact
    exact Or.inr (Or.inr (isDigit_of_readDigits? magnitude member))

end Text.Numeral

namespace Square

variable {text : List Char} {square : Square} {character : Char}

theorem exists_of_ofText? (found : ofText? text = some square) :
    ∃ front back, text = front ++ ',' :: back ∧
      Text.Numeral.readCoord? (Text.trim front) = some square.x ∧
      Text.Numeral.readCoord? (Text.trim back) = some square.y := by
  obtain ⟨pair, read, rfl⟩ := Option.map_eq_some_iff.mp found
  unfold Notation.readPair? at read
  split at read
  · cases read
  · next front back cut =>
    split at read
    · next x y column row =>
      cases read
      exact ⟨front, back, (Text.splitOnce_eq_some cut).1, column, row⟩
    · cases read

theorem comma_mem_of_ofText? (found : ofText? text = some square) : ',' ∈ text := by
  obtain ⟨front, back, rfl, _⟩ := exists_of_ofText? found
  simp

/-- A written square has no other characters than its comma, signs, digits and blanks. -/
theorem of_mem_of_ofText? (found : ofText? text = some square) (member : character ∈ text)
    (solid : Text.isBlank character = false) :
    character = ',' ∨ character = '+' ∨ Text.Numeral.IsNumeric character := by
  obtain ⟨front, back, rfl, column, row⟩ := exists_of_ofText? found
  rcases List.mem_append.mp member with before | after
  · exact Or.inr (Text.Numeral.isNumeric_of_readCoord? column (Text.mem_trim before solid))
  · cases after with
    | head => exact Or.inl rfl
    | tail _ later =>
      exact Or.inr (Text.Numeral.isNumeric_of_readCoord? row (Text.mem_trim later solid))

end Square

namespace Notation

/-!
## Forms of fields
-/

inductive FieldForm where
  | name
  | square
  | full
  | rectangle
deriving DecidableEq

def SectionKind.brackets : SectionKind → Char × Char
  | ground => ('[', ']')
  | pieces => ('(', ')')

def FieldForm.Fits (kind : SectionKind) : FieldForm → List Char → Prop
  | name, field => ∃ inner, field = kind.brackets.1 :: (inner ++ [kind.brackets.2])
  | square, field => ∃ given, Square.ofText? field = some given
  | full, field => kind = .ground ∧ field = Word.full
  | rectangle, field => kind = .ground ∧ field = Word.rectangle

theorem FieldForm.forall_iff {property : FieldForm → Prop} :
    (∀ form, property form) ↔ property .name ∧ property .square ∧ property .full ∧
      property .rectangle := by
  constructor
  · intro all
    exact ⟨all .name, all .square, all .full, all .rectangle⟩
  · intro each form
    obtain ⟨named, written, everywhere, between⟩ := each
    cases form with
    | name => exact named
    | square => exact written
    | full => exact everywhere
    | rectangle => exact between

/-- The shapes of the lines of a section: the forms of their fields, which may come in any order. -/
def SectionKind.shapes : SectionKind → List (List FieldForm)
  | ground => [[.name, .full], [.name, .rectangle, .square, .square], [.name, .square]]
  | pieces => [[.name, .square]]

def withoutRepeats : List FieldForm → List FieldForm
  | [] => []
  | form :: rest =>
    if form ≠ .square ∧ form ∈ rest then withoutRepeats rest else form :: withoutRepeats rest

def HasForms (kind : SectionKind) (line : List Char) (forms : List FieldForm) : Prop :=
  List.Forall₂ (FieldForm.Fits kind) forms (Text.fields line)

def IsShaped (kind : SectionKind) (line : List Char) : Prop :=
  ∃ forms, HasForms kind line forms ∧ ∃ shape ∈ kind.shapes, forms.Perm shape

/-- The fields of a line make up one of the shapes if every name and word is counted once. -/
def IsShapedUpToRepeats (kind : SectionKind) (line : List Char) : Prop :=
  ∃ forms, HasForms kind line forms ∧ ∃ shape ∈ kind.shapes, (withoutRepeats forms).Perm shape

def Repeats (kind : SectionKind) (line : List Char) : Prop :=
  ∃ forms, HasForms kind line forms ∧ ∃ form, form ≠ .square ∧ 2 ≤ forms.count form

variable {forms shape : List FieldForm}

theorem count_withoutRepeats (form : FieldForm) (forms : List FieldForm) :
    (withoutRepeats forms).count form =
      if form = .square then forms.count .square else min 1 (forms.count form) := by
  induction forms with
  | nil => simp [withoutRepeats]
  | cons first rest ih =>
    unfold withoutRepeats
    split
    · next again =>
      obtain ⟨solid, later⟩ := again
      have positive : 0 < rest.count first := List.count_pos_iff.mpr later
      rw [ih, List.count_cons, List.count_cons]
      by_cases here : first = form
      · subst here
        simp only [if_neg solid, beq_self_eq_true, if_true]
        omega
      · simp [here, solid]
    · next once =>
      rw [List.count_cons, List.count_cons, List.count_cons, ih]
      by_cases here : first = form
      · subst here
        by_cases pair : first = .square
        · simp [pair]
        · have last : rest.count first = 0 :=
            List.count_eq_zero.mpr (fun later => once ⟨pair, later⟩)
          simp [pair, last]
      · by_cases pair : form = .square
        · simp [pair]
        · simp [here, pair]

theorem withoutRepeats_perm_iff :
    (withoutRepeats forms).Perm shape ↔
      min 1 (forms.count .name) = shape.count .name ∧
        forms.count .square = shape.count .square ∧
        min 1 (forms.count .full) = shape.count .full ∧
        min 1 (forms.count .rectangle) = shape.count .rectangle := by
  rw [List.perm_iff_count, FieldForm.forall_iff]
  simp [count_withoutRepeats]

/-!
## Forms and meanings
-/

section Brackets

variable {kind : SectionKind} {field : List Char}

theorem fits_name_iff :
    FieldForm.name.Fits kind field ↔
      ∃ inner, Text.wrapped kind.brackets.1 kind.brackets.2 field = some inner := by
  constructor
  · intro given
    obtain ⟨inner, rfl⟩ := given
    exact ⟨Text.trim inner, by simp [Text.wrapped]⟩
  · intro given
    obtain ⟨inner, wraps⟩ := given
    obtain ⟨middle, rfl, _⟩ := Text.wrapped_eq_some wraps
    exact ⟨middle, rfl⟩

theorem wrapped_of_ofText? {square : Square} (found : Square.ofText? field = some square) :
    Text.wrapped kind.brackets.1 kind.brackets.2 field = none := by
  cases wraps : Text.wrapped kind.brackets.1 kind.brackets.2 field with
  | none => rfl
  | some inner =>
    obtain ⟨middle, rfl, _⟩ := Text.wrapped_eq_some wraps
    have solid : Text.isBlank kind.brackets.1 = false := by cases kind <;> decide
    have other : ¬ (kind.brackets.1 = ',' ∨ kind.brackets.1 = '+' ∨
        Text.Numeral.IsNumeric kind.brackets.1) := by
      cases kind <;> decide
    exact absurd (Square.of_mem_of_ofText? found List.mem_cons_self solid) other

end Brackets

def PlacingField.form : PlacingField → FieldForm
  | piece _ => .name
  | square _ => .square

def GroundField.form : GroundField → FieldForm
  | terrain _ => .name
  | full => .full
  | rectangle => .rectangle
  | corner _ => .square

theorem PlacingField.fits_iff (field : List Char) (form : FieldForm) :
    form.Fits .pieces field ↔ ∃ meaning, read field = .ok meaning ∧ meaning.form = form := by
  constructor
  · intro fits
    cases form with
    | name =>
      obtain ⟨inner, wraps⟩ := fits_name_iff.mp fits
      have named : Text.wrapped '(' ')' field = some inner := wraps
      exact ⟨.piece (String.ofList inner), by simp [read, named], rfl⟩
    | square =>
      obtain ⟨given, found⟩ := fits
      have plain : Text.wrapped '(' ')' field = none := @wrapped_of_ofText? .pieces _ _ found
      exact ⟨.square given, by simp [read, plain, Square.comma_mem_of_ofText? found, found], rfl⟩
    | full => exact absurd fits.1 (by decide)
    | rectangle => exact absurd fits.1 (by decide)
  · intro given
    obtain ⟨meaning, found, rfl⟩ := given
    unfold read at found
    split at found
    · next inner wraps =>
      cases found
      exact fits_name_iff.mpr ⟨inner, wraps⟩
    · split at found
      · split at found
        · next given written =>
          cases found
          exact ⟨given, written⟩
        · cases found
      · cases found

theorem GroundField.fits_iff (field : List Char) (form : FieldForm) :
    form.Fits .ground field ↔ ∃ meaning, read field = .ok meaning ∧ meaning.form = form := by
  constructor
  · intro fits
    cases form with
    | name =>
      obtain ⟨inner, wraps⟩ := fits_name_iff.mp fits
      have named : Text.wrapped '[' ']' field = some inner := wraps
      exact ⟨.terrain (String.ofList inner), by simp [read, named], rfl⟩
    | square =>
      obtain ⟨given, found⟩ := fits
      have plain : Text.wrapped '[' ']' field = none := @wrapped_of_ofText? .ground _ _ found
      have comma := Square.comma_mem_of_ofText? found
      have other : ∀ {word : List Char}, ',' ∉ word → field ≠ word :=
        fun absent same => absent (same ▸ comma)
      exact ⟨.corner given, by simp [read, plain, comma, found,
        other (show ',' ∉ Word.full by decide), other (show ',' ∉ Word.rectangle by decide)], rfl⟩
    | full =>
      obtain ⟨_, rfl⟩ := fits
      exact ⟨.full, by decide, rfl⟩
    | rectangle =>
      obtain ⟨_, rfl⟩ := fits
      exact ⟨.rectangle, by decide, rfl⟩
  · intro given
    obtain ⟨meaning, found, rfl⟩ := given
    unfold read at found
    split at found
    · next inner wraps =>
      cases found
      exact fits_name_iff.mpr ⟨inner, wraps⟩
    · split at found
      · next same =>
        cases found
        exact ⟨rfl, same⟩
      · split at found
        · next same =>
          cases found
          exact ⟨rfl, same⟩
        · split at found
          · split at found
            · next given written =>
              cases found
              exact ⟨given, written⟩
            · cases found
          · cases found

/-- Where the forms are those of the meanings, the fields of a line have forms exactly if all of
them have meanings. -/
theorem forall₂_iff_readAll {Meaning : Type} {read : List Char → Except Fault Meaning}
    {formOf : Meaning → FieldForm} {fits : FieldForm → List Char → Prop}
    (agree : ∀ field form, fits form field ↔ ∃ meaning, read field = .ok meaning ∧
      formOf meaning = form) {fields : List (List Char)} :
    List.Forall₂ fits forms fields ↔
      ∃ meanings, readAll read fields = .ok meanings ∧ meanings.map formOf = forms := by
  induction fields generalizing forms with
  | nil =>
    rw [List.forall₂_nil_right_iff]
    simp [readAll, eq_comm]
  | cons field rest ih =>
    rw [List.forall₂_cons_right_iff]
    constructor
    · intro given
      obtain ⟨form, others, here, later, rfl⟩ := given
      obtain ⟨meaning, found, rfl⟩ := (agree field form).mp here
      obtain ⟨meanings, foundToo, rfl⟩ := ih.mp later
      exact ⟨meaning :: meanings, by simp [readAll, found, foundToo], rfl⟩
    · intro given
      obtain ⟨meanings, found, rfl⟩ := given
      unfold readAll at found
      split at found
      · cases found
      · next meaning first =>
        split at found
        · cases found
        · next later others =>
          cases found
          exact ⟨formOf meaning, later.map formOf, (agree field _).mpr ⟨meaning, first, rfl⟩,
            ih.mpr ⟨later, others, rfl⟩, rfl⟩

theorem hasForms_pieces_iff {line : List Char} :
    HasForms .pieces line forms ↔
      ∃ fields, readAll PlacingField.read (Text.fields line) = .ok fields ∧
        fields.map PlacingField.form = forms :=
  forall₂_iff_readAll PlacingField.fits_iff

theorem hasForms_ground_iff {line : List Char} :
    HasForms .ground line forms ↔
      ∃ fields, readAll GroundField.read (Text.fields line) = .ok fields ∧
        fields.map GroundField.form = forms :=
  forall₂_iff_readAll GroundField.fits_iff

/-!
## Shapes and what a line asks for
-/

/-- What is picked from the fields of one form is as often there as the form. -/
theorem length_filterMap_of_form {Meaning Picked : Type} (formOf : Meaning → FieldForm)
    (form : FieldForm) {pick : Meaning → Option Picked}
    (picks : ∀ meaning, (pick meaning).isSome = true ↔ formOf meaning = form)
    (meanings : List Meaning) :
    (meanings.filterMap pick).length = (meanings.map formOf).count form := by
  rw [List.length_filterMap_eq_countP, List.count, List.countP_map]
  refine List.countP_congr fun meaning _ => ?_
  rw [picks, Function.comp_apply, beq_iff_eq]

section Pieces

variable {fields : List PlacingField}

theorem length_namesOf : (namesOf fields).length = (fields.map PlacingField.form).count .name := by
  refine length_filterMap_of_form PlacingField.form .name (fun field => ?_) fields
  cases field <;> simp [PlacingField.form]

theorem length_squaresOf :
    (squaresOf fields).length = (fields.map PlacingField.form).count .square := by
  refine length_filterMap_of_form PlacingField.form .square (fun field => ?_) fields
  cases field <;> simp [PlacingField.form]

theorem no_word_of_pieces : (fields.map PlacingField.form).count .full = 0 ∧
    (fields.map PlacingField.form).count .rectangle = 0 := by
  have absent : ∀ form, form = .full ∨ form = .rectangle →
      (fields.map PlacingField.form).count form = 0 := by
    intro form word
    rw [List.count_eq_zero, List.mem_map]
    intro given
    obtain ⟨field, _, rfl⟩ := given
    cases field <;> rcases word with same | same <;> cases same
  exact ⟨absent .full (Or.inl rfl), absent .rectangle (Or.inr rfl)⟩

/-- A line of a pieces section asks for a piece and a square just if its shape is one of the
section, repetitions aside. -/
theorem pieces_shape_iff :
    (∃ name square, (namesOf fields).getLast? = some name ∧ squaresOf fields = [square]) ↔
      ∃ shape ∈ SectionKind.pieces.shapes,
        (withoutRepeats (fields.map PlacingField.form)).Perm shape := by
  have named : (∃ name, (namesOf fields).getLast? = some name) ↔
      0 < (fields.map PlacingField.form).count .name := by
    rw [← length_namesOf, List.length_pos_iff, ← Option.isSome_iff_exists, List.getLast?_isSome]
  have single : (∃ square, squaresOf fields = [square]) ↔
      (fields.map PlacingField.form).count .square = 1 := by
    rw [← length_squaresOf, List.length_eq_one_iff]
  obtain ⟨noFull, noRectangle⟩ := @no_word_of_pieces fields
  have counted : (∃ shape ∈ SectionKind.pieces.shapes,
        (withoutRepeats (fields.map PlacingField.form)).Perm shape) ↔
      min 1 ((fields.map PlacingField.form).count .name) = 1 ∧
        (fields.map PlacingField.form).count .square = 1 := by
    simp [SectionKind.shapes, withoutRepeats_perm_iff, noFull, noRectangle]
  rw [counted, exists_and_exists_comm.symm, named, single]
  omega

end Pieces

section Ground

variable {fields : List GroundField}

theorem length_cornersOf :
    (cornersOf fields).length = (fields.map GroundField.form).count .square := by
  refine length_filterMap_of_form GroundField.form .square (fun field => ?_) fields
  cases field <;> simp [GroundField.form]

theorem mem_iff_count_pos {word : GroundField}
    (alone : ∀ field : GroundField, field.form = word.form → field = word) :
    word ∈ fields ↔ 0 < (fields.map GroundField.form).count word.form := by
  rw [List.count_pos_iff, List.mem_map]
  constructor
  · intro member
    exact ⟨word, member, rfl⟩
  · intro given
    obtain ⟨field, member, same⟩ := given
    exact alone field same ▸ member

theorem exists_lastTerrain?_iff :
    (∃ name, lastTerrain? fields = some name) ↔
      0 < (fields.map GroundField.form).count .name := by
  rw [← Option.isSome_iff_exists, lastTerrain?, List.getLast?_isSome, ← List.length_pos_iff,
    length_filterMap_of_form GroundField.form .name (fun field => ?_)]
  cases field <;> simp [GroundField.form]

theorem exists_region?_iff :
    (∃ region, region? fields = some region) ↔
      (GroundField.full ∈ fields ∧ GroundField.rectangle ∉ fields ∧
          (cornersOf fields).length = 0) ∨
        (GroundField.full ∉ fields ∧ GroundField.rectangle ∈ fields ∧
          (cornersOf fields).length = 2) ∨
        (GroundField.full ∉ fields ∧ GroundField.rectangle ∉ fields ∧
          (cornersOf fields).length = 1) := by
  simp only [region?_eq_some_iff, List.length_eq_zero_iff, List.length_eq_two,
    List.length_eq_one_iff]
  constructor
  · intro given
    obtain ⟨region, described⟩ := given
    cases described with
    | full everywhere noRectangle bare => exact Or.inl ⟨everywhere, noRectangle, bare⟩
    | rectangle notFull between corners =>
      exact Or.inr (Or.inl ⟨notFull, between, _, _, corners⟩)
    | cell notFull noRectangle single =>
      exact Or.inr (Or.inr ⟨notFull, noRectangle, _, single⟩)
  · intro given
    rcases given with ⟨everywhere, noRectangle, bare⟩ |
      ⟨notFull, between, first, second, corners⟩ | ⟨notFull, noRectangle, only, single⟩
    · exact ⟨_, .full everywhere noRectangle bare⟩
    · exact ⟨_, .rectangle notFull between corners⟩
    · exact ⟨_, .cell notFull noRectangle single⟩

/-- A line of a ground section gives a terrain and a region just if its shape is one of the section,
repetitions aside. -/
theorem ground_shape_iff :
    ((∃ name, lastTerrain? fields = some name) ∧ ∃ region, region? fields = some region) ↔
      ∃ shape ∈ SectionKind.ground.shapes,
        (withoutRepeats (fields.map GroundField.form)).Perm shape := by
  have everywhere : GroundField.full ∈ fields ↔
      0 < (fields.map GroundField.form).count .full := by
    refine mem_iff_count_pos fun field same => ?_
    cases field with
    | full => rfl
    | _ => cases same
  have between : GroundField.rectangle ∈ fields ↔
      0 < (fields.map GroundField.form).count .rectangle := by
    refine mem_iff_count_pos fun field same => ?_
    cases field with
    | rectangle => rfl
    | _ => cases same
  have counted : (∃ shape ∈ SectionKind.ground.shapes,
        (withoutRepeats (fields.map GroundField.form)).Perm shape) ↔
      ∃ shape ∈ [(1, 0, 1, 0), (1, 2, 0, 1), (1, 1, 0, 0)],
        min 1 ((fields.map GroundField.form).count .name) = shape.1 ∧
          (fields.map GroundField.form).count .square = shape.2.1 ∧
          min 1 ((fields.map GroundField.form).count .full) = shape.2.2.1 ∧
          min 1 ((fields.map GroundField.form).count .rectangle) = shape.2.2.2 := by
    simp [SectionKind.shapes, withoutRepeats_perm_iff]
  rw [counted, exists_lastTerrain?_iff, exists_region?_iff, everywhere, between, length_cornersOf]
  simp only [List.mem_cons, List.not_mem_nil, or_false, exists_eq_or_imp, exists_eq_left]
  omega

end Ground

/-!
## Accepted and rejected lines
-/

/-- A fault that blames the fields of a line and not what they ask for. -/
def blamesShape : Fault → Bool
  | .strayText _ | .unknownParameter _ | .invalidCoordinate _ => true
  | _ => false

variable {kind : SectionKind} {line : List Char}

theorem isShapedUpToRepeats_pieces_iff :
    IsShapedUpToRepeats .pieces line ↔ ∃ name square, AsksFor line name square := by
  constructor
  · intro given
    obtain ⟨forms, has, shaped⟩ := given
    obtain ⟨fields, read, rfl⟩ := hasForms_pieces_iff.mp has
    obtain ⟨name, square, named, single⟩ := pieces_shape_iff.mpr shaped
    exact ⟨name, square, fields, read, named, single⟩
  · intro given
    obtain ⟨name, square, fields, read, named, single⟩ := given
    exact ⟨_, hasForms_pieces_iff.mpr ⟨fields, read, rfl⟩,
      pieces_shape_iff.mp ⟨name, square, named, single⟩⟩

theorem isShapedUpToRepeats_ground_iff :
    IsShapedUpToRepeats .ground line ↔
      ∃ fields, readAll GroundField.read (Text.fields line) = .ok fields ∧
        (∃ name, lastTerrain? fields = some name) ∧ ∃ region, region? fields = some region := by
  constructor
  · intro given
    obtain ⟨forms, has, shaped⟩ := given
    obtain ⟨fields, read, rfl⟩ := hasForms_ground_iff.mp has
    exact ⟨fields, read, ground_shape_iff.mpr shaped⟩
  · intro given
    obtain ⟨fields, read, asks⟩ := given
    exact ⟨_, hasForms_ground_iff.mpr ⟨fields, read, rfl⟩, ground_shape_iff.mp asks⟩

theorem blamesShape_of_checkTarget {board : Board} {royal : Bool} {side : Side} {square : Square}
    {fault : Fault} (refused : checkTarget board royal side square = .error fault) :
    blamesShape fault = false := by
  unfold checkTarget at refused
  split at refused
  · split at refused
    · cases refused
      rfl
    · split at refused
      · cases refused
        rfl
      · cases refused
  · cases refused
    rfl

theorem blamesShape_of_placements {board : Board} {royal mirrored : Bool} {side : Side}
    {square : Square} {fault : Fault}
    (refused : placements board royal side square mirrored = .error fault) :
    blamesShape fault = false := by
  unfold placements at refused
  split at refused
  · next own =>
    cases refused
    exact blamesShape_of_checkTarget own
  · split at refused
    · dsimp only at refused
      split at refused
      · cases refused
        rfl
      · split at refused
        · next other =>
          cases refused
          exact blamesShape_of_checkTarget other
        · cases refused
    · cases refused

theorem placeLine_shape {pieces : PieceCatalogue} {side : Option Side} {mirrored : Bool}
    {board : Board} :
    match placeLine pieces side mirrored board line with
    | .ok _ => IsShapedUpToRepeats .pieces line
    | .error fault => blamesShape fault = true → ¬ IsShapedUpToRepeats .pieces line := by
  rw [isShapedUpToRepeats_pieces_iff, placeLine_eq]
  cases read : readPlacing pieces side mirrored board line with
  | ok plan =>
    obtain ⟨name, owner, square, asks, _, _, checked⟩ := exists_of_readPlacing read
    obtain ⟨next, placed, _⟩ := placeEach_of_placements checked
    simp only [placed]
    exact ⟨name, square, asks⟩
  | error fault =>
    intro blames asks
    obtain ⟨name, square, fields, meant, named, single⟩ := asks
    simp only [readPlacing, meant, named, single] at read
    split at read
    · cases read
      cases blames
    · split at read
      · cases read
        cases blames
      · split at read
        · next refused =>
          cases read
          rw [blamesShape_of_placements refused] at blames
          cases blames
        · cases read

theorem paintLine_shape {terrains : TerrainCatalogue} {board : Board} :
    match paintLine terrains board line with
    | .ok _ => IsShapedUpToRepeats .ground line
    | .error fault => blamesShape fault = true → ¬ IsShapedUpToRepeats .ground line := by
  rw [isShapedUpToRepeats_ground_iff]
  cases painted : paintLine terrains board line with
  | ok next =>
    obtain ⟨region, name, ⟨fields, read, named, _, _, described⟩, _⟩ :=
      paintLine_eq_ok_iff.mp painted
    exact ⟨fields, read, ⟨name, named⟩, region, region?_eq_some_iff.mpr described⟩
  | error fault =>
    intro blames asks
    obtain ⟨fields, read, ⟨name, named⟩, region, described⟩ := asks
    simp only [paintLine, read, named, described] at painted
    split at painted
    · split at painted
      · cases painted
        cases blames
      · cases painted
    · cases painted
      cases blames

/-- A line inside a section is rejected, or it is accepted and changes the draft. -/
theorem contentStep_shape (terrains : TerrainCatalogue) (pieces : PieceCatalogue)
    {state : BoardState} {current : OpenSection} (opened : state.openSection = some current) :
    (IsShapedUpToRepeats current.kind line ∧ ∃ draft,
        contentStep terrains pieces state line =
          ({ state with openSection := some { current with draft := draft } }, [])) ∨
      ∃ fault, contentStep terrains pieces state line = (state, [fault]) ∧
        (blamesShape fault = true → ¬ IsShapedUpToRepeats current.kind line) := by
  obtain ⟨kind, draft⟩ := current
  simp only [contentStep, opened]
  cases kind with
  | ground =>
    have shape := @paintLine_shape line terrains draft
    cases painted : paintLine terrains draft line with
    | ok next =>
      rw [painted] at shape
      exact Or.inl ⟨shape, next, rfl⟩
    | error fault =>
      rw [painted] at shape
      exact Or.inr ⟨fault, rfl, shape⟩
  | pieces =>
    have shape := @placeLine_shape line pieces state.side state.mirrored draft
    cases placed : placeLine pieces state.side state.mirrored draft line with
    | ok next =>
      rw [placed] at shape
      exact Or.inl ⟨shape, next, rfl⟩
    | error fault =>
      rw [placed] at shape
      exact Or.inr ⟨fault, rfl, shape⟩

/-!
## Lines without repetitions
-/

theorem HasForms.unique {others : List FieldForm} (has : HasForms kind line forms)
    (hasToo : HasForms kind line others) : forms = others := by
  cases kind with
  | ground =>
    obtain ⟨fields, read, rfl⟩ := hasForms_ground_iff.mp has
    obtain ⟨_, readToo, rfl⟩ := hasForms_ground_iff.mp hasToo
    cases read.symm.trans readToo
    rfl
  | pieces =>
    obtain ⟨fields, read, rfl⟩ := hasForms_pieces_iff.mp has
    obtain ⟨_, readToo, rfl⟩ := hasForms_pieces_iff.mp hasToo
    cases read.symm.trans readToo
    rfl

theorem count_shape_le (member : shape ∈ kind.shapes) :
    shape.count .name ≤ 1 ∧ shape.count .full ≤ 1 ∧ shape.count .rectangle ≤ 1 := by
  have all : ∀ shape ∈ kind.shapes,
      shape.count .name ≤ 1 ∧ shape.count .full ≤ 1 ∧ shape.count .rectangle ≤ 1 := by
    cases kind <;> decide
  exact all shape member

theorem isShaped_iff :
    IsShaped kind line ↔ IsShapedUpToRepeats kind line ∧ ¬ Repeats kind line := by
  constructor
  · intro given
    obtain ⟨forms, has, shape, member, same⟩ := given
    obtain ⟨named, everywhere, between⟩ := count_shape_le member
    have counted := fun form => same.count_eq form
    refine ⟨⟨forms, has, shape, member, ?_⟩, ?_⟩
    · rw [withoutRepeats_perm_iff, counted, counted, counted, counted]
      omega
    · intro given
      obtain ⟨others, hasToo, form, word, twice⟩ := given
      rw [← has.unique hasToo, counted] at twice
      cases form with
      | square => exact word rfl
      | name => omega
      | full => omega
      | rectangle => omega
  · intro given
    obtain ⟨⟨forms, has, shape, member, same⟩, once⟩ := given
    refine ⟨forms, has, shape, member, ?_⟩
    have single : ∀ form, form ≠ .square → forms.count form ≤ 1 := by
      intro form word
      by_contra twice
      exact once ⟨forms, has, form, word, by omega⟩
    refine List.Perm.trans (List.perm_iff_count.mpr fun form => ?_) same
    rw [count_withoutRepeats]
    split
    · next pair => rw [pair]
    · next word =>
      have least := single form word
      omega

/-- A line with two names is accepted and places the piece of the second one, although it has none
of the shapes of its section; a line that gives two terrains to the whole board is accepted as well. -/
theorem contentLine_repeatedName :
    let terrains : TerrainCatalogue := OrderedMap.insert ∅ "land" ⟨"land", none⟩
    let draft := Board.empty ⟨3, 4⟩
    let state : SectionKind → BoardState :=
      fun kind => ⟨draft, some ⟨kind, draft⟩, some .red, false⟩
    let placing := "(king):(rook):1,1".toList
    let painting := "[land]:[DEFAULT]:FULL".toList
    let text := "-PIECES-\n*RED*\n(king):(rook):1,1\n/"
    ((boardStep terrains Miniature.pieces (state .pieces) placing).2 = [] ∧
      ¬ IsShaped .pieces placing) ∧
    ((boardStep terrains Miniature.pieces (state .ground) painting).2 = [] ∧
      ¬ IsShaped .ground painting) ∧
    (readBoard ⟨3, 4⟩ terrains Miniature.pieces text).2 = [] ∧
    (readBoard ⟨3, 4⟩ terrains Miniature.pieces text).1.pieceAt ⟨1, 1⟩ =
      some ⟨Miniature.rook, .red⟩ := by
  intro terrains draft state placing painting text
  have three : ∀ {kind line}, (Text.fields line).length = 3 → ¬ IsShaped kind line := by
    intro kind line three shaped
    obtain ⟨forms, has, shape, member, same⟩ := shaped
    have lengths : ∀ shape ∈ kind.shapes, shape.length ≠ 3 := by cases kind <;> decide
    exact lengths shape member (same.length_eq.symm.trans (has.length_eq.trans three))
  have accepted : (boardStep terrains Miniature.pieces (state .pieces) placing).2 = [] ∧
      (boardStep terrains Miniature.pieces (state .ground) painting).2 = [] := by
    decide +kernel
  have read : (readBoard ⟨3, 4⟩ terrains Miniature.pieces text).2 = [] ∧
      (readBoard ⟨3, 4⟩ terrains Miniature.pieces text).1.pieceAt ⟨1, 1⟩ =
        some ⟨Miniature.rook, .red⟩ := by
    decide +kernel
  exact ⟨⟨accepted.1, three rfl⟩, ⟨accepted.2, three rfl⟩, read⟩

/-- A line inside a section is accepted only in one of the shapes of the section, names and words
that come again being counted once, and then it changes nothing but the draft. Any other line is
rejected with one fault and leaves everything as it is; and a line that is in shape is not rejected
for its shape. A line is in shape by itself just if no name or word comes again. -/
theorem contentLine_shape (terrains : TerrainCatalogue) (pieces : PieceCatalogue)
    {state : BoardState} {current : OpenSection} (opened : state.openSection = some current)
    {line : List Char} (content : IsContent line) :
    let result := boardStep terrains pieces state line
    ((IsShapedUpToRepeats current.kind line ∧ ∃ draft,
        result = ({ state with openSection := some { current with draft := draft } }, [])) ∨
      ∃ fault, result = (state, [fault]) ∧
        (blamesShape fault = true → ¬ IsShapedUpToRepeats current.kind line)) ∧
    (IsShaped current.kind line ↔
      IsShapedUpToRepeats current.kind line ∧ ¬ Repeats current.kind line) ∧
    (¬ Repeats current.kind line → ¬ IsShaped current.kind line →
      ∃ fault, result = (state, [fault])) := by
  intro result
  have steps : result = contentStep terrains pieces state line := by
    cases lineView terrains pieces line with
    | header kind => exact absurd (isHeader_header kind) content.1
    | marker _ _ marks => exact absurd marks content.2.1
    | blockEnd => exact absurd rfl content.2.2
    | content _ steps => exact steps state
  have outcome := @contentStep_shape line terrains pieces state current opened
  rw [← steps] at outcome
  refine ⟨outcome, isShaped_iff, ?_⟩
  intro once misshapen
  rcases outcome with ⟨shaped, _⟩ | ⟨fault, rejected, _⟩
  · exact absurd (isShaped_iff.mpr ⟨shaped, once⟩) misshapen
  · exact ⟨fault, rejected⟩

/-- A square and a name in this order are in shape and accepted, and a second square is not. -/
theorem contentLine_shape_miniature :
    let draft := Board.empty ⟨3, 4⟩
    let current : OpenSection := ⟨.pieces, draft⟩
    let state : BoardState := ⟨draft, some current, some .red, false⟩
    let accepted := "2,1:(rook)".toList
    let rejected := "(rook):1,1:2,1".toList
    state.openSection = some current ∧ IsContent accepted ∧ IsContent rejected ∧
      IsShaped .pieces accepted ∧ ¬ Repeats .pieces rejected ∧ ¬ IsShaped .pieces rejected ∧
      (∃ draft, boardStep ∅ Miniature.pieces state accepted =
        ({ state with openSection := some { current with draft := draft } }, [])) ∧
      ∃ fault, boardStep ∅ Miniature.pieces state rejected = (state, [fault]) := by
  intro draft current state accepted rejected
  have contents : IsContent accepted ∧ IsContent rejected := by decide
  have forms : HasForms .pieces rejected [.name, .square, .square] :=
    hasForms_pieces_iff.mpr ⟨[.piece "rook", .square ⟨1, 1⟩, .square ⟨2, 1⟩], rfl, rfl⟩
  have shaped : IsShaped .pieces accepted :=
    ⟨[.square, .name], hasForms_pieces_iff.mpr ⟨[.square ⟨2, 1⟩, .piece "rook"], rfl, rfl⟩,
      [.name, .square], by decide, by decide⟩
  have once : ¬ Repeats .pieces rejected := by
    intro given
    obtain ⟨others, has, form, word, twice⟩ := given
    rw [has.unique forms] at twice
    cases form with
    | square => exact word rfl
    | _ => exact absurd twice (by decide)
  have misshapen : ¬ IsShaped .pieces rejected := by
    intro given
    obtain ⟨others, has, shape, member, same⟩ := given
    rw [has.unique forms] at same
    obtain rfl := List.mem_singleton.mp member
    exact absurd same (by decide)
  have silent : (boardStep ∅ Miniature.pieces state accepted).2 = [] := by decide +kernel
  refine ⟨rfl, contents.1, contents.2, shaped, once, misshapen, ?_, ?_⟩
  · rcases (contentLine_shape ∅ Miniature.pieces (rfl : state.openSection = some current)
      contents.1).1 with ⟨_, placed⟩ | ⟨fault, refused, _⟩
    · exact placed
    · rw [refused] at silent
      cases silent
  · exact (contentLine_shape ∅ Miniature.pieces (rfl : state.openSection = some current)
      contents.2).2.2 once misshapen

end Notation

end TerrainChess

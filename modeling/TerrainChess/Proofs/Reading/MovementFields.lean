import TerrainChess.Proofs.Reading.Movements
import TerrainChess.Proofs.Reading.Written

/-!
# The fields of a movement line

What a coordinate field of a movement line stands for depends on the fields before
it alone: on the last word for a tier anywhere on the line, and on the other words
behind the previous coordinates. `Notation.readMovements_fieldwise` gives the
movements of a line field by field, and the fault of the first field that means
nothing.
-/

set_option autoImplicit false

namespace TerrainChess

theorem Text.splitOn_ne_singleton {separator : Char} {text part : List Char}
    (member : separator ∈ text) : splitOn separator text ≠ [part] := by
  obtain ⟨front, back, rfl, absent⟩ := List.eq_append_cons_of_mem member
  rw [splitOn_append absent]
  intro single
  exact splitOn_ne_nil separator back (List.cons.inj single).2

theorem exists_first_not {Value : Type} {good : Value → Prop} {values : List Value}
    (some : ¬ ∀ value ∈ values, good value) :
    ∃ front value back, values = front ++ value :: back ∧ (∀ other ∈ front, good other) ∧
      ¬ good value := by
  induction values with
  | nil => exact absurd (by simp) some
  | cons first rest ih =>
    by_cases here : good first
    · have later : ¬ ∀ value ∈ rest, good value :=
        fun all => some (List.forall_mem_cons.mpr ⟨here, all⟩)
      obtain ⟨front, value, back, rfl, earlier, bad⟩ := ih later
      exact ⟨first :: front, value, back, rfl, List.forall_mem_cons.mpr ⟨here, earlier⟩, bad⟩
    · exact ⟨[], first, rest, rfl, by simp, here⟩

namespace Notation

variable {dims : Dims} {field : List Char}

/-!
## What a field means
-/

def IsMovementWord (field : List Char) : Prop :=
  field = Word.standard ∨ field = Word.alternate ∨ field = Word.infinite ∨ field = Word.polar ∨
    ∃ side : Side, field = side.keyword.toList

def IsStep (dims : Dims) (text : List Char) : Prop :=
  ∃ step, Offset.ofText? text = some step ∧ dims.WithinReach step

def HasMeaning (dims : Dims) (field : List Char) : Prop :=
  IsMovementWord field ∨ ',' ∈ field ∧ ∀ text ∈ Text.splitOn '>' field, IsStep dims text

/-- The fault of a field without meaning. Coordinates are refused for their first bad step. -/
inductive FieldFault (dims : Dims) (field : List Char) : Fault → Prop where
  | unknown (plain : ',' ∉ field) : FieldFault dims field (.unknownParameter (String.ofList field))
  | step {front back : List (List Char)} {text : List Char} (comma : ',' ∈ field)
      (cut : Text.splitOn '>' field = front ++ text :: back)
      (earlier : ∀ other ∈ front, IsStep dims other) (bad : ¬ IsStep dims text) :
      FieldFault dims field (.invalidCoordinate (String.ofList (Text.trim text)))

def tierNamed? (field : List Char) : Option Specification :=
  if field = Word.standard then some .standard
  else if field = Word.alternate then some .alternate
  else none

def sideNamed? (field : List Char) : Option Side := Side.ofKeyword? (String.ofList field)

def sinceCoordinates (before : List (List Char)) : List (List Char) :=
  (before.reverse.takeWhile (fun field => decide (',' ∉ field))).reverse

/-- The tier of coordinates behind some fields: the last one that is named, wherever it stands. -/
def tierAfter (before : List (List Char)) : Specification :=
  (before.filterMap tierNamed?).getLast?.getD .both

/-- The side of coordinates behind some fields: the last one named since the coordinates before. -/
def sideAfter (before : List (List Char)) : Option Side :=
  ((sinceCoordinates before).filterMap sideNamed?).getLast?

def writtenSteps (field : List Char) : List Offset :=
  (Text.splitOn '>' field).filterMap Offset.ofText?

/-- The paths of coordinates: a single step is repeated once, twice and so on if the repetition word
stands before it. -/
def writtenPaths (dims : Dims) (before : List (List Char)) (field : List Char) : List Path :=
  match writtenSteps field with
  | [step] =>
    if Word.infinite ∈ sinceCoordinates before then
      (List.range (max 1 (max dims.width.val dims.height.val)).toNat).map
        (fun count => ⟨List.replicate (count + 1) step⟩)
    else [⟨[step]⟩]
  | steps => [⟨steps⟩]

def writtenMovements (before : List (List Char)) (path : Path) : List Movement :=
  if Word.polar ∈ sinceCoordinates before then
    let first := (sideAfter before).getD .red
    [⟨tierAfter before, .only first, path⟩,
      ⟨tierAfter before, .only first.opponent, ⟨path.steps.map (fun step => -step)⟩⟩]
  else [⟨tierAfter before, (sideAfter before).elim .both .only, path⟩]

/-- The movements of a field behind others. Words have none. -/
def fieldMovements (dims : Dims) (before : List (List Char)) (field : List Char) : List Movement :=
  if ',' ∈ field then (writtenPaths dims before field).flatMap (writtenMovements before) else []

inductive FieldView : List Char → MovementField → Prop where
  | standard : FieldView Word.standard (.specification .standard)
  | alternate : FieldView Word.alternate (.specification .alternate)
  | infinite : FieldView Word.infinite .infinite
  | polar : FieldView Word.polar .polar
  | side (owner : Side) : FieldView owner.keyword.toList (.side owner)
  | coordinates {field : List Char} (noWord : ¬ IsMovementWord field) (comma : ',' ∈ field) :
      FieldView field (.coordinates field)
  | unknown {field : List Char} (noWord : ¬ IsMovementWord field) (plain : ',' ∉ field) :
      FieldView field (.unknown field)

theorem comma_notMem_of_isMovementWord (word : IsMovementWord field) : ',' ∉ field := by
  rcases word with rfl | rfl | rfl | rfl | ⟨owner, rfl⟩
  · decide
  · decide
  · decide
  · decide
  · cases owner <;> decide

theorem fieldView (field : List Char) : FieldView field (MovementField.ofText field) := by
  by_cases word : IsMovementWord field
  · rcases word with rfl | rfl | rfl | rfl | ⟨owner, rfl⟩
    · exact .standard
    · exact .alternate
    · exact .infinite
    · exact .polar
    · cases owner
      · exact .side .red
      · exact .side .black
  · have noSide : Side.ofKeyword? (String.ofList field) = none := by
      cases found : Side.ofKeyword? (String.ofList field) with
      | none => rfl
      | some owner =>
        have written := congrArg String.toList (Side.ofKeyword?_eq_some_iff.mp found)
        rw [String.toList_ofList] at written
        exact absurd (Or.inr (Or.inr (Or.inr (Or.inr ⟨owner, written⟩)))) word
    have others := id word
    simp only [IsMovementWord, not_or] at others
    obtain ⟨noStandard, noAlternate, noInfinite, noPolar, _⟩ := others
    have read : MovementField.ofText field =
        if ',' ∈ field then .coordinates field else .unknown field := by
      simp only [MovementField.ofText, noStandard, noAlternate, noInfinite, noPolar, noSide, if_false]
    rw [read]
    split
    · next comma => exact .coordinates word comma
    · next plain => exact .unknown word plain

/-!
## What the words before a field say about it
-/

theorem sinceCoordinates_append (before : List (List Char)) (field : List Char) :
    sinceCoordinates (before ++ [field]) =
      if ',' ∈ field then [] else sinceCoordinates before ++ [field] := by
  unfold sinceCoordinates
  by_cases comma : ',' ∈ field
  · simp [comma]
  · simp [comma]

def modifiersAfter (before : List (List Char)) : Modifiers where
  specification := tierAfter before
  infinite := decide (Word.infinite ∈ sinceCoordinates before)
  polar := decide (Word.polar ∈ sinceCoordinates before)
  side := sideAfter before

theorem tierAfter_append (before : List (List Char)) (field : List Char) :
    tierAfter (before ++ [field]) = (tierNamed? field).getD (tierAfter before) := by
  unfold tierAfter
  rw [List.filterMap_append]
  cases named : tierNamed? field with
  | none => simp [named]
  | some tier => simp [named]

theorem modifiersAfter_append_of_plain (before : List (List Char)) (plain : ',' ∉ field) :
    modifiersAfter (before ++ [field]) =
      { specification := (tierNamed? field).getD (tierAfter before)
        infinite := decide (Word.infinite ∈ sinceCoordinates before ∨ Word.infinite = field)
        polar := decide (Word.polar ∈ sinceCoordinates before ∨ Word.polar = field)
        side := (sideNamed? field).or (sideAfter before) } := by
  have side : sideAfter (before ++ [field]) = (sideNamed? field).or (sideAfter before) := by
    unfold sideAfter
    rw [sinceCoordinates_append, if_neg plain, List.filterMap_append]
    cases named : sideNamed? field with
    | none => simp [named]
    | some owner => simp [named]
  simp only [modifiersAfter, tierAfter_append, side, sinceCoordinates_append, plain, if_false,
    List.mem_append, List.mem_singleton]

/-- With the coordinates all words are forgotten but that for the tier. -/
theorem modifiersAfter_append_of_comma (before : List (List Char)) (comma : ',' ∈ field)
    (noWord : ¬ IsMovementWord field) :
    modifiersAfter (before ++ [field]) = (modifiersAfter before).afterCoordinates := by
  have noTier : tierNamed? field = none := by
    simp only [IsMovementWord, not_or] at noWord
    rw [tierNamed?, if_neg noWord.1, if_neg noWord.2.1]
  simp [modifiersAfter, Modifiers.afterCoordinates, Modifiers.initial, tierAfter_append, noTier,
    sideAfter, sinceCoordinates_append, comma]

/-- The words that the reader keeps at hand are those that count for the next coordinates. -/
theorem modifiersAfter_append (before : List (List Char)) {meaning : MovementField}
    (view : FieldView field meaning) :
    modifiersAfter (before ++ [field]) =
      match meaning with
      | .specification tier => { modifiersAfter before with specification := tier }
      | .infinite => { modifiersAfter before with infinite := true }
      | .polar => { modifiersAfter before with polar := true }
      | .side owner => { modifiersAfter before with side := some owner }
      | .coordinates _ => (modifiersAfter before).afterCoordinates
      | .unknown _ => modifiersAfter (before ++ [field]) := by
  have notInfinite : ∀ {word : List Char}, Word.infinite ≠ word →
      decide (Word.infinite ∈ sinceCoordinates before ∨ Word.infinite = word) =
        (modifiersAfter before).infinite :=
    fun other => by simp [modifiersAfter, other]
  have notPolar : ∀ {word : List Char}, Word.polar ≠ word →
      decide (Word.polar ∈ sinceCoordinates before ∨ Word.polar = word) =
        (modifiersAfter before).polar :=
    fun other => by simp [modifiersAfter, other]
  cases view with
  | standard =>
    rw [modifiersAfter_append_of_plain before (by decide), notInfinite (by decide),
      notPolar (by decide)]
    rfl
  | alternate =>
    rw [modifiersAfter_append_of_plain before (by decide), notInfinite (by decide),
      notPolar (by decide)]
    rfl
  | infinite =>
    rw [modifiersAfter_append_of_plain before (by decide), notPolar (by decide)]
    simp only [or_true]
    rfl
  | polar =>
    rw [modifiersAfter_append_of_plain before (by decide), notInfinite (by decide)]
    simp only [or_true]
    rfl
  | side owner =>
    have plain : ',' ∉ owner.keyword.toList := by cases owner <;> decide
    have noInfinite : Word.infinite ≠ owner.keyword.toList := by cases owner <;> decide
    have noPolar : Word.polar ≠ owner.keyword.toList := by cases owner <;> decide
    rw [modifiersAfter_append_of_plain before plain, notInfinite noInfinite, notPolar noPolar]
    cases owner <;> rfl
  | coordinates noWord comma => exact modifiersAfter_append_of_comma before comma noWord
  | unknown => rfl

theorem movements_modifiersAfter (before : List (List Char)) (path : Path) :
    (modifiersAfter before).movements path = writtenMovements before path := by
  unfold Modifiers.movements writtenMovements
  by_cases polar : Word.polar ∈ sinceCoordinates before
  · simp [modifiersAfter, polar, Path.negated]
  · cases owned : sideAfter before with
    | none => simp [modifiersAfter, polar, owned]
    | some owner => simp [modifiersAfter, polar, owned]

/-!
## The coordinates of a field
-/

theorem readStep_eq_ok_iff {text : List Char} {step : Offset} :
    readStep dims text = .ok step ↔ Offset.ofText? text = some step ∧ dims.WithinReach step := by
  unfold readStep
  cases Offset.ofText? text with
  | none => simp
  | some written =>
    by_cases reaches : dims.WithinReach written
    · simp only [reaches, if_true, Except.ok.injEq, Option.some.injEq]
      exact ⟨fun same => ⟨same, same ▸ reaches⟩, fun given => given.1⟩
    · simp only [reaches, if_false, reduceCtorEq, Option.some.injEq, false_iff]
      rintro ⟨rfl, other⟩
      exact reaches other

theorem readStep_of_not_isStep {text : List Char} (bad : ¬ IsStep dims text) :
    readStep dims text = .error (.invalidCoordinate (String.ofList (Text.trim text))) := by
  unfold readStep
  cases written : Offset.ofText? text with
  | none => rfl
  | some step =>
    have tooFar : ¬ dims.WithinReach step := fun reaches => bad ⟨step, written, reaches⟩
    simp only [tooFar, if_false]

theorem readSteps_of_isStep {texts : List (List Char)} (steps : ∀ text ∈ texts, IsStep dims text) :
    readSteps dims texts = .ok (texts.filterMap Offset.ofText?) := by
  induction texts with
  | nil => rfl
  | cons text rest ih =>
    obtain ⟨step, written, reaches⟩ := steps text List.mem_cons_self
    have here : readStep dims text = .ok step := readStep_eq_ok_iff.mpr ⟨written, reaches⟩
    have later := ih (fun other member => steps other (List.mem_cons_of_mem _ member))
    simp only [readSteps, here, later, List.filterMap_cons, written]

theorem readSteps_of_not_isStep {front back : List (List Char)} {text : List Char}
    (earlier : ∀ other ∈ front, IsStep dims other) (bad : ¬ IsStep dims text) :
    readSteps dims (front ++ text :: back) =
      .error (.invalidCoordinate (String.ofList (Text.trim text))) := by
  induction front with
  | nil => simp only [List.nil_append, readSteps, readStep_of_not_isStep bad]
  | cons first rest ih =>
    obtain ⟨step, written, reaches⟩ := earlier first List.mem_cons_self
    have here : readStep dims first = .ok step := readStep_eq_ok_iff.mpr ⟨written, reaches⟩
    have later := ih (fun other member => earlier other (List.mem_cons_of_mem _ member))
    simp only [List.cons_append, readSteps, here, later]

/-- Cut at every separator, a single step needs no treatment of its own. -/
theorem expand_eq (dims : Dims) (infinite : Bool) (field : List Char) :
    expand dims infinite field =
      match readSteps dims (Text.splitOn '>' field) with
      | .error fault => .error fault
      | .ok [step] => .ok (if infinite then repetitions dims step else [⟨[step]⟩])
      | .ok steps => .ok [⟨steps⟩] := by
  unfold expand
  by_cases chain : '>' ∈ field
  · rw [if_pos chain]
    cases read : readSteps dims (Text.splitOn '>' field) with
    | error fault => rfl
    | ok steps =>
      match steps with
      | [] => rfl
      | _ :: _ :: _ => rfl
      | [step] =>
        have lengths : 1 = (Text.splitOn '>' field).length := (steps_of_readSteps read).1
        obtain ⟨part, single⟩ := List.length_eq_one_iff.mp lengths.symm
        exact absurd single (Text.splitOn_ne_singleton chain)
  · rw [if_neg chain, Text.splitOn_of_not_mem chain]
    cases read : readStep dims field with
    | error fault => simp only [readSteps, read]
    | ok step => simp only [readSteps, read, Path.single]

theorem repetitions_eq (dims : Dims) (step : Offset) :
    repetitions dims step = (List.range (max 1 (max dims.width.val dims.height.val)).toNat).map
      (fun count => ⟨List.replicate (count + 1) step⟩) := by
  have extent : dims.maxExtent.val = max dims.width.val dims.height.val := by
    unfold Dims.maxExtent
    split <;> omega
  rw [repetitions, extent]
  rfl

theorem expand_of_isStep (before : List (List Char))
    (steps : ∀ text ∈ Text.splitOn '>' field, IsStep dims text) :
    expand dims (modifiersAfter before).infinite field = .ok (writtenPaths dims before field) := by
  rw [expand_eq, readSteps_of_isStep steps, writtenPaths, writtenSteps]
  match (Text.splitOn '>' field).filterMap Offset.ofText? with
  | [] => rfl
  | _ :: _ :: _ => rfl
  | [step] => simp only [modifiersAfter, decide_eq_true_eq, repetitions_eq]

/-!
## Reading on
-/

/-- A field that means something is read as it is written. -/
theorem readFields_cons (before : List (List Char)) (meaning : HasMeaning dims field)
    (rest : List (List Char)) :
    readFields dims (modifiersAfter before) (field :: rest) =
      match readFields dims (modifiersAfter (before ++ [field])) rest with
      | .error fault => .error fault
      | .ok later => .ok (fieldMovements dims before field ++ later) := by
  have word : ∀ {next : Modifiers} {word : List Char}, ',' ∉ word →
      modifiersAfter (before ++ [word]) = next →
      readFields dims next rest =
        match readFields dims (modifiersAfter (before ++ [word])) rest with
        | .error fault => .error fault
        | .ok later => .ok (fieldMovements dims before word ++ later) := by
    intro next word plain same
    rw [same, fieldMovements, if_neg plain]
    cases readFields dims next rest <;> rfl
  have view := fieldView field
  have modifiers := modifiersAfter_append before view
  rw [readFields]
  generalize MovementField.ofText field = read at view modifiers
  cases view with
  | standard => exact word (by decide) modifiers
  | alternate => exact word (by decide) modifiers
  | infinite => exact word (by decide) modifiers
  | polar => exact word (by decide) modifiers
  | side owner => exact word (by cases owner <;> decide) modifiers
  | unknown noWord plain =>
    rcases meaning with isWord | ⟨comma, _⟩
    · exact absurd isWord noWord
    · exact absurd comma plain
  | coordinates noWord comma =>
    rcases meaning with isWord | ⟨_, steps⟩
    · exact absurd isWord noWord
    · have same : (modifiersAfter before).movements = writtenMovements before :=
        funext (movements_modifiersAfter before)
      dsimp only at modifiers ⊢
      cases later : readFields dims (modifiersAfter (before ++ [field])) rest with
      | error fault => simp only [expand_of_isStep before steps, ← modifiers, later]
      | ok movements =>
        simp only [expand_of_isStep before steps, ← modifiers, later, fieldMovements, if_pos comma,
          same]

/-- A field without meaning ends the reading with its fault. -/
theorem readFields_of_not_hasMeaning (modifiers : Modifiers) (bad : ¬ HasMeaning dims field)
    (rest : List (List Char)) :
    ∃ fault, FieldFault dims field fault ∧
      readFields dims modifiers (field :: rest) = .error fault := by
  rw [readFields]
  have view := fieldView field
  generalize MovementField.ofText field = read at view
  cases view with
  | standard => exact absurd (Or.inl (Or.inl rfl)) bad
  | alternate => exact absurd (Or.inl (Or.inr (Or.inl rfl))) bad
  | infinite => exact absurd (Or.inl (Or.inr (Or.inr (Or.inl rfl)))) bad
  | polar => exact absurd (Or.inl (Or.inr (Or.inr (Or.inr (Or.inl rfl))))) bad
  | side owner => exact absurd (Or.inl (Or.inr (Or.inr (Or.inr (Or.inr ⟨owner, rfl⟩))))) bad
  | unknown noWord plain => exact ⟨_, .unknown plain, rfl⟩
  | coordinates noWord comma =>
    have someBad : ¬ ∀ text ∈ Text.splitOn '>' field, IsStep dims text :=
      fun steps => bad (Or.inr ⟨comma, steps⟩)
    obtain ⟨front, text, back, cut, earlier, noStep⟩ := exists_first_not someBad
    refine ⟨_, .step comma cut earlier noStep, ?_⟩
    dsimp only
    rw [expand_eq, cut, readSteps_of_not_isStep earlier noStep]

theorem readFields_of_hasMeaning (before : List (List Char)) {rest : List (List Char)}
    (meaning : ∀ field ∈ rest, HasMeaning dims field) :
    readFields dims (modifiersAfter before) rest =
      .ok (rest.mapIdx (fun index field =>
        fieldMovements dims (before ++ rest.take index) field)).flatten := by
  induction rest generalizing before with
  | nil => rfl
  | cons field rest ih =>
    have later := ih (before ++ [field])
      (fun other member => meaning other (List.mem_cons_of_mem _ member))
    rw [readFields_cons before (meaning field List.mem_cons_self) rest, later]
    simp [List.mapIdx_cons]

theorem readFields_of_first_bad (before : List (List Char)) {good : List (List Char)}
    (meaning : ∀ earlier ∈ good, HasMeaning dims earlier) (bad : ¬ HasMeaning dims field)
    (rest : List (List Char)) :
    ∃ fault, FieldFault dims field fault ∧
      readFields dims (modifiersAfter before) (good ++ field :: rest) = .error fault := by
  induction good generalizing before with
  | nil => exact readFields_of_not_hasMeaning _ bad rest
  | cons first good ih =>
    obtain ⟨fault, known, read⟩ := ih (before ++ [first])
      (fun other member => meaning other (List.mem_cons_of_mem _ member))
    refine ⟨fault, known, ?_⟩
    rw [List.cons_append, readFields_cons before (meaning first List.mem_cons_self), read]

/-- A movement line is refused for its first field that means nothing. If there is none, its
movements are those of its fields, each of which depends on the fields before it as described, and
the steps of the negated paths are the exact opposites. -/
theorem readMovements_fieldwise (dims : Dims) (line : List Char) :
    let fields := Text.fields line
    (∀ before field rest, fields = before ++ field :: rest →
      (∀ earlier ∈ before, HasMeaning dims earlier) → ¬ HasMeaning dims field →
        ∃ fault, FieldFault dims field fault ∧ readMovements dims line = .error fault) ∧
    ((∀ field ∈ fields, HasMeaning dims field) →
      readMovements dims line =
        .ok (fields.mapIdx (fun index field =>
          fieldMovements dims (fields.take index) field)).flatten) ∧
    ∀ field ∈ fields, HasMeaning dims field → ',' ∈ field → ∀ step ∈ writtenSteps field,
      dims.WithinReach step ∧ (-step).dx.val = -step.dx.val ∧ (-step).dy.val = -step.dy.val := by
  intro fields
  refine ⟨?_, ?_, ?_⟩
  · intro before field rest cut meaning bad
    have read := readFields_of_first_bad [] meaning bad rest
    rw [← cut] at read
    exact read
  · intro meaning
    exact readFields_of_hasMeaning [] meaning
  · intro field _ meaning comma step member
    obtain ⟨text, given, written⟩ := List.mem_filterMap.mp member
    rcases meaning with word | ⟨_, steps⟩
    · exact absurd comma (comma_notMem_of_isMovementWord word)
    · obtain ⟨same, readToo, reaches⟩ := steps text given
      rw [written, Option.some.injEq] at readToo
      subst readToo
      exact ⟨reaches, reaches.val_neg⟩

/-- A line that mixes words of both lifetimes, and a line that is refused for a step off the board
rather than for the word behind it. -/
theorem readMovements_fieldwise_miniature :
    let dims : Dims := ⟨3, 4⟩
    readMovements dims "alt:RED:0,1:polar:1,0>0,1".toList =
        .ok [⟨.alternate, .only .red, ⟨[⟨0, 1⟩]⟩⟩, ⟨.alternate, .only .red, ⟨[⟨1, 0⟩, ⟨0, 1⟩]⟩⟩,
          ⟨.alternate, .only .black, ⟨[⟨-1, 0⟩, ⟨0, -1⟩]⟩⟩] ∧
      (∃ fault, FieldFault dims "9,0".toList fault ∧
        readMovements dims "std:0,1:9,0:up".toList = .error fault) ∧
      dims.WithinReach ⟨0, 1⟩ := by
  intro dims
  have forward : IsStep dims "0,1".toList := ⟨⟨0, 1⟩, rfl, by decide⟩
  have aside : IsStep dims "1,0".toList := ⟨⟨1, 0⟩, rfl, by decide⟩
  have single : HasMeaning dims "0,1".toList :=
    Or.inr ⟨by decide, List.forall_mem_singleton.mpr forward⟩
  have chain : HasMeaning dims "1,0>0,1".toList :=
    Or.inr ⟨by decide, List.forall_mem_cons.mpr ⟨aside, List.forall_mem_singleton.mpr forward⟩⟩
  have word : ∀ {field}, IsMovementWord field → HasMeaning dims field := Or.inl
  have bad : ¬ HasMeaning dims "9,0".toList := by
    rintro (isWord | ⟨_, steps⟩)
    · exact comma_notMem_of_isMovementWord isWord (by decide)
    · obtain ⟨offset, read, reaches⟩ := steps "9,0".toList (by decide)
      have known : Offset.ofText? "9,0".toList = some ⟨9, 0⟩ := rfl
      rw [known, Option.some.injEq] at read
      subst read
      revert reaches
      decide
  refine ⟨?_, ?_, ?_⟩
  · refine ((readMovements_fieldwise dims "alt:RED:0,1:polar:1,0>0,1".toList).2.1 ?_).trans rfl
    have cut : Text.fields "alt:RED:0,1:polar:1,0>0,1".toList =
        ["alt".toList, "RED".toList, "0,1".toList, "polar".toList, "1,0>0,1".toList] := by decide
    rw [cut]
    simp only [List.forall_mem_cons]
    exact ⟨word (Or.inr (Or.inl rfl)), word (Or.inr (Or.inr (Or.inr (Or.inr ⟨.red, rfl⟩)))), single,
      word (Or.inr (Or.inr (Or.inr (Or.inl rfl)))), chain, by simp⟩
  · refine (readMovements_fieldwise dims "std:0,1:9,0:up".toList).1
      ["std".toList, "0,1".toList] "9,0".toList ["up".toList] (by decide) ?_ bad
    exact List.forall_mem_cons.mpr ⟨word (Or.inl rfl), List.forall_mem_singleton.mpr single⟩
  · exact ((readMovements_fieldwise dims "0,1".toList).2.2 "0,1".toList (by decide) single
      (by decide) ⟨0, 1⟩ (by decide)).1

end Notation

end TerrainChess

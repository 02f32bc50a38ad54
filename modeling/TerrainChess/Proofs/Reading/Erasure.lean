import TerrainChess.Notation.BoardText
import TerrainChess.Proofs.Reading.Edited
import TerrainChess.Proofs.Reading.LinePass

/-!
# Lines without effect on a board

A line of a board text that is rejected leaves no trace, and neither does a line
inside a section that is not ended: the text without these lines gives the same
board, and nothing in it is rejected any more. Headers and markers are not among
these lines, so that a marker inside a section that is not ended still holds
behind it: `Notation.readBoard_effectiveText`.
-/

set_option autoImplicit false

namespace TerrainChess.Notation

/-!
## Lines and sections
-/

def IsHeader (line : List Char) : Prop := line = Word.groundSection ∨ line = Word.piecesSection

def IsMarker (line : List Char) : Prop :=
  line = Word.redMarker ∨ line = Word.blackMarker ∨ line = Word.mirrorMarker

/-- A line that is neither a header nor a marker nor ends a section. -/
def IsContent (line : List Char) : Prop :=
  ¬ IsHeader line ∧ ¬ IsMarker line ∧ line ≠ Word.blockEnd

instance (line : List Char) : Decidable (IsHeader line) := inferInstanceAs (Decidable (_ ∨ _))

instance (line : List Char) : Decidable (IsMarker line) := inferInstanceAs (Decidable (_ ∨ _))

instance (line : List Char) : Decidable (IsContent line) := inferInstanceAs (Decidable (_ ∧ _))

/-- Says whether a section is open behind some lines, if one is open before them or not. -/
def opensSection : Bool → List (List Char) → Bool
  | isOpen, [] => isOpen
  | isOpen, line :: rest =>
    opensSection (decide (IsHeader line) || (isOpen && decide (line ≠ Word.blockEnd))) rest

def endsSection : List (List Char) → Bool
  | [] => false
  | line :: rest =>
    decide (line = Word.blockEnd) || (!decide (IsHeader line) && endsSection rest)

theorem endsSection_cons {line : List Char} (plain : ¬ IsHeader line)
    (continues : line ≠ Word.blockEnd) (rest : List (List Char)) :
    endsSection (line :: rest) = endsSection rest := by
  simp [endsSection, plain, continues]

def isRejection : Fault → Bool
  | .unclosedBlock _ => false
  | _ => true

theorem exists_of_isRejection_eq_false {fault : Fault} (unclosed : isRejection fault = false) :
    ∃ name, fault = .unclosedBlock name := by
  cases fault with
  | unclosedBlock name => exact ⟨name, rfl⟩
  | _ => cases unclosed

/-- The lines, counted from one, that have no effect: those that are rejected, and the content of
the sections that are not ended. -/
def isErased (diagnostics : List Diagnostic) (lines : List (List Char)) (number : Nat) : Bool :=
  diagnostics.any (fun diagnostic =>
      decide (diagnostic.line = number) && isRejection diagnostic.fault) ||
    (decide (IsContent (lines.getD (number - 1) [])) &&
      opensSection false (lines.take (number - 1)) && !endsSection (lines.drop number))

def effectiveText (dims : Dims) (terrains : TerrainCatalogue) (pieces : PieceCatalogue)
    (text : String) : String :=
  let erased :=
    isErased (readBoard dims terrains pieces text).2 (Text.trimmedLines text.toList)
  String.ofList (Text.keepLines (fun number => !erased number) 1 text.toList)

inductive LineView (terrains : TerrainCatalogue) (pieces : PieceCatalogue) :
    List Char → Prop where
  | header (kind : SectionKind) : LineView terrains pieces kind.header
  | marker {line : List Char} (side : Option Side) (mirrored : Bool) (marks : IsMarker line)
      (plain : ¬ IsHeader line) (continues : line ≠ Word.blockEnd)
      (steps : ∀ state, boardStep terrains pieces state line =
        ({ state with side := side, mirrored := mirrored }, [])) :
      LineView terrains pieces line
  | blockEnd : LineView terrains pieces Word.blockEnd
  | content {line : List Char} (is : IsContent line)
      (steps : ∀ state, boardStep terrains pieces state line =
        contentStep terrains pieces state line) :
      LineView terrains pieces line

section Views

variable {terrains : TerrainCatalogue} {pieces : PieceCatalogue}

theorem lineView (terrains : TerrainCatalogue) (pieces : PieceCatalogue) (line : List Char) :
    LineView terrains pieces line := by
  by_cases header : IsHeader line
  · rcases header with rfl | rfl
    · exact .header .ground
    · exact .header .pieces
  · by_cases marker : IsMarker line
    · rcases marker with rfl | rfl | rfl
      · exact .marker (some .red) false (Or.inl rfl) (by decide) (by decide) (fun _ => rfl)
      · exact .marker (some .black) false (Or.inr (Or.inl rfl)) (by decide) (by decide)
          (fun _ => rfl)
      · exact .marker (some .red) true (Or.inr (Or.inr rfl)) (by decide) (by decide) (fun _ => rfl)
    · by_cases ends : line = Word.blockEnd
      · subst ends
        exact .blockEnd
      · refine .content ⟨header, marker, ends⟩ ?_
        intro state
        simp only [IsHeader, IsMarker, not_or] at header marker
        simp only [boardStep, header, marker, ends, if_false]

theorem boardStep_header (state : BoardState) (kind : SectionKind) :
    boardStep terrains pieces state kind.header = openSection state kind := by
  cases kind <;> rfl

theorem boardStep_blockEnd (state : BoardState) :
    boardStep terrains pieces state Word.blockEnd = closeSection state Word.blockEnd := rfl

/-- A line inside a section is rejected or changes the draft. -/
theorem contentStep_cases (terrains : TerrainCatalogue) (pieces : PieceCatalogue)
    (state : BoardState) {current : OpenSection} (opened : state.openSection = some current)
    (line : List Char) :
    (contentStep terrains pieces state line).1 = state ∨
      ∃ draft, contentStep terrains pieces state line =
        ({ state with openSection := some { current with draft := draft } }, []) := by
  unfold contentStep
  rw [opened]
  dsimp only
  split
  · exact Or.inl rfl
  · next draft _ => exact Or.inr ⟨draft, rfl⟩

end Views

/-!
## Reading on without the erased lines
-/

/-- Open sections of one kind, with the same draft if the section is going to be ended. -/
inductive SameSection (ended : Bool) : Option OpenSection → Option OpenSection → Prop where
  | none : SameSection ended none none
  | some {kind : SectionKind} {draft other : Board} (same : ended = true → draft = other) :
      SameSection ended (some ⟨kind, draft⟩) (some ⟨kind, other⟩)

theorem SameSection.refl (ended : Bool) (current : Option OpenSection) :
    SameSection ended current current := by
  cases current with
  | none => exact .none
  | some opened => exact .some (fun _ => rfl)

structure Follows (rest : List (List Char)) (state other : BoardState) : Prop where
  board : state.board = other.board
  side : state.side = other.side
  mirrored : state.mirrored = other.mirrored
  sections : SameSection (endsSection rest) state.openSection other.openSection

/-- A line that has an effect: it is not rejected, and it is no content of a section that the lines
behind it do not end. -/
def HasEffect (terrains : TerrainCatalogue) (pieces : PieceCatalogue) (state : BoardState)
    (line : List Char) (rest : List (List Char)) : Prop :=
  (∀ fault ∈ ((boardStep terrains pieces).onLine state line).2, isRejection fault = false) ∧
    ¬ (IsContent line ∧ state.openSection.isSome = true ∧ endsSection rest = false)

section Steps

variable {terrains : TerrainCatalogue} {pieces : PieceCatalogue} {state other : BoardState}
  {line : List Char} {rest : List (List Char)}

theorem isRejection_of_mem_unclosed {fault : Fault} (reported : fault ∈ state.unclosed) :
    isRejection fault = false := by
  obtain ⟨current, _, rfl⟩ := Option.map_eq_some_iff.mp (Option.mem_toList.mp reported)
  rfl

theorem HasEffect.of_not_isContent (structural : ¬ IsContent line)
    (accepted : ∀ fault ∈ ((boardStep terrains pieces).onLine state line).2,
      isRejection fault = false) : HasEffect terrains pieces state line rest :=
  ⟨accepted, fun dropped => structural dropped.1⟩

/-- A line that changes nothing and is no header and no end of a section may be passed over. -/
theorem Follows.skip (follows : Follows (line :: rest) state other) (plain : ¬ IsHeader line)
    (continues : line ≠ Word.blockEnd) : Follows rest state other := by
  obtain ⟨board, side, mirrored, sections⟩ := follows
  rw [endsSection_cons plain continues] at sections
  exact ⟨board, side, mirrored, sections⟩

/-- A line that has an effect has the same effect on a state that follows, and is not rejected. -/
theorem Follows.kept (follows : Follows (line :: rest) state other)
    (effect : HasEffect terrains pieces state line rest) :
    Follows rest ((boardStep terrains pieces).onLine state line).1
        ((boardStep terrains pieces).onLine other line).1 ∧
      ∀ fault ∈ ((boardStep terrains pieces).onLine other line).2, isRejection fault = false := by
  obtain ⟨accepted, ended⟩ := effect
  cases solid : line.isEmpty with
  | true =>
    obtain rfl := List.isEmpty_iff.mp solid
    exact ⟨follows.skip (by decide) (by decide), fun fault none => by cases none⟩
  | false =>
    rw [LineStep.onLine_of_solid _ solid] at accepted ⊢
    rw [LineStep.onLine_of_solid _ solid]
    cases lineView terrains pieces line with
    | header kind =>
      rw [boardStep_header, boardStep_header]
      refine ⟨⟨follows.board, follows.side, follows.mirrored, .some (fun _ => follows.board)⟩, ?_⟩
      exact fun fault reported => isRejection_of_mem_unclosed reported
    | marker side mirrored _ plain continues steps =>
      rw [steps, steps]
      obtain ⟨board, _, _, sections⟩ := follows.skip plain continues
      exact ⟨⟨board, rfl, rfl, sections⟩, fun fault none => by cases none⟩
    | blockEnd =>
      obtain ⟨board, current, side, mirrored⟩ := state
      obtain ⟨otherBoard, otherCurrent, otherSide, otherMirrored⟩ := other
      obtain ⟨rfl, rfl, rfl, sections⟩ := follows
      cases sections with
      | none => cases accepted _ (List.mem_singleton_self _)
      | some same =>
        obtain rfl := same rfl
        exact ⟨⟨rfl, rfl, rfl, .none⟩, fun fault none => by cases none⟩
    | content is steps =>
      obtain ⟨board, current, side, mirrored⟩ := state
      obtain ⟨otherBoard, otherCurrent, otherSide, otherMirrored⟩ := other
      obtain ⟨rfl, rfl, rfl, sections⟩ := follows.skip is.1 is.2.2
      rw [steps] at accepted ⊢
      rw [steps]
      cases sections with
      | none => cases accepted _ (List.mem_singleton_self _)
      | @some kind draft otherDraft same =>
        have goesOn : endsSection rest = true := by
          cases ends : endsSection rest with
          | true => rfl
          | false => exact absurd ⟨is, rfl, ends⟩ ended
        obtain rfl := same goesOn
        exact ⟨⟨rfl, rfl, rfl, .refl _ _⟩, accepted⟩

theorem Follows.erased (follows : Follows (line :: rest) state other)
    (idle : ¬ HasEffect terrains pieces state line rest) :
    Follows rest ((boardStep terrains pieces).onLine state line).1 other := by
  cases solid : line.isEmpty with
  | true =>
    obtain rfl := List.isEmpty_iff.mp solid
    exact follows.skip (by decide) (by decide)
  | false =>
    have step := LineStep.onLine_of_solid (boardStep terrains pieces) solid state
    rw [step]
    cases lineView terrains pieces line with
    | header kind =>
      have structural : ¬ IsContent kind.header := by cases kind <;> decide
      refine absurd (HasEffect.of_not_isContent structural ?_) idle
      rw [step, boardStep_header]
      exact fun fault reported => isRejection_of_mem_unclosed reported
    | marker side mirrored marks plain continues steps =>
      refine absurd (HasEffect.of_not_isContent (fun is => is.2.1 marks) ?_) idle
      rw [step, steps]
      exact fun fault none => by cases none
    | blockEnd =>
      obtain ⟨board, current, side, mirrored⟩ := state
      obtain ⟨otherBoard, otherCurrent, otherSide, otherMirrored⟩ := other
      obtain ⟨rfl, rfl, rfl, sections⟩ := follows
      cases sections with
      | none => exact ⟨rfl, rfl, rfl, .none⟩
      | some same =>
        refine absurd (HasEffect.of_not_isContent (by decide) ?_) idle
        rw [step]
        exact fun fault none => by cases none
    | content is steps =>
      obtain ⟨board, current, side, mirrored⟩ := state
      obtain ⟨otherBoard, otherCurrent, otherSide, otherMirrored⟩ := other
      obtain ⟨rfl, rfl, rfl, sections⟩ := follows.skip is.1 is.2.2
      rw [steps]
      cases sections with
      | none => exact ⟨rfl, rfl, rfl, .none⟩
      | @some kind draft otherDraft same =>
        rcases contentStep_cases terrains pieces ⟨board, some ⟨kind, draft⟩, side, mirrored⟩ rfl
          line with unchanged | ⟨next, drafted⟩
        · rw [unchanged]
          exact ⟨rfl, rfl, rfl, .some same⟩
        · rw [drafted]
          refine ⟨rfl, rfl, rfl, .some ?_⟩
          intro goesOn
          refine absurd ⟨?_, ?_⟩ idle
          · rw [step, steps, drafted]
            exact fun fault none => by cases none
          · rintro ⟨_, _, ends⟩
            rw [goesOn] at ends
            cases ends

/-- Reading on without the lines that have no effect gives the same board, and no line is
rejected. -/
theorem Follows.run {start : BoardState} {lines : List (List Char)} {keep : Nat → Bool}
    (keeps : ∀ before line behind, lines = before ++ line :: behind →
      (keep (before.length + 1) = true ↔ HasEffect terrains pieces
        ((boardStep terrains pieces).after start before) line behind))
    (before : List (List Char)) (split : lines = before ++ rest)
    (follows : Follows rest ((boardStep terrains pieces).after start before) other)
    (number : Nat) :
    let result := (boardStep terrains pieces).run number other
      (Text.keepFrom keep (before.length + 1) rest)
    ((boardStep terrains pieces).after start lines).board = result.1.board ∧
      ∀ entry ∈ result.2, isRejection entry.2 = false := by
  -- What has been read is fixed by `split`, so the induction is on what is left; the state of the
  -- reading with gaps is tied to the other one by `Follows`, whatever it is.
  induction rest generalizing before other number with
  | nil =>
    rw [split, List.append_nil]
    exact ⟨follows.board, fun entry none => by cases none⟩
  | cons line behind ih =>
    have splitOn : lines = (before ++ [line]) ++ behind := by rw [split, List.append_cons]
    have reached : (boardStep terrains pieces).after start (before ++ [line]) =
        ((boardStep terrains pieces).onLine
          ((boardStep terrains pieces).after start before) line).1 := LineStep.after_append _ _ _ _
    have place : (before ++ [line]).length + 1 = before.length + 1 + 1 := by simp
    cases kept : keep (before.length + 1) with
    | true =>
      obtain ⟨later, accepted⟩ := follows.kept ((keeps before line behind split).mp kept)
      obtain ⟨board, faults⟩ := ih (before ++ [line]) splitOn (reached ▸ later) (number + 1)
      rw [place] at board faults
      rw [Text.keepFrom, if_pos kept, List.singleton_append]
      refine ⟨board, ?_⟩
      intro entry reported
      rcases List.mem_append.mp reported with here | there
      · obtain ⟨fault, given, rfl⟩ := List.mem_map.mp here
        exact accepted fault given
      · exact faults entry there
    | false =>
      have idle : ¬ HasEffect terrains pieces
          ((boardStep terrains pieces).after start before) line behind := by
        rw [← keeps before line behind split, kept]
        decide
      have later := ih (before ++ [line]) splitOn (reached ▸ follows.erased idle) number
      rw [place] at later
      rw [Text.keepFrom, if_neg (by rw [kept]; decide), List.nil_append]
      exact later

end Steps

/-!
## The erased lines of a text
-/

section Texts

variable {dims : Dims} {terrains : TerrainCatalogue} {pieces : PieceCatalogue} {text : String}
  {before behind : List (List Char)} {line : List Char}

theorem isSome_openSection_onLine (state : BoardState) (line : List Char) :
    ((boardStep terrains pieces).onLine state line).1.openSection.isSome =
      (decide (IsHeader line) || (state.openSection.isSome && decide (line ≠ Word.blockEnd))) := by
  cases solid : line.isEmpty with
  | true =>
    obtain rfl := List.isEmpty_iff.mp solid
    simp [LineStep.onLine, show ¬ IsHeader [] by decide, show [] ≠ Word.blockEnd by decide]
  | false =>
    rw [LineStep.onLine_of_solid _ solid]
    cases lineView terrains pieces line with
    | header kind =>
      have named : IsHeader kind.header := by cases kind <;> decide
      rw [boardStep_header, decide_eq_true named]
      rfl
    | marker side mirrored _ plain continues steps => simp [steps, plain, continues]
    | blockEnd =>
      have plain : ¬ IsHeader Word.blockEnd := by decide
      rw [boardStep_blockEnd]
      cases opened : state.openSection with
      | none => simp [closeSection, opened, plain]
      | some current => simp [closeSection, opened, plain]
    | content is steps =>
      obtain ⟨plain, _, continues⟩ := is
      rw [steps]
      cases opened : state.openSection with
      | none => simp [contentStep, opened, plain]
      | some current =>
        rcases contentStep_cases terrains pieces state opened line with unchanged | ⟨_, drafted⟩
        · simp [unchanged, opened, continues]
        · simp [drafted, continues]

/-- Whether a section is open can be told from the lines alone. -/
theorem opensSection_eq (terrains : TerrainCatalogue) (pieces : PieceCatalogue)
    (state : BoardState) (lines : List (List Char)) :
    opensSection state.openSection.isSome lines =
      ((boardStep terrains pieces).after state lines).openSection.isSome := by
  induction lines generalizing state with
  | nil => rfl
  | cons line rest ih =>
    rw [opensSection, LineStep.after_cons, ← ih, isSome_openSection_onLine]

theorem any_rejection_iff (dims : Dims) (terrains : TerrainCatalogue) (pieces : PieceCatalogue)
    (split : Text.trimmedLines text.toList = before ++ line :: behind) :
    (readBoard dims terrains pieces text).2.any (fun diagnostic =>
        decide (diagnostic.line = before.length + 1) && isRejection diagnostic.fault) = true ↔
      ∃ fault ∈ ((boardStep terrains pieces).onLine
        ((boardStep terrains pieces).after (BoardState.initial dims) before) line).2,
        isRejection fault = true := by
  simp only [readBoard, diagnose, List.any_eq_true, List.mem_map, Bool.and_eq_true,
    decide_eq_true_eq, split]
  constructor
  · rintro ⟨_, ⟨⟨number, fault⟩, given, rfl⟩, place, rejected⟩
    rcases List.mem_append.mp given with inLine | atEnd
    · obtain ⟨earlier, other, later, splitToo, rfl, reported⟩ :=
        (LineStep.mem_run_iff _).mp inLine
      have lengths : before.length = earlier.length := by
        simp only at place
        omega
      obtain ⟨rfl, same⟩ := List.append_inj splitToo lengths
      cases same
      exact ⟨fault, reported, rejected⟩
    · obtain ⟨other, unclosed, same⟩ := List.mem_map.mp atEnd
      cases same
      rw [isRejection_of_mem_unclosed unclosed] at rejected
      cases rejected
  · rintro ⟨fault, reported, rejected⟩
    have inLine : (1 + before.length, fault) ∈ ((boardStep terrains pieces).run 1
        (BoardState.initial dims) (before ++ line :: behind)).2 :=
      (LineStep.mem_run_iff _).mpr ⟨before, line, behind, rfl, rfl, reported⟩
    exact ⟨_, ⟨_, List.mem_append_left _ inLine, rfl⟩, Nat.add_comm _ _, rejected⟩

theorem isErased_eq_false_iff (split : Text.trimmedLines text.toList = before ++ line :: behind) :
    isErased (readBoard dims terrains pieces text).2 (Text.trimmedLines text.toList)
        (before.length + 1) = false ↔
      HasEffect terrains pieces
        ((boardStep terrains pieces).after (BoardState.initial dims) before) line behind := by
  have rejected := any_rejection_iff dims terrains pieces split
  have opened := opensSection_eq terrains pieces (BoardState.initial dims) before
  have here : (Text.trimmedLines text.toList).getD (before.length + 1 - 1) [] = line := by
    rw [split]
    simp
  have earlier : (Text.trimmedLines text.toList).take (before.length + 1 - 1) = before := by
    rw [split]
    simp
  have later : (Text.trimmedLines text.toList).drop (before.length + 1) = behind := by
    rw [split]
    simp
  rw [isErased, here, earlier, later, Bool.or_eq_false_iff, ← Bool.not_eq_true, rejected,
    ← Bool.not_eq_true, HasEffect]
  refine and_congr ?_ (not_congr ?_)
  · simp
  · rw [Bool.and_eq_true, Bool.and_eq_true, decide_eq_true_eq, Bool.not_eq_true', and_assoc,
      ← opened]
    rfl

/-- The text without its rejected lines and without the content of the sections that are not ended
gives the same board, and no line of it is rejected. -/
theorem readBoard_effectiveText (dims : Dims) (terrains : TerrainCatalogue)
    (pieces : PieceCatalogue) (text : String) :
    let rest := effectiveText dims terrains pieces text
    (readBoard dims terrains pieces rest).1 = (readBoard dims terrains pieces text).1 ∧
      ∀ diagnostic ∈ (readBoard dims terrains pieces rest).2,
        ∃ name, diagnostic.fault = .unclosedBlock name := by
  intro rest
  let start := BoardState.initial dims
  let keep := fun number => !isErased (readBoard dims terrains pieces text).2
    (Text.trimmedLines text.toList) number
  have keeps : ∀ before line behind, Text.trimmedLines text.toList = before ++ line :: behind →
      (keep (before.length + 1) = true ↔ HasEffect terrains pieces
        ((boardStep terrains pieces).after start before) line behind) := by
    intro before line behind split
    exact (Bool.not_eq_true' _).to_iff.trans (isErased_eq_false_iff split)
  have initially : Follows (Text.trimmedLines text.toList) start start := ⟨rfl, rfl, rfl, .none⟩
  obtain ⟨board, faults⟩ := Follows.run keeps [] rfl initially 1
  have cut : Text.trimmedLines rest.toList =
      Text.keepFrom keep 1 (Text.trimmedLines text.toList) := by
    rw [show rest.toList = Text.keepLines keep 1 text.toList from String.toList_ofList,
      Text.trimmedLines_keepLines]
  refine ⟨?_, ?_⟩
  · have whole : (readBoard dims terrains pieces text).1 = ((boardStep terrains pieces).after start
        (Text.trimmedLines text.toList)).board :=
      congrArg BoardState.board (LineStep.fst_run _ 1 start _)
    rw [whole, board, readBoard, cut]
    rfl
  · intro diagnostic reported
    rw [readBoard, cut] at reported
    obtain ⟨entry, given, rfl⟩ := List.mem_map.mp reported
    refine exists_of_isRejection_eq_false ?_
    rcases List.mem_append.mp given with inLine | atEnd
    · exact faults entry inLine
    · obtain ⟨other, unclosed, rfl⟩ := List.mem_map.mp atEnd
      exact isRejection_of_mem_unclosed unclosed

/-- The marker stays where its section is interrupted. -/
example : effectiveText ⟨3, 4⟩ ∅ ∅
      "[DEFAULT]:FULL\n-GROUND-\n[DEFAULT]:FULL\n*RED*\n-GROUND-\n[DEFAULT]:0,0\n[sea]:0,1\n/" =
    "-GROUND-\n*RED*\n-GROUND-\n[DEFAULT]:0,0\n/" := by
  decide +kernel

end Texts

end TerrainChess.Notation

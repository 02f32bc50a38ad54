import TerrainChess.Proofs.Reading.Board
import TerrainChess.Proofs.Reading.Erasure
import TerrainChess.Proofs.Reading.Placing

/-!
# The terrain of a board text

Every square has the terrain of the last accepted line that covers it, among the
lines of the ground sections that are ended. Main statement:
`Notation.readBoard_terrainAt`. Lines of sections that are given up and lines that
place pieces do not count.
-/

set_option autoImplicit false

namespace TerrainChess

/-!
## Painting square by square
-/

def Coord.span (first second : Coord) : List Coord :=
  (List.range ((max first.val second.val - min first.val second.val).toNat + 1)).map
    (fun (step : Nat) => Coord.clamp (min first.val second.val + step))

theorem Coord.mem_span {first second coord : Coord} :
    coord ∈ span first second ↔
      min first.val second.val ≤ coord.val ∧ coord.val ≤ max first.val second.val := by
  have firstLeast := first.least
  have firstGreatest := first.greatest
  have secondLeast := second.least
  have secondGreatest := second.greatest
  rw [span, List.mem_map]
  constructor
  · rintro ⟨step, member, rfl⟩
    rw [List.mem_range] at member
    rw [Coord.val_clamp]
    omega
  · rintro ⟨lower, upper⟩
    refine ⟨(coord.val - min first.val second.val).toNat, ?_, ?_⟩
    · rw [List.mem_range]
      omega
    · have place : min first.val second.val +
          ((coord.val - min first.val second.val).toNat : Int) = coord.val := by omega
      rw [place, Coord.clamp_val]

/-- The squares of a region in the order in which they are painted, row by row. -/
def Region.squares (dims : Dims) : Region → List Square
  | whole => dims.squares
  | rectangle first second =>
    (Coord.span first.y second.y).flatMap (fun row =>
      (Coord.span first.x second.x).map (fun column => ⟨column, row⟩))
  | cell only => [only]

theorem Region.mem_squares {dims : Dims} {region : Region} {square : Square}
    (inside : dims.Contains square) : square ∈ region.squares dims ↔ region.Covers square := by
  cases region with
  | whole => simp [squares, Covers, Dims.mem_squares, inside]
  | rectangle first second =>
    simp only [squares, List.mem_flatMap, List.mem_map, Coord.mem_span, Covers]
    constructor
    · rintro ⟨row, rows, column, columns, rfl⟩
      exact ⟨columns.1, columns.2, rows.1, rows.2⟩
    · rintro ⟨left, right, bottom, top⟩
      exact ⟨square.y, ⟨bottom, top⟩, square.x, ⟨left, right⟩, rfl⟩
  | cell only => simp [squares, Covers]

def Grid.write {dims : Dims} {α : Type} (grid : Grid dims α) (squares : List Square) (value : α) :
    Grid dims α :=
  squares.foldl (fun current square => current.set square value) grid

theorem Grid.get?_write {dims : Dims} {α : Type} (grid : Grid dims α) (squares : List Square)
    (value : α) {square : Square} (inside : dims.Contains square) :
    (grid.write squares value).get? square =
      if square ∈ squares then some value else grid.get? square := by
  induction squares generalizing grid with
  | nil => rfl
  | cons first rest ih =>
    rw [write, List.foldl_cons]
    refine (ih (grid.set first value)).trans ?_
    by_cases later : square ∈ rest
    · simp [later]
    · by_cases here : square = first
      · subst here
        simp [later, Grid.get?_set inside]
      · have apart : (grid.set first value).get? square = grid.get? square := by
          by_cases on : dims.Contains first
          · rw [Grid.get?_set on, if_neg here]
          · rw [Grid.set_eq_self on]
        simp [later, here, apart]

/-- A region is painted by writing the name on each of its squares. -/
theorem Board.paint_eq_write (board : Board) (region : Region) (name : String) :
    board.paint region name =
      { board with terrain := board.terrain.write (region.squares board.dims) name } := by
  have terrain : Grid.tabulate board.dims (fun square =>
      if region.Covers square then name
      else (board.terrain.get? square).getD defaultTerrain) =
        board.terrain.write (region.squares board.dims) name := by
    apply Grid.ext
    intro square
    by_cases inside : board.dims.Contains square
    · rw [Grid.get?_write _ _ _ inside, if_congr (Region.mem_squares inside) rfl rfl]
      exact Board.terrainAt_paint inside
    · rw [Grid.get?_eq_none inside, Grid.get?_eq_none inside]
  rw [Board.paint, terrain]

namespace Notation

variable {dims : Dims} {terrains : TerrainCatalogue} {pieces : PieceCatalogue}
  {board next : Board} {state : BoardState} {before behind rest : List (List Char)}
  {line : List Char} {region : Region} {name : String} {square : Square}

/-!
## Lines that paint
-/

inductive Describes (fields : List GroundField) : Region → Prop where
  | full (everywhere : GroundField.full ∈ fields) (noRectangle : GroundField.rectangle ∉ fields)
      (bare : cornersOf fields = []) : Describes fields .whole
  | rectangle {first second : Square} (notFull : GroundField.full ∉ fields)
      (between : GroundField.rectangle ∈ fields) (corners : cornersOf fields = [first, second]) :
      Describes fields (.rectangle first second)
  | cell {only : Square} (notFull : GroundField.full ∉ fields)
      (noRectangle : GroundField.rectangle ∉ fields) (single : cornersOf fields = [only]) :
      Describes fields (.cell only)

theorem region?_eq_some_iff {fields : List GroundField} :
    region? fields = some region ↔ Describes fields region := by
  constructor
  · intro found
    unfold region? at found
    split at found
    · next full rectangle corners =>
      cases found
      exact .full (by simpa using full) (by simpa using rectangle) corners
    · next full rectangle corners =>
      cases found
      exact .rectangle (by simpa using full) (by simpa using rectangle) corners
    · next full rectangle corners =>
      cases found
      exact .cell (by simpa using full) (by simpa using rectangle) corners
    · cases found
  · intro described
    cases described with
    | full everywhere noRectangle bare => simp [region?, everywhere, noRectangle, bare]
    | rectangle notFull between corners => simp [region?, notFull, between, corners]
    | cell notFull noRectangle single => simp [region?, notFull, noRectangle, single]

/-- A line that is accepted in a ground section and gives a region a terrain: all of its fields have
a meaning, the last terrain among them is known, and the corners are on the board. -/
def Paints (terrains : TerrainCatalogue) (dims : Dims) (line : List Char) (region : Region)
    (name : String) : Prop :=
  ∃ fields, readAll GroundField.read (Text.fields line) = .ok fields ∧
    lastTerrain? fields = some name ∧ terrains.isKnown name = true ∧
    (∀ corner ∈ cornersOf fields, dims.Contains corner) ∧ Describes fields region

/-- The lines that paint are those that are accepted, and they paint what they say. -/
theorem paintLine_eq_ok_iff :
    paintLine terrains board line = .ok next ↔
      ∃ region name, Paints terrains board.dims line region name ∧
        next = board.paint region name := by
  constructor
  · intro painted
    unfold paintLine at painted
    split at painted
    · cases painted
    · next fields read =>
      split at painted
      · cases painted
      · next name named =>
        split at painted
        · next known =>
          split at painted
          · cases painted
          · next inside =>
            split at painted
            · next region described =>
              cases painted
              refine ⟨region, name, ⟨fields, read, named, known, ?_,
                region?_eq_some_iff.mp described⟩, rfl⟩
              intro corner member
              simpa using List.find?_eq_none.mp inside corner member
            · cases painted
        · cases painted
  · rintro ⟨region, name, ⟨fields, read, named, known, inside, described⟩, rfl⟩
    have noneOutside : (cornersOf fields).find?
        (fun square => !decide (board.dims.Contains square)) = none := by
      rw [List.find?_eq_none]
      intro corner member
      simpa using inside corner member
    simp [paintLine, read, named, known, noneOutside, region?_eq_some_iff.mpr described]

theorem Paints.isContent (paints : Paints terrains dims line region name) : IsContent line := by
  obtain ⟨fields, read, _⟩ := paints
  refine ⟨?_, ?_, ?_⟩
  · rintro (rfl | rfl) <;> cases read
  · rintro (rfl | rfl | rfl) <;> cases read
  · rintro rfl
    cases read

/-- A line says the same on every board of the same extent. -/
theorem Paints.unique {otherRegion : Region} {other : String}
    (paints : Paints terrains dims line region name)
    (paintsToo : Paints terrains dims line otherRegion other) :
    region = otherRegion ∧ name = other := by
  obtain ⟨fields, read, named, _, _, described⟩ := paints
  obtain ⟨_, readToo, namedToo, _, _, describedToo⟩ := paintsToo
  cases read.symm.trans readToo
  refine ⟨?_, Option.some.inj (named.symm.trans namedToo)⟩
  exact Option.some.inj ((region?_eq_some_iff.mpr described).symm.trans
    (region?_eq_some_iff.mpr describedToo))

theorem terrainAt_placeLine {side : Option Side} {mirrored : Bool}
    (placed : placeLine pieces side mirrored board line = .ok next) :
    next.dims = board.dims ∧ ∀ other, next.terrainAt other = board.terrainAt other := by
  obtain ⟨_, _, _, _, _, _, gains⟩ := exists_gains_of_placeLine placed
  exact ⟨gains.dims_eq, gains.terrain⟩

/-!
## Sections
-/

def InGround (before : List (List Char)) : Prop :=
  ∃ earlier inside, before = earlier ++ Word.groundSection :: inside ∧
    ∀ other ∈ inside, ¬ IsHeader other ∧ other ≠ Word.blockEnd

theorem isHeader_header (kind : SectionKind) : IsHeader kind.header := by
  cases kind with
  | ground => exact Or.inl rfl
  | pieces => exact Or.inr rfl

theorem ne_blockEnd_of_isHeader (header : IsHeader line) : line ≠ Word.blockEnd := by
  rcases header with rfl | rfl <;> decide

def IsEnded (behind : List (List Char)) : Prop :=
  ∃ inside rest, behind = inside ++ Word.blockEnd :: rest ∧ ∀ other ∈ inside, ¬ IsHeader other

theorem endsSection_iff : endsSection behind = true ↔ IsEnded behind := by
  induction behind with
  | nil =>
    constructor
    · intro ends
      cases ends
    · rintro ⟨inside, rest, cut, _⟩
      simp at cut
  | cons line rest ih =>
    rw [endsSection, Bool.or_eq_true, Bool.and_eq_true, ih]
    constructor
    · rintro (ends | ⟨plain, inside, further, rfl, none⟩)
      · exact ⟨[], rest, by rw [of_decide_eq_true ends]; rfl, by simp⟩
      · exact ⟨line :: inside, further, rfl,
          List.forall_mem_cons.mpr ⟨by simpa using plain, none⟩⟩
    · rintro ⟨inside, further, cut, plain⟩
      cases inside with
      | nil =>
        cases cut
        exact Or.inl (by simp)
      | cons first inside =>
        cases cut
        obtain ⟨here, later⟩ := List.forall_mem_cons.mp plain
        exact Or.inr ⟨by simpa using here, inside, further, rfl, later⟩

theorem inGround_append :
    InGround (before ++ [line]) ↔
      line = Word.groundSection ∨ ¬ IsHeader line ∧ line ≠ Word.blockEnd ∧ InGround before := by
  constructor
  · rintro ⟨earlier, inside, cut, plain⟩
    rcases List.eq_nil_or_concat inside with rfl | ⟨front, last, rfl⟩
    · exact Or.inl (List.cons.inj (List.append_inj' cut rfl).2).1
    · rw [List.concat_eq_append, ← List.cons_append, ← List.append_assoc] at cut
      obtain ⟨rfl, same⟩ := List.append_inj' cut rfl
      obtain rfl := (List.cons.inj same).1
      obtain ⟨here, continues⟩ := plain line (by simp)
      exact Or.inr ⟨here, continues, earlier, front, rfl,
        fun other member => plain other (by simp [member])⟩
  · rintro (rfl | ⟨plain, continues, earlier, inside, rfl, plainToo⟩)
    · exact ⟨before, [], rfl, by simp⟩
    · refine ⟨earlier, inside ++ [line], by simp, ?_⟩
      exact List.forall_mem_append.mpr ⟨plainToo, List.forall_mem_singleton.mpr ⟨plain, continues⟩⟩

/-!
## One line
-/

inductive SectionStep (terrains : TerrainCatalogue) (line : List Char) (board : Board)
    (current : Option OpenSection) : Board → Option OpenSection → Prop where
  | opens (kind : SectionKind) (header : line = kind.header) :
      SectionStep terrains line board current board (some ⟨kind, board⟩)
  | ends (last : line = Word.blockEnd) :
      SectionStep terrains line board current ((current.map OpenSection.draft).getD board) none
  | keeps (plain : ¬ IsHeader line) (continues : line ≠ Word.blockEnd)
      (quiet : ∀ draft region name, current = some ⟨.ground, draft⟩ →
        ¬ Paints terrains draft.dims line region name) :
      SectionStep terrains line board current board current
  | paints {draft : Board} {region : Region} {name : String}
      (opened : current = some ⟨.ground, draft⟩)
      (paints : Paints terrains draft.dims line region name) :
      SectionStep terrains line board current board (some ⟨.ground, draft.paint region name⟩)
  | places {draft next : Board} (plain : ¬ IsHeader line) (continues : line ≠ Word.blockEnd)
      (opened : current = some ⟨.pieces, draft⟩) (sameDims : next.dims = draft.dims)
      (sameTerrain : ∀ other, next.terrainAt other = draft.terrainAt other) :
      SectionStep terrains line board current board (some ⟨.pieces, next⟩)

theorem sectionStep_onLine (terrains : TerrainCatalogue) (pieces : PieceCatalogue)
    (state : BoardState) (line : List Char) :
    SectionStep terrains line state.board state.openSection
      ((boardStep terrains pieces).onLine state line).1.board
      ((boardStep terrains pieces).onLine state line).1.openSection := by
  cases solid : line.isEmpty with
  | true =>
    obtain rfl := List.isEmpty_iff.mp solid
    refine .keeps (by decide) (by decide) ?_
    rintro draft region name _ ⟨fields, read, named, _⟩
    cases read
    cases named
  | false =>
    rw [LineStep.onLine_of_solid _ solid]
    cases lineView terrains pieces line with
    | header kind =>
      rw [boardStep_header]
      exact .opens kind rfl
    | marker side mirrored marks plain continues steps =>
      rw [steps]
      exact .keeps plain continues (fun _ _ _ _ paints => paints.isContent.2.1 marks)
    | blockEnd =>
      obtain ⟨board, current, side, mirrored⟩ := state
      rw [boardStep_blockEnd]
      cases current with
      | none => exact .ends rfl
      | some opened => exact .ends rfl
    | content is steps =>
      obtain ⟨board, current, side, mirrored⟩ := state
      obtain ⟨plain, _, continues⟩ := is
      rw [steps]
      unfold contentStep
      cases current with
      | none => exact .keeps plain continues (fun _ _ _ none => nomatch none)
      | some opened =>
        obtain ⟨kind, draft⟩ := opened
        cases kind with
        | ground =>
          cases painted : paintLine terrains draft line with
          | error fault =>
            simp only [painted]
            refine .keeps plain continues ?_
            rintro _ region name ⟨⟩ paints
            cases painted.symm.trans (paintLine_eq_ok_iff.mpr ⟨region, name, paints, rfl⟩)
          | ok next =>
            obtain ⟨region, name, paints, rfl⟩ := paintLine_eq_ok_iff.mp painted
            simp only [painted]
            exact .paints rfl paints
        | pieces =>
          cases placed : placeLine pieces side mirrored draft line with
          | error fault =>
            simp only [placed]
            exact .keeps plain continues (fun _ _ _ other => nomatch other)
          | ok next =>
            obtain ⟨sameDims, sameTerrain⟩ := terrainAt_placeLine placed
            simp only [placed]
            exact .places plain continues rfl sameDims sameTerrain

/-!
## The pass
-/

/-- The board and the draft have the extent, and a ground section is open just where the lines say
so. -/
structure BoardState.Agrees (dims : Dims) (before : List (List Char)) (state : BoardState) :
    Prop where
  board : state.board.dims = dims
  draft : ∀ current, state.openSection = some current → current.draft.dims = dims
  ground : InGround before ↔ ∃ draft, state.openSection = some ⟨.ground, draft⟩

theorem BoardState.Agrees.onLine (agrees : state.Agrees dims before) :
    ((boardStep terrains pieces).onLine state line).1.Agrees dims (before ++ [line]) := by
  obtain ⟨sameBoard, sameDraft, ground⟩ := agrees
  have step := sectionStep_onLine terrains pieces state line
  generalize ((boardStep terrains pieces).onLine state line).1 = next at step
  obtain ⟨nextBoard, nextSection, side, mirrored⟩ := next
  dsimp only at step
  have grounds : InGround (before ++ [line]) ↔ ∃ draft, nextSection = some ⟨.ground, draft⟩ := by
    rw [inGround_append, ground]
    cases step with
    | opens kind header =>
      subst header
      cases kind with
      | ground => simp [SectionKind.header]
      | pieces =>
        have other : Word.piecesSection ≠ Word.groundSection := by decide
        simp [SectionKind.header, IsHeader, other]
    | ends last => simp [last, show Word.blockEnd ≠ Word.groundSection by decide]
    | keeps plain continues quiet =>
      have other : line ≠ Word.groundSection := fun header => plain (Or.inl header)
      simp [plain, continues, other]
    | paints opened paints =>
      obtain ⟨plain, _, continues⟩ := paints.isContent
      simp [plain, continues, opened]
    | places plain continues opened =>
      have other : line ≠ Word.groundSection := fun header => plain (Or.inl header)
      simp [other, opened]
  have sized : nextBoard.dims = dims ∧
      ∀ current, nextSection = some current → current.draft.dims = dims := by
    cases step with
    | opens kind header =>
      refine ⟨sameBoard, ?_⟩
      rintro _ ⟨⟩
      exact sameBoard
    | ends last =>
      refine ⟨?_, fun _ given => (by cases given)⟩
      cases opened : state.openSection with
      | none => exact sameBoard
      | some current => exact sameDraft current opened
    | keeps => exact ⟨sameBoard, sameDraft⟩
    | @paints draft _ _ opened =>
      refine ⟨sameBoard, ?_⟩
      rintro _ ⟨⟩
      exact sameDraft ⟨.ground, draft⟩ opened
    | places _ _ opened sameDims =>
      refine ⟨sameBoard, ?_⟩
      rintro _ ⟨⟩
      exact sameDims.trans (sameDraft _ opened)
  exact ⟨sized.1, sized.2, grounds⟩

theorem BoardState.agrees_after (dims : Dims) (terrains : TerrainCatalogue)
    (pieces : PieceCatalogue) (before : List (List Char)) :
    ((boardStep terrains pieces).after (BoardState.initial dims) before).Agrees dims before := by
  induction before using List.reverseRecOn with
  | nil =>
    refine ⟨rfl, fun _ given => (by cases given), ?_⟩
    simp [InGround, BoardState.initial, LineStep.after]
  | append_singleton before line ih =>
    rw [LineStep.after_append]
    exact ih.onLine

/-- The board from which the lines that follow go on: the draft counts if they end the section. -/
def standing (state : BoardState) (rest : List (List Char)) : Board :=
  if endsSection rest then (state.openSection.map OpenSection.draft).getD state.board
  else state.board

/-- A line that does not cover a square leaves its terrain. -/
theorem terrainAt_standing_onLine (agrees : state.Agrees dims before) (inside : dims.Contains square)
    (untouched : ∀ region name, InGround before → endsSection rest = true →
      Paints terrains dims line region name → ¬ region.Covers square) :
    (standing ((boardStep terrains pieces).onLine state line).1 rest).terrainAt square =
      (standing state (line :: rest)).terrainAt square := by
  have step := sectionStep_onLine terrains pieces state line
  generalize ((boardStep terrains pieces).onLine state line).1 = next at step
  obtain ⟨nextBoard, nextSection, side, mirrored⟩ := next
  obtain ⟨board, current, side', mirrored'⟩ := state
  dsimp only at step
  cases step with
  | opens kind header =>
    have is : IsHeader line := header ▸ isHeader_header kind
    simp [standing, endsSection, is, ne_blockEnd_of_isHeader is]
  | ends last => simp [standing, endsSection, last]
  | keeps plain continues quiet => rw [standing, standing, endsSection_cons plain continues]
  | paints opened paints =>
    obtain ⟨plain, _, continues⟩ := paints.isContent
    have ground : InGround before := agrees.ground.mpr ⟨_, opened⟩
    have sized : _ = dims := agrees.draft _ opened
    rw [standing, standing, endsSection_cons plain continues]
    split
    · next ends =>
      have elsewhere := untouched _ _ ground ends (sized ▸ paints)
      rw [opened]
      show (Board.paint _ _ _).terrainAt square = _
      rw [Board.terrainAt_paint (sized.symm ▸ inside), if_neg elsewhere]
      rfl
    · rfl
  | places plain continues opened sameDims sameTerrain =>
    rw [standing, standing, endsSection_cons plain continues]
    split
    · simpa [opened] using sameTerrain square
    · rfl

/-- The painting of a square by a line between other lines: the line stands in a ground section that
is ended, is accepted and covers the square. -/
def CoveredBy (terrains : TerrainCatalogue) (dims : Dims) (square : Square)
    (before : List (List Char)) (line : List Char) (behind : List (List Char)) (name : String) :
    Prop :=
  InGround before ∧ IsEnded behind ∧
    ∃ region, Paints terrains dims line region name ∧ region.Covers square

def Untouched (terrains : TerrainCatalogue) (dims : Dims) (square : Square)
    (before rest : List (List Char)) : Prop :=
  ∀ between line behind name, rest = between ++ line :: behind →
    ¬ CoveredBy terrains dims square (before ++ between) line behind name

theorem untouched_cons_iff :
    Untouched terrains dims square before (line :: rest) ↔
      (∀ name, ¬ CoveredBy terrains dims square before line rest name) ∧
        Untouched terrains dims square (before ++ [line]) rest := by
  constructor
  · intro untouched
    refine ⟨fun name => ?_, ?_⟩
    · have here := untouched [] line rest name rfl
      rwa [List.append_nil] at here
    · rintro between other behind name rfl
      have later := untouched (line :: between) other behind name rfl
      rwa [List.append_cons] at later
  · rintro ⟨here, later⟩ between other behind name cut
    cases between with
    | nil =>
      cases cut
      rw [List.append_nil]
      exact here name
    | cons first between =>
      cases cut
      rw [List.append_cons]
      exact later between other behind name rfl

theorem untouched_or_exists_last (terrains : TerrainCatalogue) (dims : Dims) (square : Square)
    (before rest : List (List Char)) :
    Untouched terrains dims square before rest ∨
      ∃ between line behind name, rest = between ++ line :: behind ∧
        CoveredBy terrains dims square (before ++ between) line behind name ∧
        Untouched terrains dims square (before ++ between ++ [line]) behind := by
  induction rest generalizing before with
  | nil =>
    refine Or.inl fun between line behind name cut => ?_
    simp at cut
  | cons line rest ih =>
    rcases ih (before ++ [line]) with untouched | ⟨between, last, behind, name, rfl, covered, later⟩
    · by_cases here : ∃ name, CoveredBy terrains dims square before line rest name
      · obtain ⟨name, covered⟩ := here
        refine Or.inr ⟨[], line, rest, name, rfl, ?_⟩
        rw [List.append_nil]
        exact ⟨covered, untouched⟩
      · exact Or.inl (untouched_cons_iff.mpr ⟨fun name covered => here ⟨name, covered⟩, untouched⟩)
    · refine Or.inr ⟨line :: between, last, behind, name, rfl, ?_⟩
      rw [List.append_cons]
      exact ⟨covered, later⟩

/-- Lines that do not cover a square leave it the terrain with which they go on. -/
theorem terrainAt_after_of_untouched (pieces : PieceCatalogue) (inside : dims.Contains square)
    (agrees : state.Agrees dims before)
    (untouched : Untouched terrains dims square before rest) :
    ((boardStep terrains pieces).after state rest).board.terrainAt square =
      (standing state rest).terrainAt square := by
  induction rest generalizing before state with
  | nil => rfl
  | cons line rest ih =>
    obtain ⟨here, later⟩ := untouched_cons_iff.mp untouched
    rw [LineStep.after_cons, ih agrees.onLine later]
    refine terrainAt_standing_onLine agrees inside ?_
    intro region name ground ends paints covers
    exact here name ⟨ground, endsSection_iff.mp ends, region, paints, covers⟩

/-- Behind a line that covers a square, the square has the terrain of the line. -/
theorem terrainAt_standing_of_coveredBy (pieces : PieceCatalogue) (inside : dims.Contains square)
    (agrees : state.Agrees dims before)
    (covered : CoveredBy terrains dims square before line behind name) :
    (standing ((boardStep terrains pieces).onLine state line).1 behind).terrainAt square =
      some name := by
  obtain ⟨ground, ended, region, paints, covers⟩ := covered
  obtain ⟨draft, opened⟩ := agrees.ground.mp ground
  have sized : draft.dims = dims := agrees.draft _ opened
  have step := sectionStep_onLine terrains pieces state line
  generalize ((boardStep terrains pieces).onLine state line).1 = next at step
  obtain ⟨nextBoard, nextSection, side, mirrored⟩ := next
  dsimp only at step
  cases step with
  | opens kind header =>
    exact absurd (header ▸ isHeader_header kind) paints.isContent.1
  | ends last => exact absurd last paints.isContent.2.2
  | keeps _ _ quiet => exact absurd (sized ▸ paints) (quiet draft region name opened)
  | @paints other _ _ openedToo painted =>
    cases opened.symm.trans openedToo
    obtain ⟨rfl, rfl⟩ := paints.unique (sized ▸ painted)
    rw [standing, if_pos (endsSection_iff.mpr ended)]
    show (Board.paint _ _ _).terrainAt square = _
    rw [Board.terrainAt_paint (sized.symm ▸ inside), if_pos covers]
  | places _ _ openedToo => cases opened.symm.trans openedToo

/-- The terrain of a square is the name on the last line that covers it, or the default terrain if
there is none. A line that is accepted in a ground section changes the terrain of its region and of
nothing else, and a line that is accepted in a pieces section changes no terrain. Regions are painted
square by square. -/
theorem readBoard_terrainAt {dims : Dims} {square : Square} (inside : dims.Contains square)
    (terrains : TerrainCatalogue) (pieces : PieceCatalogue) (text : String) :
    let lines := Text.trimmedLines text.toList
    let terrain := (readBoard dims terrains pieces text).1.terrainAt square
    ((∃ before line behind name, lines = before ++ line :: behind ∧
        CoveredBy terrains dims square before line behind name ∧
        Untouched terrains dims square (before ++ [line]) behind ∧ terrain = some name) ∨
      Untouched terrains dims square [] lines ∧ terrain = some defaultTerrain) ∧
    (∀ board line next, board.dims = dims → paintLine terrains board line = .ok next →
      ∃ region name, Paints terrains dims line region name ∧ ∀ other, dims.Contains other →
        next.terrainAt other = if region.Covers other then some name else board.terrainAt other) ∧
    (∀ side mirrored board line next, placeLine pieces side mirrored board line = .ok next →
      ∀ other, next.terrainAt other = board.terrainAt other) ∧
    ∀ (board : Board) region name, board.paint region name =
      { board with terrain := board.terrain.write (region.squares board.dims) name } := by
  intro lines terrain
  have read : (readBoard dims terrains pieces text).1 =
      ((boardStep terrains pieces).after (BoardState.initial dims) lines).board :=
    congrArg BoardState.board (LineStep.fst_run _ 1 (BoardState.initial dims) lines)
  refine ⟨?_, ?_, ?_, Board.paint_eq_write⟩
  · rcases untouched_or_exists_last terrains dims square [] lines with
      untouched | ⟨before, line, behind, name, cut, covered, later⟩
    · refine Or.inr ⟨untouched, ?_⟩
      have agrees : (BoardState.initial dims).Agrees dims [] :=
        BoardState.agrees_after dims terrains pieces []
      show (readBoard dims terrains pieces text).1.terrainAt square = _
      rw [read, terrainAt_after_of_untouched pieces inside agrees untouched]
      show (standing (BoardState.initial dims) lines).terrainAt square = _
      have fresh : standing (BoardState.initial dims) lines = Board.empty dims := by
        unfold standing
        split <;> rfl
      rw [fresh, Board.terrainAt_empty, if_pos inside]
    · rw [List.nil_append] at covered later
      refine Or.inl ⟨before, line, behind, name, cut, covered, later, ?_⟩
      have agrees := BoardState.agrees_after dims terrains pieces before
      show (readBoard dims terrains pieces text).1.terrainAt square = _
      rw [read, cut, LineStep.after_append, LineStep.after_cons,
        terrainAt_after_of_untouched pieces inside agrees.onLine later]
      exact terrainAt_standing_of_coveredBy pieces inside agrees covered
  · rintro board line next rfl painted
    obtain ⟨region, name, paints, rfl⟩ := paintLine_eq_ok_iff.mp painted
    exact ⟨region, name, paints, fun other on => Board.terrainAt_paint on⟩
  · intro side mirrored board line next placed
    exact (terrainAt_placeLine placed).2

/-- A square that is painted twice, and once more in a section that is given up. -/
theorem readBoard_terrainAt_miniature :
    let land : Terrain := ⟨"land", none⟩
    let sea : Terrain := ⟨"sea", none⟩
    let terrains : TerrainCatalogue := (OrderedMap.insert ∅ "land" land).insert "sea" sea
    let text := "-GROUND-\n[sea]:FULL\n[land]:RECTANGLE:2,2:1,1\n/\n-GROUND-\n[sea]:1,1\n-PIECES-\n/"
    let lines := Text.trimmedLines text.toList
    (readBoard ⟨3, 4⟩ terrains ∅ text).1.terrainAt ⟨1, 1⟩ = some "land" ∧
      ∃ before line behind, lines = before ++ line :: behind ∧
        CoveredBy terrains ⟨3, 4⟩ ⟨1, 1⟩ before line behind "land" ∧
        Untouched terrains ⟨3, 4⟩ ⟨1, 1⟩ (before ++ [line]) behind := by
  intro land sea terrains text lines
  have painted : (readBoard ⟨3, 4⟩ terrains ∅ text).1.terrainAt ⟨1, 1⟩ = some "land" := by
    decide +kernel
  refine ⟨painted, ?_⟩
  rcases (readBoard_terrainAt (by decide : Dims.Contains ⟨3, 4⟩ ⟨1, 1⟩) terrains ∅ text).1 with
    ⟨before, line, behind, name, cut, covered, later, found⟩ | ⟨_, found⟩
  · cases painted.symm.trans found
    exact ⟨before, line, behind, cut, covered, later⟩
  · exact absurd (Option.some.inj (painted.symm.trans found)) (by decide)

end Notation

end TerrainChess

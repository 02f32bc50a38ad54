import TerrainChess.Notation.TerrainText
import TerrainChess.Proofs.Reading.Bracketed
import TerrainChess.Proofs.Reading.LinePass

/-!
# The terrains of a terrain text

What a terrain text says can be read off its lines without a pass over them: which
block is open behind some lines, which blocks are ended, and what is wrong with a
line behind others. Main statement: `Notation.readTerrains_blocks`.
-/

set_option autoImplicit false

namespace TerrainChess.Notation

/-!
## What a terrain text says
-/

def headerName? (line : List Char) : Option String :=
  match Text.wrapped '[' ']' line with
  | none => none
  | some inner => if inner.isEmpty then none else some (String.ofList inner)

def LeavesTerrain (line : List Char) : Prop :=
  line = Word.blockEnd ∨ (Text.wrapped '[' ']' line).isSome = true

instance (line : List Char) : Decidable (LeavesTerrain line) := inferInstanceAs (Decidable (_ ∨ _))

def openName? (before : List (List Char)) : Option String :=
  (before.reverse.find? (fun line => decide (LeavesTerrain line))).bind headerName?

/-- The lines since the last one at which no block stays open. -/
def insideLines (before : List (List Char)) : List (List Char) :=
  (before.reverse.takeWhile (fun line => decide (¬ LeavesTerrain line))).reverse

def texturePath? (line : List Char) : Option String :=
  match Text.splitOnce '=' line with
  | none => none
  | some (key, value) =>
    if String.ofList (Text.trim key) = Word.textureFile then
      some (String.ofList (Text.trim value))
    else none

/-- What the last texture line that resolves does resolve to. -/
def lastTexture? (resolve : TextureResolver) (inside : List (List Char)) : Option String :=
  (inside.filterMap (fun line => (texturePath? line).bind resolve)).getLast?

def openTerrain? (resolve : TextureResolver) (before : List (List Char)) : Option Terrain :=
  (openName? before).map (fun name => ⟨name, lastTexture? resolve (insideLines before)⟩)

/-- The terrains of the blocks that some lines end, in the order of their ends. -/
def endedTerrains (resolve : TextureResolver) (lines : List (List Char)) : List Terrain :=
  (eachLine (fun before line =>
    if line = Word.blockEnd then (openTerrain? resolve before).toList else []) lines).flatten

/-- A line that says nothing where it stands: brackets without a name, any other line outside of a
block, and in a block a line that neither ends it nor gives a texture. -/
def IsStray (before : List (List Char)) (line : List Char) : Prop :=
  Text.wrapped '[' ']' line = some [] ∨
    line ≠ [] ∧ Text.wrapped '[' ']' line = none ∧
      (openName? before = none ∨ line ≠ Word.blockEnd ∧ texturePath? line = none)

instance (before : List (List Char)) (line : List Char) : Decidable (IsStray before line) :=
  inferInstanceAs (Decidable (_ ∨ _ ∧ _ ∧ (_ ∨ _ ∧ _)))

def unclosedFaults (before : List (List Char)) (line : List Char) : List Fault :=
  if (Text.wrapped '[' ']' line).isSome then ((openName? before).map .unclosedBlock).toList else []

def strayFaults (before : List (List Char)) (line : List Char) : List Fault :=
  if IsStray before line then [.strayText (String.ofList line)] else []

def textureFaults (resolve : TextureResolver) (before : List (List Char)) (line : List Char) :
    List Fault :=
  if (openName? before).isSome then
    (((texturePath? line).filter (fun path => (resolve path).isNone)).map .invalidTexturePath).toList
  else []

def duplicateFaults (resolve : TextureResolver) (before : List (List Char)) (line : List Char) :
    List Fault :=
  if line = Word.blockEnd then
    (((openName? before).filter (fun name =>
      name ∈ (endedTerrains resolve before).map Terrain.name)).map .duplicateDeclaration).toList
  else []

def terrainFaults (resolve : TextureResolver) (before : List (List Char)) (line : List Char) :
    List Fault :=
  unclosedFaults before line ++ strayFaults before line ++ textureFaults resolve before line ++
    duplicateFaults resolve before line

variable {resolve : TextureResolver} {before lines inside : List (List Char)} {line : List Char}
  {name path : String}

/-!
## One line more
-/

theorem headerName?_eq_some_iff :
    headerName? line = some name ↔
      name ≠ "" ∧ Text.wrapped '[' ']' line = some name.toList := by
  unfold headerName?
  cases found : Text.wrapped '[' ']' line with
  | none => simp
  | some inner =>
    by_cases nameless : inner = []
    · subst nameless
      simp
    · simp only [List.isEmpty_iff, nameless, if_false, Option.some.injEq]
      constructor
      · rintro rfl
        simpa using nameless
      · rintro ⟨_, rfl⟩
        exact String.ofList_toList

theorem openName?_append :
    openName? (before ++ [line]) =
      if LeavesTerrain line then headerName? line else openName? before := by
  unfold openName?
  rw [List.reverse_append, List.reverse_singleton, List.singleton_append, List.find?_cons]
  by_cases leaves : LeavesTerrain line <;> simp [leaves]

theorem insideLines_append :
    insideLines (before ++ [line]) =
      if LeavesTerrain line then [] else insideLines before ++ [line] := by
  unfold insideLines
  rw [List.reverse_append, List.reverse_singleton, List.singleton_append, List.takeWhile_cons]
  by_cases leaves : LeavesTerrain line <;> simp [leaves]

theorem lastTexture?_append :
    lastTexture? resolve (inside ++ [line]) =
      ((texturePath? line).bind resolve).or (lastTexture? resolve inside) := by
  unfold lastTexture?
  rw [List.filterMap_append]
  cases given : (texturePath? line).bind resolve <;> simp [given]

theorem openTerrain?_append :
    openTerrain? resolve (before ++ [line]) =
      if LeavesTerrain line then (headerName? line).map (fun name => ⟨name, none⟩)
      else (openTerrain? resolve before).map (fun terrain =>
        { terrain with texture := ((texturePath? line).bind resolve).or terrain.texture }) := by
  unfold openTerrain?
  rw [openName?_append, insideLines_append]
  by_cases leaves : LeavesTerrain line
  · simp [leaves, lastTexture?]
  · simp [leaves, lastTexture?_append, Function.comp_def]

theorem endedTerrains_append :
    endedTerrains resolve (before ++ [line]) = endedTerrains resolve before ++
      if line = Word.blockEnd then (openTerrain? resolve before).toList else [] := by
  unfold endedTerrains
  rw [eachLine_append, List.flatten_append, List.flatten_singleton]

theorem texturePath?_of_wrapped {inner : List Char}
    (found : Text.wrapped '[' ']' line = some inner) : texturePath? line = none := by
  obtain ⟨middle, rfl, _⟩ := Text.wrapped_eq_some found
  unfold texturePath?
  cases cut : Text.splitOnce '=' ('[' :: (middle ++ [']'])) with
  | none => rfl
  | some parts =>
    obtain ⟨key, value⟩ := parts
    obtain ⟨joined, _⟩ := Text.splitOnce_eq_some cut
    have bracket : '[' ∈ key := by
      cases key with
      | nil => cases joined
      | cons first rest =>
        rw [← (List.cons.inj joined).1]
        exact List.mem_cons_self
    have trimmed := Text.mem_trim bracket (by decide)
    refine if_neg fun word => ?_
    have written := congrArg String.toList word
    rw [String.toList_ofList] at written
    rw [written] at trimmed
    exact absurd trimmed (by decide)

/-!
## The pass
-/

/-- What a line can be behind the lines that led to a state, and what the pass makes of it. -/
inductive TerrainLine (resolve : TextureResolver) (state : TerrainState) :
    List Char → TerrainState × List Fault → Prop where
  | blank : TerrainLine resolve state [] (state, [])
  | nameless {line : List Char} (brackets : Text.wrapped '[' ']' line = some []) :
      TerrainLine resolve state line
        ({ state with openBlock := none }, state.unclosed ++ [.strayText (String.ofList line)])
  | header {line inner : List Char} (brackets : Text.wrapped '[' ']' line = some inner)
      (named : inner ≠ []) :
      TerrainLine resolve state line
        ({ state with openBlock := some ⟨String.ofList inner, none⟩ }, state.unclosed)
  | outside {line : List Char} (solid : line ≠ []) (plain : Text.wrapped '[' ']' line = none)
      (closed : state.openBlock = none) :
      TerrainLine resolve state line (state, [.strayText (String.ofList line)])
  | ends {terrain : Terrain} (opened : state.openBlock = some terrain) :
      TerrainLine resolve state Word.blockEnd (declareTerrain state terrain)
  | texture {line : List Char} {terrain : Terrain} {path file : String}
      (opened : state.openBlock = some terrain) (given : texturePath? line = some path)
      (found : resolve path = some file) :
      TerrainLine resolve state line
        ({ state with openBlock := some { terrain with texture := some file } }, [])
  | unresolved {line : List Char} {terrain : Terrain} {path : String}
      (opened : state.openBlock = some terrain) (given : texturePath? line = some path)
      (missing : resolve path = none) :
      TerrainLine resolve state line (state, [.invalidTexturePath path])
  | stray {line : List Char} {terrain : Terrain} (solid : line ≠ [])
      (plain : Text.wrapped '[' ']' line = none) (opened : state.openBlock = some terrain)
      (continues : line ≠ Word.blockEnd) (noTexture : texturePath? line = none) :
      TerrainLine resolve state line (state, [.strayText (String.ofList line)])

theorem terrainLine_onLine (resolve : TextureResolver) (state : TerrainState) (line : List Char) :
    TerrainLine resolve state line ((terrainStep resolve).onLine state line) := by
  by_cases blank : line = []
  · subst blank
    exact .blank
  · rw [LineStep.onLine_of_solid _ (by simpa using blank)]
    unfold terrainStep
    cases brackets : Text.wrapped '[' ']' line with
    | some inner =>
      by_cases nameless : inner = []
      · subst nameless
        exact .nameless brackets
      · simp only [List.isEmpty_iff, nameless, if_false]
        exact .header brackets nameless
    | none =>
      cases opened : state.openBlock with
      | none => exact .outside blank brackets opened
      | some terrain =>
        by_cases ends : line = Word.blockEnd
        · subst ends
          exact .ends opened
        · simp only [ends, if_false]
          cases cut : Text.splitOnce '=' line with
          | none => exact .stray blank brackets opened ends (by rw [texturePath?, cut])
          | some parts =>
            obtain ⟨key, value⟩ := parts
            by_cases word : String.ofList (Text.trim key) = Word.textureFile
            · have given : texturePath? line = some (String.ofList (Text.trim value)) := by
                rw [texturePath?, cut]
                exact if_pos word
              simp only [word, if_true]
              cases found : resolve (String.ofList (Text.trim value)) with
              | some file => exact .texture opened given found
              | none => exact .unresolved opened given found
            · simp only [word, if_false]
              refine .stray blank brackets opened ends ?_
              rw [texturePath?, cut]
              exact if_neg word

theorem ne_blockEnd_of_wrapped {inner : List Char}
    (brackets : Text.wrapped '[' ']' line = some inner) : line ≠ Word.blockEnd := by
  rintro rfl
  cases brackets

theorem wrapped_of_texturePath? (given : texturePath? line = some path) :
    Text.wrapped '[' ']' line = none := by
  cases found : Text.wrapped '[' ']' line with
  | none => rfl
  | some inner =>
    rw [texturePath?_of_wrapped found] at given
    cases given

theorem ne_blockEnd_of_texturePath? (given : texturePath? line = some path) :
    line ≠ Word.blockEnd := by
  rintro rfl
  cases given

theorem not_leavesTerrain_of_texturePath? (given : texturePath? line = some path) :
    ¬ LeavesTerrain line := by
  simp [LeavesTerrain, ne_blockEnd_of_texturePath? given, wrapped_of_texturePath? given]

structure TerrainState.Reflects (resolve : TextureResolver) (lines : List (List Char))
    (state : TerrainState) : Prop where
  openBlock : state.openBlock = openTerrain? resolve lines
  declared : ∀ name, state.declared.get? name =
    (endedTerrains resolve lines).reverse.find? (fun terrain => terrain.name = name)

theorem TerrainState.Reflects.onLine {state : TerrainState}
    (reflects : state.Reflects resolve before) :
    ((terrainStep resolve).onLine state line).1.Reflects resolve (before ++ [line]) := by
  obtain ⟨current, declared⟩ := reflects
  have step := terrainLine_onLine resolve state line
  constructor
  · rw [openTerrain?_append, ← current]
    generalize (terrainStep resolve).onLine state line = result at step
    cases step with
    | blank => simp [show ¬ LeavesTerrain [] by decide, show texturePath? [] = none from rfl]
    | nameless brackets => simp [LeavesTerrain, brackets, headerName?]
    | header brackets named => simp [LeavesTerrain, brackets, headerName?, named]
    | outside solid plain closed =>
      by_cases ends : line = Word.blockEnd
      · subst ends
        exact closed
      · simp [LeavesTerrain, ends, plain, closed]
    | ends opened => rfl
    | texture opened given found =>
      simp [not_leavesTerrain_of_texturePath? given, opened, given, found]
    | unresolved opened given missing =>
      simp [not_leavesTerrain_of_texturePath? given, opened, given, missing]
    | stray solid plain opened continues noTexture =>
      simp [LeavesTerrain, continues, plain, opened, noTexture]
  · intro name
    rw [endedTerrains_append, ← current]
    have unchanged : line ≠ Word.blockEnd ∨ state.openBlock = none →
        endedTerrains resolve before ++
          (if line = Word.blockEnd then state.openBlock.toList else []) =
            endedTerrains resolve before := by
      rintro (continues | closed)
      · rw [if_neg continues, List.append_nil]
      · simp [closed]
    generalize (terrainStep resolve).onLine state line = result at step
    cases step with
    | blank =>
      rw [unchanged (Or.inl (by decide))]
      exact declared name
    | nameless brackets | header brackets named =>
      rw [unchanged (Or.inl (ne_blockEnd_of_wrapped brackets))]
      exact declared name
    | outside solid plain closed =>
      rw [unchanged (Or.inr closed)]
      exact declared name
    | @ends terrain opened =>
      simp only [declareTerrain, OrderedMap.get?_insert, opened]
      by_cases same : name = terrain.name
      · simp [same]
      · simp [same, Ne.symm same, declared]
    | texture opened given found | unresolved opened given missing =>
      rw [unchanged (Or.inl (ne_blockEnd_of_texturePath? given))]
      exact declared name
    | stray solid plain opened continues noTexture =>
      rw [unchanged (Or.inl continues)]
      exact declared name

theorem TerrainState.reflects_after (resolve : TextureResolver) (lines : List (List Char)) :
    ((terrainStep resolve).after TerrainState.initial lines).Reflects resolve lines := by
  induction lines using List.reverseRecOn with
  | nil => exact ⟨rfl, fun _ => rfl⟩
  | append_singleton before line ih =>
    rw [LineStep.after_append]
    exact ih.onLine

theorem TerrainState.Reflects.openName? {state : TerrainState}
    (reflects : state.Reflects resolve before) :
    Notation.openName? before = state.openBlock.map Terrain.name := by
  simp [reflects.openBlock, openTerrain?, Function.comp_def]

theorem TerrainState.Reflects.unclosed {state : TerrainState}
    (reflects : state.Reflects resolve before) :
    state.unclosed = ((Notation.openName? before).map .unclosedBlock).toList := by
  rw [reflects.openName?, TerrainState.unclosed, Option.map_map]
  rfl

theorem TerrainState.Reflects.contains_iff {state : TerrainState}
    (reflects : state.Reflects resolve before) :
    state.declared.contains name = true ↔
      name ∈ (endedTerrains resolve before).map Terrain.name := by
  rw [OrderedMap.contains, reflects.declared, List.find?_isSome, List.mem_map]
  simp

theorem TerrainState.Reflects.faults {state : TerrainState}
    (reflects : state.Reflects resolve before) :
    ((terrainStep resolve).onLine state line).2 = terrainFaults resolve before line := by
  have opens := reflects.openName?
  have step := terrainLine_onLine resolve state line
  unfold terrainFaults unclosedFaults strayFaults textureFaults duplicateFaults IsStray
  generalize (terrainStep resolve).onLine state line = result at step
  cases step with
  | blank =>
    have continues : ([] : List Char) ≠ Word.blockEnd := by decide
    simp [texturePath?, Text.splitOnce, Text.wrapped, continues]
  | nameless brackets =>
    simp [brackets, texturePath?_of_wrapped brackets, ne_blockEnd_of_wrapped brackets,
      reflects.unclosed]
  | header brackets named =>
    simp [brackets, named, texturePath?_of_wrapped brackets, ne_blockEnd_of_wrapped brackets,
      reflects.unclosed]
  | outside solid plain closed =>
    simp [opens, solid, plain, closed]
  | @ends terrain opened =>
    have plain : Text.wrapped '[' ']' Word.blockEnd = none := rfl
    have noTexture : texturePath? Word.blockEnd = none := rfl
    have contains : state.declared.contains terrain.name = true ↔
        terrain.name ∈ (endedTerrains resolve before).map Terrain.name := reflects.contains_iff
    generalize (endedTerrains resolve before).map Terrain.name = names at contains ⊢
    by_cases known : terrain.name ∈ names
    · simp [declareTerrain, opens, opened, plain, noTexture, contains, known,
        Option.filter]
    · simp [declareTerrain, opens, opened, plain, noTexture, contains, known,
        Option.filter]
  | texture opened given found =>
    simp [opens, opened, given, found, wrapped_of_texturePath? given,
      ne_blockEnd_of_texturePath? given]
  | unresolved opened given missing =>
    simp [opens, opened, given, missing, Option.filter, wrapped_of_texturePath? given,
      ne_blockEnd_of_texturePath? given]
  | stray solid plain opened continues noTexture =>
    simp [opens, opened, solid, plain, continues, noTexture]

/-!
## Blocks
-/

def HasBlock (lines : List (List Char)) (name : String) : Prop :=
  ∃ front header between behind,
    lines = front ++ header :: (between ++ Word.blockEnd :: behind) ∧
      headerName? header = some name ∧ ∀ line ∈ between, Text.wrapped '[' ']' line = none

/-- A block ends at the first line that can end it. -/
theorem HasBlock.exists_inside (block : HasBlock lines name) :
    ∃ front header inside behind,
      lines = front ++ header :: (inside ++ Word.blockEnd :: behind) ∧
        headerName? header = some name ∧ ∀ line ∈ inside, ¬ LeavesTerrain line := by
  obtain ⟨front, header, between, behind, rfl, named, plain⟩ := block
  obtain ⟨inside, rest, cut, first⟩ := List.eq_append_cons_of_mem
    (show Word.blockEnd ∈ between ++ [Word.blockEnd] by simp)
  refine ⟨front, header, inside, rest ++ behind, ?_, named, ?_⟩
  · have whole := congrArg (· ++ behind) cut
    simp only [List.append_assoc, List.cons_append, List.nil_append] at whole
    rw [whole]
  · intro line member
    have other : line ≠ Word.blockEnd := by
      rintro rfl
      exact first member
    have among : line ∈ between ++ [Word.blockEnd] := cut ▸ List.mem_append_left _ member
    have unbracketed := plain line (by simpa [other] using among)
    simp [LeavesTerrain, other, unbracketed]

theorem HasBlock.exists_last {lines : List (List Char)} {name : String}
    (block : HasBlock lines name) :
    ∃ front header inside behind,
      lines = front ++ header :: (inside ++ Word.blockEnd :: behind) ∧
        headerName? header = some name ∧ (∀ line ∈ inside, ¬ LeavesTerrain line) ∧
        ¬ HasBlock behind name := by
  obtain ⟨front, header, inside, behind, cut, named, plain⟩ := block.exists_inside
  by_cases later : HasBlock behind name
  · obtain ⟨more, last, within, after, split, namedToo, plainToo, none⟩ :=
      HasBlock.exists_last later
    refine ⟨front ++ header :: (inside ++ Word.blockEnd :: more), last, within, after, ?_,
      namedToo, plainToo, none⟩
    rw [cut, split]
    simp
  · exact ⟨front, header, inside, behind, cut, named, plain, later⟩
termination_by lines.length
decreasing_by
  rw [cut]
  simp
  omega

theorem exists_block_of_openName? (opened : openName? before = some name) :
    ∃ front header inside, before = front ++ header :: inside ∧ headerName? header = some name ∧
      ∀ line ∈ inside, ¬ LeavesTerrain line := by
  obtain ⟨header, found, named⟩ := Option.bind_eq_some_iff.mp opened
  obtain ⟨_, inside, front, cut, plain⟩ := List.find?_eq_some_iff_append.mp found
  refine ⟨front.reverse, header, inside.reverse, ?_, named, ?_⟩
  · rw [← List.reverse_reverse before, cut]
    simp
  · intro line member
    simpa using plain line (List.mem_reverse.mp member)

theorem leavesTerrain_of_headerName? (named : headerName? line = some name) :
    LeavesTerrain line :=
  Or.inr (by simp [(headerName?_eq_some_iff.mp named).2])

/-- Behind a header and lines at which its block stays open, the block is open. -/
theorem openTerrain?_of_block {header : List Char} (front : List (List Char))
    (named : headerName? header = some name) (plain : ∀ line ∈ inside, ¬ LeavesTerrain line) :
    openTerrain? resolve (front ++ header :: inside) =
      some ⟨name, lastTexture? resolve inside⟩ := by
  have leaves := leavesTerrain_of_headerName? named
  have reversed : (front ++ header :: inside).reverse =
      inside.reverse ++ header :: front.reverse := by simp
  have noEnd : inside.reverse.find? (fun line => decide (LeavesTerrain line)) = none := by
    simpa using plain
  have opens : openName? (front ++ header :: inside) = some name := by
    rw [openName?, reversed, List.find?_append, noEnd]
    simp [leaves, named]
  have since : insideLines (front ++ header :: inside) = inside := by
    rw [insideLines, reversed, List.takeWhile_append_of_pos (by simpa using plain)]
    simp [leaves]
  rw [openTerrain?, opens, since]
  rfl

/-- Nothing before the end of a block is open behind it. -/
theorem openTerrain?_blockEnd (before behind : List (List Char)) :
    openTerrain? resolve (before ++ Word.blockEnd :: behind) = openTerrain? resolve behind := by
  induction behind using List.reverseRecOn with
  | nil =>
    rw [openTerrain?_append, if_pos (show LeavesTerrain Word.blockEnd from Or.inl rfl)]
    rfl
  | append_singleton behind line ih =>
    rw [← List.cons_append, ← List.append_assoc, openTerrain?_append, openTerrain?_append, ih]

theorem endedTerrains_blockEnd (before behind : List (List Char)) :
    endedTerrains resolve (before ++ Word.blockEnd :: behind) =
      endedTerrains resolve before ++ (openTerrain? resolve before).toList ++
        endedTerrains resolve behind := by
  induction behind using List.reverseRecOn with
  | nil =>
    rw [endedTerrains_append, if_pos rfl]
    simp [endedTerrains, eachLine]
  | append_singleton behind line ih =>
    rw [← List.cons_append, ← List.append_assoc, endedTerrains_append, endedTerrains_append, ih,
      openTerrain?_blockEnd, List.append_assoc]

theorem mem_endedTerrains_iff :
    name ∈ (endedTerrains resolve lines).map Terrain.name ↔ HasBlock lines name := by
  constructor
  · intro member
    obtain ⟨terrain, ended, rfl⟩ := List.mem_map.mp member
    obtain ⟨found, given, listed⟩ := List.mem_flatten.mp ended
    obtain ⟨before, line, behind, rfl, rfl⟩ := mem_eachLine.mp given
    split at listed
    · next ends =>
      obtain ⟨name, opened, rfl⟩ := Option.map_eq_some_iff.mp (Option.mem_toList.mp listed)
      obtain ⟨front, header, inside, rfl, named, plain⟩ := exists_block_of_openName? opened
      refine ⟨front, header, inside, behind, ?_, named, ?_⟩
      · simp [ends]
      · intro line member
        by_contra brackets
        exact plain line member (Or.inr (Option.isSome_iff_ne_none.mpr brackets))
    · cases listed
  · intro block
    obtain ⟨front, header, inside, behind, rfl, named, plain⟩ := block.exists_inside
    rw [← List.cons_append, ← List.append_assoc, endedTerrains_blockEnd,
      openTerrain?_of_block front named plain]
    simp

/-- The declared terrain of a name is the one of its last block. -/
theorem find?_endedTerrains {header : List Char} {behind : List (List Char)}
    (front : List (List Char)) (named : headerName? header = some name)
    (plain : ∀ line ∈ inside, ¬ LeavesTerrain line) (last : ¬ HasBlock behind name) :
    (endedTerrains resolve (front ++ header :: (inside ++ Word.blockEnd :: behind))).reverse.find?
        (fun terrain => terrain.name = name) =
      some ⟨name, lastTexture? resolve inside⟩ := by
  have later : (endedTerrains resolve behind).reverse.find? (fun terrain => terrain.name = name) =
      none := by
    rw [List.find?_eq_none]
    intro terrain member
    have ended := List.mem_map_of_mem (f := Terrain.name) (List.mem_reverse.mp member)
    simp only [decide_eq_true_eq]
    rintro rfl
    exact last (mem_endedTerrains_iff.mp ended)
  rw [← List.cons_append, ← List.append_assoc, endedTerrains_blockEnd,
    openTerrain?_of_block front named plain, List.reverse_append, List.find?_append, later]
  simp

/-- A terrain is declared exactly if the text has a block of its name, and the texture is that of the
last such block. The faults are those of the lines, each behind the lines before it, and that of a
block that is open at the end. -/
theorem readTerrains_blocks (resolve : TextureResolver) (text : String) :
    let lines := Text.trimmedLines text.toList
    let answer := readTerrains resolve text
    (∀ name, answer.1.contains name = true ↔ HasBlock lines name) ∧
    (∀ name, HasBlock lines name → ∃ front header inside behind,
      lines = front ++ header :: (inside ++ Word.blockEnd :: behind) ∧
        headerName? header = some name ∧ (∀ line ∈ inside, ¬ LeavesTerrain line) ∧
        ¬ HasBlock behind name ∧
        answer.1.get? name = some ⟨name, lastTexture? resolve inside⟩) ∧
    answer.2 = diagnose .terrain
      ((eachLine (fun before line => (terrainFaults resolve before line).map
          (fun fault => (1 + before.length, fault))) lines).flatten ++
        ((openName? lines).map (fun name => (lines.length, .unclosedBlock name))).toList) := by
  intro lines answer
  have reflects := TerrainState.reflects_after resolve lines
  have declared : answer.1 =
      ((terrainStep resolve).after TerrainState.initial lines).declared := by
    rw [← LineStep.fst_run _ 1]
    rfl
  refine ⟨?_, ?_, ?_⟩
  · intro name
    rw [declared, reflects.contains_iff, mem_endedTerrains_iff]
  · intro name block
    obtain ⟨front, header, inside, behind, cut, named, plain, last⟩ := block.exists_last
    refine ⟨front, header, inside, behind, cut, named, plain, last, ?_⟩
    rw [declared, reflects.declared, cut]
    exact find?_endedTerrains front named plain last
  · have faults : (fun (before : List (List Char)) line =>
        (((terrainStep resolve).onLine
          ((terrainStep resolve).after TerrainState.initial before) line).2.map
            (fun fault => (1 + before.length, fault)))) =
        fun before line => (terrainFaults resolve before line).map
          (fun fault => (1 + before.length, fault)) := by
      funext before line
      rw [(TerrainState.reflects_after resolve before).faults]
    have atEnd : ((terrainStep resolve).run 1 TerrainState.initial lines).1.unclosed =
        ((openName? lines).map .unclosedBlock).toList := by
      rw [LineStep.fst_run, reflects.unclosed]
    show diagnose .terrain (((terrainStep resolve).run 1 TerrainState.initial lines).2 ++
      ((terrainStep resolve).run 1 TerrainState.initial lines).1.unclosed.map _) = _
    rw [LineStep.snd_run, faults, atEnd]
    cases openName? lines <;> rfl

/-- A stray line, a block that is left for another one, an end without a block and a block without
an end. -/
example :
    let answer := readTerrains some "hello\n[a]\ntexturefile=a.png\n[b]\n/\n/\n[c]\n"
    answer.1.keys = ["b"] ∧ answer.2.map Diagnostic.line = [1, 4, 6, 7] := by
  decide +kernel

end TerrainChess.Notation

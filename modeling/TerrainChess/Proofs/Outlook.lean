import TerrainChess.Classification

/-!
# What a mover sees

An encounter rule looks along its paths from the square on which the mover would
stand. Its answer depends on what the mover sees on the squares that these views
visit, and on nothing else of the position: `Position.judgeEncounter_congr`.
-/

set_option autoImplicit false

namespace TerrainChess

def Rule.outlooks : Rule → List ScopedPath
  | jump _ _ => []
  | finalTerrain _ => []
  | encounter _ paths => paths

def Piece.outlooks (piece : Piece) : List Path :=
  ((piece.template.rules.rules.flatMap Rule.outlooks).filter
    (fun outlook => outlook.side.admits piece.side)).map ScopedPath.path

theorem Piece.path_mem_outlooks {piece : Piece} {forbidden : Selector} {paths : List ScopedPath}
    (declared : Rule.encounter forbidden paths ∈ piece.template.rules.rules) {outlook : ScopedPath}
    (member : outlook ∈ paths) (admitted : outlook.side.admits piece.side = true) :
    outlook.path ∈ piece.outlooks := by
  have given : outlook ∈ piece.template.rules.rules.flatMap Rule.outlooks :=
    List.mem_flatMap.mpr ⟨_, declared, member⟩
  exact List.mem_map_of_mem (List.mem_filter.mpr ⟨given, admitted⟩)

theorem RuleSet.exists_of_get?_encounter {set : RuleSet} {rule : Rule}
    (found : set.get? .encounter = some rule) :
    ∃ forbidden paths, rule = .encounter forbidden paths ∧
      Rule.encounter forbidden paths ∈ set.rules := by
  have member : rule ∈ set.rules := List.mem_of_find?_eq_some found
  have kind : rule.kind = .encounter := by simpa using List.find?_some found
  cases rule with
  | jump jumps eatOnlyOnLast => cases kind
  | finalTerrain allowed => cases kind
  | encounter forbidden paths => exact ⟨forbidden, paths, rfl, member⟩

namespace Position

/-!
## Views
-/

def seenAt (position : Position) (home square : Square) : Option Piece :=
  if square = home then none else position.pieceAt square

/-- Says whether a mover that would stand on a square sees an opposing piece of one of the names
along an outlook. -/
def sees (position : Position) (mover : Piece) (home : Square) (names : OrderedSet String)
    (square : Square) (outlook : ScopedPath) : Bool :=
  match position.firstOpponent mover.side home outlook.path square with
  | some opponent => decide (opponent.name ∈ names)
  | none => false

theorem judgeEncounter_listed (position : Position) (mover : Piece) (home : Square)
    (names : OrderedSet String) (paths : List ScopedPath) (square : Square) :
    position.judgeEncounter mover home (.listed names) paths square =
      if (paths.filter (fun outlook => outlook.side.admits mover.side)).any
          (position.sees mover home names square) then .notValid
      else .canCapture := by
  unfold judgeEncounter sees
  rfl

variable {position other : Position} {mover : Piece} {home away square : Square}
  {squares : List Square} {paths : List ScopedPath} {forbidden : Selector}
  {names : OrderedSet String} {outlook : ScopedPath}

theorem firstMet_cons (rest : List Square) :
    position.firstMet home (square :: rest) =
      if position.dims.Contains square then
        (position.seenAt home square).or (position.firstMet home rest)
      else none := by
  rw [firstMet, seenAt]
  split
  · split
    · rw [Option.none_or]
    · cases position.pieceAt square with
      | none => rw [Option.none_or]
      | some piece => rw [Option.some_or]
  · rfl

theorem firstMet_congr (dims : position.dims = other.dims)
    (same : ∀ square ∈ squares, position.seenAt home square = other.seenAt away square) :
    position.firstMet home squares = other.firstMet away squares := by
  induction squares with
  | nil => rfl
  | cons square rest ih =>
    have later := ih (fun further member => same further (List.mem_cons_of_mem _ member))
    rw [firstMet_cons, firstMet_cons, dims, same square List.mem_cons_self, later]

theorem sees_iff : position.sees mover home names square outlook = true ↔
    ∃ met, position.firstMet home (outlook.path.walk square) = some met ∧
      met.side ≠ mover.side ∧ met.name ∈ names := by
  unfold sees firstOpponent
  cases position.firstMet home (outlook.path.walk square) with
  | none => simp
  | some met =>
    rw [Option.filter_some]
    by_cases own : met.side = mover.side
    · simp [own]
    · simp [own]

theorem judgeEncounter_listed_eq_notValid_iff :
    position.judgeEncounter mover home (.listed names) paths square = .notValid ↔
      ∃ outlook ∈ paths, outlook.side.admits mover.side = true ∧
        position.sees mover home names square outlook = true := by
  simp [judgeEncounter_listed]

/-- The answer of an encounter rule depends only on what its views meet first. -/
theorem judgeEncounter_congr
    (views : ∀ outlook ∈ paths, outlook.side.admits mover.side = true →
      position.firstMet home (outlook.path.walk square) =
        other.firstMet away (outlook.path.walk square)) :
    position.judgeEncounter mover home forbidden paths square =
      other.judgeEncounter mover away forbidden paths square := by
  cases forbidden with
  | all => rfl
  | nothing => rfl
  | listed names =>
    have seen : ∀ outlook ∈ paths.filter (fun outlook => outlook.side.admits mover.side),
        position.sees mover home names square outlook =
          other.sees mover away names square outlook := by
      intro outlook kept
      obtain ⟨member, admitted⟩ := List.mem_filter.mp kept
      rw [Bool.eq_iff_iff, sees_iff, sees_iff, views outlook member admitted]
    have anySeen : (paths.filter (fun outlook => outlook.side.admits mover.side)).any
          (position.sees mover home names square) =
        (paths.filter (fun outlook => outlook.side.admits mover.side)).any
          (other.sees mover away names square) := by
      rw [Bool.eq_iff_iff, List.any_eq_true, List.any_eq_true]
      exact exists_congr (fun outlook => and_congr_right (fun kept => by rw [seen outlook kept]))
    rw [judgeEncounter_listed, judgeEncounter_listed, anySeen]

theorem encounterViolated_of_get?
    (declared : mover.template.rules.get? .encounter = some (.encounter forbidden paths)) :
    position.encounterViolated mover square = true ↔
      position.judgeEncounter mover square forbidden paths square = .notValid := by
  rw [encounterViolated, declared]
  exact decide_eq_true_iff

theorem encounterViolated_iff : position.encounterViolated mover square = true ↔
    ∃ forbidden paths, mover.template.rules.get? .encounter = some (.encounter forbidden paths) ∧
      position.judgeEncounter mover square forbidden paths square = .notValid := by
  cases found : mover.template.rules.get? .encounter with
  | none => simp [encounterViolated, found]
  | some rule =>
    obtain ⟨forbidden, paths, rfl, _⟩ := RuleSet.exists_of_get?_encounter found
    rw [encounterViolated_of_get? found]
    constructor
    · intro breaks
      exact ⟨forbidden, paths, rfl, breaks⟩
    · intro given
      obtain ⟨_, _, same, breaks⟩ := given
      cases same
      exact breaks

end Position

end TerrainChess

import TerrainChess.Proofs.Outlook
import TerrainChess.Proofs.Reflection.Geometry

/-!
# Reflected pieces

The reflection of a piece belongs to the other side. Its paths are negated, and
what only one side may use is for the other side; name, weight and the rules on
jumps and terrains stay. `Template.patternsOn_reflect` and
`RuleSet.byPriority_reflect` say that the reflected piece chooses the reflections
of the movements and of the rules that the piece chooses.
-/

set_option autoImplicit false

namespace TerrainChess

theorem Side.opponent_eq_iff {side other : Side} :
    side.opponent = other.opponent ↔ side = other := by
  cases side <;> cases other <;> decide

/-!
## Templates
-/

def SideScope.reflect : SideScope → SideScope
  | both => both
  | only side => only side.opponent

theorem SideScope.admits_reflect (scope : SideScope) (side : Side) :
    scope.reflect.admits side.opponent = scope.admits side := by
  cases scope with
  | both => rfl
  | only owner => exact decide_eq_decide.mpr Side.opponent_eq_iff

def MovementPattern.reflect (pattern : MovementPattern) : MovementPattern where
  tag := { pattern.tag with side := pattern.tag.side.reflect }
  paths := pattern.paths.map Path.negated

theorem MovementPattern.appliesTo_reflect (pattern : MovementPattern) (side : Side) :
    pattern.reflect.appliesTo side.opponent = pattern.appliesTo side :=
  SideScope.admits_reflect pattern.tag.side side

def ScopedPath.reflect (outlook : ScopedPath) : ScopedPath where
  side := outlook.side.reflect
  path := outlook.path.negated

namespace Rule

def reflect : Rule → Rule
  | jump jumps eatOnlyOnLast => jump jumps eatOnlyOnLast
  | finalTerrain allowed => finalTerrain allowed
  | encounter forbidden paths => encounter forbidden (paths.map ScopedPath.reflect)

theorem kind_reflect (rule : Rule) : rule.reflect.kind = rule.kind := by
  cases rule <;> rfl

theorem stage_reflect (rule : Rule) : rule.reflect.stage = rule.stage :=
  congrArg RuleKind.stage rule.kind_reflect

end Rule

namespace RuleSet

def reflect (set : RuleSet) : RuleSet where
  rules := set.rules.map Rule.reflect
  distinct := by
    rw [List.map_map, show Rule.kind ∘ Rule.reflect = Rule.kind from funext Rule.kind_reflect]
    exact set.distinct

theorem byPriority_reflect (set : RuleSet) :
    set.reflect.byPriority = set.byPriority.map Rule.reflect := by
  unfold byPriority reflect
  simp only [List.filter_map, Function.comp_def, Rule.stage_reflect, List.map_flatMap]

theorem get?_reflect (set : RuleSet) (kind : RuleKind) :
    set.reflect.get? kind = (set.get? kind).map Rule.reflect := by
  unfold get? reflect
  simp only [List.find?_map, Function.comp_def, Rule.kind_reflect]

end RuleSet

namespace Template

def reflect (template : Template) : Template :=
  { template with
    patterns := template.patterns.map MovementPattern.reflect
    rules := template.rules.reflect }

def IsShort (template : Template) : Prop :=
  (∀ pattern ∈ template.patterns, ∀ path ∈ pattern.paths, path.Short) ∧
    ∀ rule ∈ template.rules.rules, ∀ outlook ∈ rule.outlooks, outlook.path.Short

instance (template : Template) : Decidable template.IsShort := inferInstanceAs (Decidable (_ ∧ _))

theorem patternsOn_reflect (template : Template) (side : Side) (terrain : String) :
    template.reflect.patternsOn side.opponent terrain =
      (template.patternsOn side terrain).map MovementPattern.reflect := by
  have usable : template.reflect.patternsFor side.opponent =
      (template.patternsFor side).map MovementPattern.reflect := by
    unfold patternsFor reflect
    simp only [List.filter_map, Function.comp_def, MovementPattern.appliesTo_reflect]
  have chosen : ∀ keep : MovementPattern → Bool,
      (∀ pattern, keep (MovementPattern.reflect pattern) = keep pattern) →
        ((template.patternsFor side).map MovementPattern.reflect).filter keep =
          ((template.patternsFor side).filter keep).map MovementPattern.reflect := by
    intro keep same
    simp only [List.filter_map, Function.comp_def, same]
  unfold patternsOn
  dsimp only
  rw [usable, chosen _ (fun _ => rfl), chosen _ (fun _ => rfl), List.isEmpty_map]
  split <;> rfl

theorem mem_patterns_of_mem_patternsOn {template : Template} {side : Side} {terrain : String}
    {pattern : MovementPattern} (member : pattern ∈ template.patternsOn side terrain) :
    pattern ∈ template.patterns := by
  unfold patternsOn patternsFor at member
  dsimp only at member
  split at member
  · exact (List.mem_filter.mp (List.mem_filter.mp member).1).1
  · exact (List.mem_filter.mp (List.mem_filter.mp member).1).1

end Template

namespace Piece

def reflect (piece : Piece) : Piece where
  template := piece.template.reflect
  side := piece.side.opponent

theorem side_reflect (piece : Piece) : piece.reflect.side = piece.side.opponent := rfl

end Piece

/-!
## Sets of squares
-/

namespace SquareSet

def reflect (dims : Dims) (set : SquareSet) : SquareSet :=
  OrderedSet.ofList (set.toList.map dims.mirror)

variable {dims : Dims} {set : SquareSet}

theorem mem_reflect {target : Square} :
    target ∈ reflect dims set ↔ ∃ square ∈ set, dims.mirror square = target := by
  rw [reflect, OrderedSet.mem_ofList, List.mem_map]
  rfl

theorem mem_reflect_mirror {square : Square} (small : dims.Small)
    (inside : dims.Contains square) : dims.mirror square ∈ reflect dims set ↔ square ∈ set := by
  rw [mem_reflect]
  constructor
  · intro found
    obtain ⟨other, member, same⟩ := found
    rw [← (Dims.mirror_eq_iff small inside).mp same]
    exact member
  · intro member
    exact ⟨square, member, rfl⟩

theorem reflect_ofList (squares : List Square) :
    reflect dims (OrderedSet.ofList squares) = OrderedSet.ofList (squares.map dims.mirror) := by
  apply OrderedSet.ext
  intro target
  simp only [mem_reflect, OrderedSet.mem_ofList, List.mem_map]

theorem isEmpty_reflect : (reflect dims set).isEmpty = set.isEmpty := by
  rw [Bool.eq_iff_iff, OrderedSet.isEmpty_iff, OrderedSet.isEmpty_iff]
  constructor
  · intro none square member
    exact none _ (mem_reflect.mpr ⟨square, member, rfl⟩)
  · intro none target member
    obtain ⟨square, original, _⟩ := mem_reflect.mp member
    exact none square original

theorem filter_reflect (keep : Square → Bool) :
    (reflect dims set).filter keep =
      reflect dims (set.filter (fun square => keep (dims.mirror square))) := by
  apply OrderedSet.ext
  intro target
  simp only [OrderedSet.mem_filter, mem_reflect]
  constructor
  · intro found
    obtain ⟨⟨square, member, rfl⟩, kept⟩ := found
    exact ⟨square, ⟨member, kept⟩, rfl⟩
  · intro found
    obtain ⟨square, ⟨member, kept⟩, rfl⟩ := found
    exact ⟨⟨square, member, rfl⟩, kept⟩

end SquareSet

def Moves.reflect (dims : Dims) (moves : Moves) : Moves where
  legal := SquareSet.reflect dims moves.legal
  threatened := SquareSet.reflect dims moves.threatened
  threatensRoyal := moves.threatensRoyal

end TerrainChess

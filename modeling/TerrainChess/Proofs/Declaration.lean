import TerrainChess.Proofs.Grouping
import TerrainChess.Proofs.RuleSet
import TerrainChess.Proofs.Tiers

/-!
# Declarations up to order

A template is declared by a list of movements and a list of rules. Two templates
are interchangeable if their declarations say the same, in whatever order and how
often. They then offer the same movements to each side on each terrain, and their
complete sets of rules say the same: `Template.Interchangeable.offers_iff` and
`Template.Interchangeable.allAlike`.
-/

set_option autoImplicit false

namespace TerrainChess

/-!
## Rules
-/

namespace Rule

/-- Rules that say the same, the outlooks of an encounter standing in any order. -/
inductive Alike : Rule → Rule → Prop where
  | jump {jumps eatOnlyOnLast} : Alike (.jump jumps eatOnlyOnLast) (.jump jumps eatOnlyOnLast)
  | finalTerrain {allowed} : Alike (.finalTerrain allowed) (.finalTerrain allowed)
  | encounter {forbidden left right} :
      (∀ outlook, outlook ∈ left ↔ outlook ∈ right) →
      Alike (.encounter forbidden left) (.encounter forbidden right)

theorem Alike.refl (rule : Rule) : rule.Alike rule := by
  cases rule with
  | jump => exact .jump
  | finalTerrain => exact .finalTerrain
  | encounter => exact .encounter (fun _ => Iff.rfl)

theorem Alike.symm {left right : Rule} (alike : left.Alike right) : right.Alike left := by
  cases alike with
  | jump => exact .jump
  | finalTerrain => exact .finalTerrain
  | encounter same => exact .encounter (fun outlook => (same outlook).symm)

theorem Alike.kind_eq {left right : Rule} (alike : left.Alike right) : left.kind = right.kind := by
  cases alike <;> rfl

structure AllAlike (left right : List Rule) : Prop where
  forth : ∀ rule ∈ left, ∃ other ∈ right, rule.Alike other
  back : ∀ other ∈ right, ∃ rule ∈ left, rule.Alike other

theorem AllAlike.symm {left right : List Rule} (alike : AllAlike left right) :
    AllAlike right left where
  forth rule member := by
    obtain ⟨other, there, same⟩ := alike.back rule member
    exact ⟨other, there, same.symm⟩
  back rule member := by
    obtain ⟨other, there, same⟩ := alike.forth rule member
    exact ⟨other, there, same.symm⟩

end Rule

namespace RuleSet

variable {set left right : RuleSet} {kind : RuleKind} {rule : Rule}

def insertAll (set : RuleSet) (rules : List Rule) : Except RuleKind RuleSet :=
  rules.foldlM insert set

theorem rules_of_insertAll {next : RuleSet} {rules : List Rule}
    (accepted : set.insertAll rules = .ok next) : next.rules = set.rules ++ rules := by
  induction rules generalizing set with
  | nil =>
    cases accepted
    exact (List.append_nil _).symm
  | cons rule rest ih =>
    cases inserted : set.insert rule with
    | error refused =>
      rw [insertAll, List.foldlM_cons, inserted] at accepted
      cases accepted
    | ok middle =>
      rw [insertAll, List.foldlM_cons, inserted] at accepted
      rw [ih accepted, (insert_eq_ok_iff.mp inserted).2, List.append_assoc, List.singleton_append]

theorem get?_eq_some_iff :
    set.get? kind = some rule ↔ rule ∈ set.rules ∧ rule.kind = kind := by
  constructor
  · intro found
    exact ⟨List.mem_of_find?_eq_some found, by simpa using List.find?_some found⟩
  · rintro ⟨member, rfl⟩
    cases found : set.get? rule.kind with
    | none =>
      have absent := List.find?_eq_none.mp found rule member
      simp at absent
    | some other =>
      have same : other.kind = rule.kind := by simpa using List.find?_some found
      rw [eq_of_kind (List.mem_of_find?_eq_some found) member same]

theorem contains_of_allAlike (alike : Rule.AllAlike left.rules right.rules)
    (declared : left.contains kind = true) : right.contains kind = true := by
  obtain ⟨rule, member, rfl⟩ := contains_iff.mp declared
  obtain ⟨other, there, same⟩ := alike.forth rule member
  exact contains_iff.mpr ⟨other, there, same.kind_eq.symm⟩

end RuleSet

namespace Rule.AllAlike

variable {left right : RuleSet}

private theorem forth_supply (alike : AllAlike left.rules right.rules) (kind : RuleKind) :
    ∀ rule ∈ (left.supply kind).rules, ∃ other ∈ (right.supply kind).rules, rule.Alike other := by
  intro rule member
  rcases RuleSet.mem_supply.mp member with declared | ⟨missing, rfl⟩
  · obtain ⟨other, there, same⟩ := alike.forth rule declared
    exact ⟨other, RuleSet.mem_supply.mpr (Or.inl there), same⟩
  · have missingToo : right.contains kind = false := by
      rw [Bool.eq_false_iff] at missing ⊢
      exact fun declared => missing (RuleSet.contains_of_allAlike alike.symm declared)
    exact ⟨_, RuleSet.mem_supply.mpr (Or.inr ⟨missingToo, rfl⟩), .refl _⟩

theorem supply (alike : AllAlike left.rules right.rules) (kind : RuleKind) :
    AllAlike (left.supply kind).rules (right.supply kind).rules where
  forth := alike.forth_supply kind
  back other there := by
    obtain ⟨rule, member, same⟩ := alike.symm.forth_supply kind other there
    exact ⟨rule, member, same.symm⟩

theorem complete (alike : AllAlike left.rules right.rules) :
    AllAlike left.complete.rules right.complete.rules :=
  ((alike.supply .jump).supply .finalTerrain).supply .encounter

end Rule.AllAlike

/-!
## Movements
-/

/-- What is declared of a movement, whatever the type of the piece: its path, with the terrain, the
tiers and the sides for which it holds. -/
structure Declaration where
  terrain : String
  specification : Specification
  side : SideScope
  path : Path
deriving DecidableEq

def TaggedPath.declaration (movement : TaggedPath) : Declaration where
  terrain := movement.tag.terrain
  specification := movement.tag.specification
  side := movement.tag.side
  path := movement.path

namespace Template

def Offers (template : Template) (side : Side) (terrain : String)
    (specification : Specification) (path : Path) : Prop :=
  ∃ pattern, template.Selects side terrain pattern ∧
    pattern.tag.specification = specification ∧ path ∈ pattern.paths

structure DeclaredBy (template : Template) (movements : List TaggedPath) (rules : List Rule) :
    Prop where
  patterns : template.patterns = MovementPattern.group movements
  rules : ∃ filled, RuleSet.empty.insertAll rules = .ok filled ∧ template.rules = filled.complete

/-- Templates of one name, both royal or neither, whose declarations say the same: the movements in
any order and any number of times, the rules in any order. -/
structure Interchangeable (left right : Template) : Prop where
  name : left.name = right.name
  royal : left.royal = right.royal
  declared : ∃ movements otherMovements rules otherRules,
    left.DeclaredBy movements rules ∧ right.DeclaredBy otherMovements otherRules ∧
      (∀ declaration, declaration ∈ movements.map TaggedPath.declaration ↔
        declaration ∈ otherMovements.map TaggedPath.declaration) ∧
      Rule.AllAlike rules otherRules

variable {template left right : Template} {movements : List TaggedPath} {rules : List Rule}
  {side : Side} {terrain : String} {specification : Specification} {path : Path}

theorem DeclaredBy.isComplete (declared : template.DeclaredBy movements rules) :
    template.rules.IsComplete := by
  obtain ⟨filled, _, same⟩ := declared.rules
  rw [same]
  exact filled.isComplete_complete

/-- The patterns on a terrain are read off the declared movements. -/
theorem DeclaredBy.offers_iff (declared : template.DeclaredBy movements rules) :
    template.Offers side terrain specification path ↔
      ∃ declaration ∈ movements.map TaggedPath.declaration,
        declaration.side.admits side = true ∧
        (declaration.terrain = terrain ∨ declaration.terrain = defaultTerrain ∧
          ∀ other ∈ movements.map TaggedPath.declaration,
            other.side.admits side = true → other.terrain ≠ terrain) ∧
        declaration.specification = specification ∧ declaration.path = path := by
  have collects : MovementPattern.Collects movements template.patterns :=
    declared.patterns ▸ MovementPattern.collects_group movements
  have undeclared : (∀ other ∈ movements.map TaggedPath.declaration,
        other.side.admits side = true → other.terrain ≠ terrain) ↔
      ∀ other ∈ template.patterns, other.appliesTo side = true → other.tag.terrain ≠ terrain := by
    constructor
    · intro absent pattern member applies
      obtain ⟨movement, given, same⟩ := collects.exists_movement member
      have apart := absent _ (List.mem_map_of_mem given)
      simp only [TaggedPath.declaration, same] at apart
      exact apart applies
    · intro absent other given admits
      obtain ⟨movement, member, rfl⟩ := List.mem_map.mp given
      obtain ⟨pattern, there, same⟩ := List.mem_map.mp (collects.covered movement member)
      have apart := absent pattern there
      simp only [MovementPattern.appliesTo, same] at apart
      exact apart admits
  rw [undeclared]
  constructor
  · rintro ⟨pattern, ⟨member, applies, here⟩, rfl, tried⟩
    have given := (collects.mem_paths_iff member).mp tried
    exact ⟨_, List.mem_map_of_mem given, applies, here, rfl, rfl⟩
  · rintro ⟨_, given, admits, here, rfl, rfl⟩
    obtain ⟨movement, member, rfl⟩ := List.mem_map.mp given
    obtain ⟨pattern, there, same⟩ := List.mem_map.mp (collects.covered movement member)
    have tried : movement.path ∈ pattern.paths := by
      rw [collects.mem_paths_iff there, same]
      exact member
    refine ⟨pattern, ⟨there, ?_, ?_⟩, ?_, tried⟩
    · rw [MovementPattern.appliesTo, same]
      exact admits
    · rw [same]
      exact here
    · rw [same]
      rfl

namespace Interchangeable

theorem symm (alike : left.Interchangeable right) : right.Interchangeable left := by
  obtain ⟨movements, others, rules, otherRules, declared, again, same, allAlike⟩ := alike.declared
  exact
    { name := alike.name.symm
      royal := alike.royal.symm
      declared := ⟨others, movements, otherRules, rules, again, declared,
        fun declaration => (same declaration).symm, allAlike.symm⟩ }

/-- Each side finds the same movements on each terrain. -/
theorem offers_iff (alike : left.Interchangeable right) :
    left.Offers side terrain specification path ↔
      right.Offers side terrain specification path := by
  obtain ⟨_, _, _, _, declared, again, same, _⟩ := alike.declared
  rw [declared.offers_iff, again.offers_iff]
  simp only [same]

theorem allAlike (alike : left.Interchangeable right) :
    Rule.AllAlike left.rules.rules right.rules.rules := by
  obtain ⟨_, _, _, _, declared, again, _, rules⟩ := alike.declared
  obtain ⟨filled, accepted, same⟩ := declared.rules
  obtain ⟨otherFilled, otherAccepted, otherSame⟩ := again.rules
  rw [same, otherSame]
  refine Rule.AllAlike.complete ?_
  rw [RuleSet.rules_of_insertAll accepted, RuleSet.rules_of_insertAll otherAccepted]
  exact rules

theorem isComplete (alike : left.Interchangeable right) : left.rules.IsComplete := by
  obtain ⟨_, _, _, _, declared, _⟩ := alike.declared
  exact declared.isComplete

end Interchangeable

end Template

end TerrainChess

import Mathlib.Data.List.Nodup
import TerrainChess.Rule

/-!
# Complete sets of rules

Completing a set of rules gives it a rule of every kind: `isComplete_complete`. No
set has two rules of one kind, and so a completed set has exactly one rule of each
kind: `count_kind_complete`.
-/

set_option autoImplicit false

namespace TerrainChess

namespace RuleSet

def IsComplete (set : RuleSet) : Prop := ∀ kind, set.contains kind = true

theorem mem_all_kinds (kind : RuleKind) : kind ∈ RuleKind.all := by
  cases kind <;> decide

instance (set : RuleSet) : Decidable set.IsComplete :=
  decidable_of_iff (∀ kind ∈ RuleKind.all, set.contains kind = true)
    ⟨fun holds kind => holds kind (mem_all_kinds kind), fun holds kind _ => holds kind⟩

theorem mem_supply {set : RuleSet} {kind : RuleKind} {rule : Rule} :
    rule ∈ (set.supply kind).rules ↔
      rule ∈ set.rules ∨ set.contains kind = false ∧ rule = Rule.default kind := by
  unfold supply
  split
  · next declared => simp [declared]
  · next missing => simp [missing, append]

theorem contains_supply_of_contains {set : RuleSet} {kind : RuleKind}
    (declared : set.contains kind = true) (other : RuleKind) :
    (set.supply other).contains kind = true := by
  obtain ⟨rule, member, same⟩ := contains_iff.mp declared
  exact contains_iff.mpr ⟨rule, mem_supply.mpr (Or.inl member), same⟩

theorem contains_supply_self (set : RuleSet) (kind : RuleKind) :
    (set.supply kind).contains kind = true := by
  cases declared : set.contains kind with
  | true => exact contains_supply_of_contains declared kind
  | false =>
    exact contains_iff.mpr
      ⟨Rule.default kind, mem_supply.mpr (Or.inr ⟨declared, rfl⟩), Rule.kind_default kind⟩

theorem isComplete_complete (set : RuleSet) : set.complete.IsComplete := by
  intro kind
  have last := contains_supply_self ((set.supply .jump).supply .finalTerrain) .encounter
  have middle := contains_supply_self (set.supply .jump) .finalTerrain
  have first := contains_supply_self set .jump
  cases kind with
  | jump => exact contains_supply_of_contains (contains_supply_of_contains first _) _
  | finalTerrain => exact contains_supply_of_contains middle _
  | encounter => exact last

theorem mem_byPriority {set : RuleSet} {rule : Rule} :
    rule ∈ set.byPriority ↔ rule ∈ set.rules := by
  unfold byPriority
  simp only [List.mem_flatMap, List.mem_filter, decide_eq_true_eq]
  constructor
  · intro given
    obtain ⟨_, _, member, _⟩ := given
    exact member
  · intro member
    refine ⟨rule.stage, ?_, member, rfl⟩
    cases rule.stage <;> decide

/-!
## One rule of each kind
-/

theorem eq_of_kind {set : RuleSet} {rule other : Rule} (member : rule ∈ set.rules)
    (again : other ∈ set.rules) (same : rule.kind = other.kind) : rule = other :=
  List.inj_on_of_nodup_map set.distinct member again same

theorem insert_eq_ok_iff {set next : RuleSet} {rule : Rule} :
    set.insert rule = .ok next ↔
      set.contains rule.kind = false ∧ next.rules = set.rules ++ [rule] := by
  unfold insert
  split
  · next declared =>
      simp only [declared, Bool.true_eq_false, false_and, reduceCtorEq]
  · next fresh =>
      rw [Bool.not_eq_true] at fresh
      simp only [fresh, true_and, Except.ok.injEq, RuleSet.ext_iff, append]
      exact eq_comm

/-- What holds of the declared rules and of the default rules holds after completion. -/
theorem forall_complete {set : RuleSet} {holds : Rule → Prop}
    (declared : ∀ rule ∈ set.rules, holds rule) (supplied : ∀ kind, holds (Rule.default kind)) :
    ∀ rule ∈ set.complete.rules, holds rule := by
  have preserved : ∀ (current : RuleSet) kind, (∀ rule ∈ current.rules, holds rule) →
      ∀ rule ∈ (current.supply kind).rules, holds rule := by
    intro current kind before rule member
    rcases mem_supply.mp member with old | ⟨_, new⟩
    · exact before rule old
    · rw [new]
      exact supplied kind
  exact preserved _ .encounter (preserved _ .finalTerrain (preserved _ .jump declared))

/-- A completed set has exactly one rule of each kind. -/
theorem count_kind_complete (set : RuleSet) (kind : RuleKind) :
    (set.complete.rules.map Rule.kind).count kind = 1 := by
  obtain ⟨rule, member, same⟩ := contains_iff.mp (isComplete_complete set kind)
  have present : kind ∈ set.complete.rules.map Rule.kind := List.mem_map.mpr ⟨rule, member, same⟩
  exact Nat.le_antisymm (List.nodup_iff_count.mp set.complete.distinct kind)
    (List.count_pos_iff.mpr present)

end RuleSet

end TerrainChess

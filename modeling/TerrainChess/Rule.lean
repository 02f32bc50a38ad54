import TerrainChess.Ordered.Set
import TerrainChess.Pattern
import TerrainChess.Text.Order

/-!
# Movement rules

There are three kinds of rules, and each kind has its stage. A piece obeys one
rule of each kind; a kind that is not declared has a default rule.
-/

set_option autoImplicit false

namespace TerrainChess

/-- The moments at which a movement is judged, in their order. -/
inductive Stage where
  | initial
  | traveling
  | final
deriving DecidableEq

namespace Stage

def all : List Stage := [initial, traveling, final]

def rank : Stage → Nat
  | initial => 0
  | traveling => 1
  | final => 2

end Stage

inductive RuleKind where
  | jump
  | finalTerrain
  | encounter
deriving DecidableEq

namespace RuleKind

/-- The kinds in the order in which missing rules are supplied. -/
def all : List RuleKind := [jump, finalTerrain, encounter]

def keyword : RuleKind → String
  | jump => "jump"
  | finalTerrain => "final_position"
  | encounter => "cannot_encounter"

def ofKeyword? (word : String) : Option RuleKind :=
  all.find? (fun kind => kind.keyword = word)

def stage : RuleKind → Stage
  | jump => .traveling
  | finalTerrain => .final
  | encounter => .final

end RuleKind

inductive Selector where
  | all
  | nothing
  | listed (names : OrderedSet String)
deriving DecidableEq

namespace Selector

def allWord : String := "ALL"

def noneWord : String := "NONE"

/-- The choice that a list of names and of the two words makes: the word for all names wins, then
the word for none. -/
def ofNames (names : List String) : Selector :=
  if allWord ∈ names then all
  else if noneWord ∈ names then nothing
  else listed (OrderedSet.ofList names)

end Selector

/-- A path with the sides that look along it. -/
structure ScopedPath where
  side : SideScope
  path : Path
deriving DecidableEq

inductive Rule where
  /-- How many pieces a movement passes, and whether a capture must be behind the last of them. -/
  | jump (jumps : UInt32) (eatOnlyOnLast : Bool)
  /-- The terrains on which a movement may end. -/
  | finalTerrain (allowed : Selector)
  /-- The types of opposing pieces that may not be seen first along the paths. -/
  | encounter (forbidden : Selector) (paths : List ScopedPath)
deriving DecidableEq

namespace Rule

def kind : Rule → RuleKind
  | jump _ _ => .jump
  | finalTerrain _ => .finalTerrain
  | encounter _ _ => .encounter

def stage (rule : Rule) : Stage := rule.kind.stage

/-- The rule of a kind that is not declared: no piece is passed, every terrain is allowed, and no
encounter is forbidden. -/
def default : RuleKind → Rule
  | .jump => jump 0 false
  | .finalTerrain => finalTerrain .all
  | .encounter => encounter .nothing []

@[simp] theorem kind_default (kind : RuleKind) : (default kind).kind = kind := by
  cases kind <;> rfl

end Rule

/-- The rules of a piece in the order of their declaration, at most one of each kind. -/
@[ext] structure RuleSet where
  rules : List Rule
  distinct : (rules.map Rule.kind).Nodup
deriving DecidableEq

namespace RuleSet

def empty : RuleSet := ⟨[], .nil⟩

def get? (set : RuleSet) (kind : RuleKind) : Option Rule :=
  set.rules.find? (fun rule => rule.kind = kind)

def contains (set : RuleSet) (kind : RuleKind) : Bool :=
  set.rules.any (fun rule => rule.kind = kind)

theorem contains_iff {set : RuleSet} {kind : RuleKind} :
    set.contains kind = true ↔ ∃ rule ∈ set.rules, rule.kind = kind := by
  simp only [contains, List.any_eq_true, decide_eq_true_eq]

def append (set : RuleSet) (rule : Rule) (fresh : ¬ set.contains rule.kind = true) : RuleSet where
  rules := set.rules ++ [rule]
  distinct := by
    rw [List.map_append, List.map_singleton, List.nodup_append]
    refine ⟨set.distinct, List.pairwise_singleton _ _, ?_⟩
    intro kind declared other new same
    obtain ⟨old, member, rfl⟩ := List.mem_map.mp declared
    exact fresh (contains_iff.mpr ⟨old, member, same.trans (List.mem_singleton.mp new)⟩)

/-- Declares a rule. A second rule of a kind is refused, and the kind is the reason. -/
def insert (set : RuleSet) (rule : Rule) : Except RuleKind RuleSet :=
  if declared : set.contains rule.kind = true then .error rule.kind
  else .ok (set.append rule declared)

def supply (set : RuleSet) (kind : RuleKind) : RuleSet :=
  if declared : set.contains kind = true then set
  else set.append (Rule.default kind) (by rwa [Rule.kind_default])

/-- Supplies the default rules of all kinds without one. -/
def complete (set : RuleSet) : RuleSet := RuleKind.all.foldl supply set

def defaults : RuleSet := empty.complete

def size (set : RuleSet) : Nat := set.rules.length

def isEmpty (set : RuleSet) : Bool := set.rules.isEmpty

/-- The rules by stage, and by declaration within a stage. -/
def byPriority (set : RuleSet) : List Rule :=
  Stage.all.flatMap (fun stage => set.rules.filter (fun rule => rule.stage = stage))

end RuleSet

end TerrainChess

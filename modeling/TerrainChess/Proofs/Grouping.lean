import Mathlib.Data.List.Nodup
import Mathlib.Data.List.Induction
import TerrainChess.Pattern

/-!
# Grouping movements by tag

The patterns that `MovementPattern.group` makes have different tags, and each of
them holds the paths of its tag in the order of the input: `collects_group`.
Adding one movement either extends the one pattern of its tag or opens a new
last pattern, and both keep that relation between movements and patterns.

The patterns hold nothing else than the movements, in an order that leaves the
movements of each tag as they were, and grouping them once more gives the same
patterns: `group_stable`.
-/

set_option autoImplicit false

namespace TerrainChess.MovementPattern

def pathsOf (tag : MovementTag) (movements : List TaggedPath) : List Path :=
  (movements.filter (fun movement => decide (movement.tag = tag))).map TaggedPath.path

theorem mem_pathsOf {tag : MovementTag} {movements : List TaggedPath} {path : Path} :
    path ∈ pathsOf tag movements ↔ ⟨tag, path⟩ ∈ movements := by
  simp only [pathsOf, List.mem_map, List.mem_filter, decide_eq_true_eq]
  constructor
  · intro given
    obtain ⟨movement, ⟨member, rfl⟩, rfl⟩ := given
    exact member
  · intro member
    exact ⟨⟨tag, path⟩, ⟨member, rfl⟩, rfl⟩

theorem pathsOf_append_self (movements : List TaggedPath) (movement : TaggedPath) :
    pathsOf movement.tag (movements ++ [movement]) =
      pathsOf movement.tag movements ++ [movement.path] := by
  simp [pathsOf]

theorem pathsOf_append_of_ne {movements : List TaggedPath} {movement : TaggedPath}
    {tag : MovementTag} (different : movement.tag ≠ tag) :
    pathsOf tag (movements ++ [movement]) = pathsOf tag movements := by
  simp [pathsOf, different]

/-- A movement opens a new last pattern, or extends the first pattern of its tag. -/
theorem add_cases (movement : TaggedPath) (patterns : List MovementPattern) :
    movement.tag ∉ patterns.map tag ∧
        add movement patterns = patterns ++ [⟨movement.tag, [movement.path]⟩] ∨
      ∃ front paths back, patterns = front ++ ⟨movement.tag, paths⟩ :: back ∧
        add movement patterns = front ++ ⟨movement.tag, paths ++ [movement.path]⟩ :: back := by
  induction patterns with
  | nil => exact Or.inl ⟨List.not_mem_nil, rfl⟩
  | cons pattern rest ih =>
    unfold add
    by_cases same : pattern.tag = movement.tag
    · rw [if_pos same]
      exact Or.inr ⟨[], pattern.paths, rest, by rw [← same]; rfl, by rw [← same]; rfl⟩
    · rw [if_neg same]
      rcases ih with ⟨fresh, added⟩ | ⟨front, paths, back, split, added⟩
      · refine Or.inl ⟨?_, by rw [added]; rfl⟩
        rw [List.map_cons, List.mem_cons, not_or]
        exact ⟨Ne.symm same, fresh⟩
      · exact Or.inr ⟨pattern :: front, paths, back, by rw [split]; rfl, by rw [added]; rfl⟩

/-- A tag that occurs once stands in no pattern before or behind its own. -/
theorem not_mem_of_nodup {front back : List MovementPattern} {pattern : MovementPattern}
    (distinct : ((front ++ pattern :: back).map tag).Nodup) :
    pattern.tag ∉ front.map tag ∧ pattern.tag ∉ back.map tag := by
  rw [List.map_append, List.map_cons, List.nodup_middle, List.nodup_cons, List.mem_append,
    not_or] at distinct
  exact distinct.1

/-- Patterns of different tags that hold exactly the paths of some movements. -/
structure Collects (movements : List TaggedPath) (patterns : List MovementPattern) : Prop where
  distinct : (patterns.map tag).Nodup
  paths_eq : ∀ pattern ∈ patterns, pattern.paths = pathsOf pattern.tag movements
  inhabited : ∀ pattern ∈ patterns, pattern.paths ≠ []
  covered : ∀ movement ∈ movements, movement.tag ∈ patterns.map tag

namespace Collects

variable {movements : List TaggedPath} {patterns : List MovementPattern}

theorem append_fresh (collects : Collects movements patterns) {movement : TaggedPath}
    (fresh : movement.tag ∉ patterns.map tag) :
    Collects (movements ++ [movement]) (patterns ++ [⟨movement.tag, [movement.path]⟩]) := by
  have nothing : pathsOf movement.tag movements = [] := by
    rw [List.eq_nil_iff_forall_not_mem]
    intro path member
    exact fresh (collects.covered ⟨movement.tag, path⟩ (mem_pathsOf.mp member))
  refine ⟨?_, ?_, ?_, ?_⟩
  · rw [List.map_append, List.map_singleton, List.nodup_middle, List.append_nil]
    exact List.nodup_cons.mpr ⟨fresh, collects.distinct⟩
  · intro pattern member
    rcases List.mem_append.mp member with old | new
    · have different : movement.tag ≠ pattern.tag := fun same =>
        fresh (same ▸ List.mem_map_of_mem old)
      rw [pathsOf_append_of_ne different]
      exact collects.paths_eq pattern old
    · rw [List.mem_singleton.mp new, pathsOf_append_self, nothing, List.nil_append]
  · intro pattern member
    rcases List.mem_append.mp member with old | new
    · exact collects.inhabited pattern old
    · rw [List.mem_singleton.mp new]
      exact List.cons_ne_nil _ _
  · intro other member
    rw [List.map_append, List.mem_append]
    rcases List.mem_append.mp member with old | new
    · exact Or.inl (collects.covered other old)
    · rw [List.mem_singleton.mp new]
      exact Or.inr (List.mem_singleton.mpr rfl)

theorem extend {front back : List MovementPattern} {movement : TaggedPath} {paths : List Path}
    (collects : Collects movements (front ++ ⟨movement.tag, paths⟩ :: back)) :
    Collects (movements ++ [movement])
      (front ++ ⟨movement.tag, paths ++ [movement.path]⟩ :: back) := by
  obtain ⟨distinct, paths_eq, inhabited, covered⟩ := collects
  have extended : (⟨movement.tag, paths⟩ : MovementPattern) ∈
      front ++ ⟨movement.tag, paths⟩ :: back := by simp
  have tags : (front ++ ⟨movement.tag, paths ++ [movement.path]⟩ :: back).map tag =
      (front ++ ⟨movement.tag, paths⟩ :: back).map tag := by simp
  have members : ∀ pattern ∈ front ++ ⟨movement.tag, paths ++ [movement.path]⟩ :: back,
      pattern = ⟨movement.tag, paths ++ [movement.path]⟩ ∨
        pattern ∈ front ++ ⟨movement.tag, paths⟩ :: back ∧ movement.tag ≠ pattern.tag := by
    obtain ⟨front_differs, back_differs⟩ := not_mem_of_nodup distinct
    have differs : ∀ {others : List MovementPattern}, movement.tag ∉ others.map tag →
        ∀ pattern ∈ others, movement.tag ≠ pattern.tag :=
      fun absent pattern member same => absent (List.mem_map.mpr ⟨pattern, member, same.symm⟩)
    intro pattern member
    rw [List.mem_append, List.mem_cons] at member ⊢
    rcases member with before | here | behind
    · exact Or.inr ⟨Or.inl before, differs front_differs pattern before⟩
    · exact Or.inl here
    · exact Or.inr ⟨Or.inr (Or.inr behind), differs back_differs pattern behind⟩
  refine ⟨tags ▸ distinct, ?_, ?_, ?_⟩
  · intro pattern member
    rcases members pattern member with rfl | ⟨old, different⟩
    · rw [pathsOf_append_self, ← paths_eq _ extended]
    · rw [pathsOf_append_of_ne different]
      exact paths_eq pattern old
  · intro pattern member
    rcases members pattern member with rfl | ⟨old, _⟩
    · exact List.append_ne_nil_of_right_ne_nil _ (List.cons_ne_nil _ _)
    · exact inhabited pattern old
  · intro other member
    rw [tags]
    rcases List.mem_append.mp member with old | new
    · exact covered other old
    · rw [List.mem_singleton.mp new]
      exact List.mem_map_of_mem extended

theorem add (collects : Collects movements patterns) (movement : TaggedPath) :
    Collects (movements ++ [movement]) (add movement patterns) := by
  rcases add_cases movement patterns with ⟨fresh, added⟩ | ⟨front, paths, back, rfl, added⟩
  · rw [added]
    exact collects.append_fresh fresh
  · rw [added]
    exact collects.extend

theorem foldl_add (collects : Collects movements patterns) (later : List TaggedPath) :
    Collects (movements ++ later)
      (later.foldl (fun current movement => MovementPattern.add movement current) patterns) := by
  induction later generalizing movements patterns with
  | nil => rwa [List.append_nil]
  | cons movement rest ih =>
    rw [List.append_cons]
    exact ih (collects.add movement)

theorem mem_paths_iff (collects : Collects movements patterns) {pattern : MovementPattern}
    (member : pattern ∈ patterns) {path : Path} :
    path ∈ pattern.paths ↔ ⟨pattern.tag, path⟩ ∈ movements := by
  rw [collects.paths_eq pattern member, mem_pathsOf]

theorem exists_movement (collects : Collects movements patterns) {pattern : MovementPattern}
    (member : pattern ∈ patterns) : ∃ movement ∈ movements, movement.tag = pattern.tag := by
  obtain ⟨path, found⟩ := List.exists_mem_of_ne_nil _ (collects.inhabited pattern member)
  exact ⟨⟨pattern.tag, path⟩, (collects.mem_paths_iff member).mp found, rfl⟩

end Collects

theorem collects_group (movements : List TaggedPath) : Collects movements (group movements) := by
  have nothing : Collects [] [] := ⟨List.nodup_nil, by simp, by simp, by simp⟩
  exact nothing.foldl_add movements

/-!
## The order of the patterns
-/

theorem group_append_singleton (movements : List TaggedPath) (movement : TaggedPath) :
    group (movements ++ [movement]) = add movement (group movements) := by
  rw [group, group, List.foldl_append, List.foldl_cons, List.foldl_nil]

theorem tags_add (movement : TaggedPath) (patterns : List MovementPattern) :
    (add movement patterns).map tag =
      if movement.tag ∈ patterns.map tag then patterns.map tag
      else patterns.map tag ++ [movement.tag] := by
  rcases add_cases movement patterns with ⟨fresh, added⟩ | ⟨front, paths, back, rfl, added⟩
  · rw [if_neg fresh, added, List.map_append, List.map_singleton]
  · have known : movement.tag ∈ (front ++ ⟨movement.tag, paths⟩ :: back).map tag := by simp
    rw [if_pos known, added, List.map_append, List.map_append, List.map_cons, List.map_cons]

theorem eraseDups_append_singleton {Value : Type} [DecidableEq Value] (values : List Value)
    (value : Value) : (values ++ [value]).eraseDups =
      if value ∈ values.eraseDups then values.eraseDups else values.eraseDups ++ [value] := by
  rw [List.eraseDups_append, List.cons_removeAll, List.nil_removeAll]
  by_cases known : value ∈ values
  · have contained : values.contains value ≠ false := by simp [known]
    rw [if_pos (List.mem_eraseDups.mpr known), if_neg contained, List.eraseDups_nil,
      List.append_nil]
  · have missing : values.contains value = false := by simp [known]
    rw [if_neg (mt List.mem_eraseDups.mp known), if_pos missing, List.eraseDups_cons]
    rfl

/-- The tags of the patterns are those of the movements, each where it first occurs. -/
theorem tags_group (movements : List TaggedPath) :
    (group movements).map tag = (movements.map TaggedPath.tag).eraseDups := by
  induction movements using List.reverseRecOn with
  | nil => rfl
  | append_singleton earlier movement ih =>
    rw [group_append_singleton, tags_add, ih, List.map_append, List.map_singleton,
      eraseDups_append_singleton]

/-!
## Movements of patterns
-/

def ungroup (patterns : List MovementPattern) : List TaggedPath :=
  patterns.flatMap taggedPaths

def withTag (tag : MovementTag) (movements : List TaggedPath) : List TaggedPath :=
  movements.filter (fun movement => decide (movement.tag = tag))

theorem withTag_append (tag : MovementTag) (front back : List TaggedPath) :
    withTag tag (front ++ back) = withTag tag front ++ withTag tag back :=
  List.filter_append front back

theorem withTag_taggedPaths (pattern : MovementPattern) :
    withTag pattern.tag pattern.taggedPaths = pattern.taggedPaths := by
  rw [withTag, List.filter_eq_self]
  intro movement member
  obtain ⟨path, _, rfl⟩ := List.mem_map.mp member
  exact decide_eq_true rfl

theorem withTag_eq_nil {tag : MovementTag} {movements : List TaggedPath}
    (absent : ∀ movement ∈ movements, movement.tag ≠ tag) : withTag tag movements = [] := by
  rw [withTag, List.filter_eq_nil_iff]
  intro movement member
  rw [decide_eq_true_eq]
  exact absent movement member

theorem withTag_ungroup_of_not_mem {tag : MovementTag} {patterns : List MovementPattern}
    (absent : tag ∉ patterns.map MovementPattern.tag) : withTag tag (ungroup patterns) = [] := by
  apply withTag_eq_nil
  intro movement member same
  obtain ⟨pattern, found, held⟩ := List.mem_flatMap.mp member
  obtain ⟨path, _, rfl⟩ := List.mem_map.mp held
  exact absent (List.mem_map.mpr ⟨pattern, found, same⟩)

/-- The movements with a tag are the paths of that tag under it. -/
theorem taggedPaths_pathsOf (tag : MovementTag) (movements : List TaggedPath) :
    taggedPaths ⟨tag, pathsOf tag movements⟩ = withTag tag movements := by
  have same : ∀ movement ∈ withTag tag movements,
      (⟨tag, movement.path⟩ : TaggedPath) = movement := by
    intro movement member
    rw [← of_decide_eq_true (List.mem_filter.mp member).2]
  calc taggedPaths ⟨tag, pathsOf tag movements⟩
      = (withTag tag movements).map (fun movement => ⟨tag, movement.path⟩) := List.map_map
    _ = (withTag tag movements).map id := List.map_congr_left same
    _ = withTag tag movements := List.map_id _

namespace Collects

variable {movements : List TaggedPath} {patterns : List MovementPattern}

/-- The movements of a tag stand in its pattern, and in no other one. -/
theorem withTag_ungroup (collects : Collects movements patterns) (tag : MovementTag) :
    withTag tag (ungroup patterns) = withTag tag movements := by
  by_cases known : tag ∈ patterns.map MovementPattern.tag
  · obtain ⟨pattern, member, rfl⟩ := List.mem_map.mp known
    have paths := collects.paths_eq pattern member
    obtain ⟨front, back, rfl⟩ := List.append_of_mem member
    obtain ⟨before, behind⟩ := not_mem_of_nodup collects.distinct
    calc withTag pattern.tag (ungroup (front ++ pattern :: back))
        = withTag pattern.tag (ungroup front) ++ withTag pattern.tag pattern.taggedPaths ++
            withTag pattern.tag (ungroup back) := by
          rw [ungroup, List.flatMap_append, List.flatMap_cons, withTag_append, withTag_append,
            List.append_assoc]
          rfl
      _ = pattern.taggedPaths := by
          rw [withTag_ungroup_of_not_mem before, withTag_ungroup_of_not_mem behind,
            withTag_taggedPaths, List.nil_append, List.append_nil]
      _ = withTag pattern.tag movements := by
          rw [← taggedPaths_pathsOf, ← paths]
  · rw [withTag_ungroup_of_not_mem known, withTag_eq_nil]
    intro movement member same
    exact known (same ▸ collects.covered movement member)

theorem ungroup_perm (collects : Collects movements patterns) :
    (ungroup patterns).Perm movements := by
  rw [List.perm_iff_count]
  intro movement
  have counted : ∀ list, (withTag movement.tag list).count movement = list.count movement :=
    fun list => List.count_filter (decide_eq_true rfl)
  rw [← counted, collects.withTag_ungroup, counted]

end Collects

/-!
## Grouping patterns again
-/

theorem add_append_of_not_mem {movement : TaggedPath} {front : List MovementPattern}
    (fresh : movement.tag ∉ front.map tag) (back : List MovementPattern) :
    add movement (front ++ back) = front ++ add movement back := by
  induction front with
  | nil => rfl
  | cons pattern rest ih =>
    rw [List.map_cons, List.mem_cons, not_or] at fresh
    rw [List.cons_append, add, if_neg (Ne.symm fresh.1), ih fresh.2, List.cons_append]

/-- Movements of one tag that is new form the last pattern. -/
theorem group_append_taggedPaths {movements : List TaggedPath} {tag : MovementTag}
    (fresh : tag ∉ (group movements).map MovementPattern.tag) {paths : List Path}
    (nonempty : paths ≠ []) :
    group (movements ++ taggedPaths ⟨tag, paths⟩) = group movements ++ [⟨tag, paths⟩] := by
  induction paths using List.reverseRecOn with
  | nil => exact absurd rfl nonempty
  | append_singleton earlier path ih =>
    have last : taggedPaths ⟨tag, earlier ++ [path]⟩ =
        taggedPaths ⟨tag, earlier⟩ ++ [⟨tag, path⟩] := List.map_append
    rw [last, ← List.append_assoc, group_append_singleton]
    by_cases first : earlier = []
    · have opened : add ⟨tag, path⟩ (group movements ++ []) = group movements ++ [⟨tag, [path]⟩] :=
        add_append_of_not_mem fresh []
      rw [List.append_nil] at opened
      rw [first, taggedPaths, List.map_nil, List.append_nil, opened, List.nil_append]
    · rw [ih first, add_append_of_not_mem fresh, add, if_pos rfl]

/-- Patterns of different tags with at least one path each are what their movements are grouped
into. -/
theorem group_ungroup {patterns : List MovementPattern} (distinct : (patterns.map tag).Nodup)
    (inhabited : ∀ pattern ∈ patterns, pattern.paths ≠ []) :
    group (ungroup patterns) = patterns := by
  induction patterns using List.reverseRecOn with
  | nil => rfl
  | append_singleton front last ih =>
    obtain ⟨fresh, _⟩ := not_mem_of_nodup distinct
    rw [List.map_append] at distinct
    have grouped : group (ungroup front) = front :=
      ih distinct.of_append_left
        (fun pattern member => inhabited pattern (List.mem_append_left _ member))
    have appended : ungroup (front ++ [last]) = ungroup front ++ last.taggedPaths := by
      rw [ungroup, List.flatMap_append, List.flatMap_singleton, ← ungroup]
    have lastFresh : last.tag ∉ (group (ungroup front)).map tag := by rwa [grouped]
    rw [appended, group_append_taggedPaths lastFresh (inhabited last (by simp)), grouped]

/-- Grouping is a stable partition by tag. The patterns have different tags, in the order in which
the tags first occur among the movements. Each pattern holds exactly the paths of its tag, in their
order and as often as they occur, and at least one. Listed pattern by pattern, the movements are a
rearrangement of the given ones that leaves the movements of each tag in their order, and they are
grouped into the same patterns again. -/
theorem group_stable (movements : List TaggedPath) :
    ((group movements).map tag).Nodup ∧
      (group movements).map tag = (movements.map TaggedPath.tag).eraseDups ∧
      (∀ pattern ∈ group movements,
        pattern.paths = pathsOf pattern.tag movements ∧ pattern.paths ≠ []) ∧
      (ungroup (group movements)).Perm movements ∧
      (∀ tag, withTag tag (ungroup (group movements)) = withTag tag movements) ∧
      group (ungroup (group movements)) = group movements := by
  have collects := collects_group movements
  refine ⟨collects.distinct, tags_group movements, ?_, collects.ungroup_perm,
    collects.withTag_ungroup, group_ungroup collects.distinct collects.inhabited⟩
  intro pattern member
  exact ⟨collects.paths_eq pattern member, collects.inhabited pattern member⟩

/-- Movements of three tags in turn, which differ in the terrain or in the tiers alone. -/
theorem group_stable_interleaved :
    let plain : MovementTag := ⟨"rook", defaultTerrain, .standard, .both⟩
    let river : MovementTag := ⟨"rook", "river", .standard, .both⟩
    let spare : MovementTag := ⟨"rook", defaultTerrain, .alternate, .both⟩
    let near := Path.single ⟨1, 0⟩
    let far := Path.single ⟨2, 0⟩
    let movements : List TaggedPath :=
      [⟨plain, near⟩, ⟨river, far⟩, ⟨plain, far⟩, ⟨spare, near⟩, ⟨plain, near⟩]
    let pattern : MovementPattern := ⟨plain, [near, far, near]⟩
    pattern ∈ group movements ∧
      (pattern.paths = pathsOf plain movements ∧ pattern.paths ≠ []) ∧
      (movements.map TaggedPath.tag).eraseDups = [plain, river, spare] ∧
      (group movements).map tag = [plain, river, spare] ∧
      ungroup (group movements) ≠ movements ∧ (ungroup (group movements)).Perm movements ∧
      group (ungroup (group movements)) = group movements := by
  intro plain river spare near far movements pattern
  obtain ⟨_, order, held, rearranged, _, again⟩ := group_stable movements
  have member : pattern ∈ group movements := by decide +kernel
  have tags : (movements.map TaggedPath.tag).eraseDups = [plain, river, spare] := by decide +kernel
  exact ⟨member, held pattern member, tags, order.trans tags, by decide +kernel, rearranged, again⟩

end TerrainChess.MovementPattern

import TerrainChess.Ordered.Key

/-!
# Finite sets in key order

A set is the strictly increasing list of its members. Listing the members is
therefore sorted and free of repetitions. The view is membership: two sets with
the same members are equal, and there is one lemma for each way to make a set.
-/

set_option autoImplicit false

namespace TerrainChess

/-- A finite set, held as the strictly increasing list of its members. -/
structure OrderedSet (κ : Type) [KeyOrder κ] where
  toList : List κ
  increasing : toList.Pairwise (fun first second => KeyOrder.before first second = true)

namespace OrderedSet

variable {κ : Type} [KeyOrder κ]

instance : Membership κ (OrderedSet κ) := ⟨fun set key => key ∈ set.toList⟩

instance [DecidableEq κ] (key : κ) (set : OrderedSet κ) : Decidable (key ∈ set) :=
  inferInstanceAs (Decidable (key ∈ set.toList))

instance [DecidableEq κ] : DecidableEq (OrderedSet κ) := fun left right =>
  if same : left.toList = right.toList then
    isTrue (by cases left; cases right; cases same; rfl)
  else
    isFalse (fun equal => same (congrArg toList equal))

def empty : OrderedSet κ := ⟨[], .nil⟩

instance : EmptyCollection (OrderedSet κ) := ⟨empty⟩

instance : Inhabited (OrderedSet κ) := ⟨empty⟩

def isEmpty (set : OrderedSet κ) : Bool := set.toList.isEmpty

def size (set : OrderedSet κ) : Nat := set.toList.length

def insertInto (key : κ) : List κ → List κ
  | [] => [key]
  | head :: rest =>
    if KeyOrder.before key head then key :: head :: rest
    else if KeyOrder.before head key then head :: insertInto key rest
    else head :: rest

theorem mem_insertInto {key other : κ} {keys : List κ} :
    other ∈ insertInto key keys ↔ other = key ∨ other ∈ keys := by
  induction keys with
  | nil => simp [insertInto]
  | cons head rest ih =>
    unfold insertInto
    split
    · simp
    · split
      · simp only [List.mem_cons, ih]
        constructor
        · intro given
          rcases given with here | here | there
          · exact Or.inr (Or.inl here)
          · exact Or.inl here
          · exact Or.inr (Or.inr there)
        · intro given
          rcases given with here | here | there
          · exact Or.inr (Or.inl here)
          · exact Or.inl here
          · exact Or.inr (Or.inr there)
      · next notBefore notAfter =>
        have same : key = head :=
          KeyOrder.eq_of_not_before (by simpa using notBefore) (by simpa using notAfter)
        subst same
        simp

theorem pairwise_insertInto {key : κ} {keys : List κ}
    (increasing : keys.Pairwise (fun first second => KeyOrder.before first second = true)) :
    (insertInto key keys).Pairwise (fun first second => KeyOrder.before first second = true) := by
  induction keys with
  | nil => simp [insertInto]
  | cons head rest ih =>
    rw [List.pairwise_cons] at increasing
    unfold insertInto
    split
    · next ascending =>
      rw [List.pairwise_cons, List.pairwise_cons]
      refine ⟨?_, increasing⟩
      intro other member
      rcases List.mem_cons.mp member with here | there
      · rw [here]
        exact ascending
      · exact KeyOrder.transitive ascending (increasing.1 other there)
    · split
      · next descending =>
        rw [List.pairwise_cons]
        refine ⟨?_, ih increasing.2⟩
        intro other member
        rcases mem_insertInto.mp member with here | there
        · rw [here]
          exact descending
        · exact increasing.1 other there
      · rw [List.pairwise_cons]
        exact increasing

def insert (key : κ) (set : OrderedSet κ) : OrderedSet κ :=
  ⟨insertInto key set.toList, pairwise_insertInto set.increasing⟩

def filter (keep : κ → Bool) (set : OrderedSet κ) : OrderedSet κ :=
  ⟨set.toList.filter keep, set.increasing.filter keep⟩

def ofList (keys : List κ) : OrderedSet κ :=
  keys.foldl (fun set key => set.insert key) empty

def union (left right : OrderedSet κ) : OrderedSet κ :=
  right.toList.foldl (fun set key => set.insert key) left

def unions (sets : List (OrderedSet κ)) : OrderedSet κ :=
  sets.foldl union empty

@[simp] theorem not_mem_empty (key : κ) : key ∉ (∅ : OrderedSet κ) := List.not_mem_nil

@[simp] theorem mem_insert {key other : κ} {set : OrderedSet κ} :
    other ∈ set.insert key ↔ other = key ∨ other ∈ set := mem_insertInto

@[simp] theorem mem_filter {key : κ} {keep : κ → Bool} {set : OrderedSet κ} :
    key ∈ set.filter keep ↔ key ∈ set ∧ keep key = true := List.mem_filter

theorem mem_foldl_insert {key : κ} {keys : List κ} {set : OrderedSet κ} :
    key ∈ keys.foldl (fun set key => set.insert key) set ↔ key ∈ set ∨ key ∈ keys := by
  induction keys generalizing set with
  | nil => simp
  | cons head rest ih =>
    rw [List.foldl_cons, ih, mem_insert, List.mem_cons]
    constructor
    · intro given
      rcases given with (here | old) | there
      · exact Or.inr (Or.inl here)
      · exact Or.inl old
      · exact Or.inr (Or.inr there)
    · intro given
      rcases given with old | here | there
      · exact Or.inl (Or.inr old)
      · exact Or.inl (Or.inl here)
      · exact Or.inr there

@[simp] theorem mem_ofList {key : κ} {keys : List κ} : key ∈ ofList keys ↔ key ∈ keys := by
  rw [ofList, mem_foldl_insert]
  exact or_iff_right (not_mem_empty key)

@[simp] theorem mem_union {key : κ} {left right : OrderedSet κ} :
    key ∈ left.union right ↔ key ∈ left ∨ key ∈ right := mem_foldl_insert

private theorem mem_foldl_union {key : κ} {sets : List (OrderedSet κ)} {first : OrderedSet κ} :
    key ∈ sets.foldl union first ↔ key ∈ first ∨ ∃ set ∈ sets, key ∈ set := by
  induction sets generalizing first with
  | nil => simp
  | cons head rest ih => simp [ih, or_assoc]

theorem mem_unions {key : κ} {sets : List (OrderedSet κ)} :
    key ∈ unions sets ↔ ∃ set ∈ sets, key ∈ set := by
  rw [unions, mem_foldl_union]
  exact or_iff_right (not_mem_empty key)

theorem isEmpty_iff {set : OrderedSet κ} : set.isEmpty = true ↔ ∀ key, key ∉ set := by
  rw [isEmpty, List.isEmpty_iff, List.eq_nil_iff_forall_not_mem]
  exact Iff.rfl

private theorem eq_of_same_members {left right : List κ}
    (leftIncreasing : left.Pairwise (fun first second => KeyOrder.before first second = true))
    (rightIncreasing : right.Pairwise (fun first second => KeyOrder.before first second = true))
    (same : ∀ key, key ∈ left ↔ key ∈ right) : left = right := by
  induction left generalizing right with
  | nil =>
    cases right with
    | nil => rfl
    | cons head rest =>
      have member := (same head).mpr List.mem_cons_self
      cases member
  | cons leftHead leftRest ih =>
    cases right with
    | nil =>
      have member := (same leftHead).mp List.mem_cons_self
      cases member
    | cons rightHead rightRest =>
      rw [List.pairwise_cons] at leftIncreasing rightIncreasing
      have heads : leftHead = rightHead := by
        rcases List.mem_cons.mp ((same leftHead).mp List.mem_cons_self) with here | there
        · exact here
        · rcases List.mem_cons.mp ((same rightHead).mpr List.mem_cons_self) with back | further
          · exact back.symm
          · have descending := rightIncreasing.1 leftHead there
            have ascending := leftIncreasing.1 rightHead further
            rw [KeyOrder.asymmetric ascending] at descending
            cases descending
      subst heads
      have rests : leftRest = rightRest := by
        refine ih leftIncreasing.2 rightIncreasing.2 (fun key => ?_)
        constructor
        · intro member
          rcases List.mem_cons.mp ((same key).mp (List.mem_cons_of_mem _ member)) with here | there
          · exact absurd here.symm (KeyOrder.ne_of_before (leftIncreasing.1 key member))
          · exact there
        · intro member
          rcases List.mem_cons.mp ((same key).mpr (List.mem_cons_of_mem _ member)) with here | there
          · exact absurd here.symm (KeyOrder.ne_of_before (rightIncreasing.1 key member))
          · exact there
      rw [rests]

/-- Sets with the same members are equal. -/
theorem ext {left right : OrderedSet κ} (same : ∀ key, key ∈ left ↔ key ∈ right) :
    left = right := by
  have lists := eq_of_same_members left.increasing right.increasing same
  cases left
  cases right
  cases lists
  rfl

end OrderedSet

end TerrainChess

import TerrainChess.Ordered.Key

/-!
# Finite maps in key order

A map is a list of entries whose keys strictly increase, so that its entries are
listed in key order and each key occurs once. Its view is `get?`: `get?_insert`
says what an insertion changes, and `get?_eq_some_iff` that nothing else is found.
-/

set_option autoImplicit false

namespace TerrainChess

/-- A finite map, held as its entries in strictly increasing key order. -/
structure OrderedMap (κ : Type) [KeyOrder κ] (α : Type) where
  entries : List (κ × α)
  increasing : entries.Pairwise (fun first second => KeyOrder.before first.1 second.1 = true)

namespace OrderedMap

variable {κ α : Type} [KeyOrder κ]

instance [DecidableEq κ] [DecidableEq α] : DecidableEq (OrderedMap κ α) := fun left right =>
  if same : left.entries = right.entries then
    isTrue (by cases left; cases right; cases same; rfl)
  else
    isFalse (fun equal => same (congrArg entries equal))

def empty : OrderedMap κ α := ⟨[], .nil⟩

instance : EmptyCollection (OrderedMap κ α) := ⟨empty⟩

instance : Inhabited (OrderedMap κ α) := ⟨empty⟩

def size (map : OrderedMap κ α) : Nat := map.entries.length

def values (map : OrderedMap κ α) : List α := map.entries.map Prod.snd

def keys (map : OrderedMap κ α) : List κ := map.entries.map Prod.fst

def get? [DecidableEq κ] (map : OrderedMap κ α) (key : κ) : Option α :=
  (map.entries.find? (fun entry => entry.1 = key)).map Prod.snd

def contains [DecidableEq κ] (map : OrderedMap κ α) (key : κ) : Bool :=
  (map.get? key).isSome

/-- Puts an entry into its place of an increasing list, replacing the entry of an equal key. -/
def insertInto (key : κ) (value : α) : List (κ × α) → List (κ × α)
  | [] => [(key, value)]
  | head :: rest =>
    if KeyOrder.before key head.1 then (key, value) :: head :: rest
    else if KeyOrder.before head.1 key then head :: insertInto key value rest
    else (key, value) :: rest

theorem key_of_mem_insertInto {key : κ} {value : α} {entry : κ × α} {entries : List (κ × α)}
    (member : entry ∈ insertInto key value entries) : entry = (key, value) ∨ entry ∈ entries := by
  induction entries with
  | nil => exact Or.inl (by simpa [insertInto] using member)
  | cons head rest ih =>
    unfold insertInto at member
    split at member
    · exact List.mem_cons.mp member
    · split at member
      · rcases List.mem_cons.mp member with here | there
        · exact Or.inr (here ▸ List.mem_cons_self)
        · rcases ih there with new | old
          · exact Or.inl new
          · exact Or.inr (List.mem_cons_of_mem _ old)
      · rcases List.mem_cons.mp member with here | there
        · exact Or.inl here
        · exact Or.inr (List.mem_cons_of_mem _ there)

theorem pairwise_insertInto {key : κ} {value : α} {entries : List (κ × α)}
    (increasing : entries.Pairwise
      (fun first second => KeyOrder.before first.1 second.1 = true)) :
    (insertInto key value entries).Pairwise
      (fun first second => KeyOrder.before first.1 second.1 = true) := by
  induction entries with
  | nil => simp [insertInto]
  | cons head rest ih =>
    rw [List.pairwise_cons] at increasing
    unfold insertInto
    split
    · next ascending =>
      rw [List.pairwise_cons, List.pairwise_cons]
      refine ⟨?_, increasing⟩
      intro other member
      rcases List.mem_cons.mp member with here | there
      · rw [here]
        exact ascending
      · exact KeyOrder.transitive ascending (increasing.1 other there)
    · split
      · next descending =>
        rw [List.pairwise_cons]
        refine ⟨?_, ih increasing.2⟩
        intro other member
        rcases key_of_mem_insertInto member with new | old
        · rw [new]
          exact descending
        · exact increasing.1 other old
      · next notBefore notAfter =>
        have same : key = head.1 :=
          KeyOrder.eq_of_not_before (by simpa using notBefore) (by simpa using notAfter)
        rw [List.pairwise_cons]
        refine ⟨?_, increasing.2⟩
        intro other member
        rw [same]
        exact increasing.1 other member

private theorem exists_insertInto {key : κ} {value : α} {entries : List (κ × α)}
    (fresh : ∀ entry ∈ entries, entry.1 ≠ key) :
    ∃ front back, entries = front ++ back ∧
      insertInto key value entries = front ++ (key, value) :: back := by
  induction entries with
  | nil => exact ⟨[], [], rfl, rfl⟩
  | cons head rest ih =>
    unfold insertInto
    split
    · exact ⟨[], head :: rest, rfl, rfl⟩
    · next notBefore =>
      split
      · obtain ⟨front, back, parts, inserted⟩ :=
          ih (fun entry member => fresh entry (List.mem_cons_of_mem _ member))
        exact ⟨head :: front, back, congrArg (List.cons head) parts,
          congrArg (List.cons head) inserted⟩
      · next notAfter =>
        have same : key = head.1 :=
          KeyOrder.eq_of_not_before (by simpa using notBefore) (by simpa using notAfter)
        exact absurd same.symm (fresh head List.mem_cons_self)

def insert (map : OrderedMap κ α) (key : κ) (value : α) : OrderedMap κ α :=
  ⟨insertInto key value map.entries, pairwise_insertInto map.increasing⟩

def erase [DecidableEq κ] (map : OrderedMap κ α) (key : κ) : OrderedMap κ α :=
  ⟨map.entries.filter (fun entry => decide (entry.1 ≠ key)), map.increasing.filter _⟩

section Lookup

variable [DecidableEq κ]

private theorem find?_insertInto {key other : κ} {value : α} {entries : List (κ × α)} :
    (insertInto key value entries).find? (fun entry => entry.1 = other) =
      if other = key then some (key, value) else entries.find? (fun entry => entry.1 = other) := by
  induction entries with
  | nil =>
    by_cases same : other = key
    · simp [insertInto, same]
    · simp [insertInto, same, Ne.symm same]
  | cons head rest ih =>
    unfold insertInto
    split
    · by_cases same : other = key
      · simp [same]
      · rw [if_neg same, List.find?_cons_of_neg (by simpa using Ne.symm same)]
    · next notBefore =>
      split
      · next after =>
        have different : head.1 ≠ key := KeyOrder.ne_of_before after
        by_cases here : head.1 = other
        · have apart : other ≠ key := here ▸ different
          rw [if_neg apart, List.find?_cons_of_pos (by simpa using here),
            List.find?_cons_of_pos (by simpa using here)]
        · rw [List.find?_cons_of_neg (by simpa using here), ih,
            List.find?_cons_of_neg (by simpa using here)]
      · next notAfter =>
        have equal : key = head.1 :=
          KeyOrder.eq_of_not_before (by simpa using notBefore) (by simpa using notAfter)
        by_cases same : other = key
        · simp [same]
        · have apart : head.1 ≠ other := fun back => same (back.symm.trans equal.symm)
          rw [if_neg same, List.find?_cons_of_neg (by simpa using Ne.symm same),
            List.find?_cons_of_neg (by simpa using apart)]

theorem get?_insert {map : OrderedMap κ α} {key other : κ} {value : α} :
    (map.insert key value).get? other = if other = key then some value else map.get? other := by
  unfold get? insert
  rw [find?_insertInto]
  split <;> rfl

theorem get?_erase {map : OrderedMap κ α} {key other : κ} :
    (map.erase key).get? other = if other = key then none else map.get? other := by
  unfold get? erase
  rw [List.find?_filter]
  by_cases here : other = key
  · rw [if_pos here, List.find?_eq_none.mpr (by simp [here]), Option.map_none]
  · have kept : ∀ entry : κ × α, entry.1 ≠ key ∧ entry.1 = other ↔ entry.1 = other :=
      fun entry => and_iff_right_of_imp (fun there => there ▸ here)
    simp only [if_neg here, decide_eq_true_eq, kept]

private theorem find?_eq_some_iff {entries : List (κ × α)}
    (increasing : entries.Pairwise
      (fun first second => KeyOrder.before first.1 second.1 = true))
    {key : κ} {value : α} :
    entries.find? (fun entry => entry.1 = key) = some (key, value) ↔ (key, value) ∈ entries := by
  induction entries with
  | nil => simp
  | cons head rest ih =>
    rw [List.pairwise_cons] at increasing
    by_cases here : head.1 = key
    · rw [List.find?_cons_of_pos (by simpa using here), Option.some.injEq, List.mem_cons]
      constructor
      · intro same
        exact Or.inl same.symm
      · intro given
        rcases given with same | later
        · exact same.symm
        · exact absurd here (KeyOrder.ne_of_before (increasing.1 _ later))
    · rw [List.find?_cons_of_neg (by simpa using here), ih increasing.2, List.mem_cons]
      constructor
      · exact Or.inr
      · intro given
        rcases given with same | later
        · exact absurd (congrArg Prod.fst same).symm here
        · exact later

/-- A look-up finds exactly the entries of the map. -/
theorem get?_eq_some_iff {map : OrderedMap κ α} {key : κ} {value : α} :
    map.get? key = some value ↔ (key, value) ∈ map.entries := by
  rw [← find?_eq_some_iff map.increasing, get?, Option.map_eq_some_iff]
  constructor
  · intro given
    obtain ⟨entry, found, same⟩ := given
    have keyed : entry.1 = key := by simpa using List.find?_some found
    rw [found, ← keyed, ← same]
  · intro found
    exact ⟨(key, value), found, rfl⟩

/-- A new key is put between entries that stay as they are. -/
theorem exists_values_insert {map : OrderedMap κ α} {key : κ} (fresh : map.get? key = none)
    (value : α) : ∃ front back, map.values = front ++ back ∧
      (map.insert key value).values = front ++ value :: back := by
  have absent : ∀ entry ∈ map.entries, entry.1 ≠ key := by
    rintro ⟨other, old⟩ member rfl
    rw [get?_eq_some_iff.mpr member] at fresh
    cases fresh
  obtain ⟨front, back, parts, inserted⟩ := exists_insertInto absent
  refine ⟨front.map Prod.snd, back.map Prod.snd, ?_, ?_⟩
  · rw [values, parts, List.map_append]
  · show (insertInto key value map.entries).map Prod.snd = _
    rw [inserted, List.map_append, List.map_cons]

/-- Maps in which the same is found are equal. -/
theorem ext {left right : OrderedMap κ α} (same : ∀ key, left.get? key = right.get? key) :
    left = right := by
  have nodup : ∀ map : OrderedMap κ α, map.entries.Nodup := fun map => map.increasing.imp
    (fun ascending equal => KeyOrder.ne_of_before ascending (congrArg Prod.fst equal))
  have members : left.entries.Perm right.entries := by
    refine (List.perm_ext_iff_of_nodup (nodup left) (nodup right)).mpr ?_
    rintro ⟨key, value⟩
    rw [← get?_eq_some_iff, ← get?_eq_some_iff, same]
  have entries : left.entries = right.entries := by
    refine members.eq_of_pairwise ?_ left.increasing right.increasing
    intro first second _ _ ascending descending
    rw [KeyOrder.asymmetric ascending] at descending
    cases descending
  cases left
  cases right
  cases entries
  rfl

/-- Entries under different keys may be put in either order. -/
theorem insert_comm {map : OrderedMap κ α} {first second : κ} (different : first ≠ second)
    (one two : α) :
    (map.insert first one).insert second two = (map.insert second two).insert first one := by
  apply ext
  intro key
  rw [get?_insert, get?_insert, get?_insert, get?_insert]
  by_cases here : key = first
  · rw [if_pos here, if_pos here, if_neg (fun there => different (here.symm.trans there))]
  · rw [if_neg here, if_neg here]
end Lookup

end OrderedMap

end TerrainChess

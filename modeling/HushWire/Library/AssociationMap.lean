import Mathlib.Data.List.AList

/-!
# Association maps with an unspecified iteration order

A hash map is represented by a duplicate-free association list.  Its list
order stands for the iteration order of the map, which callers may not rely
on.  Besides Mathlib's keyed operations, a map can be filtered by value and
searched by value; the search returns the first match in iteration order.

`SameEntries` relates two maps that differ in iteration order only.  Every
operation respects it, and a search whose match is unique does not observe
the order at all.
-/

/-- A finite map from `α` to `β`; the list order is the iteration order. -/
abbrev AssociationMap (α β : Type) : Type :=
  AList fun _ : α => β

namespace AssociationMap

variable {α β : Type} [DecidableEq α]

/-- Drop every entry whose value is not kept. -/
def retain
    (keep : β → Bool)
    (map : AssociationMap α β) :
    AssociationMap α β where
  entries :=
    map.entries.filter fun entry => keep entry.2
  nodupKeys :=
    map.nodupKeys.sublist List.filter_sublist

/-- The first entry, in iteration order, whose value is selected. -/
def findFirst?
    (select : β → Bool)
    (map : AssociationMap α β) :
    Option (α × β) :=
  (map.entries.find? fun entry => select entry.2).map
    fun entry => (entry.1, entry.2)

/-- Membership of an entry is a successful lookup of its key. -/
theorem mem_entries_iff_lookup
    {map : AssociationMap α β}
    {key : α}
    {value : β} :
    (⟨key, value⟩ : Sigma fun _ : α => β) ∈ map.entries ↔
      map.lookup key = some value :=
  (AList.mem_lookup_iff (s := map) (a := key) (b := value)).symm

/-- Filtering by value filters every lookup. -/
@[simp] theorem lookup_retain
    (keep : β → Bool)
    (map : AssociationMap α β)
    (key : α) :
    (retain keep map).lookup key = (map.lookup key).filter keep := by
  apply Option.ext
  intro value
  rw [Option.filter_eq_some_iff, ← mem_entries_iff_lookup,
    ← mem_entries_iff_lookup]
  exact List.mem_filter

/-- A found entry is stored under its key and is selected. -/
theorem findFirst?_some
    {select : β → Bool}
    {map : AssociationMap α β}
    {key : α}
    {value : β}
    (found : findFirst? select map = some (key, value)) :
    map.lookup key = some value ∧ select value = true := by
  simp only [findFirst?, Option.map_eq_some_iff, Prod.mk.injEq] at found
  obtain ⟨entry, foundEntry, rfl, rfl⟩ := found
  have selected : select entry.2 = true := by
    simpa using List.find?_some foundEntry
  exact ⟨mem_entries_iff_lookup.mp (List.mem_of_find?_eq_some foundEntry),
    selected⟩

/-- Nothing is found exactly when no stored value is selected. -/
theorem findFirst?_eq_none
    {select : β → Bool}
    {map : AssociationMap α β} :
    findFirst? select map = none ↔
      ∀ key value, map.lookup key = some value → select value = false := by
  simp only [findFirst?, Option.map_eq_none_iff, List.find?_eq_none]
  constructor
  · intro noEntry key value stored
    exact Bool.eq_false_iff.mpr
      (noEntry ⟨key, value⟩ (mem_entries_iff_lookup.mpr stored))
  · rintro noValue ⟨key, value⟩ member
    exact Bool.eq_false_iff.mp
      (noValue key value (mem_entries_iff_lookup.mp member))

/-- A search with exactly one selected entry finds that entry. -/
theorem findFirst?_of_unique
    {select : β → Bool}
    {map : AssociationMap α β}
    {key : α}
    {value : β}
    (stored : map.lookup key = some value)
    (selected : select value = true)
    (unique :
      ∀ otherKey otherValue,
        map.lookup otherKey = some otherValue →
        select otherValue = true →
        otherKey = key) :
    findFirst? select map = some (key, value) := by
  cases found : findFirst? select map with
  | none =>
      have unselected := findFirst?_eq_none.mp found key value stored
      simp [selected] at unselected
  | some entry =>
      obtain ⟨foundKey, foundValue⟩ := entry
      obtain ⟨foundStored, foundSelected⟩ := findFirst?_some found
      have sameKey := unique foundKey foundValue foundStored foundSelected
      subst foundKey
      rw [stored, Option.some.injEq] at foundStored
      rw [foundStored]

/-- A new entry that is erased again leaves the map as it was. -/
theorem erase_insert_of_notMem
    {map : AssociationMap α β}
    {key : α}
    (value : β)
    (isNew : key ∉ map) :
    (map.insert key value).erase key = map := by
  apply AList.ext
  change ((map.insert key value).entries).kerase key = map.entries
  rw [AList.entries_insert_of_notMem isNew]
  exact List.kerase_cons_eq rfl

/-- Two maps with the same entries in possibly different iteration orders. -/
def SameEntries (first second : AssociationMap α β) : Prop :=
  first.entries.Perm second.entries

namespace SameEntries

omit [DecidableEq α] in
theorem refl (map : AssociationMap α β) : SameEntries map map :=
  List.Perm.refl _

/-- Lookups do not observe the iteration order. -/
theorem lookup_eq
    {first second : AssociationMap α β}
    (same : SameEntries first second)
    (key : α) :
    first.lookup key = second.lookup key :=
  AList.perm_lookup same

theorem insert
    {first second : AssociationMap α β}
    (same : SameEntries first second)
    (key : α)
    (value : β) :
    SameEntries (first.insert key value) (second.insert key value) :=
  AList.perm_insert same

theorem erase
    {first second : AssociationMap α β}
    (same : SameEntries first second)
    (key : α) :
    SameEntries (first.erase key) (second.erase key) :=
  AList.perm_erase same

omit [DecidableEq α] in
theorem retain
    {first second : AssociationMap α β}
    (same : SameEntries first second)
    (keep : β → Bool) :
    SameEntries
      (AssociationMap.retain keep first)
      (AssociationMap.retain keep second) :=
  List.Perm.filter _ same

/-- A search that selects at most one key does not observe the order. -/
theorem findFirst?_eq
    {first second : AssociationMap α β}
    (same : SameEntries first second)
    {select : β → Bool}
    (unique :
      ∀ firstKey firstValue secondKey secondValue,
        first.lookup firstKey = some firstValue →
        first.lookup secondKey = some secondValue →
        select firstValue = true →
        select secondValue = true →
        firstKey = secondKey) :
    findFirst? select first = findFirst? select second := by
  cases found : findFirst? select first with
  | none =>
      symm
      rw [findFirst?_eq_none] at found ⊢
      intro key value stored
      exact found key value (same.lookup_eq key ▸ stored)
  | some entry =>
      obtain ⟨key, value⟩ := entry
      obtain ⟨stored, selected⟩ := findFirst?_some found
      symm
      apply findFirst?_of_unique (same.lookup_eq key ▸ stored) selected
      intro otherKey otherValue otherStored otherSelected
      rw [← same.lookup_eq otherKey] at otherStored
      exact unique otherKey otherValue key value
        otherStored stored otherSelected selected

end SameEntries

end AssociationMap

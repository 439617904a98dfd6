import HushWire.Library.AssociationMap
import Mathlib.Data.Finset.Card

/-!
# Association maps whose keys are known

A map whose keys all are among finitely many known ones has no more entries
than there are known keys.
-/

namespace AssociationMap

variable {α β : Type} [DecidableEq α]

/-- Every key is one of the known ones. -/
def Within (map : AssociationMap α β) (known : Finset α) : Prop :=
  ∀ key ∈ map, key ∈ known

namespace Within

variable
  {map : AssociationMap α β}
  {known : Finset α}
  {key : α}
  {value : β}

omit [DecidableEq α] in
theorem empty : Within (∅ : AssociationMap α β) known :=
  fun key member => absurd member (AList.notMem_empty key)

theorem of_lookup
    (within : map.Within known)
    (stored : map.lookup key = some value) :
    key ∈ known := by
  apply within
  rw [← AList.lookup_isSome, stored]
  rfl

theorem of_findFirst?
    {select : β → Bool}
    (within : map.Within known)
    (found : map.findFirst? select = some (key, value)) :
    key ∈ known :=
  within.of_lookup (findFirst?_some found).1

theorem insert
    (within : map.Within known)
    (isKnown : key ∈ known)
    (value : β) :
    Within (map.insert key value) known := by
  intro stored member
  rcases (AList.mem_insert map).mp member with rfl | earlier
  · exact isKnown
  · exact within stored earlier

theorem erase (within : map.Within known) (key : α) :
    Within (map.erase key) known :=
  fun stored member => within stored (AList.mem_erase.mp member).2

theorem retain (within : map.Within known) (keep : β → Bool) :
    Within (map.retain keep) known := by
  intro key member
  obtain ⟨value, isKept⟩ :=
    Option.isSome_iff_exists.mp (AList.lookup_isSome.mpr member)
  rw [lookup_retain, Option.filter_eq_some_iff] at isKept
  exact within.of_lookup isKept.1

/-- There are no more entries than known keys. -/
theorem length_le (within : map.Within known) :
    map.entries.length ≤ known.card := by
  have isSubset : map.keys.toFinset ⊆ known := fun key member =>
    within key (List.mem_toFinset.mp member)
  calc
    map.entries.length = map.keys.length := (List.length_map _).symm
    _ = map.keys.toFinset.card :=
      (List.toFinset_card_of_nodup map.keys_nodup).symm
    _ ≤ known.card := Finset.card_le_card isSubset

end Within

end AssociationMap

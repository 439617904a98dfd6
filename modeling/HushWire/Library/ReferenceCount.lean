import Mathlib.Data.List.Perm.Subperm
import Mathlib.Logic.Function.Basic

/-!
# Reference counts

Each of arbitrarily many processes holds one value or none.  `Holders` says how
many of them hold a value, and `Holders.update` how this changes when one of
them holds something else.
-/

namespace ReferenceCount

variable {Process Value : Type} {held : Process → Option Value}

/-- So many processes hold the value. -/
def Holders
    (held : Process → Option Value)
    (value : Value)
    (count : Nat) :
    Prop :=
  ∃ holders : List Process,
    holders.Nodup ∧
      (∀ process, process ∈ holders ↔ held process = some value) ∧
      holders.length = count

namespace Holders

variable {value : Value} {count : Nat}

theorem of_none (free : ∀ process, held process ≠ some value) :
    Holders held value 0 :=
  ⟨[], List.nodup_nil, fun process => by simp [free process], rfl⟩

/-- A value is held by someone where the count is not zero. -/
theorem ne_zero_iff (holders : Holders held value count) :
    count ≠ 0 ↔ ∃ process, held process = some value := by
  obtain ⟨list, _, isHolder, rfl⟩ := holders
  rw [← Nat.pos_iff_ne_zero, List.length_pos_iff_exists_mem]
  exact exists_congr isHolder

/-- A process holds something else than before. -/
theorem update
    [DecidableEq Process]
    [DecidableEq Value]
    (holders : Holders held value count)
    (process : Process)
    (next : Option Value) :
    Holders (Function.update held process next) value
      (count + (if next = some value then 1 else 0) -
        (if held process = some value then 1 else 0)) := by
  obtain ⟨list, distinct, isHolder, rfl⟩ := holders
  have others {other : Process} (differs : other ≠ process) :
      other ∈ list ↔ Function.update held process next other = some value := by
    rw [Function.update_of_ne differs]
    exact isHolder other
  by_cases holds : held process = some value
  · have member := (isHolder process).mpr holds
    by_cases holdsNext : next = some value
    · refine ⟨list, distinct, fun other => ?_, by simp [holds, holdsNext]⟩
      by_cases same : other = process
      · subst same
        simpa [holdsNext] using member
      · exact others same
    · refine
        ⟨list.erase process, distinct.erase process, fun other => ?_,
          by simp [holds, holdsNext, List.length_erase_of_mem member]⟩
      by_cases same : other = process
      · subst same
        simp [holdsNext, distinct.mem_erase_iff]
      · rw [List.mem_erase_of_ne same]
        exact others same
  · have notMember : process ∉ list := mt (isHolder process).mp holds
    by_cases holdsNext : next = some value
    · refine
        ⟨process :: list, List.nodup_cons.mpr ⟨notMember, distinct⟩,
          fun other => ?_,
          by simp [holds, holdsNext]⟩
      by_cases same : other = process
      · subst same
        simp [holdsNext]
      · rw [List.mem_cons, or_iff_right same]
        exact others same
    · refine ⟨list, distinct, fun other => ?_, by simp [holds, holdsNext]⟩
      by_cases same : other = process
      · subst same
        simpa [holdsNext] using notMember
      · exact others same

end Holders

/-- There are no more values held than processes that hold one. -/
theorem length_le_of_held
    {values : List Value}
    {processes : List Process}
    (distinct : values.Nodup)
    (isHeld :
      ∀ value ∈ values, ∃ process ∈ processes, held process = some value) :
    values.length ≤ processes.length := by
  have within : values ⊆ processes.filterMap held := by
    intro value member
    obtain ⟨process, inProcesses, holds⟩ := isHeld value member
    exact List.mem_filterMap.mpr ⟨process, inProcesses, holds⟩
  exact
    Nat.le_trans (distinct.subperm within).length_le
      (List.length_filterMap_le _ _)

end ReferenceCount

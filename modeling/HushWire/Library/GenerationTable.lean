import HushWire.Library.AssociationMap

/-!
# Tables of current objects

Objects are numbered as they start, each under a key.  A table holds the
current object of each key; an object that leaves the table is retired and
never comes back.  `Sound` says that the objects in the table are exactly those
that are not retired, and `Closed` that all objects up to a number are retired.
-/

/-- The current objects by key, and for every object its key and its end. -/
structure GenerationTable (Key : Type) where
  current : AssociationMap Key Nat
  started : List (Key × Bool)

namespace GenerationTable

variable {Key : Type} [DecidableEq Key]

def empty : GenerationTable Key where
  current := ∅
  started := []

/-- The end of an object is recorded. -/
def retire (started : List (Key × Bool)) (object : Nat) : List (Key × Bool) :=
  started.modify object fun entry => (entry.1, true)

/-- A new object becomes the current one of its key. -/
def start
    (table : GenerationTable Key)
    (key : Key) :
    GenerationTable Key where
  current := table.current.insert key table.started.length
  started := table.started ++ [(key, false)]

/-- The current object of a key leaves the table. -/
def remove
    (table : GenerationTable Key)
    (key : Key)
    (object : Nat) :
    GenerationTable Key where
  current := table.current.erase key
  started := retire table.started object

/-- All objects leave the table. -/
def clear (table : GenerationTable Key) : GenerationTable Key where
  current := ∅
  started :=
    (table.current.entries.map Sigma.snd).foldl retire table.started

/-- What may happen to a table. -/
inductive Step : GenerationTable Key → GenerationTable Key → Prop where
  | start
      {table : GenerationTable Key}
      {key : Key} :
      table.current.lookup key = none →
      Step table (table.start key)
  | remove
      {table : GenerationTable Key}
      {key : Key}
      {object : Nat} :
      table.current.lookup key = some object →
      Step table (table.remove key object)
  | clear
      {table : GenerationTable Key} :
      Step table table.clear

/-- The table holds the objects that are not retired, each under its key. -/
structure Sound (table : GenerationTable Key) : Prop where
  stored :
    ∀ {key object},
      table.current.lookup key = some object →
      table.started[object]? = some (key, false)
  current :
    ∀ {key object},
      table.started[object]? = some (key, false) →
      table.current.lookup key = some object

/-- The objects below a number are retired. -/
def Closed (count : Nat) (table : GenerationTable Key) : Prop :=
  ∀ object key,
    table.started[object]? = some (key, false) → count ≤ object

section Retire

variable {started : List (Key × Bool)}

omit [DecidableEq Key] in
theorem length_retire (object : Nat) :
    (retire started object).length = started.length :=
  List.length_modify ..

omit [DecidableEq Key] in
/-- An object that is not retired is another one, and was not before. -/
theorem getElem?_retire {object retired : Nat} {key : Key} :
    (retire started retired)[object]? = some (key, false) ↔
      started[object]? = some (key, false) ∧ object ≠ retired := by
  rw [retire, List.getElem?_modify]
  cases found : started[object]? with
  | none =>
      simp
  | some entry =>
      by_cases same : retired = object
      · simp [same]
      · have different : object ≠ retired := fun isSame => same isSame.symm
        simp [same, different]

omit [DecidableEq Key] in
theorem length_foldl_retire (objects : List Nat) :
    (objects.foldl retire started).length = started.length := by
  induction objects generalizing started with
  | nil =>
      rfl
  | cons object later inductionHypothesis =>
      rw [List.foldl_cons, inductionHypothesis, length_retire]

omit [DecidableEq Key] in
theorem getElem?_foldl_retire
    {objects : List Nat}
    {object : Nat}
    {key : Key} :
    (objects.foldl retire started)[object]? = some (key, false) ↔
      started[object]? = some (key, false) ∧ object ∉ objects := by
  induction objects generalizing started with
  | nil =>
      simp
  | cons retired later inductionHypothesis =>
      rw [List.foldl_cons, inductionHypothesis, getElem?_retire,
        List.mem_cons, not_or, and_assoc]

end Retire

section Started

variable {table : GenerationTable Key} {key other : Key} {object : Nat}

theorem getElem?_start :
    (table.start key).started[object]? = some (other, false) ↔
      table.started[object]? = some (other, false) ∨
        (object = table.started.length ∧ other = key) := by
  rw [start]
  rcases Nat.lt_trichotomy object table.started.length with
    before | rfl | after
  · rw [List.getElem?_append_left before]
    exact (or_iff_left fun isLast => (Nat.ne_of_lt before) isLast.1).symm
  · rw [List.getElem?_append_right (Nat.le_refl _), Nat.sub_self,
      List.getElem?_eq_none (Nat.le_refl _)]
    simp [eq_comm]
  · rw [List.getElem?_eq_none (by simp; omega),
      List.getElem?_eq_none (Nat.le_of_lt after)]
    simp
    omega

end Started

namespace Sound

variable {table next : GenerationTable Key} {key : Key} {object : Nat}

theorem empty : Sound (GenerationTable.empty : GenerationTable Key) where
  stored := fun stored => by
    rw [GenerationTable.empty, AList.lookup_empty] at stored
    cases stored
  current := fun started => by
    cases started

/-- A key that has no current object gets one. -/
theorem start
    (sound : Sound table)
    (absent : table.current.lookup key = none) :
    Sound (table.start key) where
  stored := by
    intro other object isStored
    rw [getElem?_start]
    by_cases same : other = key
    · subst same
      rw [GenerationTable.start, AList.lookup_insert] at isStored
      cases isStored
      exact .inr ⟨rfl, rfl⟩
    · rw [GenerationTable.start, AList.lookup_insert_ne same] at isStored
      exact .inl (sound.stored isStored)
  current := by
    intro other object isStarted
    rcases getElem?_start.mp isStarted with before | ⟨rfl, rfl⟩
    · have isStored := sound.current before
      have different : other ≠ key := by
        rintro rfl
        rw [absent] at isStored
        cases isStored
      rw [GenerationTable.start, AList.lookup_insert_ne different]
      exact isStored
    · rw [GenerationTable.start, AList.lookup_insert]

/-- The current object of a key leaves, and the others stay. -/
theorem remove
    (sound : Sound table)
    (isCurrent : table.current.lookup key = some object) :
    Sound (table.remove key object) where
  stored := by
    intro other kept isStored
    rw [GenerationTable.remove, getElem?_retire]
    have different : other ≠ key := by
      rintro rfl
      rw [GenerationTable.remove, AList.lookup_erase] at isStored
      cases isStored
    rw [GenerationTable.remove, AList.lookup_erase_ne different] at isStored
    refine ⟨sound.stored isStored, ?_⟩
    rintro rfl
    have sameEntry :=
      (sound.stored isStored).symm.trans (sound.stored isCurrent)
    cases sameEntry
    exact different rfl
  current := by
    intro other kept isStarted
    obtain ⟨isStarted, isKept⟩ := getElem?_retire.mp isStarted
    have isStored := sound.current isStarted
    have different : other ≠ key := by
      rintro rfl
      rw [isCurrent] at isStored
      cases isStored
      exact isKept rfl
    rw [GenerationTable.remove, AList.lookup_erase_ne different]
    exact isStored

/-- Every object leaves, so that every object is retired. -/
theorem closed_clear (sound : Sound table) :
    Closed table.clear.started.length table.clear := by
  intro object key isStarted
  obtain ⟨before, notListed⟩ := getElem?_foldl_retire.mp isStarted
  refine absurd ?_ notListed
  have isStored := AssociationMap.mem_entries_iff_lookup.mpr
    (sound.current before)
  exact List.mem_map_of_mem isStored

theorem clear (sound : Sound table) : Sound table.clear where
  stored := fun isStored => by
    rw [GenerationTable.clear, AList.lookup_empty] at isStored
    cases isStored
  current := by
    intro key object isStarted
    have isLate := sound.closed_clear object key isStarted
    have isListed := (List.getElem?_eq_some_iff.mp isStarted).1
    exact absurd isListed (Nat.not_lt.mpr isLate)

theorem step
    (sound : Sound table)
    (taken : Step table next) :
    Sound next := by
  cases taken with
  | start absent =>
      exact sound.start absent
  | remove isCurrent =>
      exact sound.remove isCurrent
  | clear =>
      exact sound.clear

end Sound

/-- No object is forgotten. -/
theorem Step.length_le
    {table next : GenerationTable Key}
    (taken : Step table next) :
    table.started.length ≤ next.started.length := by
  cases taken with
  | start absent =>
      rw [GenerationTable.start, List.length_append]
      exact Nat.le_add_right _ _
  | remove isCurrent =>
      rw [GenerationTable.remove, length_retire]
  | clear =>
      rw [GenerationTable.clear, length_foldl_retire]

namespace Closed

variable {table next : GenerationTable Key} {count : Nat}

/-- Retired objects stay retired, and new objects have later numbers. -/
theorem step
    (closed : Closed count table)
    (early : count ≤ table.started.length)
    (taken : Step table next) :
    Closed count next := by
  intro object key isStarted
  cases taken with
  | start absent =>
      rcases getElem?_start.mp isStarted with before | ⟨rfl, _⟩
      · exact closed object key before
      · exact early
  | remove isCurrent =>
      exact closed object key (getElem?_retire.mp isStarted).1
  | clear =>
      exact closed object key (getElem?_foldl_retire.mp isStarted).1

end Closed

end GenerationTable

import Mathlib.Data.List.Basic
import Mathlib.Data.List.Pairwise

/-!
# Removing items by their numbers

A listing shows every item as one or more numbered marks, and a mark tells
whether it was taken for one of the items to remove.  The removal looks for the
first such mark, removes the item of that number, and begins again.  It removes
exactly the items that were selected if and only if the marks are `Faithful`.
-/

namespace NumberedRemoval

variable {Item Error : Type}

section Definitions

variable
  (marks : Item → List Bool)
  (missing : Nat → Error)
  (refused : Error)

/-- The number of the first mark that was taken for an item to remove. -/
def first (items : List Item) : Option Nat :=
  (items.flatMap marks).findIdx? id

/--
Remove items until there is none to remove, at most so many; the result is how
many more were allowed.
-/
def remove : Nat → List Item → Except Error Nat × List Item
  | 0, items =>
      match first marks items with
      | none => (.ok 0, items)
      | some number =>
          if number < items.length then
            (.error refused, items.eraseIdx number)
          else
            (.error (missing number), items)
  | allowed + 1, items =>
      match first marks items with
      | none => (.ok (allowed + 1), items)
      | some number =>
          if number < items.length then
            remove allowed (items.eraseIdx number)
          else
            (.error (missing number), items)

variable (selected : Item → Bool)

/-- The marks tell the selected items from the others, and number them. -/
structure Faithful (items : List Item) : Prop where
  others : ∀ item ∈ items, selected item = false → true ∉ marks item
  head :
    ∀ item ∈ items, selected item = true → (marks item).head? = some true
  /-- Items in front of a selected one have one number each. -/
  single :
    items.Pairwise fun earlier later =>
      selected earlier = false → selected later = true →
        (marks earlier).length = 1

end Definitions

variable
  {marks : Item → List Bool}
  {missing : Nat → Error}
  {refused : Error}
  {selected : Item → Bool}

theorem Faithful.sublist
    {items remaining : List Item}
    (faithful : Faithful marks selected items)
    (isSublist : remaining.Sublist items) :
    Faithful marks selected remaining where
  others := fun item member => faithful.others item (isSublist.subset member)
  head := fun item member => faithful.head item (isSublist.subset member)
  single := faithful.single.sublist isSublist

/-- Nothing is taken where no item has such a mark. -/
theorem first_eq_none
    {items : List Item} :
    first marks items = none ↔ ∀ item ∈ items, true ∉ marks item := by
  simp only [first, List.findIdx?_eq_none_iff, List.mem_flatMap, id_eq]
  constructor
  · intro noMark item member isMark
    exact absurd (noMark true ⟨item, member, isMark⟩) (by decide)
  · rintro noMark mark ⟨item, member, isMark⟩
    cases mark with
    | false => rfl
    | true => exact absurd isMark (noMark item member)

/-- An item whose marks are not taken puts the numbers off by theirs. -/
theorem first_cons
    {item : Item}
    (items : List Item)
    (untaken : true ∉ marks item) :
    first marks (item :: items) =
      (first marks items).map (· + (marks item).length) := by
  have none : (marks item).findIdx? id = none := by
    rw [List.findIdx?_eq_none_iff]
    intro mark isMark
    cases mark with
    | false => rfl
    | true => exact absurd isMark untaken
  rw [first, List.flatMap_cons, List.findIdx?_append, none, Option.none_or]
  rfl

/-- The first mark of an item that is taken. -/
theorem first_head
    {item : Item}
    {before after : List Bool}
    (items : List Item)
    (isMarks : marks item = before ++ true :: after)
    (notBefore : true ∉ before) :
    first marks (item :: items) = some before.length := by
  have none : before.findIdx? id = none := by
    rw [List.findIdx?_eq_none_iff]
    intro mark isMark
    cases mark with
    | false => rfl
    | true => exact absurd isMark notBefore
  rw [first, List.flatMap_cons, isMarks, List.append_assoc,
    List.findIdx?_append, none, Option.none_or, List.cons_append,
    List.findIdx?_cons]
  simp

/-- An item in front of which nothing is taken. -/
theorem first_append
    {earlier later : List Item}
    {item : Item}
    {before after : List Bool}
    (untaken : ∀ other ∈ earlier, true ∉ marks other)
    (isMarks : marks item = before ++ true :: after)
    (notBefore : true ∉ before) :
    first marks (earlier ++ item :: later) =
      some ((earlier.flatMap marks).length + before.length) := by
  induction earlier with
  | nil =>
      rw [List.nil_append, first_head later isMarks notBefore]
      simp
  | cons other earlier inductionHypothesis =>
      obtain ⟨otherUntaken, restUntaken⟩ := List.forall_mem_cons.mp untaken
      rw [List.cons_append, first_cons _ otherUntaken,
        inductionHypothesis restUntaken, Option.map_some, List.flatMap_cons,
        List.length_append]
      congr 1
      omega

/-- The first mark is of some item, behind marks that were not taken. -/
theorem first_eq_some
    {items : List Item}
    {number : Nat}
    (found : first marks items = some number) :
    ∃ earlier item later before after,
      items = earlier ++ item :: later ∧
        (∀ other ∈ earlier, true ∉ marks other) ∧
        marks item = before ++ true :: after ∧
        true ∉ before ∧
        number = (earlier.flatMap marks).length + before.length := by
  induction items generalizing number with
  | nil =>
      cases found
  | cons item items inductionHypothesis =>
      by_cases taken : true ∈ marks item
      · obtain ⟨before, after, isMarks, notBefore⟩ :=
          List.eq_append_cons_of_mem taken
        rw [first_head items isMarks notBefore] at found
        refine ⟨[], item, items, before, after, rfl, ?_, isMarks, notBefore, ?_⟩
        · exact fun other member => absurd member List.not_mem_nil
        · rw [← Option.some.inj found, List.flatMap_nil, List.length_nil,
            Nat.zero_add]
      · rw [first_cons items taken] at found
        obtain ⟨rest, isRest, rfl⟩ := Option.map_eq_some_iff.mp found
        obtain ⟨earlier, other, later, before, after, rfl, untaken, isMarks,
          notBefore, rfl⟩ := inductionHypothesis isRest
        refine ⟨item :: earlier, other, later, before, after, rfl, ?_, isMarks,
          notBefore, ?_⟩
        · exact List.forall_mem_cons.mpr ⟨taken, untaken⟩
        · rw [List.flatMap_cons, List.length_append]
          omega

/-- What remains are some of the items. -/
theorem remove_sublist
    (marks : Item → List Bool)
    (missing : Nat → Error)
    (refused : Error)
    (allowed : Nat)
    (items : List Item) :
    (remove marks missing refused allowed items).2.Sublist items := by
  induction allowed generalizing items with
  | zero =>
      unfold remove
      split
      · exact .refl _
      · split
        · exact List.eraseIdx_sublist _ _
        · exact .refl _
  | succ allowed inductionHypothesis =>
      unfold remove
      split
      · exact .refl _
      · split
        · exact (inductionHypothesis _).trans (List.eraseIdx_sublist _ _)
        · exact .refl _

/-- Among faithful marks the first is of the first selected item. -/
theorem Faithful.first_cases
    {items : List Item}
    (faithful : Faithful marks selected items) :
    (first marks items = none ∧ ∀ item ∈ items, selected item = false) ∨
      ∃ earlier item later,
        items = earlier ++ item :: later ∧
          (∀ other ∈ earlier, selected other = false) ∧
          selected item = true ∧
          first marks items = some earlier.length := by
  have notSelected
      {item : Item}
      (member : item ∈ items)
      (untaken : true ∉ marks item) :
      selected item = false := by
    apply Bool.eq_false_iff.mpr
    intro isSelected
    exact untaken (List.mem_of_head? (faithful.head item member isSelected))
  cases found : first marks items with
  | none =>
      left
      refine ⟨rfl, fun item member => notSelected member ?_⟩
      exact first_eq_none.mp found item member
  | some number =>
      right
      obtain ⟨earlier, item, later, before, after, rfl, untaken, isMarks,
        notBefore, rfl⟩ := first_eq_some found
      have isSelected : selected item = true := by
        apply Bool.of_not_eq_false
        intro notItem
        refine faithful.others item (by simp) notItem ?_
        simp [isMarks]
      have atHead : before = [] := by
        have head := faithful.head item (by simp) isSelected
        cases before with
        | nil => rfl
        | cons mark before =>
            rw [isMarks, List.cons_append, List.head?_cons] at head
            exact absurd (Option.some.inj head ▸ List.mem_cons_self) notBefore
      have notEarlier : ∀ other ∈ earlier, selected other = false :=
        fun other member =>
          notSelected (List.mem_append_left _ member) (untaken other member)
      have oneEach : ∀ other ∈ earlier, (marks other).length = 1 :=
        fun other member =>
          (List.pairwise_append.mp faithful.single).2.2 other member item
            List.mem_cons_self (notEarlier other member) isSelected
      refine ⟨earlier, item, later, rfl, notEarlier, isSelected, ?_⟩
      rw [atHead, List.length_nil, Nat.add_zero, List.length_flatMap,
        List.map_congr_left oneEach]
      simp

/-- Faithful marks lose the selected items only, whatever is allowed. -/
theorem Faithful.others_remain
    {items : List Item}
    (faithful : Faithful marks selected items)
    (allowed : Nat) :
    (remove marks missing refused allowed items).2.filter (!selected ·) =
      items.filter (!selected ·) := by
  induction allowed generalizing items with
  | zero =>
      unfold remove
      rcases faithful.first_cases with
        ⟨isNone, _⟩ | ⟨earlier, item, later, rfl, _, isSelected, isFirst⟩
      · rw [isNone]
      · rw [isFirst]
        simp [isSelected, List.eraseIdx_append_of_length_le]
  | succ allowed inductionHypothesis =>
      unfold remove
      rcases faithful.first_cases with
        ⟨isNone, _⟩ | ⟨earlier, item, later, rfl, _, isSelected, isFirst⟩
      · rw [isNone]
      · rw [isFirst]
        have remaining :
            (earlier ++ item :: later).eraseIdx earlier.length =
              earlier ++ later := by
          simp [List.eraseIdx_append_of_length_le]
        simp only [List.length_append, List.length_cons, remaining]
        rw [if_pos (by omega), inductionHypothesis]
        · simp [isSelected]
        · exact faithful.sublist ((List.sublist_cons_self _ _).append_left _)

/-- Where nothing is selected, nothing is counted and all is kept. -/
theorem none_selected
    {items : List Item}
    (notSelected : ∀ item ∈ items, selected item = false) :
    items.countP selected = 0 ∧ items.filter (!selected ·) = items := by
  constructor
  · rw [List.countP_eq_zero]
    intro item member
    rw [notSelected item member]
    exact Bool.false_ne_true
  · rw [List.filter_eq_self]
    intro item member
    rw [notSelected item member]
    rfl

/-- Faithful marks lose all selected items, where so many are allowed. -/
theorem Faithful.remove_eq
    {items : List Item}
    (faithful : Faithful marks selected items)
    {allowed : Nat}
    (enough : items.countP selected ≤ allowed) :
    remove marks missing refused allowed items =
      (.ok (allowed - items.countP selected), items.filter (!selected ·)) := by
  induction allowed generalizing items with
  | zero =>
      unfold remove
      rcases faithful.first_cases with
        ⟨isNone, notSelected⟩ | ⟨earlier, item, later, rfl, _, isSelected, _⟩
      · obtain ⟨noCount, isAll⟩ := none_selected notSelected
        rw [isNone, noCount, isAll]
      · simp [isSelected] at enough
  | succ allowed inductionHypothesis =>
      unfold remove
      rcases faithful.first_cases with
        ⟨isNone, notSelected⟩ |
          ⟨earlier, item, later, rfl, _, isSelected, isFirst⟩
      · obtain ⟨noCount, isAll⟩ := none_selected notSelected
        rw [isNone, noCount, isAll, Nat.sub_zero]
      · rw [isFirst]
        have remaining :
            (earlier ++ item :: later).eraseIdx earlier.length =
              earlier ++ later := by
          simp [List.eraseIdx_append_of_length_le]
        have fewer :
            (earlier ++ item :: later).countP selected =
              (earlier ++ later).countP selected + 1 := by
          simp [isSelected, Nat.add_assoc]
        rw [fewer] at enough ⊢
        simp only [List.length_append, List.length_cons, remaining]
        rw [if_pos (by omega), inductionHypothesis]
        · simp [isSelected]
        · exact faithful.sublist ((List.sublist_cons_self _ _).append_left _)
        · omega

/--
A number that is too large stays, as what is removed is behind its item; so
the removal does not come to an end.
-/
theorem remove_of_late
    {earlier later : List Item}
    {item : Item}
    {before after : List Bool}
    (untaken : ∀ other ∈ earlier, true ∉ marks other)
    (isMarks : marks item = before ++ true :: after)
    (notBefore : true ∉ before)
    (late : earlier.length < (earlier.flatMap marks).length + before.length)
    (allowed left : Nat)
    (remaining : List Item) :
    remove marks missing refused allowed (earlier ++ item :: later) ≠
      (.ok left, remaining) := by
  have found (behind : List Item) :
      first marks (earlier ++ item :: behind) =
        some ((earlier.flatMap marks).length + before.length) :=
    first_append untaken isMarks notBefore
  generalize isNumber :
    (earlier.flatMap marks).length + before.length = number at found late
  induction allowed generalizing later with
  | zero =>
      unfold remove
      rw [found]
      dsimp only
      split <;> simp
  | succ allowed inductionHypothesis =>
      unfold remove
      rw [found]
      dsimp only
      split
      · have isErase :
            (earlier ++ item :: later).eraseIdx number =
              earlier ++
                item :: later.eraseIdx (number - earlier.length - 1) := by
          rw [List.eraseIdx_append_of_length_le (Nat.le_of_lt late)]
          obtain ⟨rest, isRest⟩ := Nat.exists_eq_add_of_lt late
          simp [isRest, Nat.add_assoc]
        rw [isErase]
        exact inductionHypothesis
      · simp

/-- A removal that leaves the others was of an item that was selected. -/
theorem selected_of_remaining
    {earlier later remaining : List Item}
    {item : Item}
    (isSublist : remaining.Sublist (earlier ++ later))
    (isRest :
      remaining = (earlier ++ item :: later).filter (!selected ·)) :
    selected item = true := by
  apply Bool.of_not_eq_false
  intro notSelected
  have fewer := (isSublist.filter (!selected ·)).length_le
  rw [isRest, List.filter_filter] at fewer
  simp only [Bool.and_self, List.filter_append, List.length_append,
    List.filter_cons, notSelected, Bool.not_false, ↓reduceIte,
    List.length_cons] at fewer
  omega

/-- Items behind and in front of a selected one, which is marked itself. -/
theorem Faithful.insert
    {earlier later : List Item}
    {item : Item}
    (faithful : Faithful marks selected (earlier ++ later))
    (isSelected : selected item = true)
    (isHead : (marks item).head? = some true)
    (oneEach : ∀ other ∈ earlier, (marks other).length = 1) :
    Faithful marks selected (earlier ++ item :: later) where
  others := by
    intro other member notSelected
    rcases List.mem_append.mp member with before | rest
    · exact faithful.others other (List.mem_append_left _ before) notSelected
    · rcases List.mem_cons.mp rest with rfl | behind
      · rw [isSelected] at notSelected
        cases notSelected
      · exact faithful.others other (List.mem_append_right _ behind) notSelected
  head := by
    intro other member otherSelected
    rcases List.mem_append.mp member with before | rest
    · exact faithful.head other (List.mem_append_left _ before) otherSelected
    · rcases List.mem_cons.mp rest with rfl | behind
      · exact isHead
      · exact faithful.head other (List.mem_append_right _ behind) otherSelected
  single := by
    obtain ⟨earlierSingle, laterSingle, across⟩ :=
      List.pairwise_append.mp faithful.single
    refine
      List.pairwise_append.mpr
        ⟨earlierSingle, List.pairwise_cons.mpr ⟨?_, laterSingle⟩, ?_⟩
    · intro other _ notSelected
      rw [isSelected] at notSelected
      cases notSelected
    · intro first before second member
      rcases List.mem_cons.mp member with rfl | behind
      · exact fun _ _ => oneEach first before
      · exact across first before second behind

/-- There are at least as many marks as items. -/
theorem length_le_flatMap
    (marked : ∀ item, marks item ≠ [])
    (items : List Item) :
    items.length ≤ (items.flatMap marks).length := by
  induction items with
  | nil =>
      exact Nat.zero_le _
  | cons item items inductionHypothesis =>
      have positive := List.length_pos_iff.mpr (marked item)
      rw [List.flatMap_cons, List.length_append, List.length_cons]
      omega

/-- If there are no more marks than items, each item has one. -/
theorem one_each
    {items : List Item}
    (marked : ∀ item, marks item ≠ [])
    (few : (items.flatMap marks).length ≤ items.length) :
    ∀ item ∈ items, (marks item).length = 1 := by
  induction items with
  | nil =>
      intro item member
      cases member
  | cons item items inductionHypothesis =>
      have positive := List.length_pos_iff.mpr (marked item)
      have rest := length_le_flatMap marked items
      rw [List.flatMap_cons, List.length_append, List.length_cons] at few
      exact
        List.forall_mem_cons.mpr
          ⟨by omega, inductionHypothesis (by omega)⟩

/-- Nothing is taken, and nothing selected. -/
theorem faithful_of_none
    {items : List Item}
    (isNone : first marks items = none)
    (isAll : items = items.filter (!selected ·)) :
    Faithful marks selected items := by
  have notSelected : ∀ item ∈ items, selected item = false := by
    intro item member
    simpa using List.filter_eq_self.mp isAll.symm item member
  refine ⟨?_, ?_, ?_⟩
  · intro item member _
    exact first_eq_none.mp isNone item member
  · intro item member isSelected
    rw [notSelected item member] at isSelected
    cases isSelected
  · refine List.Pairwise.imp_of_mem ?_
      (List.pairwise_of_forall fun _ _ => trivial)
    intro earlier later _ member _ _ isSelected
    rw [notSelected later member] at isSelected
    cases isSelected

/-- Only faithful marks lose the selected items and no others. -/
theorem faithful_of_remove
    {items : List Item}
    {allowed left : Nat}
    (marked : ∀ item, marks item ≠ [])
    (removed :
      remove marks missing refused allowed items =
        (.ok left, items.filter (!selected ·))) :
    Faithful marks selected items := by
  induction allowed generalizing items with
  | zero =>
      cases found : first marks items with
      | none =>
          rw [remove, found] at removed
          exact faithful_of_none found (Prod.mk.inj removed).2
      | some number =>
          rw [remove, found] at removed
          dsimp only at removed
          split at removed <;> cases (Prod.mk.inj removed).1
  | succ allowed inductionHypothesis =>
      cases found : first marks items with
      | none =>
          rw [remove, found] at removed
          exact faithful_of_none found (Prod.mk.inj removed).2
      | some number =>
          obtain ⟨earlier, item, later, before, after, rfl, untaken, isMarks,
            notBefore, isNumber⟩ := first_eq_some found
          have inTime : number ≤ earlier.length := by
            apply Nat.not_lt.mp
            intro late
            exact
              remove_of_late untaken isMarks notBefore (isNumber ▸ late) _ _ _
                removed
          have atLeast := length_le_flatMap marked earlier
          have atHead : before = [] := List.eq_nil_of_length_eq_zero (by omega)
          have isPosition : number = earlier.length := by omega
          have remaining :
              (earlier ++ item :: later).eraseIdx number =
                earlier ++ later := by
            simp [isPosition, List.eraseIdx_append_of_length_le]
          rw [remove, found] at removed
          simp only [List.length_append, List.length_cons, remaining] at removed
          rw [if_pos (by omega)] at removed
          have isSublist :=
            remove_sublist marks missing refused allowed (earlier ++ later)
          rw [removed] at isSublist
          have isSelected : selected item = true :=
            selected_of_remaining isSublist rfl
          refine Faithful.insert (inductionHypothesis ?_) isSelected ?_ ?_
          · rw [removed]
            simp [isSelected]
          · rw [isMarks, atHead]
            rfl
          · exact one_each marked (by omega)

end NumberedRemoval

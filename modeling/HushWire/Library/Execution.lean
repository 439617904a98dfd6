import Mathlib.Data.List.Induction

/-!
# Finite executions of labelled transition systems

An execution is a finite sequence of labelled steps, extended at its end.
`Execution.invariant` turns an inductive invariant over the labels seen so far
into a property of every execution.  `Execution.Since` looks back: a step of a
certain kind was taken, and every later one is of another kind.
-/

/-- A finite run from `initial`, labelled by the events taken, in order. -/
inductive Execution
    {State Event : Type}
    (step : State → Event → State → Prop)
    (initial : State) :
    List Event → State → Prop where
  | nil :
      Execution step initial [] initial
  | snoc
      {events : List Event}
      {middle final : State}
      {event : Event} :
      Execution step initial events middle →
      step middle event final →
      Execution step initial (events ++ [event]) final

namespace Execution

variable {State Event : Type} {step : State → Event → State → Prop}

/-- One step is an execution of length one. -/
theorem single
    {initial final : State}
    {event : Event}
    (taken : step initial event final) :
    Execution step initial [event] final :=
  .snoc .nil taken

/-- Executions whose boundary states agree compose. -/
theorem append
    {initial middle final : State}
    {leading trailing : List Event}
    (first : Execution step initial leading middle)
    (later : Execution step middle trailing final) :
    Execution step initial (leading ++ trailing) final := by
  induction later with
  | nil =>
      simpa using first
  | snoc _ taken inductionHypothesis =>
      rw [← List.append_assoc]
      exact .snoc inductionHypothesis taken

/-- An execution without events stays where it is. -/
theorem eq_of_nil
    {initial final : State}
    (execution : Execution step initial [] final) :
    final = initial := by
  generalize isEmpty : ([] : List Event) = events at execution
  cases execution with
  | nil =>
      rfl
  | snoc =>
      simp at isEmpty

/-- The last event of an execution is its last step. -/
theorem last_step
    {initial final : State}
    {events : List Event}
    {event : Event}
    (execution : Execution step initial (events ++ [event]) final) :
    ∃ middle, Execution step initial events middle ∧ step middle event final := by
  generalize isWhole : events ++ [event] = whole at execution
  cases execution with
  | nil =>
      simp at isWhole
  | snoc earlier taken =>
      obtain ⟨rfl, sameEvent⟩ := List.append_inj' isWhole rfl
      cases sameEvent
      exact ⟨_, earlier, taken⟩

/-- An execution passes through the state between any two halves. -/
theorem split
    {initial final : State}
    {leading trailing : List Event}
    (execution : Execution step initial (leading ++ trailing) final) :
    ∃ middle,
      Execution step initial leading middle ∧
        Execution step middle trailing final := by
  induction trailing using List.reverseRecOn generalizing final with
  | nil =>
      exact ⟨final, by simpa using execution, .nil⟩
  | append_singleton trailing event inductionHypothesis =>
      rw [← List.append_assoc] at execution
      obtain ⟨previous, earlier, taken⟩ := execution.last_step
      obtain ⟨middle, first, later⟩ := inductionHypothesis earlier
      exact ⟨middle, first, .snoc later taken⟩

/-- An execution of one event is one step. -/
theorem step_of_singleton
    {initial final : State}
    {event : Event}
    (execution : Execution step initial [event] final) :
    step initial event final := by
  have whole : Execution step initial ([] ++ [event]) final := execution
  obtain ⟨middle, earlier, taken⟩ := whole.last_step
  rwa [earlier.eq_of_nil] at taken

/-- An invariant of the labels and the state holds after every execution. -/
theorem invariant
    {initial : State}
    (holds : List Event → State → Prop)
    (atStart : holds [] initial)
    (preserved :
      ∀ {events middle event final},
        Execution step initial events middle →
        holds events middle →
        step middle event final →
        holds (events ++ [event]) final)
    {events : List Event}
    {final : State}
    (execution : Execution step initial events final) :
    holds events final := by
  induction execution with
  | nil =>
      exact atStart
  | snoc earlier taken inductionHypothesis =>
      exact preserved earlier inductionHypothesis taken

/-- A property kept by every step of an execution holds at its end. -/
theorem preserves
    {initial final : State}
    {events : List Event}
    (holds : State → Prop)
    (execution : Execution step initial events final)
    (atStart : holds initial)
    (kept :
      ∀ {middle event next},
        event ∈ events →
        holds middle →
        step middle event next →
        holds next) :
    holds final := by
  induction execution with
  | nil =>
      exact atStart
  | snoc _ taken inductionHypothesis =>
      apply kept (by simp) _ taken
      apply inductionHypothesis
      intro middle event next member
      exact kept (List.mem_append_left _ member)

/-- Where steps are functions, so are executions. -/
theorem deterministic
    (functional :
      ∀ before event first second,
        step before event first → step before event second → first = second)
    {initial first second : State}
    {events : List Event}
    (execution : Execution step initial events first)
    (other : Execution step initial events second) :
    first = second := by
  induction execution generalizing second with
  | nil =>
      exact other.eq_of_nil.symm
  | snoc _ taken inductionHypothesis =>
      obtain ⟨middle, earlier, alsoTaken⟩ := other.last_step
      cases inductionHypothesis earlier
      exact functional _ _ _ _ taken alsoTaken

/-- Every event of an execution was the event of a step. -/
theorem step_of_mem
    {initial final : State}
    {events : List Event}
    {event : Event}
    (execution : Execution step initial events final)
    (member : event ∈ events) :
    ∃ middle next, step middle event next := by
  induction execution with
  | nil =>
      cases member
  | snoc _ taken inductionHypothesis =>
      rcases List.mem_append.mp member with before | isLast
      · exact inductionHypothesis before
      · cases List.mem_singleton.mp isLast
        exact ⟨_, _, taken⟩

/-- The steps of an execution may be weakened. -/
theorem mono
    {weaker : State → Event → State → Prop}
    (weaken :
      ∀ {middle event next}, step middle event next → weaker middle event next)
    {initial final : State}
    {events : List Event}
    (execution : Execution step initial events final) :
    Execution weaker initial events final := by
  induction execution with
  | nil =>
      exact .nil
  | snoc _ taken inductionHypothesis =>
      exact .snoc inductionHypothesis (weaken taken)

/--
Among the events of a run is one whose step has a mark, given the events
before it, and the events after it are all kept.
-/
inductive Since
    (step : State → Event → State → Prop)
    (initial : State)
    (marks : List Event → State → Event → State → Prop)
    (keeps : Event → Prop) :
    List Event → Prop where
  | intro
      {earlier later : List Event}
      {middle next : State}
      {event : Event} :
      Execution step initial earlier middle →
      step middle event next →
      marks earlier middle event next →
      (∀ event ∈ later, keeps event) →
      Since step initial marks keeps (earlier ++ event :: later)

namespace Since

variable
  {initial : State}
  {marks : List Event → State → Event → State → Prop}
  {keeps : Event → Prop}
  {events : List Event}

/-- The step just taken has the mark. -/
theorem last
    {middle next : State}
    {event : Event}
    (execution : Execution step initial events middle)
    (taken : step middle event next)
    (marked : marks events middle event next) :
    Since step initial marks keeps (events ++ [event]) :=
  .intro execution taken marked (by simp)

/-- A kept event changes nothing. -/
theorem snoc
    {event : Event}
    (since : Since step initial marks keeps events)
    (kept : keeps event) :
    Since step initial marks keeps (events ++ [event]) := by
  cases since with
  | @intro earlier later middle next marking execution taken marked allKept =>
      rw [List.append_assoc, List.cons_append]
      refine .intro execution taken marked ?_
      intro event member
      rcases List.mem_append.mp member with before | isLast
      · exact allKept event before
      · rwa [List.mem_singleton.mp isLast]

/-- Nothing that is not kept comes after the mark. -/
theorem of_append
    {later : List Event}
    {event : Event}
    (since : Since step initial marks keeps (events ++ event :: later))
    (notKept : ¬ keeps event)
    (unmarked : ∀ earlier middle next, ¬ marks earlier middle event next) :
    ∃ earlier middle marking next rest,
      later = earlier ++ marking :: rest ∧
        Execution step initial (events ++ event :: earlier) middle ∧
        step middle marking next ∧
        marks (events ++ event :: earlier) middle marking next := by
  generalize isWhole : events ++ event :: later = whole at since
  cases since with
  | @intro earlier rest middle next marking execution taken marked allKept =>
      rcases List.append_eq_append_iff.mp isWhole with
        ⟨between, isEarlier, isLater⟩ | ⟨between, isEvents, isRest⟩
      · cases between with
        | nil =>
            obtain ⟨rfl, _⟩ := List.cons.inj isLater
            exact absurd marked (unmarked _ _ _)
        | cons head between =>
            obtain ⟨rfl, isRest⟩ := List.cons.inj isLater
            rw [isEarlier] at execution marked
            exact ⟨between, middle, marking, next, rest, isRest, execution,
              taken, marked⟩
      · cases between with
        | nil =>
            obtain ⟨rfl, _⟩ := List.cons.inj isRest
            exact absurd marked (unmarked _ _ _)
        | cons head between =>
            obtain ⟨_, isRest⟩ := List.cons.inj isRest
            exact absurd (allKept event (by simp [isRest])) notKept

end Since

end Execution

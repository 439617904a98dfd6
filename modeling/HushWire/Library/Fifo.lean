import HushWire.Library.Execution

/-!
# First in, first out

A queue to which symbols are appended and from whose front they are taken.
Whatever the order of the two, what was taken and what is left are together
what was appended; a representation of a queue whose steps are steps of it
inherits this.
-/

namespace Fifo

variable {Symbol State Event : Type}

/-- What happens to a queue, with the symbols that move. -/
inductive Move (Symbol : Type) where
  | push (symbols : List Symbol)
  | pop (symbols : List Symbol)

inductive Step : List Symbol → Move Symbol → List Symbol → Prop where
  | push
      {queue symbols : List Symbol} :
      Step queue (.push symbols) (queue ++ symbols)
  | pop
      {queue symbols : List Symbol} :
      Step (symbols ++ queue) (.pop symbols) queue

/-- The symbols that were appended. -/
def pushed : List (Move Symbol) → List Symbol :=
  List.flatMap fun
    | .push symbols => symbols
    | .pop _ => []

/-- The symbols that were taken. -/
def popped : List (Move Symbol) → List Symbol :=
  List.flatMap fun
    | .push _ => []
    | .pop symbols => symbols

@[simp] theorem pushed_append (first second : List (Move Symbol)) :
    pushed (first ++ second) = pushed first ++ pushed second :=
  List.flatMap_append

@[simp] theorem popped_append (first second : List (Move Symbol)) :
    popped (first ++ second) = popped first ++ popped second :=
  List.flatMap_append

@[simp] theorem pushed_push (symbols : List Symbol) :
    pushed [.push symbols] = symbols := by
  simp [pushed]

@[simp] theorem pushed_pop (symbols : List Symbol) :
    pushed [.pop symbols] = [] := by
  simp [pushed]

@[simp] theorem popped_push (symbols : List Symbol) :
    popped [.push symbols] = [] := by
  simp [popped]

@[simp] theorem popped_pop (symbols : List Symbol) :
    popped [.pop symbols] = symbols := by
  simp [popped]

/-- Nothing is lost, repeated or moved. -/
theorem popped_append_queue
    {initial queue : List Symbol}
    {moves : List (Move Symbol)}
    (execution : Execution Step initial moves queue) :
    popped moves ++ queue = initial ++ pushed moves := by
  induction execution with
  | nil =>
      simp [popped, pushed]
  | snoc _ taken inductionHypothesis =>
      cases taken with
      | push =>
          rw [popped_append, popped_push, List.append_nil, pushed_append,
            pushed_push, ← List.append_assoc, inductionHypothesis,
            List.append_assoc]
      | pop =>
          rw [popped_append, popped_pop, pushed_append, pushed_pop,
            List.append_nil, List.append_assoc, inductionHypothesis]

/-- Steps of a representation that are moves of the queue it holds. -/
theorem of_execution
    {step : State → Event → State → Prop}
    {held : State → List Symbol}
    {move : Event → Move Symbol}
    (refines :
      ∀ {before event after},
        step before event after →
        Step (held before) (move event) (held after))
    {initial final : State}
    {events : List Event}
    (execution : Execution step initial events final) :
    Execution Step (held initial) (events.map move) (held final) := by
  induction execution with
  | nil =>
      exact .nil
  | snoc _ taken inductionHypothesis =>
      rw [List.map_append, List.map_singleton]
      exact inductionHypothesis.snoc (refines taken)

end Fifo

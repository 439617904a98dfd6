import HushWire.Library.Execution
import Mathlib.Logic.Function.Basic

/-!
# A shared cell whose value is replaced

Processes take the value of a cell, use what they have taken, and take the
value anew for their next use; meanwhile others publish new values.  What a
process has taken may be replaced before it is used, but only once: after a
publication every process uses a replaced value at most once more.
-/

/-- A cell, with what each process has taken from it and not used yet. -/
structure SharedCell (Process Value : Type) where
  current : Value
  taken : Process → Option Value

namespace SharedCell

variable {Process Value : Type} [DecidableEq Process]

/-- What is done with a cell. -/
inductive Access (Process Value : Type) where
  | take (process : Process)
  | use (process : Process) (value : Value)
  | publish (value : Value)

inductive Step :
    SharedCell Process Value → Access Process Value →
      SharedCell Process Value → Prop where
  | take
      {cell : SharedCell Process Value}
      {process : Process} :
      cell.taken process = none →
      Step cell (.take process)
        { cell with
          taken :=
            Function.update cell.taken process (some cell.current) }
  | use
      {cell : SharedCell Process Value}
      {process : Process}
      {value : Value} :
      cell.taken process = some value →
      Step cell (.use process value)
        { cell with taken := Function.update cell.taken process none }
  | publish
      {cell : SharedCell Process Value}
      {value : Value} :
      Step cell (.publish value) { cell with current := value }

/-- The values that are published. -/
def published (accesses : List (Access Process Value)) : List Value :=
  accesses.filterMap fun
    | .publish value => some value
    | _ => none

section Stale

variable [DecidableEq Value]

/-- How often a process uses a value that is none of the fresh ones. -/
def staleUses
    (process : Process)
    (fresh : List Value)
    (accesses : List (Access Process Value)) :
    Nat :=
  accesses.countP fun
    | .use user value => user = process && value ∉ fresh
    | _ => false

/-- The process has taken a value that is none of the fresh ones. -/
def holdsStale
    (cell : SharedCell Process Value)
    (process : Process)
    (fresh : List Value) :
    Bool :=
  (cell.taken process).any fun value => value ∉ fresh

end Stale

/-- The value of the cell was there at first or has been published. -/
theorem current_mem
    {initial final : SharedCell Process Value}
    {accesses : List (Access Process Value)}
    (execution : Execution Step initial accesses final) :
    final.current ∈ initial.current :: published accesses := by
  induction execution with
  | nil =>
      exact List.mem_cons_self
  | snoc _ taken inductionHypothesis =>
      rw [published, List.filterMap_append, ← List.cons_append]
      cases taken with
      | take | use =>
          exact List.mem_append_left _ inductionHypothesis
      | publish =>
          exact List.mem_append_right _ List.mem_cons_self

/-- A process that uses a stale value had taken it before. -/
theorem staleUses_le
    [DecidableEq Value]
    {initial final : SharedCell Process Value}
    {accesses : List (Access Process Value)}
    {fresh : List Value}
    (execution : Execution Step initial accesses final)
    (isFresh : ∀ value ∈ initial.current :: published accesses, value ∈ fresh)
    (process : Process) :
    staleUses process fresh accesses +
        (final.holdsStale process fresh).toNat ≤
      (initial.holdsStale process fresh).toNat := by
  induction execution with
  | nil =>
      simp [staleUses]
  | @snoc accesses middle final access earlier taken inductionHypothesis =>
      have isFreshBefore :
          ∀ value ∈ initial.current :: published accesses,
            value ∈ fresh := by
        intro value member
        refine isFresh value ?_
        rw [published, List.filterMap_append, ← List.cons_append]
        exact List.mem_append_left _ member
      have before := inductionHypothesis isFreshBefore
      rw [staleUses, List.countP_append]
      refine Nat.le_trans ?_ before
      cases taken with
      | publish =>
          exact Nat.le_refl _
      | @take taker =>
          by_cases same : process = taker
          · subst same
            have currentFresh :=
              isFreshBefore _ (current_mem earlier)
            simp [staleUses, holdsStale, currentFresh]
          · simp [staleUses, holdsStale, same]
      | @use user value held =>
          by_cases same : process = user
          · subst same
            by_cases stale : value ∈ fresh <;>
              simp [staleUses, holdsStale, held, stale]
          · simp [staleUses, holdsStale, same, Ne.symm same]

/-- A step of the cell, or none at all. -/
def StepOrStay
    (cell : SharedCell Process Value) :
    Option (Access Process Value) → SharedCell Process Value → Prop
  | none, after => after = cell
  | some access, after => Step cell access after

/-- Steps of a representation that do nothing else with the cell it holds. -/
theorem of_execution
    {State Event : Type}
    {step : State → Event → State → Prop}
    {cellOf : State → SharedCell Process Value}
    {access : Event → Option (Access Process Value)}
    (refines :
      ∀ {before event after},
        step before event after →
        StepOrStay (cellOf before) (access event) (cellOf after))
    {initial final : State}
    {events : List Event}
    (execution : Execution step initial events final) :
    Execution Step (cellOf initial) (events.filterMap access)
      (cellOf final) := by
  induction execution with
  | nil =>
      exact .nil
  | @snoc events middle final event _ taken inductionHypothesis =>
      have refined := refines taken
      rw [List.filterMap_append]
      cases isAccess : access event with
      | none =>
          rw [isAccess] at refined
          have unchanged : cellOf final = cellOf middle := refined
          rw [List.filterMap_cons_none isAccess, List.filterMap_nil,
            List.append_nil, unchanged]
          exact inductionHypothesis
      | some accessed =>
          rw [isAccess] at refined
          rw [List.filterMap_cons_some isAccess, List.filterMap_nil]
          exact inductionHypothesis.snoc refined

end SharedCell

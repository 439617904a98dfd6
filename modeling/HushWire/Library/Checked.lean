import Mathlib.Logic.Basic

/-!
# Checks that may fail

A validator is a sequence of checks, of which the first that fails decides the
error.  Its success is read check by check with `bind_eq_ok`, `ensure_eq_ok`,
`ensureAll_eq_ok` and `require_eq_ok`.
-/

namespace Checked

variable {Error Value Result : Type}

/-- Fail unless a condition holds. -/
def ensure
    (condition : Prop)
    [Decidable condition]
    (error : Error) :
    Except Error Unit :=
  if condition then .ok () else .error error

/-- Fail unless there is a value. -/
def require (value : Option Value) (error : Error) : Except Error Value :=
  match value with
  | none => .error error
  | some found => .ok found

/-- Fail at the first element without a property. -/
def ensureAll
    (property : Value → Prop)
    [DecidablePred property]
    (error : Value → Error) :
    List Value → Except Error Unit
  | [] => .ok ()
  | value :: rest =>
      if property value then
        ensureAll property error rest
      else
        .error (error value)

theorem bind_eq_ok
    {source : Except Error Value}
    {continuation : Value → Except Error Result}
    {result : Result} :
    source >>= continuation = .ok result ↔
      ∃ value, source = .ok value ∧ continuation value = .ok result := by
  cases source <;> simp [bind, Except.bind]

@[simp] theorem ensure_eq_ok
    {condition : Prop}
    [Decidable condition]
    {error : Error}
    {result : Unit} :
    ensure condition error = .ok result ↔ condition := by
  unfold ensure
  split <;> simp_all

@[simp] theorem require_eq_ok
    {value : Option Value}
    {error : Error}
    {result : Value} :
    require value error = .ok result ↔ value = some result := by
  cases value <;> simp [require]

@[simp] theorem ensureAll_eq_ok
    {property : Value → Prop}
    [DecidablePred property]
    {error : Value → Error}
    {values : List Value}
    {result : Unit} :
    ensureAll property error values = .ok result ↔
      ∀ value ∈ values, property value := by
  induction values with
  | nil =>
      simp [ensureAll]
  | cons value rest inductionHypothesis =>
      by_cases holds : property value
      · simp [ensureAll, holds, inductionHypothesis]
      · simp [ensureAll, holds]

end Checked

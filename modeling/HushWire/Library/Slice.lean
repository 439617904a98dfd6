import Mathlib.Data.List.Basic

/-!
# Slice accesses that may go out of bounds

Indexing and slicing of a list, with the failure of an access outside it as a
value.  Each access has a lemma that says when it succeeds and with what.
-/

/-- An access outside a slice, which aborts the program that makes it. -/
inductive OutOfBounds where
  | index (index length : Nat)
  | range (start stop length : Nat)
  | sourceLength (source destination : Nat)
  deriving Repr, DecidableEq

namespace Slice

variable {α : Type}

/-- `slice[index]`. -/
def index (slice : List α) (index : Nat) : Except OutOfBounds α :=
  match slice[index]? with
  | none => .error (.index index slice.length)
  | some element => .ok element

/-- `slice[start..stop]`. -/
def range
    (slice : List α)
    (start stop : Nat) :
    Except OutOfBounds (List α) :=
  if start ≤ stop ∧ stop ≤ slice.length then
    .ok ((slice.drop start).take (stop - start))
  else
    .error (.range start stop slice.length)

/-- `slice[start..]`. -/
def rangeFrom
    (slice : List α)
    (start : Nat) :
    Except OutOfBounds (List α) :=
  range slice start slice.length

/-- `slice.get(start..)`, which yields nothing instead of failing. -/
def getFrom (slice : List α) (start : Nat) : Option (List α) :=
  (rangeFrom slice start).toOption

@[simp] theorem index_eq
    {slice : List α}
    {position : Nat}
    (inside : position < slice.length) :
    index slice position = .ok slice[position] := by
  simp [index, inside]

theorem range_eq
    {slice : List α}
    {start stop : Nat}
    (ordered : start ≤ stop)
    (inside : stop ≤ slice.length) :
    range slice start stop = .ok ((slice.drop start).take (stop - start)) := by
  simp [range, ordered, inside]

theorem rangeFrom_eq
    {slice : List α}
    {start : Nat}
    (inside : start ≤ slice.length) :
    rangeFrom slice start = .ok (slice.drop start) := by
  have whole : (slice.drop start).length ≤ slice.length - start := by
    simp
  rw [rangeFrom, range, if_pos ⟨inside, Nat.le_refl _⟩,
    List.take_of_length_le whole]

theorem getFrom_eq
    {slice : List α}
    {start : Nat}
    (inside : start ≤ slice.length) :
    getFrom slice start = some (slice.drop start) := by
  simp [getFrom, rangeFrom_eq inside, Except.toOption]

end Slice

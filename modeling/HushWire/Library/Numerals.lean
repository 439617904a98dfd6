import Mathlib.Data.List.Basic

/-!
# Numbers and separators in text

A text is split at the last occurrence of a separator, and a number is read
from decimal digits.  Reading the digits of a number gives the number.
-/

namespace Text

section Split

variable {Symbol : Type} [DecidableEq Symbol] (separator : Symbol)

/-- The text before and after the last separator. -/
def splitLast : List Symbol → Option (List Symbol × List Symbol)
  | [] => none
  | symbol :: rest =>
      match splitLast rest with
      | some (before, after) => some (symbol :: before, after)
      | none => if symbol = separator then some ([], rest) else none

variable {separator}

/-- There is a split exactly where there is a separator. -/
theorem splitLast_eq_none_iff {symbols : List Symbol} :
    splitLast separator symbols = none ↔ separator ∉ symbols := by
  induction symbols with
  | nil =>
      simp [splitLast]
  | cons symbol rest inductionHypothesis =>
      rw [List.mem_cons, not_or, ← inductionHypothesis, splitLast]
      cases later : splitLast separator rest with
      | some parts =>
          simp
      | none =>
          simp [eq_comm]

/-- The split is at the separator after which there is none. -/
theorem splitLast_append
    {after : List Symbol}
    (absent : separator ∉ after)
    (before : List Symbol) :
    splitLast separator (before ++ separator :: after) =
      some (before, after) := by
  induction before with
  | nil =>
      rw [List.nil_append, splitLast, splitLast_eq_none_iff.mpr absent]
      exact if_pos rfl
  | cons symbol rest inductionHypothesis =>
      rw [List.cons_append, splitLast, inductionHypothesis]

/-- What is not a separator is in one of the parts. -/
theorem mem_part_of_mem
    {symbol : Symbol}
    {symbols : List Symbol}
    (member : symbol ∈ symbols)
    (differs : symbol ≠ separator) :
    ∃ part ∈ symbols.splitOn separator, symbol ∈ part := by
  induction symbols with
  | nil =>
      cases member
  | cons first rest inductionHypothesis =>
      rw [List.splitOn_cons_eq_if_modifyHead]
      obtain ⟨part, parts, isSplit⟩ :=
        List.exists_cons_of_ne_nil (List.splitOn_ne_nil separator rest)
      rw [isSplit] at inductionHypothesis ⊢
      split
      next isSeparator =>
        have inRest : symbol ∈ rest := by
          rcases List.mem_cons.mp member with rfl | inRest
          · exact absurd (beq_iff_eq.mp isSeparator) differs
          · exact inRest
        obtain ⟨found, isPart, inPart⟩ := inductionHypothesis inRest
        exact ⟨found, List.mem_cons_of_mem _ isPart, inPart⟩
      next =>
        rcases List.mem_cons.mp member with rfl | inRest
        · exact ⟨symbol :: part, List.mem_cons_self, List.mem_cons_self⟩
        · obtain ⟨found, isPart, inPart⟩ := inductionHypothesis inRest
          rcases List.mem_cons.mp isPart with rfl | isLater
          · exact ⟨first :: found, List.mem_cons_self,
              List.mem_cons_of_mem _ inPart⟩
          · exact ⟨found, List.mem_cons_of_mem _ isLater, inPart⟩

end Split

/-- The number that is written with the given digits, and nothing else. -/
def readNumber (digits : List Char) : Option Nat :=
  if digits ≠ [] ∧ digits.all Char.isDigit then
    some (Nat.ofDigitChars 10 digits 0)
  else
    none

/-- A number is read from digits only. -/
theorem isDigit_of_readNumber
    {digits : List Char}
    {value : Nat}
    (isNumber : readNumber digits = some value)
    {symbol : Char}
    (member : symbol ∈ digits) :
    symbol.isDigit := by
  unfold readNumber at isNumber
  split at isNumber
  next areDigits =>
    exact List.all_eq_true.mp areDigits.2 symbol member
  next =>
    cases isNumber

/-- What is written is read back. -/
@[simp] theorem readNumber_repr (value : Nat) :
    readNumber value.repr.toList = some value := by
  have areDigits : (Nat.toDigits 10 value).all Char.isDigit := by
    rw [List.all_eq_true]
    intro symbol member
    exact Nat.isDigit_of_mem_toDigits (by decide) (by decide) member
  rw [Nat.toList_repr, readNumber,
    if_pos ⟨Nat.toDigits_ne_nil, areDigits⟩, Nat.ofDigitChars_ten_toDigits]

end Text

/-!
# Related options

`Option.Rel` relates two options that are both absent, or both present with
related values.
-/

namespace Option.Rel

variable {α β : Type} {related weaker : α → β → Prop}

theorem refl
    {reflexive : α → α → Prop}
    (isRelated : ∀ value, reflexive value value) :
    ∀ option, Option.Rel reflexive option option
  | Option.none => .none
  | Option.some value => .some (isRelated value)

/-- Related options stay related under a weaker relation. -/
theorem mono
    {first : Option α}
    {second : Option β}
    (weaken : ∀ {x y}, related x y → weaker x y)
    (rel : Option.Rel related first second) :
    Option.Rel weaker first second := by
  cases rel with
  | some isRelated => exact .some (weaken isRelated)
  | none => exact .none

/-- What is present on the left is present on the right. -/
theorem of_some_left
    {value : α}
    {second : Option β}
    (rel : Option.Rel related (Option.some value) second) :
    ∃ other, second = Option.some other ∧ related value other := by
  cases rel with
  | some isRelated => exact ⟨_, rfl, isRelated⟩

/-- What is present on the right is present on the left. -/
theorem of_some_right
    {first : Option α}
    {value : β}
    (rel : Option.Rel related first (Option.some value)) :
    ∃ other, first = Option.some other ∧ related other value := by
  cases rel with
  | some isRelated => exact ⟨_, rfl, isRelated⟩

theorem isSome_eq
    {first : Option α}
    {second : Option β}
    (rel : Option.Rel related first second) :
    second.isSome = first.isSome := by
  cases rel <;> rfl

/-- Relations compose. -/
theorem trans
    {γ : Type}
    {further : β → γ → Prop}
    {composed : α → γ → Prop}
    {first : Option α}
    {second : Option β}
    {third : Option γ}
    (compose : ∀ {x y z}, related x y → further y z → composed x z)
    (rel : Option.Rel related first second)
    (furtherRel : Option.Rel further second third) :
    Option.Rel composed first third := by
  cases rel with
  | some isRelated =>
      cases furtherRel with
      | some isFurther => exact .some (compose isRelated isFurther)
  | none =>
      cases furtherRel with
      | none => exact .none

end Option.Rel

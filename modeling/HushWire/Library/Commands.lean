import Mathlib.Logic.Basic

/-!
# Programs that stop at the first failure

A program that issues commands one after the other and stops at the first that
fails, in the state that was reached by then.  Its runs are read command by
command with `bind_eq_ok` and `bind_eq_error`; what no command touches, the
program preserves, whether it fails or not.
-/

namespace Commands

variable {Error State Value Result View : Type}

/-- The state that a program reaches, whether it fails or not. -/
def reached : EStateM.Result Error State Value → State
  | .ok _ state => state
  | .error _ state => state

@[simp] theorem reached_ok (value : Value) (state : State) :
    reached (.ok value state : EStateM.Result Error State Value) = state :=
  rfl

@[simp] theorem reached_error (error : Error) (state : State) :
    reached (.error error state : EStateM.Result Error State Value) =
      state :=
  rfl

/-- A sequence succeeds where both parts do. -/
theorem bind_eq_ok
    {program : EStateM Error State Value}
    {continuation : Value → EStateM Error State Result}
    {before after : State}
    {result : Result} :
    (program >>= continuation) before = .ok result after ↔
      ∃ value middle,
        program before = .ok value middle ∧
          continuation value middle = .ok result after := by
  simp only [bind, EStateM.bind]
  cases program before with
  | ok value middle =>
      constructor
      · exact fun succeeded => ⟨value, middle, rfl, succeeded⟩
      · rintro ⟨_, _, ⟨⟩, succeeded⟩
        exact succeeded
  | error =>
      exact iff_of_false nofun nofun

/-- A sequence fails where one of the parts does. -/
theorem bind_eq_error
    {program : EStateM Error State Value}
    {continuation : Value → EStateM Error State Result}
    {before after : State}
    {error : Error} :
    (program >>= continuation) before = .error error after ↔
      program before = .error error after ∨
        ∃ value middle,
          program before = .ok value middle ∧
            continuation value middle = .error error after := by
  simp only [bind, EStateM.bind]
  cases program before with
  | ok value middle =>
      constructor
      · exact fun failed => .inr ⟨value, middle, rfl, failed⟩
      · rintro (impossible | ⟨_, _, ⟨⟩, failed⟩)
        · cases impossible
        · exact failed
  | error =>
      constructor
      · rintro ⟨⟩
        exact .inl rfl
      · rintro (⟨⟨⟩⟩ | ⟨_, _, impossible, _⟩)
        · rfl
        · cases impossible

/-- After a part that succeeds, the rest runs. -/
theorem bind_of_ok
    {program : EStateM Error State Value}
    {continuation : Value → EStateM Error State Result}
    {before middle : State}
    {value : Value}
    (ran : program before = .ok value middle) :
    (program >>= continuation) before = continuation value middle := by
  simp [bind, EStateM.bind, ran]

/-- After a part that fails, nothing runs. -/
theorem bind_of_error
    {program : EStateM Error State Value}
    {continuation : Value → EStateM Error State Result}
    {before middle : State}
    {error : Error}
    (failed : program before = .error error middle) :
    (program >>= continuation) before = .error error middle := by
  simp [bind, EStateM.bind, failed]

/-- A value that is not needed is left out. -/
theorem discard_of_ok
    {program : EStateM Error State Value}
    {before after : State}
    {value : Value}
    (ran : program before = .ok value after) :
    (discard program : EStateM Error State Unit) before = .ok () after := by
  have discarded :
      (discard program : EStateM Error State Unit) before =
        (program >>= fun _ => pure ()) before := rfl
  rw [discarded, bind_of_ok ran]
  rfl

theorem discard_of_error
    {program : EStateM Error State Value}
    {before after : State}
    {error : Error}
    (failed : program before = .error error after) :
    (discard program : EStateM Error State Unit) before =
      .error error after := by
  have discarded :
      (discard program : EStateM Error State Unit) before =
        (program >>= fun _ => pure ()) before := rfl
  rw [discarded, bind_of_error failed]

theorem discard_eq_ok
    {program : EStateM Error State Value}
    {before after : State}
    (ran :
      (discard program : EStateM Error State Unit) before = .ok () after) :
    ∃ value, program before = .ok value after := by
  cases outcome : program before with
  | ok value middle =>
      rw [discard_of_ok outcome] at ran
      obtain ⟨-, rfl⟩ := EStateM.Result.ok.inj ran
      exact ⟨value, rfl⟩
  | error error middle =>
      rw [discard_of_error outcome] at ran
      cases ran

/-- Leaving out the value does not change what is reached. -/
theorem reached_discard
    (program : EStateM Error State Value)
    (before : State) :
    reached ((discard program : EStateM Error State Unit) before) =
      reached (program before) := by
  cases outcome : program before with
  | ok value after =>
      rw [discard_of_ok outcome]
      rfl
  | error error after =>
      rw [discard_of_error outcome]
      rfl

/-- Nor does a change of the value. -/
theorem reached_bind_pure
    (program : EStateM Error State Value)
    (change : Value → Result)
    (before : State) :
    reached ((program >>= fun value => pure (change value)) before) =
      reached (program before) := by
  cases outcome : program before with
  | ok value after =>
      rw [bind_of_ok outcome]
      rfl
  | error error after =>
      rw [bind_of_error outcome]
      rfl

/-- A program relates a state to the one it reaches, even where it fails. -/
def Relates
    (relation : State → State → Prop)
    (program : EStateM Error State Value) :
    Prop :=
  ∀ before, relation before (reached (program before))

namespace Relates

variable {relation : State → State → Prop}

theorem pure
    (reflexive : ∀ state, relation state state)
    (value : Value) :
    Relates relation (Pure.pure value : EStateM Error State Value) :=
  reflexive

theorem throw
    (reflexive : ∀ state, relation state state)
    (error : Error) :
    Relates relation (throw error : EStateM Error State Value) :=
  reflexive

theorem bind
    {program : EStateM Error State Value}
    {continuation : Value → EStateM Error State Result}
    (transitive :
      ∀ {first second third},
        relation first second → relation second third → relation first third)
    (first : Relates relation program)
    (later : ∀ value, Relates relation (continuation value)) :
    Relates relation (program >>= continuation) := by
  intro before
  have atFirst := first before
  cases ran : program before with
  | ok value middle =>
      rw [ran] at atFirst
      rw [bind_of_ok ran]
      exact transitive atFirst (later value middle)
  | error error middle =>
      rw [ran] at atFirst
      rw [bind_of_error ran]
      exact atFirst

theorem foldlM
    {Element : Type}
    {command : Value → Element → EStateM Error State Value}
    (reflexive : ∀ state, relation state state)
    (transitive :
      ∀ {first second third},
        relation first second → relation second third → relation first third)
    (each : ∀ value element, Relates relation (command value element))
    (value : Value)
    (elements : List Element) :
    Relates relation (elements.foldlM command value) := by
  induction elements generalizing value with
  | nil =>
      exact .pure reflexive value
  | cons element elements inductionHypothesis =>
      rw [List.foldlM_cons]
      exact .bind transitive (each value element) inductionHypothesis

end Relates

/-- A program leaves a view of the state as it is, even where it fails. -/
def Preserves
    (view : State → View)
    (program : EStateM Error State Value) :
    Prop :=
  Relates (fun before after => view after = view before) program

namespace Preserves

variable {view : State → View}

theorem pure (value : Value) :
    Preserves view (Pure.pure value : EStateM Error State Value) :=
  fun _ => rfl

theorem throw (error : Error) :
    Preserves view (throw error : EStateM Error State Value) :=
  fun _ => rfl

theorem bind
    {program : EStateM Error State Value}
    {continuation : Value → EStateM Error State Result}
    (first : Preserves view program)
    (later : ∀ value, Preserves view (continuation value)) :
    Preserves view (program >>= continuation) :=
  Relates.bind (fun earlier after => after.trans earlier) first later

theorem mapM
    {Element : Type}
    {command : Element → EStateM Error State Value}
    (each : ∀ element, Preserves view (command element))
    (elements : List Element) :
    Preserves view (elements.mapM command) := by
  induction elements with
  | nil =>
      exact .pure _
  | cons element elements inductionHypothesis =>
      rw [List.mapM_cons]
      exact (each element).bind fun _ =>
        inductionHypothesis.bind fun _ => .pure _

theorem foldlM
    {Element : Type}
    {command : Value → Element → EStateM Error State Value}
    (each : ∀ value element, Preserves view (command value element))
    (value : Value)
    (elements : List Element) :
    Preserves view (elements.foldlM command value) :=
  @Relates.foldlM Error State Value
    (fun before after => view after = view before) Element command
    (fun _ => rfl) (fun earlier after => after.trans earlier) each value
    elements

theorem forM
    {Element : Type}
    {command : Element → EStateM Error State PUnit}
    (each : ∀ element, Preserves view (command element))
    (elements : List Element) :
    Preserves view (ForM.forM elements command) := by
  induction elements with
  | nil =>
      exact .pure _
  | cons element elements inductionHypothesis =>
      rw [List.forM_cons]
      exact (each element).bind fun _ => inductionHypothesis

end Preserves

end Commands

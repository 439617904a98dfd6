import Mathlib.Data.List.Basic

/-!
# Frames in a stream

A framing writes every frame as a sequence of symbols from whose beginning it
can be split off again.  Frames that were split off a stream one after the
other are the frames it was written from, as far as they go, however the
stream arrived.
-/

/-- How frames are written and split off the beginning of a buffer. -/
structure Framing (Frame Symbol : Type) where
  Valid : Frame → Prop
  encode : Frame → List Symbol
  split? : List Symbol → Option (Frame × List Symbol)
  /-- Nothing can be split off an empty buffer. -/
  split?_nil : split? [] = none
  /-- A frame is split off whatever follows it. -/
  split?_encode :
    ∀ frame rest, Valid frame →
      split? (encode frame ++ rest) = some (frame, rest)
  /-- What was split off stood at the beginning. -/
  eq_of_split? :
    ∀ buffer frame rest, split? buffer = some (frame, rest) →
      Valid frame ∧ buffer = encode frame ++ rest

namespace Framing

variable {Frame Symbol : Type} (framing : Framing Frame Symbol)

/-- The frames one after the other. -/
def encodeAll (frames : List Frame) : List Symbol :=
  frames.flatMap framing.encode

@[simp] theorem encodeAll_nil : framing.encodeAll [] = [] :=
  rfl

@[simp] theorem encodeAll_cons (frame : Frame) (frames : List Frame) :
    framing.encodeAll (frame :: frames) =
      framing.encode frame ++ framing.encodeAll frames :=
  rfl

@[simp] theorem encodeAll_append (first second : List Frame) :
    framing.encodeAll (first ++ second) =
      framing.encodeAll first ++ framing.encodeAll second := by
  simp [encodeAll]

variable {framing}

/-- No frame is written as nothing. -/
theorem encode_ne_nil
    {frame : Frame}
    (valid : framing.Valid frame) :
    framing.encode frame ≠ [] := by
  intro isNil
  have split := framing.split?_encode frame [] valid
  rw [isNil, List.append_nil, framing.split?_nil] at split
  cases split

/-- Two frames that begin the same stream are the same. -/
theorem encode_append_inj
    {first second : Frame}
    {firstRest secondRest : List Symbol}
    (firstValid : framing.Valid first)
    (secondValid : framing.Valid second)
    (same :
      framing.encode first ++ firstRest =
        framing.encode second ++ secondRest) :
    first = second ∧ firstRest = secondRest := by
  have split := framing.split?_encode first firstRest firstValid
  rw [same, framing.split?_encode second secondRest secondValid] at split
  obtain ⟨sameFrame, sameRest⟩ := Prod.mk.inj (Option.some.inj split)
  exact ⟨sameFrame.symm, sameRest.symm⟩

/-- Frames at the beginning of a stream are its first frames. -/
theorem eq_append_of_encodeAll
    {first whole : List Frame}
    {rest : List Symbol}
    (firstValid : ∀ frame ∈ first, framing.Valid frame)
    (wholeValid : ∀ frame ∈ whole, framing.Valid frame)
    (same : framing.encodeAll first ++ rest = framing.encodeAll whole) :
    ∃ remaining,
      whole = first ++ remaining ∧ rest = framing.encodeAll remaining := by
  induction first generalizing whole with
  | nil =>
      exact ⟨whole, rfl, same⟩
  | cons frame first inductionHypothesis =>
      obtain ⟨frameValid, framesValid⟩ := List.forall_mem_cons.mp firstValid
      cases whole with
      | nil =>
          rw [encodeAll_cons, List.append_assoc] at same
          exact absurd (List.append_eq_nil_iff.mp same).1
            (encode_ne_nil frameValid)
      | cons head whole =>
          obtain ⟨headValid, restValid⟩ := List.forall_mem_cons.mp wholeValid
          rw [encodeAll_cons, encodeAll_cons, List.append_assoc] at same
          obtain ⟨rfl, sameRest⟩ :=
            encode_append_inj frameValid headValid same
          obtain ⟨remaining, rfl, isRest⟩ :=
            inductionHypothesis framesValid restValid sameRest
          exact ⟨remaining, rfl, isRest⟩

/-- A stream off which nothing can be split has no frames. -/
theorem eq_nil_of_split?
    {frames : List Frame}
    (valid : ∀ frame ∈ frames, framing.Valid frame)
    (noSplit : framing.split? (framing.encodeAll frames) = none) :
    frames = [] := by
  cases frames with
  | nil =>
      rfl
  | cons frame frames =>
      rw [encodeAll_cons,
        framing.split?_encode _ _ (valid frame List.mem_cons_self)] at noSplit
      cases noSplit

variable (framing) in
/-- The whole frames at the beginning of a stream, and what is left of it. -/
structure Frames
    (stream : List Symbol)
    (frames : List Frame)
    (rest : List Symbol) :
    Prop where
  valid : ∀ frame ∈ frames, framing.Valid frame
  same : framing.encodeAll frames ++ rest = stream
  noSplit : framing.split? rest = none

namespace Frames

variable {stream rest otherRest : List Symbol} {frames others : List Frame}

/-- A stream has only one sequence of whole frames. -/
theorem unique
    (these : framing.Frames stream frames rest)
    (those : framing.Frames stream others otherRest) :
    frames = others ∧ rest = otherRest := by
  obtain ⟨valid, same, noSplit⟩ := these
  obtain ⟨othersValid, sameOthers, noOtherSplit⟩ := those
  induction frames generalizing stream others with
  | nil =>
      cases others with
      | nil =>
          exact ⟨rfl, same.trans sameOthers.symm⟩
      | cons other others =>
          have isRest : rest = stream := same
          rw [isRest, ← sameOthers, encodeAll_cons, List.append_assoc,
            framing.split?_encode _ _ (othersValid _ List.mem_cons_self)]
            at noSplit
          cases noSplit
  | cons frame frames inductionHypothesis =>
      obtain ⟨frameValid, framesValid⟩ := List.forall_mem_cons.mp valid
      rw [encodeAll_cons, List.append_assoc] at same
      cases others with
      | nil =>
          have isRest : otherRest = stream := sameOthers
          rw [isRest, ← same, framing.split?_encode _ _ frameValid]
            at noOtherSplit
          cases noOtherSplit
      | cons other others =>
          obtain ⟨otherValid, restValid⟩ := List.forall_mem_cons.mp othersValid
          rw [encodeAll_cons, List.append_assoc] at sameOthers
          obtain ⟨rfl, sameRest⟩ :=
            encode_append_inj frameValid otherValid
              (same.trans sameOthers.symm)
          obtain ⟨rfl, isRest⟩ :=
            inductionHypothesis framesValid rfl restValid sameRest.symm
          exact ⟨rfl, isRest⟩

/-- Frames in front of a stream are its first frames. -/
theorem behind
    {earlier : List Frame}
    (valid : ∀ frame ∈ earlier, framing.Valid frame)
    (these : framing.Frames stream frames rest) :
    framing.Frames (framing.encodeAll earlier ++ stream) (earlier ++ frames)
      rest where
  valid := List.forall_mem_append.mpr ⟨valid, these.valid⟩
  same := by
    rw [encodeAll_append, List.append_assoc, these.same]
  noSplit := these.noSplit

end Frames

end Framing

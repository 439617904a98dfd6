import HushWire.Replay

namespace HushWire

/-!
# The replay window over a whole session

`ReplayWindow.markAuthenticatedChecked` is `mark_authenticated` with every
index, shift and difference of the source as an operation that may abort.  None
does, so it computes `markAuthenticated`.  Over any sequence of calls a counter
is accepted exactly when it was not accepted before and is not too far below
the highest one.
-/

namespace ReplayWindow

/-- An operation that aborts the program. -/
inductive Fault where
  | index (index : Nat)
  | shift (amount : Nat)
  | difference
  deriving Repr, DecidableEq

/-- `bits[index]`. -/
def wordAt
    (bits : Vector UInt64 windowWords)
    (index : Nat) :
    Except Fault UInt64 :=
  match bits[index]? with
  | none => .error (.index index)
  | some word => .ok word

/-- `bits[index] = value`. -/
def setWord
    (bits : Vector UInt64 windowWords)
    (index : Nat)
    (value : UInt64) :
    Except Fault (Vector UInt64 windowWords) :=
  if inside : index < windowWords then
    .ok (bits.set index value)
  else
    .error (.index index)

/-- `value << amount`. -/
def shiftLeft (value : UInt64) (amount : Nat) : Except Fault UInt64 :=
  if amount < wordBits then
    .ok (value <<< UInt64.ofNat amount)
  else
    .error (.shift amount)

/-- `value >> amount`. -/
def shiftRight (value : UInt64) (amount : Nat) : Except Fault UInt64 :=
  if amount < wordBits then
    .ok (value >>> UInt64.ofNat amount)
  else
    .error (.shift amount)

/-- `minuend - subtrahend`. -/
def difference (minuend subtrahend : UInt64) : Except Fault UInt64 :=
  if subtrahend ≤ minuend then
    .ok (minuend - subtrahend)
  else
    .error .difference

/-- `bits[index] |= value`. -/
def orWordChecked
    (bits : Vector UInt64 windowWords)
    (index : Nat)
    (value : UInt64) :
    Except Fault (Vector UInt64 windowWords) := do
  let word ← wordAt bits index
  setWord bits index (word ||| value)

/-- `bit_is_set`, with its accesses. -/
def bitIsSetChecked
    (bits : Vector UInt64 windowWords)
    (distance : Nat) :
    Except Fault Bool := do
  let word ← wordAt bits (distance / wordBits)
  let mask ← shiftLeft 1 (distance % wordBits)
  .ok (word &&& mask != 0)

/-- `set_bit`, with its accesses. -/
def setBitChecked
    (bits : Vector UInt64 windowWords)
    (distance : Nat) :
    Except Fault (Vector UInt64 windowWords) := do
  let mask ← shiftLeft 1 (distance % wordBits)
  orWordChecked bits (distance / wordBits) mask

/-- The carry of `shift_older` into the word after the destination. -/
def carryChecked
    (bitShift destination : Nat)
    (value : UInt64)
    (bits : Vector UInt64 windowWords) :
    Except Fault (Vector UInt64 windowWords) :=
  if bitShift ≠ 0 ∧ destination + 1 < windowWords then do
    let carried ← shiftRight value (wordBits - bitShift)
    orWordChecked bits (destination + 1) carried
  else
    .ok bits

/-- The loop of `shift_older`, with its accesses. -/
def shiftWordsChecked
    (wordShift bitShift : Nat) :
    List UInt64 → Nat → Vector UInt64 windowWords →
      Except Fault (Vector UInt64 windowWords)
  | [], _, bits => .ok bits
  | value :: rest, source, bits =>
      if windowWords ≤ source + wordShift then
        .ok bits
      else do
        let shifted ← shiftLeft value bitShift
        let bits ← orWordChecked bits (source + wordShift) shifted
        let bits ← carryChecked bitShift (source + wordShift) value bits
        shiftWordsChecked wordShift bitShift rest (source + 1) bits

/-- `shift_older`, with its accesses. -/
def shiftOlderChecked
    (bits : Vector UInt64 windowWords)
    (amount : UInt64) :
    Except Fault (Vector UInt64 windowWords) :=
  if defaultWindowSize ≤ amount.toNat then
    .ok (Vector.replicate windowWords 0)
  else
    shiftWordsChecked (amount.toNat / wordBits) (amount.toNat % wordBits)
      bits.toList 0 (Vector.replicate windowWords 0)

/-- `would_accept`, with its accesses. -/
def wouldAcceptChecked
    (window : ReplayWindow)
    (counter : UInt64) :
    Except Fault Bool :=
  match window.highest with
  | none => .ok true
  | some highest =>
      if highest < counter then
        .ok true
      else do
        let distance ← difference highest counter
        if defaultWindowSize ≤ distance.toNat then
          .ok false
        else
          let isSet ← bitIsSetChecked window.bits distance.toNat
          .ok (!isSet)

/-- The part of `mark_authenticated` after its check. -/
def recordChecked
    (window : ReplayWindow)
    (counter : UInt64) :
    Except Fault ReplayWindow :=
  match window.highest with
  | none => do
      let bits ← setWord window.bits 0 1
      .ok ⟨some counter, bits⟩
  | some highest =>
      if highest < counter then do
        let amount ← difference counter highest
        let bits ← shiftOlderChecked window.bits amount
        let bits ← orWordChecked bits 0 1
        .ok ⟨some counter, bits⟩
      else do
        let distance ← difference highest counter
        let bits ← setBitChecked window.bits distance.toNat
        .ok { window with bits }

/-- `mark_authenticated`, with its accesses. -/
def markAuthenticatedChecked
    (window : ReplayWindow)
    (counter : UInt64) :
    Except Fault (Bool × ReplayWindow) := do
  let accepted ← window.wouldAcceptChecked counter
  if accepted then
    let window ← window.recordChecked counter
    .ok (true, window)
  else
    .ok (false, window)

/-! ## No access is out of range -/

theorem wordAt_eq
    {bits : Vector UInt64 windowWords}
    {index : Nat}
    (inside : index < windowWords) :
    wordAt bits index = .ok bits[index] := by
  simp [wordAt, inside]

theorem shiftLeft_eq
    {value : UInt64}
    {amount : Nat}
    (inside : amount < wordBits) :
    shiftLeft value amount = .ok (value <<< UInt64.ofNat amount) :=
  if_pos inside

theorem orWordChecked_eq
    {bits : Vector UInt64 windowWords}
    {index : Nat}
    (inside : index < windowWords)
    (value : UInt64) :
    orWordChecked bits index value = .ok (orWord bits index inside value) := by
  unfold orWordChecked
  rw [wordAt_eq inside]
  exact dif_pos inside

theorem bitIsSetChecked_eq
    (bits : Vector UInt64 windowWords)
    (distance : Fin defaultWindowSize) :
    bitIsSetChecked bits distance.val = .ok (bitIsSet bits distance) := by
  unfold bitIsSetChecked
  rw [wordAt_eq (Nat.div_lt_of_lt_mul distance.isLt),
    shiftLeft_eq (Nat.mod_lt _ (by decide))]
  rfl

theorem setBitChecked_eq
    (bits : Vector UInt64 windowWords)
    (distance : Fin defaultWindowSize) :
    setBitChecked bits distance.val = .ok (setBit bits distance) := by
  unfold setBitChecked
  rw [shiftLeft_eq (Nat.mod_lt _ (by decide))]
  exact orWordChecked_eq (Nat.div_lt_of_lt_mul distance.isLt) _

theorem carryChecked_eq
    (bitShift destination : Nat)
    (value : UInt64)
    (bits : Vector UInt64 windowWords) :
    carryChecked bitShift destination value bits =
      .ok
        (if carry : bitShift ≠ 0 ∧ destination + 1 < windowWords then
          orWord bits (destination + 1) carry.2
            (value >>> UInt64.ofNat (wordBits - bitShift))
        else
          bits) := by
  unfold carryChecked
  by_cases carry : bitShift ≠ 0 ∧ destination + 1 < windowWords
  · have shorter : wordBits - bitShift < wordBits :=
      Nat.sub_lt (by decide) (Nat.pos_of_ne_zero carry.1)
    rw [if_pos carry, dif_pos carry]
    unfold shiftRight
    rw [if_pos shorter]
    exact orWordChecked_eq carry.2 _
  · rw [if_neg carry, dif_neg carry]

/-- The loop stays inside the words and the words inside their bits. -/
theorem shiftWordsChecked_eq
    {bitShift : Nat}
    (inside : bitShift < wordBits)
    (wordShift : Nat)
    (words : List UInt64)
    (source : Nat)
    (bits : Vector UInt64 windowWords) :
    shiftWordsChecked wordShift bitShift words source bits =
      .ok (shiftWords wordShift bitShift words source bits) := by
  induction words generalizing source bits with
  | nil =>
      rfl
  | cons value rest inductionHypothesis =>
      unfold shiftWordsChecked shiftWords
      by_cases past : windowWords ≤ source + wordShift
      · rw [if_pos past, dif_neg (Nat.not_lt.mpr past)]
      · have destination := Nat.not_le.mp past
        rw [if_neg past, dif_pos destination, shiftLeft_eq inside]
        dsimp only [bind, Except.bind]
        rw [orWordChecked_eq destination]
        dsimp only
        rw [carryChecked_eq]
        exact inductionHypothesis _ _

theorem shiftOlderChecked_eq
    (bits : Vector UInt64 windowWords)
    (amount : UInt64) :
    shiftOlderChecked bits amount = .ok (shiftOlder bits amount) := by
  unfold shiftOlderChecked shiftOlder
  split
  · rfl
  · exact shiftWordsChecked_eq (Nat.mod_lt _ (by decide)) _ _ _ _

/-- The check before authentication does not abort. -/
theorem wouldAcceptChecked_eq
    (window : ReplayWindow)
    (counter : UInt64) :
    window.wouldAcceptChecked counter = .ok (window.wouldAccept counter) := by
  unfold wouldAcceptChecked wouldAccept
  cases window.highest with
  | none =>
      rfl
  | some highest =>
      dsimp only
      split
      · rfl
      · rename_i notNewer
        have ordered : counter ≤ highest := UInt64.not_lt.mp notNewer
        unfold difference
        rw [if_pos ordered]
        dsimp only [bind, Except.bind]
        by_cases far : defaultWindowSize ≤ (highest - counter).toNat
        · rw [if_pos far, dif_neg (Nat.not_lt.mpr far)]
        · have inside := Nat.not_le.mp far
          rw [if_neg far, dif_pos inside,
            bitIsSetChecked_eq window.bits ⟨_, inside⟩]

theorem recordChecked_eq
    {window : ReplayWindow}
    {counter : UInt64}
    (accepted : window.wouldAccept counter = true) :
    window.recordChecked counter =
      .ok (window.markAuthenticated counter).2 := by
  obtain ⟨recorded, bits⟩ := window
  unfold recordChecked markAuthenticated
  rw [dif_pos accepted]
  cases recorded with
  | none =>
      dsimp only
      unfold setWord
      rw [dif_pos (by decide)]
      rfl
  | some highest =>
      dsimp only
      by_cases newer : highest < counter
      · rw [if_pos newer, dif_pos newer]
        unfold difference
        rw [if_pos (UInt64.le_of_lt newer)]
        dsimp only [bind, Except.bind]
        rw [shiftOlderChecked_eq]
        dsimp only
        rw [orWordChecked_eq (by decide)]
      · rw [if_neg newer, dif_neg newer]
        unfold difference
        rw [if_pos (UInt64.not_lt.mp newer)]
        dsimp only [bind, Except.bind]
        have inside :=
          distance_lt_of_wouldAccept accepted rfl newer
        rw [setBitChecked_eq bits ⟨_, inside⟩]

/-- Recording an authenticated counter does not abort. -/
theorem markAuthenticatedChecked_eq
    (window : ReplayWindow)
    (counter : UInt64) :
    window.markAuthenticatedChecked counter =
      .ok (window.markAuthenticated counter) := by
  unfold markAuthenticatedChecked
  rw [wouldAcceptChecked_eq]
  dsimp only [bind, Except.bind]
  cases accepted : window.wouldAccept counter with
  | true =>
      rw [if_pos rfl, recordChecked_eq accepted]
      exact congrArg Except.ok
        (Prod.ext (fst_markAuthenticated_of_accepted accepted).symm rfl)
  | false =>
      rw [if_neg Bool.false_ne_true, markAuthenticated_of_rejected accepted]

/-! ## Sequences of calls -/

/-- A call of the window with its counter. -/
inductive Call where
  | wouldAccept (counter : UInt64)
  | markAuthenticated (counter : UInt64)
  deriving Repr, DecidableEq

def Call.counter : Call → UInt64
  | .wouldAccept counter => counter
  | .markAuthenticated counter => counter

/-- Carry out a call. -/
def perform
    (window : ReplayWindow) :
    Call → Except Fault (Bool × ReplayWindow)
  | .wouldAccept counter => do
      let accepted ← window.wouldAcceptChecked counter
      .ok (accepted, window)
  | .markAuthenticated counter => window.markAuthenticatedChecked counter

/-- The answers to a sequence of calls, each with its call. -/
def transcript
    (window : ReplayWindow) :
    List Call → Except Fault (List (Call × Bool))
  | [] => .ok []
  | call :: rest => do
      let (answer, next) ← window.perform call
      let later ← next.transcript rest
      .ok ((call, answer) :: later)

/-- The counters that were accepted in a sequence of calls. -/
def acceptedIn (transcript : List (Call × Bool)) : List UInt64 :=
  transcript.filterMap fun
    | (.markAuthenticated counter, true) => some counter
    | _ => none

/-- The largest of the accepted counters. -/
def IsHighest (accepted : List UInt64) (highest : UInt64) : Prop :=
  highest ∈ accepted ∧ ∀ counter ∈ accepted, counter ≤ highest

/-- A counter is new and not too far below the largest accepted one. -/
def Acceptable (accepted : List UInt64) (counter : UInt64) : Prop :=
  counter ∉ accepted ∧
    (accepted = [] ∨
      ∃ highest,
        IsHighest accepted highest ∧
          (highest < counter ∨
            highest.toNat - counter.toNat < defaultWindowSize))

/-- The highest recorded counter is the largest accepted one. -/
theorem Represents.isHighest
    {window : ReplayWindow}
    {accepted : List UInt64}
    (represents : window.Represents {counter | counter ∈ accepted})
    {highest : UInt64}
    (isHighest : window.highest = some highest) :
    IsHighest accepted highest :=
  represents.highestSeen isHighest

/-- A window accepts the acceptable counters. -/
theorem Represents.wouldAccept_iff_acceptable
    {window : ReplayWindow}
    {accepted : List UInt64}
    (represents : window.Represents {counter | counter ∈ accepted})
    (counter : UInt64) :
    window.wouldAccept counter = true ↔ Acceptable accepted counter := by
  rw [represents.wouldAccept_iff]
  refine and_congr_right fun unseen => ?_
  cases isHighest : window.highest with
  | none =>
      have noneAccepted : accepted = [] :=
        List.eq_nil_iff_forall_not_mem.mpr
          (Set.eq_empty_iff_forall_notMem.mp (represents.fresh isHighest).1)
      simp [noneAccepted]
  | some highest =>
      have largest := represents.isHighest isHighest
      constructor
      · intro reaches
        refine Or.inr ⟨highest, largest, ?_⟩
        rcases reaches highest rfl with newer | inside
        · exact Or.inl newer
        · by_cases newer : highest < counter
          · exact Or.inl newer
          · rw [toNat_distance (UInt64.not_lt.mp newer)] at inside
            exact Or.inr inside
      · rintro (noneAccepted | ⟨other, otherLargest, reaches⟩) _ ⟨⟩
        · rw [noneAccepted] at largest
          exact absurd largest.1 List.not_mem_nil
        · obtain rfl : other = highest :=
            UInt64.le_antisymm (largest.2 other otherLargest.1)
              (otherLargest.2 highest largest.1)
          rcases reaches with newer | inside
          · exact Or.inl newer
          · by_cases newer : other < counter
            · exact Or.inl newer
            · rw [toNat_distance (UInt64.not_lt.mp newer)]
              exact Or.inr inside

/-- A call is answered by what was accepted before, and records its counter. -/
theorem Represents.perform
    {window : ReplayWindow}
    {accepted : List UInt64}
    (represents : window.Represents {counter | counter ∈ accepted})
    (call : Call) :
    ∃ answer next,
      window.perform call = .ok (answer, next) ∧
        (answer = true ↔ Acceptable accepted call.counter) ∧
        next.Represents
          {counter | counter ∈ accepted ++ acceptedIn [(call, answer)]} := by
  cases call with
  | wouldAccept counter =>
      refine ⟨window.wouldAccept counter, window, ?_,
        represents.wouldAccept_iff_acceptable counter, ?_⟩
      · unfold ReplayWindow.perform
        dsimp only
        rw [wouldAcceptChecked_eq]
        rfl
      · simpa [acceptedIn] using represents
  | markAuthenticated counter =>
      have isAcceptable := represents.wouldAccept_iff_acceptable counter
      cases accepts : window.wouldAccept counter with
      | true =>
          obtain ⟨recorded, next⟩ := represents.markAuthenticated accepts
          refine ⟨true, (window.markAuthenticated counter).2, ?_,
            accepts ▸ isAcceptable, ?_⟩
          · exact (window.markAuthenticatedChecked_eq counter).trans
              (congrArg Except.ok (Prod.ext recorded rfl))
          · convert next using 1
            ext other
            simp [acceptedIn, or_comm]
      | false =>
          refine ⟨false, window, ?_, accepts ▸ isAcceptable, ?_⟩
          · exact (window.markAuthenticatedChecked_eq counter).trans
              (congrArg Except.ok (markAuthenticated_of_rejected accepts))
          · simpa [acceptedIn] using represents

theorem acceptedIn_append (earlier later : List (Call × Bool)) :
    acceptedIn (earlier ++ later) =
      acceptedIn earlier ++ acceptedIn later :=
  List.filterMap_append

/-- From a window that has recorded some counters, all answers are right. -/
theorem Represents.transcript
    {window : ReplayWindow}
    {accepted : List UInt64}
    (represents : window.Represents {counter | counter ∈ accepted})
    (calls : List Call) :
    ∃ transcript,
      window.transcript calls = .ok transcript ∧
        transcript.map Prod.fst = calls ∧
        ∀ earlier call answer later,
          transcript = earlier ++ (call, answer) :: later →
          (answer = true ↔
            Acceptable (accepted ++ acceptedIn earlier) call.counter) := by
  induction calls generalizing window accepted with
  | nil =>
      refine ⟨[], rfl, rfl, ?_⟩
      intro earlier call answer later isSplit
      simp at isSplit
  | cons call rest inductionHypothesis =>
      obtain ⟨answer, next, performed, isRight, nextRepresents⟩ :=
        represents.perform call
      obtain ⟨later, answered, sameCalls, laterRight⟩ :=
        inductionHypothesis nextRepresents
      refine ⟨(call, answer) :: later, ?_, by simp [sameCalls], ?_⟩
      · unfold ReplayWindow.transcript
        rw [performed]
        dsimp only [bind, Except.bind]
        rw [answered]
      · intro earlier queried given others isSplit
        cases earlier with
        | nil =>
            cases isSplit
            simpa [acceptedIn] using isRight
        | cons first earlier =>
            simp only [List.cons_append, List.cons.injEq] at isSplit
            obtain ⟨rfl, isSplit⟩ := isSplit
            rw [laterRight earlier queried given others isSplit,
              List.append_assoc, ← acceptedIn_append]
            rfl

/--
A fresh window answers every call, without aborting, by the counters that it
accepted before.
-/
theorem replay_window_refines_seen_set (calls : List Call) :
    ∃ transcript,
      ReplayWindow.new.transcript calls = .ok transcript ∧
        transcript.map Prod.fst = calls ∧
        ∀ earlier call answer later,
          transcript = earlier ++ (call, answer) :: later →
          (answer = true ↔ Acceptable (acceptedIn earlier) call.counter) := by
  have fresh :
      ReplayWindow.new.Represents
        {counter | counter ∈ ([] : List UInt64)} := by
    simpa using represents_new
  exact fresh.transcript calls

/-- A jump of a whole window forgets, and what falls below it is rejected. -/
example :
    ReplayWindow.new.transcript
        [.markAuthenticated 0, .markAuthenticated 4096, .wouldAccept 0,
          .wouldAccept 1, .markAuthenticated 4096] =
      .ok
        [(.markAuthenticated 0, true), (.markAuthenticated 4096, true),
          (.wouldAccept 0, false), (.wouldAccept 1, true),
          (.markAuthenticated 4096, false)] := by
  decide +kernel

end ReplayWindow

end HushWire

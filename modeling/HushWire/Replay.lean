import Mathlib.Data.Set.Insert
import Mathlib.Data.Nat.Bitwise

namespace HushWire

/-!
# The anti-replay window

The receiver of a session remembers the highest authenticated counter and a
4096-bit map of the counters below it.  Bit `d` stands for `highest - d`; the
bits are kept in 64 words of 64 bits and are shifted when the window moves.

`ReplayWindow.Represents` states what a window means: the set of counters it
has recorded.  A window accepts a counter exactly when the counter was not
recorded and is not too far below the highest one.
-/

def defaultWindowSize : Nat := 4096

def wordBits : Nat := 64

abbrev windowWords : Nat := 64

/-- A 4096-packet window: bit zero is `highest`, bit one `highest - 1`. -/
structure ReplayWindow where
  highest : Option UInt64
  bits : Vector UInt64 windowWords

namespace ReplayWindow

def new : ReplayWindow where
  highest := none
  bits := Vector.replicate windowWords 0

/-- Test the bit of a distance inside the window. -/
def bitIsSet
    (bits : Vector UInt64 windowWords)
    (distance : Fin defaultWindowSize) :
    Bool :=
  have bound : distance.val / wordBits < windowWords :=
    Nat.div_lt_of_lt_mul distance.isLt
  let word := bits[distance.val / wordBits]
  let bit := distance.val % wordBits
  word &&& ((1 : UInt64) <<< UInt64.ofNat bit) != 0

/-- `bits[word] |= value`, at a word inside the window. -/
def orWord
    (bits : Vector UInt64 windowWords)
    (word : Nat)
    (bound : word < windowWords)
    (value : UInt64) :
    Vector UInt64 windowWords :=
  bits.set word (bits[word] ||| value)

/-- Set the bit of a distance inside the window. -/
def setBit
    (bits : Vector UInt64 windowWords)
    (distance : Fin defaultWindowSize) :
    Vector UInt64 windowWords :=
  orWord bits (distance.val / wordBits)
    (Nat.div_lt_of_lt_mul distance.isLt)
    ((1 : UInt64) <<< UInt64.ofNat (distance.val % wordBits))

/-- The loop of `shift_older`, from source word `source` on. -/
def shiftWords
    (wordShift bitShift : Nat) :
    List UInt64 → Nat → Vector UInt64 windowWords →
      Vector UInt64 windowWords
  | [], _, bits => bits
  | value :: rest, source, bits =>
      let destination := source + wordShift
      if inside : destination < windowWords then
        let bits :=
          orWord bits destination inside
            (value <<< UInt64.ofNat bitShift)
        let bits :=
          if carry : bitShift ≠ 0 ∧ destination + 1 < windowWords then
            orWord bits (destination + 1) carry.2
              (value >>> UInt64.ofNat (wordBits - bitShift))
          else
            bits
        shiftWords wordShift bitShift rest (source + 1) bits
      else
        bits

/-- Age every recorded counter by `amount`. -/
def shiftOlder
    (bits : Vector UInt64 windowWords)
    (amount : UInt64) :
    Vector UInt64 windowWords :=
  if defaultWindowSize ≤ amount.toNat then
    Vector.replicate windowWords 0
  else
    shiftWords (amount.toNat / wordBits) (amount.toNat % wordBits)
      bits.toList 0 (Vector.replicate windowWords 0)

/-- The check made before authentication; it never changes the window. -/
def wouldAccept (window : ReplayWindow) (counter : UInt64) : Bool :=
  match window.highest with
  | none => true
  | some highest =>
      if highest < counter then
        true
      else
        let distance := highest - counter
        if inside : distance.toNat < defaultWindowSize then
          !bitIsSet window.bits ⟨distance.toNat, inside⟩
        else
          false

/-- An accepted counter that is not newer lies inside the window. -/
theorem distance_lt_of_wouldAccept
    {window : ReplayWindow}
    {highest counter : UInt64}
    (accepted : window.wouldAccept counter = true)
    (isHighest : window.highest = some highest)
    (notNewer : ¬ highest < counter) :
    (highest - counter).toNat < defaultWindowSize := by
  by_contra outside
  simp [wouldAccept, isHighest, notNewer, outside] at accepted

/-- Record an authenticated counter, unless it is recorded or too old. -/
def markAuthenticated
    (window : ReplayWindow)
    (counter : UInt64) :
    Bool × ReplayWindow :=
  if accepted : window.wouldAccept counter = true then
    match isHighest : window.highest with
    | none =>
        (true, ⟨some counter, window.bits.set 0 1⟩)
    | some highest =>
        if newer : highest < counter then
          let bits := shiftOlder window.bits (counter - highest)
          (true, ⟨some counter, orWord bits 0 (by decide) 1⟩)
        else
          let distance : Fin defaultWindowSize :=
            ⟨(highest - counter).toNat,
              distance_lt_of_wouldAccept accepted isHighest newer⟩
          (true, { window with bits := setBit window.bits distance })
  else
    (false, window)

/-- An accepted counter is recorded. -/
theorem fst_markAuthenticated_of_accepted
    {window : ReplayWindow}
    {counter : UInt64}
    (accepted : window.wouldAccept counter = true) :
    (window.markAuthenticated counter).1 = true := by
  unfold markAuthenticated
  rw [dif_pos accepted]
  split
  case h_1 => rfl
  case h_2 =>
    split <;> rfl

/-! ## The bits of a word vector -/

/-- Bit `index` of a word vector, read across the word boundaries. -/
def bitAt (bits : Vector UInt64 windowWords) (index : Nat) : Bool :=
  (bits[index / wordBits]?.getD 0).toNat.testBit (index % wordBits)

theorem toNat_shiftedOne {bit : Nat} (bound : bit < 64) :
    ((1 : UInt64) <<< UInt64.ofNat bit).toNat = 2 ^ bit := by
  have small : 2 ^ bit < 2 ^ 64 := Nat.pow_lt_pow_right (by decide) bound
  simp only [UInt64.toNat_shiftLeft, UInt64.toNat_ofNat', UInt64.toNat_one,
    Nat.shiftLeft_eq, Nat.one_mul]
  rw [Nat.mod_eq_of_lt (by omega : bit < 2 ^ 64), Nat.mod_eq_of_lt bound,
    Nat.mod_eq_of_lt small]

/-- `bit_is_set` reads the bit at the distance. -/
theorem bitIsSet_eq_bitAt
    (bits : Vector UInt64 windowWords)
    (distance : Fin defaultWindowSize) :
    bitIsSet bits distance = bitAt bits distance.val := by
  have bound : distance.val / wordBits < windowWords :=
    Nat.div_lt_of_lt_mul distance.isLt
  have bitBound : distance.val % wordBits < 64 :=
    Nat.mod_lt _ (by decide)
  have isZero (word : UInt64) :
      (word &&& (1 : UInt64) <<< UInt64.ofNat (distance.val % wordBits) = 0)
        ↔ word.toNat.testBit (distance.val % wordBits) = false := by
    rw [← UInt64.toNat_inj, UInt64.toNat_and, toNat_shiftedOne bitBound,
      Nat.and_two_pow]
    cases word.toNat.testBit (distance.val % wordBits) <;> simp
  unfold bitIsSet bitAt
  rw [Vector.getElem?_eq_getElem bound, Option.getD_some]
  apply Bool.eq_iff_iff.mpr
  rw [bne_iff_ne, ne_eq, isZero, Bool.not_eq_false]

/-- Replacing one word changes the bits of that word only. -/
theorem bitAt_set
    (bits : Vector UInt64 windowWords)
    {word : Nat}
    (bound : word < windowWords)
    (value : UInt64)
    (index : Nat) :
    bitAt (bits.set word value) index =
      if index / wordBits = word then
        value.toNat.testBit (index % wordBits)
      else
        bitAt bits index := by
  unfold bitAt
  rw [Vector.getElem?_set]
  by_cases same : index / wordBits = word
  · simp [same]
  · simp [same, Ne.symm same]

/-- Or-ing one word adds the bits of the value to that word. -/
theorem bitAt_orWord
    (bits : Vector UInt64 windowWords)
    {word : Nat}
    (bound : word < windowWords)
    (value : UInt64)
    (index : Nat) :
    bitAt (orWord bits word bound value) index =
      (bitAt bits index ||
        (decide (index / wordBits = word) &&
          value.toNat.testBit (index % wordBits))) := by
  unfold orWord
  rw [bitAt_set]
  by_cases same : index / wordBits = word
  · subst same
    simp [bitAt, Vector.getElem?_eq_getElem bound]
  · simp [same]

/-- The value one, stored in word zero, is the bit at distance zero. -/
theorem testBit_one_of_word_zero (index : Nat) :
    (decide (index / wordBits = 0) &&
        (1 : UInt64).toNat.testBit (index % wordBits)) =
      decide (index = 0) := by
  have lowest : (1 : UInt64).toNat = 2 ^ 0 := rfl
  rw [lowest, Nat.testBit_two_pow]
  apply Bool.eq_iff_iff.mpr
  rw [Bool.and_eq_true, decide_eq_true_eq, decide_eq_true_eq,
    decide_eq_true_eq]
  simp only [wordBits]
  omega

@[simp] theorem bitAt_replicate (index : Nat) :
    bitAt (Vector.replicate windowWords 0) index = false := by
  unfold bitAt
  rw [Vector.getElem?_replicate]
  split <;> simp

/-- `set_bit` sets the bit at the distance and no other. -/
theorem bitAt_setBit
    (bits : Vector UInt64 windowWords)
    (distance : Fin defaultWindowSize)
    (index : Nat) :
    bitAt (setBit bits distance) index =
      (bitAt bits index || decide (index = distance.val)) := by
  have bitBound : distance.val % wordBits < 64 :=
    Nat.mod_lt _ (by decide)
  have sameIndex :
      index = distance.val ↔
        index / wordBits = distance.val / wordBits ∧
          distance.val % wordBits = index % wordBits := by
    simp only [wordBits]
    omega
  unfold setBit
  rw [bitAt_orWord, toNat_shiftedOne bitBound, Nat.testBit_two_pow]
  simp [sameIndex]

/-! ## Shifting -/

/-- Bits moved up inside their word. -/
theorem testBit_shiftLeft
    (value : UInt64)
    {shift bit : Nat}
    (shiftBound : shift < 64)
    (bitBound : bit < 64) :
    (value <<< UInt64.ofNat shift).toNat.testBit bit =
      (decide (shift ≤ bit) && value.toNat.testBit (bit - shift)) := by
  rw [UInt64.toNat_shiftLeft, UInt64.toNat_ofNat',
    Nat.mod_eq_of_lt (by omega : shift < 2 ^ 64),
    Nat.mod_eq_of_lt shiftBound, Nat.testBit_mod_two_pow,
    Nat.testBit_shiftLeft]
  simp [bitBound]

/-- Bits carried into the next word. -/
theorem testBit_shiftRight
    (value : UInt64)
    {shift bit : Nat}
    (shiftBound : shift < 64) :
    (value >>> UInt64.ofNat shift).toNat.testBit bit =
      value.toNat.testBit (bit + shift) := by
  rw [UInt64.toNat_shiftRight, UInt64.toNat_ofNat',
    Nat.mod_eq_of_lt (by omega : shift < 2 ^ 64),
    Nat.mod_eq_of_lt shiftBound, Nat.testBit_shiftRight,
    Nat.add_comm]

/--
What `shift_older`'s loop adds at a bit: the bit `64 * wordShift + bitShift`
below it, if that bit belongs to a source word still to be read.
-/
def shiftedIn
    (wordShift bitShift : Nat)
    (values : List UInt64)
    (source index : Nat) :
    Bool :=
  let amount := wordBits * wordShift + bitShift
  decide (amount ≤ index) &&
    (decide (source ≤ (index - amount) / wordBits) &&
      (values[(index - amount) / wordBits - source]?.getD 0).toNat.testBit
        ((index - amount) % wordBits))

/-- The bits one source word contributes. -/
def contribution
    (wordShift bitShift : Nat)
    (value : UInt64)
    (source index : Nat) :
    Bool :=
  let amount := wordBits * wordShift + bitShift
  decide (amount ≤ index) &&
    (decide ((index - amount) / wordBits = source) &&
      value.toNat.testBit ((index - amount) % wordBits))

theorem shiftedIn_cons
    (wordShift bitShift : Nat)
    (value : UInt64)
    (rest : List UInt64)
    (source index : Nat) :
    shiftedIn wordShift bitShift (value :: rest) source index =
      (contribution wordShift bitShift value source index ||
        shiftedIn wordShift bitShift rest (source + 1) index) := by
  unfold shiftedIn contribution
  simp only
  generalize (index - (wordBits * wordShift + bitShift)) = below
  rcases Nat.lt_trichotomy (below / wordBits) source with
    earlier | same | later
  · simp [show ¬ source ≤ below / wordBits by omega,
      show ¬ source + 1 ≤ below / wordBits by omega,
      show below / wordBits ≠ source by omega]
  · simp [same]
  · obtain ⟨distance, isDistance⟩ :
        ∃ distance, below / wordBits = source + 1 + distance :=
      Nat.exists_eq_add_of_le later
    have tailIndex :
        below / wordBits - source = distance + 1 := by
      omega
    have restIndex :
        below / wordBits - (source + 1) = distance := by
      omega
    simp [tailIndex, restIndex, show source ≤ below / wordBits by omega,
      show source + 1 ≤ below / wordBits by omega,
      show below / wordBits ≠ source by omega]

/-- A contribution is what the loop body ors into one or two words. -/
theorem contribution_eq
    {wordShift bitShift : Nat}
    (bitBound : bitShift < 64)
    (value : UInt64)
    (source index : Nat) :
    contribution wordShift bitShift value source index =
      ((decide (index / wordBits = source + wordShift) &&
          (value <<< UInt64.ofNat bitShift).toNat.testBit
            (index % wordBits)) ||
        (decide (bitShift ≠ 0) &&
          (decide (index / wordBits = source + wordShift + 1) &&
            (value >>> UInt64.ofNat (wordBits - bitShift)).toNat.testBit
              (index % wordBits)))) := by
  have bitIndex : index % 64 < 64 := Nat.mod_lt _ (by decide)
  have noHighBit {bit : Nat} (high : 64 ≤ bit) :
      value.toNat.testBit bit = false :=
    Nat.testBit_lt_two_pow
      (Nat.lt_of_lt_of_le value.toNat_lt
        (Nat.pow_le_pow_right (by decide) high))
  simp only [contribution, wordBits]
  rw [testBit_shiftLeft value bitBound bitIndex]
  by_cases sameWord : index / 64 = source + wordShift
  · by_cases enoughBits : bitShift ≤ index % 64
    · have reached : 64 * wordShift + bitShift ≤ index := by omega
      have sourceWord :
          (index - (64 * wordShift + bitShift)) / 64 = source := by
        omega
      have sourceBit :
          (index - (64 * wordShift + bitShift)) % 64 =
            index % 64 - bitShift := by
        omega
      simp [sameWord, enoughBits, reached, sourceWord, sourceBit]
    · have otherSource :
          64 * wordShift + bitShift ≤ index →
            (index - (64 * wordShift + bitShift)) / 64 ≠ source := by
        omega
      by_cases reached : 64 * wordShift + bitShift ≤ index
      · simp [sameWord, enoughBits, otherSource reached]
      · simp [sameWord, enoughBits, reached]
  · by_cases nextWord : index / 64 = source + wordShift + 1
    · by_cases carried : bitShift ≠ 0
      · rw [testBit_shiftRight value (by omega)]
        by_cases enoughBits : bitShift ≤ index % 64
        · have otherSource :
              (index - (64 * wordShift + bitShift)) / 64 ≠ source := by
            omega
          rw [noHighBit (by omega : 64 ≤ index % 64 + (64 - bitShift))]
          simp [sameWord, otherSource]
        · have reached : 64 * wordShift + bitShift ≤ index := by omega
          have sourceWord :
              (index - (64 * wordShift + bitShift)) / 64 = source := by
            omega
          have sourceBit :
              (index - (64 * wordShift + bitShift)) % 64 =
                index % 64 + (64 - bitShift) := by
            omega
          simp [nextWord, carried, reached, sourceWord, sourceBit]
      · have otherSource :
            (index - (64 * wordShift + bitShift)) / 64 ≠ source := by
          omega
        simp [sameWord, carried, otherSource]
    · have otherSource :
          64 * wordShift + bitShift ≤ index →
            (index - (64 * wordShift + bitShift)) / 64 ≠ source := by
        omega
      by_cases reached : 64 * wordShift + bitShift ≤ index
      · simp [sameWord, nextWord, otherSource reached]
      · simp [sameWord, nextWord, reached]

/-- What the loop of `shift_older` leaves at every bit of the window. -/
theorem bitAt_shiftWords
    {wordShift bitShift : Nat}
    (bitBound : bitShift < 64)
    (values : List UInt64)
    (source : Nat)
    (bits : Vector UInt64 windowWords)
    {index : Nat}
    (inside : index < defaultWindowSize) :
    bitAt (shiftWords wordShift bitShift values source bits) index =
      (bitAt bits index ||
        shiftedIn wordShift bitShift values source index) := by
  have wordInside : index / wordBits < windowWords :=
    Nat.div_lt_of_lt_mul inside
  induction values generalizing source bits with
  | nil =>
      simp [shiftWords, shiftedIn]
  | cons value rest inductionHypothesis =>
      rw [shiftedIn_cons, contribution_eq bitBound]
      unfold shiftWords
      by_cases destination : source + wordShift < windowWords
      · simp only [destination, ↓reduceDIte]
        rw [inductionHypothesis]
        by_cases carry : bitShift ≠ 0 ∧ source + wordShift + 1 < windowWords
        · rw [dif_pos carry, bitAt_orWord, bitAt_orWord]
          simp only [carry.1, decide_true, Bool.true_and, Bool.or_assoc,
            ne_eq, not_false_eq_true]
        · have noCarry :
              (decide (bitShift ≠ 0) &&
                decide (index / wordBits = source + wordShift + 1)) =
                  false := by
            rw [Bool.and_eq_false_iff, decide_eq_false_iff_not,
              decide_eq_false_iff_not]
            by_contra both
            rw [not_or, not_not, not_not] at both
            exact carry ⟨both.1, both.2 ▸ wordInside⟩
          rw [dif_neg carry, bitAt_orWord, ← Bool.and_assoc (decide _)
            (decide (index / wordBits = source + wordShift + 1)), noCarry]
          simp only [Bool.false_and, Bool.or_false, Bool.or_assoc]
      · have noWord : index / wordBits ≠ source + wordShift := by omega
        have noNextWord : index / wordBits ≠ source + wordShift + 1 := by
          omega
        have noLaterWord :
            shiftedIn wordShift bitShift rest (source + 1) index = false := by
          simp only [windowWords] at destination
          simp only [defaultWindowSize] at inside
          simp only [shiftedIn, wordBits]
          by_cases reached : 64 * wordShift + bitShift ≤ index
          · simp [show ¬ source + 1 ≤
              (index - (64 * wordShift + bitShift)) / 64 by omega]
          · simp [reached]
        simp [destination, noWord, noNextWord, noLaterWord]

/-- `shift_older` moves every bit up and drops those leaving the window. -/
theorem bitAt_shiftOlder
    (bits : Vector UInt64 windowWords)
    (amount : UInt64)
    {index : Nat}
    (inside : index < defaultWindowSize) :
    bitAt (shiftOlder bits amount) index =
      (decide (amount.toNat ≤ index) &&
        bitAt bits (index - amount.toNat)) := by
  unfold shiftOlder
  split
  case isTrue large =>
    have tooFar : ¬ amount.toNat ≤ index := by omega
    simp [tooFar]
  case isFalse =>
    have bitBound : amount.toNat % wordBits < 64 :=
      Nat.mod_lt _ (by decide)
    rw [bitAt_shiftWords bitBound _ _ _ inside]
    have whole :
        wordBits * (amount.toNat / wordBits) + amount.toNat % wordBits =
          amount.toNat :=
      Nat.div_add_mod _ _
    simp only [shiftedIn, whole, bitAt_replicate, Bool.false_or,
      Nat.zero_le, decide_true, Bool.true_and, Nat.sub_zero]
    unfold bitAt
    rw [← Vector.getElem?_toList]

/-! ## The recorded counters -/

/-- The window remembers exactly the counters of `seen` within its reach. -/
structure Represents (window : ReplayWindow) (seen : Set UInt64) : Prop where
  fresh :
    window.highest = none →
      seen = ∅ ∧ ∀ index, bitAt window.bits index = false
  highestSeen :
    ∀ {highest},
      window.highest = some highest →
      highest ∈ seen ∧ ∀ counter ∈ seen, counter ≤ highest
  recorded :
    ∀ {highest},
      window.highest = some highest →
      ∀ counter, counter ≤ highest →
        (highest - counter).toNat < defaultWindowSize →
        (bitAt window.bits (highest - counter).toNat = true ↔
          counter ∈ seen)

/-- A new window has recorded nothing. -/
theorem represents_new : Represents new ∅ where
  fresh _ := ⟨rfl, bitAt_replicate⟩
  highestSeen isHighest := by
    cases isHighest
  recorded isHighest := by
    cases isHighest

theorem toNat_distance {highest counter : UInt64} (le : counter ≤ highest) :
    (highest - counter).toNat = highest.toNat - counter.toNat :=
  UInt64.toNat_sub_of_le highest counter le

namespace Represents

variable {window : ReplayWindow} {seen : Set UInt64}

/-- A counter is accepted when it is neither recorded nor too old. -/
theorem wouldAccept_iff
    (represents : window.Represents seen)
    (counter : UInt64) :
    window.wouldAccept counter = true ↔
      counter ∉ seen ∧
        ∀ highest,
          window.highest = some highest →
          highest < counter ∨
            (highest - counter).toNat < defaultWindowSize := by
  cases isHighest : window.highest with
  | none =>
      have nothing := (represents.fresh isHighest).1
      simp [wouldAccept, isHighest, nothing]
  | some highest =>
      have below := (represents.highestSeen isHighest).2
      have recorded := represents.recorded isHighest counter
      by_cases newer : highest < counter
      · have unseen : counter ∉ seen := by
          intro member
          exact UInt64.not_lt.mpr (below counter member) newer
        simp [wouldAccept, isHighest, newer, unseen]
      · by_cases inside :
          (highest - counter).toNat < defaultWindowSize
        · have recordedHere := recorded (UInt64.not_lt.mp newer) inside
          simp [wouldAccept, isHighest, newer, inside,
            bitIsSet_eq_bitAt, ← recordedHere]
        · simp [wouldAccept, isHighest, newer, inside]

/-- A recorded counter is rejected from then on. -/
theorem rejects
    (represents : window.Represents seen)
    {counter : UInt64}
    (member : counter ∈ seen) :
    window.wouldAccept counter = false := by
  rw [← Bool.not_eq_true, represents.wouldAccept_iff]
  exact fun accepted => accepted.1 member

/-- The first counter of a session opens the window. -/
theorem markFirst
    (represents : window.Represents seen)
    (noHighest : window.highest = none)
    (counter : UInt64) :
    Represents ⟨some counter, window.bits.set 0 1⟩ (insert counter seen) := by
  obtain ⟨nothing, clear⟩ := represents.fresh noHighest
  subst nothing
  refine ⟨by simp, ?_, ?_⟩
  · rintro highest ⟨rfl⟩
    simp
  · rintro highest ⟨rfl⟩ other otherLe inside
    have bit :
        bitAt (window.bits.set 0 1) (counter - other).toNat =
          decide ((counter - other).toNat = 0) := by
      rw [bitAt_set, ← testBit_one_of_word_zero]
      split <;> simp_all
    rw [bit, decide_eq_true_eq, toNat_distance otherLe,
      Set.mem_insert_iff, ← UInt64.toNat_inj]
    simp only [Set.mem_empty_iff_false, or_false]
    have leNat := UInt64.le_iff_toNat_le.mp otherLe
    omega

/-- A newer counter moves the window up. -/
theorem markNewer
    (represents : window.Represents seen)
    {highest counter : UInt64}
    (isHighest : window.highest = some highest)
    (newer : highest < counter) :
    Represents
      ⟨some counter,
        orWord (shiftOlder window.bits (counter - highest)) 0
          (by decide) 1⟩
      (insert counter seen) := by
  have below := (represents.highestSeen isHighest).2
  have newerNat := UInt64.lt_iff_toNat_lt.mp newer
  refine ⟨by simp, ?_, ?_⟩
  · rintro _ ⟨rfl⟩
    refine ⟨Set.mem_insert _ _, ?_⟩
    rintro other (rfl | member)
    · exact UInt64.le_refl _
    · exact UInt64.le_trans (below other member) (UInt64.le_of_lt newer)
  · rintro _ ⟨rfl⟩ other otherLe inside
    have otherLeNat := UInt64.le_iff_toNat_le.mp otherLe
    rw [bitAt_orWord, testBit_one_of_word_zero,
      bitAt_shiftOlder _ _ inside, toNat_distance otherLe,
      toNat_distance (UInt64.le_of_lt newer), Bool.or_eq_true,
      decide_eq_true_eq, Bool.and_eq_true, decide_eq_true_eq,
      Set.mem_insert_iff, ← UInt64.toNat_inj]
    rw [toNat_distance otherLe] at inside
    by_cases old : other ≤ highest
    · have oldNat := UInt64.le_iff_toNat_le.mp old
      have oldDistance :
          counter.toNat - other.toNat -
              (counter.toNat - highest.toNat) =
            (highest - other).toNat := by
        rw [toNat_distance old]
        omega
      have recordedHere :=
        represents.recorded isHighest other old
          (by rw [toNat_distance old]; omega)
      rw [oldDistance, recordedHere]
      constructor
      · rintro (⟨-, member⟩ | same)
        · exact Or.inr member
        · omega
      · rintro (same | member)
        · omega
        · exact Or.inl ⟨by omega, member⟩
    · have oldNat := UInt64.lt_iff_toNat_lt.mp (UInt64.not_le.mp old)
      have unseen : other ∉ seen := fun member => old (below other member)
      simp only [unseen, or_false]
      omega

/-- A counter inside the window sets its own bit. -/
theorem markInside
    (represents : window.Represents seen)
    {highest counter : UInt64}
    (isHighest : window.highest = some highest)
    (notNewer : ¬ highest < counter)
    (inside : (highest - counter).toNat < defaultWindowSize) :
    Represents
      { window with
        bits := setBit window.bits ⟨(highest - counter).toNat, inside⟩ }
      (insert counter seen) := by
  have below := represents.highestSeen isHighest
  have counterLe := UInt64.not_lt.mp notNewer
  have counterLeNat := UInt64.le_iff_toNat_le.mp counterLe
  refine ⟨by simp [isHighest], ?_, ?_⟩
  · intro other isOther
    obtain rfl : highest = other := by
      simpa [isHighest] using isOther
    refine ⟨Set.mem_insert_of_mem _ below.1, ?_⟩
    rintro older (rfl | member)
    · exact counterLe
    · exact below.2 older member
  · intro other isOther older olderLe olderInside
    obtain rfl : highest = other := by
      simpa [isHighest] using isOther
    have olderLeNat := UInt64.le_iff_toNat_le.mp olderLe
    rw [bitAt_setBit, Bool.or_eq_true, decide_eq_true_eq,
      represents.recorded isHighest older olderLe olderInside,
      Set.mem_insert_iff, ← UInt64.toNat_inj]
    simp only [toNat_distance olderLe, toNat_distance counterLe]
    constructor
    · rintro (member | same)
      · exact Or.inr member
      · exact Or.inl (by omega)
    · rintro (same | member)
      · exact Or.inr (by omega)
      · exact Or.inl member

/-- Recording an accepted counter adds it to the recorded set. -/
theorem markAuthenticated
    (represents : window.Represents seen)
    {counter : UInt64}
    (accepted : window.wouldAccept counter = true) :
    (window.markAuthenticated counter).1 = true ∧
      (window.markAuthenticated counter).2.Represents
        (insert counter seen) := by
  unfold ReplayWindow.markAuthenticated
  rw [dif_pos accepted]
  split
  case h_1 noHighest =>
    exact ⟨rfl, represents.markFirst noHighest counter⟩
  case h_2 highest isHighest =>
    split
    case isTrue newer =>
      exact ⟨rfl, represents.markNewer isHighest newer⟩
    case isFalse notNewer =>
      exact ⟨rfl, represents.markInside isHighest notNewer
        (distance_lt_of_wouldAccept accepted isHighest notNewer)⟩

end Represents

/-- A rejected counter leaves the window as it is. -/
theorem markAuthenticated_of_rejected
    {window : ReplayWindow}
    {counter : UInt64}
    (rejected : window.wouldAccept counter = false) :
    window.markAuthenticated counter = (false, window) := by
  simp [ReplayWindow.markAuthenticated, rejected]

end ReplayWindow

end HushWire

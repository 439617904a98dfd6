import Mathlib.Data.List.MinMax

/-!
# Deciding by the longest match

Rules cover addresses and have lengths.  An address is admitted when a
permitted rule that covers it is longer than every forbidden rule that covers
it, so a forbidden rule wins a tie.  `Admits` states this over arbitrary rules,
and the lemmas relate it to greatest lengths, to the selection of the longest
entry of one table, and to rules that are rewritten or added.
-/

namespace LongestMatch

section Greatest

variable
  {Rule Addr : Type}
  (covers : Rule → Addr → Bool)
  (length : Rule → Nat)

/-- The greatest length of the rules that cover an address. -/
def longest (rules : List Rule) (address : Addr) : Option Nat :=
  ((rules.filter fun rule => covers rule address).map length).max?

/-- A permitted rule is longer than every forbidden one. -/
def Admits
    (permitted forbidden : List Rule)
    (address : Addr) :
    Prop :=
  ∃ rule ∈ permitted,
    covers rule address = true ∧
      ∀ exclusion ∈ forbidden,
        covers exclusion address = true →
        length exclusion < length rule

variable {covers length}

theorem longest_eq_none
    {rules : List Rule}
    {address : Addr} :
    longest covers length rules address = none ↔
      ∀ rule ∈ rules, covers rule address = false := by
  simp [longest, List.max?_eq_none_iff]

theorem longest_eq_some
    {rules : List Rule}
    {address : Addr}
    {greatest : Nat} :
    longest covers length rules address = some greatest ↔
      (∃ rule ∈ rules, covers rule address = true ∧ length rule = greatest) ∧
        ∀ rule ∈ rules, covers rule address = true → length rule ≤ greatest := by
  have lengths (queried : Nat) :
      queried ∈
          (rules.filter fun rule => covers rule address).map length ↔
        ∃ rule ∈ rules,
          covers rule address = true ∧ length rule = queried := by
    simp [and_assoc]
  rw [longest, List.max?_eq_some_iff, lengths]
  refine and_congr_right fun _ => ⟨?_, ?_⟩
  · intro atMost rule member covered
    exact atMost _ ((lengths _).mpr ⟨rule, member, covered, rfl⟩)
  · intro atMost queried member
    obtain ⟨rule, ruleMember, covered, rfl⟩ := (lengths queried).mp member
    exact atMost rule ruleMember covered

/-- Nothing that covers the address is as long as a bound. -/
theorem longest_lt
    {rules : List Rule}
    {address : Addr}
    {bound : Nat} :
    (∀ greatest,
        longest covers length rules address = some greatest →
        greatest < bound) ↔
      ∀ rule ∈ rules, covers rule address = true → length rule < bound := by
  cases found : longest covers length rules address with
  | none =>
      rw [longest_eq_none] at found
      constructor
      · intro _ rule member covered
        exact absurd (covered.symm.trans (found rule member)) (by simp)
      · rintro _ _ ⟨⟩
  | some greatest =>
      obtain ⟨⟨rule, member, covered, isGreatest⟩, atMost⟩ :=
        longest_eq_some.mp found
      constructor
      · intro below other otherMember otherCovered
        exact Nat.lt_of_le_of_lt (atMost other otherMember otherCovered)
          (below greatest rfl)
      · rintro below _ ⟨⟩
        exact isGreatest ▸ below rule member covered

/-- The greatest permitted length decides. -/
theorem admits_iff_longest
    {permitted forbidden : List Rule}
    {address : Addr} :
    Admits covers length permitted forbidden address ↔
      ∃ included,
        longest covers length permitted address = some included ∧
          ∀ excluded,
            longest covers length forbidden address = some excluded →
            excluded < included := by
  constructor
  · rintro ⟨rule, member, covered, above⟩
    cases found : longest covers length permitted address with
    | none =>
        rw [longest_eq_none] at found
        exact absurd (covered.symm.trans (found rule member)) (by simp)
    | some included =>
        refine ⟨included, rfl, longest_lt.mpr ?_⟩
        intro exclusion exclusionMember exclusionCovered
        exact Nat.lt_of_lt_of_le
          (above exclusion exclusionMember exclusionCovered)
          ((longest_eq_some.mp found).2 rule member covered)
  · rintro ⟨included, found, above⟩
    obtain ⟨⟨rule, member, covered, rfl⟩, _⟩ := longest_eq_some.mp found
    exact ⟨rule, member, covered, longest_lt.mp above⟩

/-- Forbidden rules that do not cover the address do not matter. -/
theorem admits_append_of_not_covered
    {permitted forbidden added : List Rule}
    {address : Addr}
    (uncovered : ∀ rule ∈ added, covers rule address = false) :
    Admits covers length permitted (forbidden ++ added) address ↔
      Admits covers length permitted forbidden address := by
  constructor
  · rintro ⟨rule, member, covered, above⟩
    exact ⟨rule, member, covered, fun exclusion exclusionMember =>
      above exclusion (List.mem_append_left _ exclusionMember)⟩
  · rintro ⟨rule, member, covered, above⟩
    refine ⟨rule, member, covered, ?_⟩
    intro exclusion exclusionMember exclusionCovered
    rcases List.mem_append.mp exclusionMember with earlier | later
    · exact above exclusion earlier exclusionCovered
    · exact absurd (exclusionCovered.symm.trans (uncovered exclusion later))
        (by simp)

/-- The order and the multiplicity of rules do not matter. -/
theorem admits_congr
    {permitted permitted' forbidden forbidden' : List Rule}
    {address : Addr}
    (samePermitted : ∀ rule, rule ∈ permitted ↔ rule ∈ permitted')
    (sameForbidden : ∀ rule, rule ∈ forbidden ↔ rule ∈ forbidden') :
    Admits covers length permitted forbidden address ↔
      Admits covers length permitted' forbidden' address := by
  simp only [Admits, samePermitted, sameForbidden]

/-- Rules may be read through a projection. -/
theorem admits_map
    {Source : Type}
    (rule : Source → Rule)
    {permitted forbidden : List Source}
    {address : Addr} :
    Admits covers length (permitted.map rule) (forbidden.map rule) address ↔
      Admits (fun source => covers (rule source))
        (fun source => length (rule source)) permitted forbidden address := by
  simp [Admits]

/-- A forbidden rule as long as every permitted one keeps the address out. -/
theorem not_admits_of_longest_forbidden
    {permitted forbidden : List Rule}
    {address : Addr}
    {exclusion : Rule}
    (member : exclusion ∈ forbidden)
    (covered : covers exclusion address = true)
    (longestRule :
      ∀ rule ∈ permitted, covers rule address = true →
        length rule ≤ length exclusion) :
    ¬ Admits covers length permitted forbidden address := by
  rintro ⟨rule, ruleMember, ruleCovered, above⟩
  exact absurd (above exclusion member covered)
    (Nat.not_lt.mpr (longestRule rule ruleMember ruleCovered))

/--
Permitted rules may be replaced by rules that cover the same address and
compare in the same way with the forbidden ones.
-/
theorem admits_flatMap
    {permitted forbidden : List Rule}
    {address : Addr}
    (replacement : Rule → List Rule)
    (coverage :
      ∀ rule ∈ permitted,
        (∃ part ∈ replacement rule, covers part address = true) ↔
          covers rule address = true)
    (comparison :
      ∀ rule ∈ permitted, ∀ part ∈ replacement rule,
        ∀ exclusion ∈ forbidden,
          length exclusion < length part ↔ length exclusion < length rule) :
    Admits covers length (permitted.flatMap replacement) forbidden address ↔
      Admits covers length permitted forbidden address := by
  constructor
  · rintro ⟨part, member, covered, above⟩
    obtain ⟨rule, ruleMember, partMember⟩ := List.mem_flatMap.mp member
    refine ⟨rule, ruleMember,
      (coverage rule ruleMember).mp ⟨part, partMember, covered⟩, ?_⟩
    intro exclusion exclusionMember exclusionCovered
    exact (comparison rule ruleMember part partMember exclusion
      exclusionMember).mp (above exclusion exclusionMember exclusionCovered)
  · rintro ⟨rule, member, covered, above⟩
    obtain ⟨part, partMember, partCovered⟩ :=
      (coverage rule member).mpr covered
    refine ⟨part, List.mem_flatMap.mpr ⟨rule, member, partMember⟩,
      partCovered, ?_⟩
    intro exclusion exclusionMember exclusionCovered
    exact (comparison rule member part partMember exclusion
      exclusionMember).mpr (above exclusion exclusionMember exclusionCovered)

end Greatest

section Table

variable
  {Entry Addr : Type}
  (covers : Entry → Addr → Bool)
  (length : Entry → Nat)

/-- The first of the longest entries that cover an address. -/
def select (table : List Entry) (address : Addr) : Option Entry :=
  (table.filter fun entry => covers entry address).argmax length

variable {covers length}

/--
When no two entries that cover the address are equally long, selecting the
longest one decides between the entries of either kind.
-/
theorem select_kind_iff_admits
    {table : List Entry}
    {address : Addr}
    {permits : Entry → Bool}
    (distinct :
      ∀ first ∈ table, ∀ second ∈ table,
        covers first address = true →
        covers second address = true →
        length first = length second →
        permits first = permits second) :
    (∃ entry,
        select covers length table address = some entry ∧
          permits entry = true) ↔
      Admits covers length (table.filter permits)
        (table.filter fun entry => !permits entry) address := by
  have selected {entry : Entry}
      (found : select covers length table address = some entry) :
      entry ∈ table ∧ covers entry address = true ∧
        ∀ other ∈ table, covers other address = true →
          length other ≤ length entry := by
    have member := List.mem_filter.mp (List.argmax_mem found)
    refine ⟨member.1, member.2, fun other otherMember otherCovered => ?_⟩
    exact List.le_of_mem_argmax
      (List.mem_filter.mpr ⟨otherMember, otherCovered⟩) found
  constructor
  · rintro ⟨entry, found, permitted⟩
    obtain ⟨member, covered, greatest⟩ := selected found
    refine ⟨entry, List.mem_filter.mpr ⟨member, permitted⟩, covered, ?_⟩
    intro exclusion exclusionMember exclusionCovered
    obtain ⟨inTable, forbidden⟩ := List.mem_filter.mp exclusionMember
    refine Nat.lt_of_le_of_ne (greatest exclusion inTable exclusionCovered)
      fun sameLength => ?_
    have samePermits :=
      distinct exclusion inTable entry member exclusionCovered covered
        sameLength
    rw [permitted] at samePermits
    simp [samePermits] at forbidden
  · rintro ⟨entry, member, covered, above⟩
    obtain ⟨inTable, permitted⟩ := List.mem_filter.mp member
    cases found : select covers length table address with
    | none =>
        rw [select, List.argmax_eq_none] at found
        have impossible :
            entry ∈ table.filter fun entry => covers entry address :=
          List.mem_filter.mpr ⟨inTable, covered⟩
        rw [found] at impossible
        cases impossible
    | some best =>
        obtain ⟨bestMember, bestCovered, greatest⟩ := selected found
        refine ⟨best, rfl, ?_⟩
        by_contra forbidden
        have shorter := above best
          (List.mem_filter.mpr ⟨bestMember, by simpa using forbidden⟩)
          bestCovered
        exact absurd (greatest entry inTable covered) (Nat.not_le.mpr shorter)

end Table

end LongestMatch

import Mathlib.Data.List.DropRight

/-!
# Trimming text and splitting it into words

Surrounding white space is removed as Unicode's `White_Space` property has it.
The words of a text are what stands between blanks; two of them are neighbours
where the text itself can be cut around them and the blanks between them.
-/

namespace Text

/-- The characters with the property `White_Space`. -/
def isWhiteSpace (character : Char) : Bool :=
  let code := character.toNat
  (0x09 ≤ code && code ≤ 0x0d) || code = 0x20 || code = 0x85 ||
    code = 0xa0 || code = 0x1680 || (0x2000 ≤ code && code ≤ 0x200a) ||
    code = 0x2028 || code = 0x2029 || code = 0x202f || code = 0x205f ||
    code = 0x3000

section Trim

variable {Symbol : Type} (blank : Symbol → Bool)

/-- Remove blanks at both ends. -/
def trimList (symbols : List Symbol) : List Symbol :=
  (symbols.dropWhile blank).rdropWhile blank

/-- Removing blanks at the end leaves none at the start. -/
theorem dropWhile_rdropWhile_dropWhile (symbols : List Symbol) :
    ((symbols.dropWhile blank).rdropWhile blank).dropWhile blank =
      (symbols.dropWhile blank).rdropWhile blank := by
  rw [List.dropWhile_eq_self_iff]
  intro nonempty
  have kept :
      (symbols.dropWhile blank).rdropWhile blank <+:
        symbols.dropWhile blank :=
    List.rdropWhile_prefix blank _
  have sameHead := kept.getElem nonempty
  have startsKept :=
    List.dropWhile_eq_self_iff.mp
      (List.dropWhile_idempotent (p := blank) symbols)
  rw [sameHead]
  exact startsKept (Nat.lt_of_lt_of_le nonempty kept.length_le)

/-- Trimming is done once. -/
@[simp] theorem trimList_trimList (symbols : List Symbol) :
    trimList blank (trimList blank symbols) = trimList blank symbols := by
  unfold trimList
  rw [dropWhile_rdropWhile_dropWhile, List.rdropWhile_idempotent]

/-- What is trimmed off a text without blanks in it are the blanks around it. -/
theorem trimList_eq_iff
    {blank : Symbol → Bool}
    {symbols content : List Symbol}
    (unbroken : ∀ symbol ∈ content, blank symbol = false) :
    trimList blank symbols = content ↔
      ∃ opening closing,
        symbols = opening ++ (content ++ closing) ∧
          (∀ symbol ∈ opening, blank symbol = true) ∧
          ∀ symbol ∈ closing, blank symbol = true := by
  constructor
  · rintro rfl
    refine
      ⟨symbols.takeWhile blank, (symbols.dropWhile blank).rtakeWhile blank, ?_,
        fun _ member => List.mem_takeWhile_imp member,
        fun _ member => List.mem_rtakeWhile_imp member⟩
    rw [trimList, List.rdropWhile_append_rtakeWhile,
      List.takeWhile_append_dropWhile]
  · rintro ⟨opening, closing, rfl, allBlank, closingBlank⟩
    rw [trimList, List.dropWhile_append_of_pos allBlank]
    cases content with
    | nil =>
        have noRest : closing.dropWhile blank = [] :=
          List.dropWhile_eq_nil_iff.mpr closingBlank
        rw [List.nil_append, noRest, List.rdropWhile_nil]
    | cons first rest =>
        have notBlank : ¬ blank first = true :=
          Bool.eq_false_iff.mp (unbroken first List.mem_cons_self)
        rw [List.cons_append, List.dropWhile_cons_of_neg notBlank,
          ← List.cons_append]
        induction closing using List.reverseRecOn with
        | nil =>
            rw [List.append_nil, List.rdropWhile_eq_self_iff]
            intro nonempty
            rw [unbroken _ (List.getLast_mem nonempty)]
            exact Bool.false_ne_true
        | append_singleton closing last inductionHypothesis =>
            rw [← List.append_assoc,
              List.rdropWhile_concat_pos _ _ _ (closingBlank last (by simp))]
            exact inductionHypothesis fun symbol member =>
              closingBlank symbol (List.mem_append_left _ member)

end Trim

section Words

variable {Symbol : Type} (blank : Symbol → Bool)

/-- What stands between blanks, without empty parts. -/
def words (symbols : List Symbol) : List (List Symbol) :=
  (symbols.splitOnP blank).filter (· ≠ [])

/-- A text that is not empty and has no blanks. -/
structure IsWord (word : List Symbol) : Prop where
  nonempty : word ≠ []
  unbroken : ∀ symbol ∈ word, blank symbol = false

/-- The text ends with a blank, or it is empty. -/
def EndsBlank (symbols : List Symbol) : Prop :=
  ∀ symbol ∈ symbols.getLast?, blank symbol = true

/-- The text begins with a blank, or it is empty. -/
def BeginsBlank (symbols : List Symbol) : Prop :=
  ∀ symbol ∈ symbols.head?, blank symbol = true

/-- Two words with nothing but blanks between them. -/
inductive Neighbours (first second : List Symbol) : List Symbol → Prop where
  | intro
      {before gap after : List Symbol} :
      IsWord blank first →
      IsWord blank second →
      gap ≠ [] →
      (∀ symbol ∈ gap, blank symbol = true) →
      EndsBlank blank before →
      BeginsBlank blank after →
      Neighbours first second (before ++ (first ++ (gap ++ (second ++ after))))

variable {blank}

@[simp] theorem words_nil : words blank [] = [] := by
  simp [words]

/-- The words on both sides of a blank. -/
theorem words_append_cons
    (first rest : List Symbol)
    {symbol : Symbol}
    (isBlank : blank symbol = true) :
    words blank (first ++ symbol :: rest) =
      words blank first ++ words blank rest := by
  rw [words, List.splitOnP_append_cons _ _ isBlank, List.filter_append]
  rfl

/-- The words on both sides of a place in front of a blank. -/
theorem words_append
    (first : List Symbol)
    {rest : List Symbol}
    (begins : BeginsBlank blank rest) :
    words blank (first ++ rest) = words blank first ++ words blank rest := by
  cases rest with
  | nil =>
      simp
  | cons symbol rest =>
      have isBlank : blank symbol = true := begins symbol rfl
      rw [words_append_cons first rest isBlank]
      congr 1
      exact (words_append_cons [] rest isBlank).symm

/-- The words on both sides of a place behind a blank. -/
theorem words_append_of_endsBlank
    {first : List Symbol}
    (ends : EndsBlank blank first)
    (rest : List Symbol) :
    words blank (first ++ rest) = words blank first ++ words blank rest := by
  rcases List.eq_nil_or_concat first with rfl | ⟨earlier, symbol, rfl⟩
  · simp
  · have isBlank : blank symbol = true := ends symbol (by simp)
    rw [List.concat_eq_append, List.append_assoc, List.singleton_append,
      words_append_cons _ _ isBlank, words_append_cons _ _ isBlank]
    simp

theorem words_of_blank
    {gap : List Symbol}
    (allBlank : ∀ symbol ∈ gap, blank symbol = true) :
    words blank gap = [] := by
  induction gap with
  | nil =>
      exact words_nil
  | cons symbol gap inductionHypothesis =>
      obtain ⟨isBlank, laterBlank⟩ := List.forall_mem_cons.mp allBlank
      have parts := words_append_cons [] gap isBlank
      rw [List.nil_append, words_nil, List.nil_append] at parts
      rw [parts, inductionHypothesis laterBlank]

theorem IsWord.words_eq
    {word : List Symbol}
    (isWord : IsWord blank word) :
    words blank word = [word] := by
  rw [words, List.splitOnP_eq_singleton isWord.unbroken]
  simp [isWord.nonempty]

/-- The first word of a text, with the blanks before it and what follows. -/
theorem words_eq_cons
    {symbols word : List Symbol}
    {later : List (List Symbol)}
    (isWords : words blank symbols = word :: later) :
    ∃ gap after,
      symbols = gap ++ (word ++ after) ∧
        (∀ symbol ∈ gap, blank symbol = true) ∧
        IsWord blank word ∧
        BeginsBlank blank after ∧
        words blank after = later := by
  induction symbols with
  | nil =>
      rw [words_nil] at isWords
      cases isWords
  | cons symbol symbols inductionHypothesis =>
      cases isBlank : blank symbol with
      | true =>
          have parts := words_append_cons [] symbols isBlank
          rw [List.nil_append, words_nil, List.nil_append] at parts
          rw [parts] at isWords
          obtain ⟨gap, after, rfl, allBlank, rest⟩ :=
            inductionHypothesis isWords
          exact
            ⟨symbol :: gap, after, rfl,
              List.forall_mem_cons.mpr ⟨isBlank, allBlank⟩, rest⟩
      | false =>
          have isFirst :
              IsWord blank
                ((symbol :: symbols).takeWhile fun symbol => !blank symbol) := by
            refine ⟨?_, ?_⟩
            · simp [isBlank]
            · intro other member
              simpa using List.mem_takeWhile_imp member
          have begins :
              BeginsBlank blank
                ((symbol :: symbols).dropWhile fun symbol => !blank symbol) := by
            intro other isHead
            have stops :=
              List.head?_dropWhile_not (fun symbol => !blank symbol)
                (symbol :: symbols)
            rw [Option.mem_def.mp isHead] at stops
            simpa using stops
          have parts :=
            words_append
              ((symbol :: symbols).takeWhile fun symbol => !blank symbol)
              begins
          rw [List.takeWhile_append_dropWhile, isWords, isFirst.words_eq,
            List.singleton_append] at parts
          obtain ⟨rfl, rfl⟩ := List.cons.inj parts
          exact
            ⟨[], _, (List.takeWhile_append_dropWhile).symm,
              List.forall_mem_nil _, isFirst, begins, rfl⟩

/-- Words that follow each other are neighbours in the text. -/
theorem neighbours_of_words
    {symbols first second : List Symbol}
    {earlier later : List (List Symbol)}
    (isWords : words blank symbols = earlier ++ first :: second :: later) :
    Neighbours blank first second symbols := by
  induction earlier generalizing symbols with
  | nil =>
      obtain ⟨gap, after, rfl, allBlank, isFirst, begins, isAfter⟩ :=
        words_eq_cons isWords
      obtain ⟨between, after, rfl, betweenBlank, isSecond, ends, _⟩ :=
        words_eq_cons isAfter
      have parted : between ≠ [] := by
        rintro rfl
        obtain ⟨symbol, rest, rfl⟩ :=
          List.exists_cons_of_ne_nil isSecond.nonempty
        have notBlank := isSecond.unbroken symbol List.mem_cons_self
        rw [begins symbol rfl] at notBlank
        cases notBlank
      refine .intro isFirst isSecond parted betweenBlank ?_ ends
      exact fun symbol isLast => allBlank symbol (List.mem_of_getLast? isLast)
  | cons word earlier inductionHypothesis =>
      obtain ⟨gap, after, rfl, _, _, begins, isAfter⟩ := words_eq_cons isWords
      cases inductionHypothesis isAfter with
      | @intro before between after isFirst isSecond parted betweenBlank
          endsBlank beginsBlank =>
          rw [← List.append_assoc, ← List.append_assoc]
          refine .intro isFirst isSecond parted betweenBlank ?_ beginsBlank
          intro symbol isLast
          have nonempty : before ≠ [] := by
            rintro rfl
            obtain ⟨symbol, rest, rfl⟩ :=
              List.exists_cons_of_ne_nil isFirst.nonempty
            have notBlank := isFirst.unbroken symbol List.mem_cons_self
            rw [begins symbol rfl] at notBlank
            cases notBlank
          rw [List.getLast?_append_of_ne_nil _ nonempty] at isLast
          exact endsBlank symbol isLast

/-- Neighbours in a text are the words that follow each other. -/
theorem neighbours_iff
    {symbols first second : List Symbol} :
    Neighbours blank first second symbols ↔
      ∃ earlier later,
        words blank symbols = earlier ++ first :: second :: later := by
  constructor
  · rintro ⟨isFirst, isSecond, parted, betweenBlank, ends, begins⟩
    rename_i before between after
    obtain ⟨symbol, rest, rfl⟩ := List.exists_cons_of_ne_nil parted
    have isBlank := betweenBlank symbol List.mem_cons_self
    have ended : EndsBlank blank (symbol :: rest) :=
      fun other isLast => betweenBlank other (List.mem_of_getLast? isLast)
    have begun : BeginsBlank blank (symbol :: rest ++ (second ++ after)) := by
      intro other isHead
      obtain rfl := Option.some.inj isHead
      exact isBlank
    refine ⟨words blank before, words blank after, ?_⟩
    calc
      words blank (before ++ (first ++ (symbol :: rest ++ (second ++ after)))) =
          words blank before ++
            (words blank first ++
              (words blank (symbol :: rest) ++
                (words blank second ++ words blank after))) := by
        rw [words_append_of_endsBlank ends, words_append first begun,
          words_append_of_endsBlank ended, words_append second begins]
      _ = words blank before ++ first :: second :: words blank after := by
        rw [isFirst.words_eq, isSecond.words_eq, words_of_blank betweenBlank]
        rfl
  · rintro ⟨earlier, later, isWords⟩
    exact neighbours_of_words isWords

end Words

/-- Remove white space at both ends. -/
def trim (text : String) : String :=
  .ofList (trimList isWhiteSpace text.toList)

@[simp] theorem trim_trim (text : String) : trim (trim text) = trim text := by
  simp [trim]

end Text

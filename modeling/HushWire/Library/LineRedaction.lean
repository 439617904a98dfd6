import Mathlib.Data.List.Basic
import Mathlib.Data.List.Infix
import Mathlib.Data.List.TakeWhile

/-!
# Replacing the rest of lines

A text is searched for openings, from its start on.  What follows an opening
on its line is replaced by a marker, and the search goes on with the line
break.  `scan_induction` follows the search; what it keeps of the text is read
off with `leavesOpen`, and `Settled` texts are those in which there is nothing
left to replace.
-/

namespace LineRedaction

variable {Symbol : Type}

/--
How openings are recognised: from the part of the line that was read, last
symbol first, and from what follows, the opening and what is behind it.
-/
abbrev Opens (Symbol : Type) : Type :=
  List Symbol → List Symbol → Option (List Symbol × List Symbol)

section Search

variable
  (isBreak : Symbol → Bool)
  (marker : List Symbol)
  (opens : Opens Symbol)

/-- The part of the line that was read after one more symbol. -/
def advance (line : List Symbol) (symbol : Symbol) : List Symbol :=
  if isBreak symbol then [] else symbol :: line

def advanceAll (line symbols : List Symbol) : List Symbol :=
  symbols.foldl (advance isBreak) line

/-- The symbols before the next line break. -/
def restOfLine (text : List Symbol) : List Symbol :=
  text.takeWhile fun symbol => !isBreak symbol

/-- Replace what follows the openings, after skipping some symbols. -/
def replaceFrom : List Symbol → Nat → List Symbol → List Symbol
  | _, _, [] => []
  | line, skip + 1, symbol :: rest =>
      replaceFrom (advance isBreak line symbol) skip rest
  | line, 0, symbol :: rest =>
      match opens line (symbol :: rest) with
      | none => symbol :: replaceFrom (advance isBreak line symbol) 0 rest
      | some (opening, behind) =>
          opening ++ marker ++
            replaceFrom (advance isBreak line symbol)
              (opening.length + (restOfLine isBreak behind).length - 1) rest

/-- Replace what follows the openings of a text. -/
def replace (text : List Symbol) : List Symbol :=
  replaceFrom isBreak marker opens [] 0 text

/-- The text ends on the line of an opening that the search finds. -/
def leavesOpenFrom : List Symbol → Nat → List Symbol → Bool
  | _, _, [] => false
  | line, skip + 1, symbol :: rest =>
      leavesOpenFrom (advance isBreak line symbol) skip rest
  | line, 0, symbol :: rest =>
      match opens line (symbol :: rest) with
      | none => leavesOpenFrom (advance isBreak line symbol) 0 rest
      | some (opening, behind) =>
          (restOfLine isBreak behind).length = behind.length ||
            leavesOpenFrom (advance isBreak line symbol)
              (opening.length + (restOfLine isBreak behind).length - 1) rest

def leavesOpen (text : List Symbol) : Bool :=
  leavesOpenFrom isBreak opens [] 0 text

/-- A text that is empty or begins with a line break. -/
def AtLineEnd (text : List Symbol) : Prop :=
  ∀ symbol ∈ text.head?, isBreak symbol = true

/-- No line break is among the symbols. -/
def OneLine (symbols : List Symbol) : Prop :=
  ∀ symbol ∈ symbols, isBreak symbol = false

end Search

/--
An opening is not empty and does not begin with a line break.  It goes as far
as a symbol that stops it, and is recognised whatever follows from there on.
-/
structure Lawful
    (isBreak stops : Symbol → Bool)
    (opens : Opens Symbol) :
    Prop where
  split :
    ∀ {line text opening behind},
      opens line text = some (opening, behind) →
      text = opening ++ behind
  begins :
    ∀ {line text opening behind},
      opens line text = some (opening, behind) →
      ∃ symbol rest, opening = symbol :: rest ∧ isBreak symbol = false
  behindStops :
    ∀ {line text opening behind},
      opens line text = some (opening, behind) →
      ∀ symbol ∈ behind.head?, stops symbol = true
  extend :
    ∀ {line opening behind behind'},
      opens line (opening ++ behind) = some (opening, behind) →
      (∀ symbol ∈ behind'.head?, stops symbol = true) →
      opens line (opening ++ behind') = some (opening, behind')

section Lines

variable {isBreak : Symbol → Bool}

theorem advanceAll_append (line first second : List Symbol) :
    advanceAll isBreak line (first ++ second) =
      advanceAll isBreak (advanceAll isBreak line first) second :=
  List.foldl_append

/-- A text is the rest of its line, and what begins with a line break. -/
theorem restOfLine_append_dropWhile (text : List Symbol) :
    OneLine isBreak (restOfLine isBreak text) ∧
      AtLineEnd isBreak (text.dropWhile fun symbol => !isBreak symbol) := by
  constructor
  · intro symbol member
    simpa using List.mem_takeWhile_imp member
  · intro symbol isHead
    have stopped := List.head?_dropWhile_not (fun symbol => !isBreak symbol) text
    rw [Option.mem_def.mp isHead] at stopped
    simpa using stopped

theorem restOfLine_append
    {remainder tail : List Symbol}
    (oneLine : OneLine isBreak remainder)
    (atLineEnd : AtLineEnd isBreak tail) :
    restOfLine isBreak (remainder ++ tail) = remainder := by
  have each : ∀ symbol ∈ remainder, (!isBreak symbol) = true := by
    intro symbol member
    rw [oneLine symbol member]
    rfl
  rw [restOfLine, List.takeWhile_append_of_pos each]
  cases tail with
  | nil =>
      rw [List.takeWhile_nil, List.append_nil]
  | cons symbol rest =>
      rw [List.takeWhile_cons_of_neg, List.append_nil]
      rw [atLineEnd symbol rfl]
      decide

end Lines

section Scan

variable
  {isBreak stops : Symbol → Bool}
  {marker : List Symbol}
  {opens : Opens Symbol}
  {line : List Symbol}

/-- Symbols are skipped one by one. -/
theorem replaceFrom_skip
    (skipped rest : List Symbol) :
    replaceFrom isBreak marker opens line skipped.length (skipped ++ rest) =
      replaceFrom isBreak marker opens (advanceAll isBreak line skipped) 0
        rest := by
  induction skipped generalizing line with
  | nil =>
      rfl
  | cons symbol later inductionHypothesis =>
      rw [List.length_cons, List.cons_append, replaceFrom,
        inductionHypothesis]
      rfl

theorem leavesOpenFrom_skip
    (skipped rest : List Symbol) :
    leavesOpenFrom isBreak opens line skipped.length (skipped ++ rest) =
      leavesOpenFrom isBreak opens (advanceAll isBreak line skipped) 0
        rest := by
  induction skipped generalizing line with
  | nil =>
      rfl
  | cons symbol later inductionHypothesis =>
      rw [List.length_cons, List.cons_append, leavesOpenFrom,
        inductionHypothesis]
      rfl

/-- A symbol at which nothing opens is kept. -/
theorem replaceFrom_kept
    {symbol : Symbol}
    {rest : List Symbol}
    (kept : opens line (symbol :: rest) = none) :
    replaceFrom isBreak marker opens line 0 (symbol :: rest) =
      symbol ::
        replaceFrom isBreak marker opens (advance isBreak line symbol) 0
          rest := by
  rw [replaceFrom, kept]

theorem leavesOpenFrom_kept
    {symbol : Symbol}
    {rest : List Symbol}
    (kept : opens line (symbol :: rest) = none) :
    leavesOpenFrom isBreak opens line 0 (symbol :: rest) =
      leavesOpenFrom isBreak opens (advance isBreak line symbol) 0 rest := by
  rw [leavesOpenFrom, kept]

/-- An opening is kept, and the rest of its line is replaced. -/
theorem replaceFrom_opened
    (lawful : Lawful isBreak stops opens)
    {opening remainder tail : List Symbol}
    (opened :
      opens line (opening ++ (remainder ++ tail)) =
        some (opening, remainder ++ tail))
    (oneLine : OneLine isBreak remainder)
    (atLineEnd : AtLineEnd isBreak tail) :
    replaceFrom isBreak marker opens line 0
        (opening ++ (remainder ++ tail)) =
      opening ++ marker ++
        replaceFrom isBreak marker opens
          (advanceAll isBreak line (opening ++ remainder)) 0 tail := by
  obtain ⟨symbol, rest, rfl, _⟩ := lawful.begins opened
  have skipped :
      replaceFrom isBreak marker opens (advance isBreak line symbol)
          (rest ++ remainder).length (rest ++ remainder ++ tail) =
        replaceFrom isBreak marker opens
          (advanceAll isBreak (advance isBreak line symbol)
            (rest ++ remainder)) 0 tail :=
    replaceFrom_skip _ _
  rw [List.length_append, List.append_assoc] at skipped
  rw [List.cons_append] at opened ⊢
  rw [replaceFrom, opened]
  dsimp only
  rw [restOfLine_append oneLine atLineEnd, List.length_cons,
    Nat.add_right_comm, Nat.add_sub_cancel, skipped]
  rfl

/-- The marker follows an opening. -/
theorem exists_replaceFrom_opened
    (lawful : Lawful isBreak stops opens)
    {text opening behind : List Symbol}
    (opened : opens line text = some (opening, behind)) :
    ∃ output,
      replaceFrom isBreak marker opens line 0 text =
        opening ++ (marker ++ output) := by
  have isBehind :
      restOfLine isBreak behind ++
          behind.dropWhile (fun symbol => !isBreak symbol) =
        behind :=
    List.takeWhile_append_dropWhile
  obtain ⟨oneLine, atLineEnd⟩ :=
    @restOfLine_append_dropWhile _ isBreak behind
  have isText := lawful.split opened
  rw [isText, ← isBehind] at opened ⊢
  rw [replaceFrom_opened lawful opened oneLine atLineEnd, List.append_assoc]
  exact ⟨_, rfl⟩

theorem leavesOpenFrom_opened
    (lawful : Lawful isBreak stops opens)
    {opening remainder tail : List Symbol}
    (opened :
      opens line (opening ++ (remainder ++ tail)) =
        some (opening, remainder ++ tail))
    (oneLine : OneLine isBreak remainder)
    (atLineEnd : AtLineEnd isBreak tail) :
    leavesOpenFrom isBreak opens line 0 (opening ++ (remainder ++ tail)) =
      (tail.isEmpty ||
        leavesOpenFrom isBreak opens
          (advanceAll isBreak line (opening ++ remainder)) 0 tail) := by
  obtain ⟨symbol, rest, rfl, _⟩ := lawful.begins opened
  have skipped :
      leavesOpenFrom isBreak opens (advance isBreak line symbol)
          (rest ++ remainder).length (rest ++ remainder ++ tail) =
        leavesOpenFrom isBreak opens
          (advanceAll isBreak (advance isBreak line symbol)
            (rest ++ remainder)) 0 tail :=
    leavesOpenFrom_skip _ _
  rw [List.length_append, List.append_assoc] at skipped
  rw [List.cons_append] at opened ⊢
  rw [leavesOpenFrom, opened]
  dsimp only
  rw [restOfLine_append oneLine atLineEnd, List.length_cons,
    Nat.add_right_comm, Nat.add_sub_cancel, skipped]
  congr 1
  cases tail <;> simp

/-- The search goes from symbol to symbol, and from opening to line end. -/
theorem scan_induction
    (lawful : Lawful isBreak stops opens)
    {motive : List Symbol → List Symbol → Prop}
    (nil : ∀ line, motive line [])
    (kept :
      ∀ line symbol rest,
        opens line (symbol :: rest) = none →
        motive (advance isBreak line symbol) rest →
        motive line (symbol :: rest))
    (opened :
      ∀ line opening remainder tail,
        opens line (opening ++ (remainder ++ tail)) =
          some (opening, remainder ++ tail) →
        OneLine isBreak remainder →
        AtLineEnd isBreak tail →
        motive (advanceAll isBreak line (opening ++ remainder)) tail →
        motive line (opening ++ (remainder ++ tail)))
    (line text : List Symbol) :
    motive line text := by
  induction sized : text.length using Nat.strong_induction_on
    generalizing line text with
  | _ size inductionHypothesis =>
      subst sized
      cases text with
      | nil =>
          exact nil line
      | cons symbol rest =>
          cases found : opens line (symbol :: rest) with
          | none =>
              exact kept line symbol rest found
                (inductionHypothesis rest.length (Nat.lt_succ_self _) _ rest
                  rfl)
          | some parts =>
              obtain ⟨opening, behind⟩ := parts
              have isText := lawful.split found
              obtain ⟨first, later, isOpening, _⟩ := lawful.begins found
              have isBehind :
                  restOfLine isBreak behind ++
                      behind.dropWhile (fun symbol => !isBreak symbol) =
                    behind :=
                List.takeWhile_append_dropWhile
              obtain ⟨oneLine, atLineEnd⟩ :=
                @restOfLine_append_dropWhile _ isBreak behind
              rw [isText, ← isBehind] at found ⊢
              refine opened line opening _ _ found oneLine atLineEnd
                (inductionHypothesis _ ?_ _ _ rfl)
              rw [isText, isOpening, List.length_append, List.length_cons]
              have shorter :=
                List.length_dropWhile_le
                  (fun symbol => !isBreak symbol) behind
              omega

/-- An opening leaves the line on which it stands open. -/
theorem leavesOpenFrom_of_line
    (lawful : Lawful isBreak stops opens)
    (line : List Symbol)
    {before opening behind : List Symbol}
    (opened :
      opens (advanceAll isBreak line before) (opening ++ behind) =
        some (opening, behind))
    (oneLine : OneLine isBreak (opening ++ behind)) :
    leavesOpenFrom isBreak opens line 0 (before ++ (opening ++ behind)) =
      true := by
  generalize isText : before ++ (opening ++ behind) = text
  induction line, text using scan_induction lawful generalizing before with
  | nil line =>
      obtain ⟨symbol, rest, rfl, _⟩ := lawful.begins opened
      simp at isText
  | kept line symbol rest isKept inductionHypothesis =>
      rw [leavesOpenFrom_kept isKept]
      cases before with
      | nil =>
          rw [List.nil_append] at isText
          rw [isText] at opened
          exact absurd (isKept.symm.trans opened) (by simp)
      | cons first before =>
          obtain ⟨rfl, isRest⟩ := List.cons.inj isText
          exact inductionHypothesis opened isRest
  | opened line found remainder tail isFound remainderOneLine atLineEnd
      inductionHypothesis =>
      rw [leavesOpenFrom_opened lawful isFound remainderOneLine atLineEnd,
        Bool.or_eq_true]
      cases tail with
      | nil =>
          exact .inl rfl
      | cons first later =>
          right
          have isSplit :
              found ++ remainder ++ first :: later =
                before ++ (opening ++ behind) :=
            (List.append_assoc _ _ _).trans isText.symm
          rcases List.append_eq_append_iff.mp isSplit with
            ⟨between, isBefore, isTail⟩ | ⟨between, _, isOpening⟩
          · rw [isBefore, advanceAll_append] at opened
            exact inductionHypothesis opened isTail.symm
          · have isBreakFirst := atLineEnd first rfl
            have notBreak :=
              oneLine first
                (isOpening ▸ List.mem_append_right _ List.mem_cons_self)
            rw [notBreak] at isBreakFirst
            cases isBreakFirst

end Scan

/--
A word that no opening contains, that no opening ends within, and that shares
neither end of the marker.  Its last symbol may end an opening.
-/
structure Word
    (isBreak stops : Symbol → Bool)
    (marker : List Symbol)
    (opens : Opens Symbol)
    (body : List Symbol)
    (last : Symbol) :
    Prop where
  nonempty : body ≠ []
  bodyStops : ∀ symbol ∈ body, stops symbol = true
  oneLine : OneLine isBreak (body ++ [last])
  endsOutside :
    ∀ {line text opening behind},
      opens line text = some (opening, behind) →
      ∀ symbol ∈ opening.getLast?, symbol ∉ body
  notInside :
    ∀ {line text opening behind},
      opens line text = some (opening, behind) → ¬ body <:+: opening
  markerHead : ∀ symbol ∈ marker.head?, symbol ∉ body ++ [last]
  markerLast : ∀ symbol ∈ marker.getLast?, symbol ∉ body ++ [last]
  notInMarker : ¬ (body ++ [last]) <:+: marker

section Words

variable
  {isBreak stops : Symbol → Bool}
  {marker : List Symbol}
  {opens : Opens Symbol}
  {line body : List Symbol}
  {last : Symbol}

/-- The last part of an opening is not taken from the word. -/
theorem Word.exists_notMem
    (word : Word isBreak stops marker opens body last)
    {text earlier part behind : List Symbol}
    (opened : opens line text = some (earlier ++ part, behind))
    (nonempty : part ≠ []) :
    ∃ symbol ∈ part, symbol ∉ body := by
  have isLast :
      part.getLast nonempty ∈ (earlier ++ part).getLast? := by
    rw [List.getLast?_append_of_ne_nil _ nonempty,
      List.getLast?_eq_getLast_of_ne_nil nonempty]
    exact Option.mem_some_self _
  exact ⟨_, List.getLast_mem nonempty, word.endsOutside opened _ isLast⟩

/-- An opening that begins before the word ends before it. -/
theorem Word.opening_before
    (word : Word isBreak stops marker opens body last)
    (lawful : Lawful isBreak stops opens)
    {before after opening behind : List Symbol}
    (opened :
      opens line (before ++ (body ++ [last] ++ after)) =
        some (opening, behind)) :
    ∃ between, before = opening ++ between := by
  rcases List.append_eq_append_iff.mp (lawful.split opened) with
    ⟨part, isOpening, isRest⟩ | ⟨between, isBefore, _⟩
  · subst isOpening
    by_cases isEmpty : part = []
    · subst isEmpty
      exact ⟨[], by rw [List.append_nil, List.append_nil]⟩
    · exfalso
      rw [List.append_assoc] at isRest
      rcases List.append_eq_append_iff.mp isRest with
        ⟨more, isPart, _⟩ | ⟨more, isBody, _⟩
      · exact word.notInside opened
          ⟨before, more, by rw [isPart, List.append_assoc]⟩
      · obtain ⟨symbol, inPart, notInBody⟩ :=
          word.exists_notMem opened isEmpty
        exact notInBody (isBody ▸ List.mem_append_left _ inPart)
  · exact ⟨between, isBefore⟩

/-- An opening that begins within the word goes beyond it. -/
theorem Word.opening_within
    (word : Word isBreak stops marker opens body last)
    (lawful : Lawful isBreak stops opens)
    {earlier later after opening behind : List Symbol}
    (isWord : body ++ [last] = earlier ++ later)
    (opened : opens line (later ++ after) = some (opening, behind)) :
    ∃ beyond, opening = later ++ beyond := by
  rcases List.append_eq_append_iff.mp (lawful.split opened) with
    ⟨beyond, isOpening, _⟩ | ⟨rest, isLater, _⟩
  · exact ⟨beyond, isOpening⟩
  · rcases List.eq_nil_or_concat' rest with rfl | ⟨front, symbol, rfl⟩
    · exact ⟨[], by rw [isLater, List.append_nil, List.append_nil]⟩
    · exfalso
      rw [isLater, ← List.append_assoc, ← List.append_assoc] at isWord
      have isBody := (List.append_inj' isWord rfl).1
      obtain ⟨first, more, isOpening, _⟩ := lawful.begins opened
      have nonempty : opening ≠ [] := by
        rw [isOpening]
        exact List.cons_ne_nil _ _
      have wholeOpening :
          opens line (later ++ after) = some ([] ++ opening, behind) :=
        opened
      obtain ⟨symbol, inOpening, notInBody⟩ :=
        word.exists_notMem wholeOpening nonempty
      rw [isBody] at notInBody
      exact notInBody
        (List.mem_append_left _ (List.mem_append_right _ inOpening))

/-- The word stops an opening that ends before it. -/
theorem Word.head_stops
    (word : Word isBreak stops marker opens body last)
    (after : List Symbol) :
    ∀ symbol ∈ (body ++ [last] ++ after).head?, stops symbol = true := by
  obtain ⟨first, rest, isBody⟩ := List.exists_cons_of_ne_nil word.nonempty
  intro symbol isHead
  rw [isBody] at isHead
  cases isHead
  exact word.bodyStops first (isBody ▸ List.mem_cons_self)

/-- What opens before the word does not depend on the word. -/
theorem Word.opens_before
    (word : Word isBreak stops marker opens body last)
    (lawful : Lawful isBreak stops opens)
    (before after : List Symbol) :
    opens line (before ++ (body ++ [last] ++ after)) =
      (opens line before).map fun parts =>
        (parts.1, parts.2 ++ (body ++ [last] ++ after)) := by
  cases found : opens line before with
  | some parts =>
      obtain ⟨opening, behind⟩ := parts
      have isBefore := lawful.split found
      rw [isBefore] at found
      rw [isBefore, List.append_assoc, Option.map_some]
      refine lawful.extend found ?_
      cases behind with
      | nil =>
          exact word.head_stops after
      | cons first rest =>
          exact fun symbol isHead =>
            lawful.behindStops found symbol isHead
  | none =>
      rw [Option.map_none, Option.eq_none_iff_forall_ne_some]
      rintro ⟨opening, behind⟩ opened
      obtain ⟨between, isBefore⟩ := word.opening_before lawful opened
      rw [isBefore, List.append_assoc] at opened
      have isBehind := lawful.split opened
      have isBehind := List.append_cancel_left isBehind
      rw [← isBehind] at opened
      have alone : opens line (opening ++ between) = some (opening, between) := by
        refine lawful.extend opened ?_
        intro symbol isHead
        refine lawful.behindStops opened symbol ?_
        cases between with
        | nil => cases isHead
        | cons first rest => exact isHead
      rw [← isBefore, found] at alone
      cases alone

/-- The rest of a word is kept where the search reaches it. -/
theorem Word.replaceFrom_within
    (word : Word isBreak stops marker opens body last)
    (lawful : Lawful isBreak stops opens)
    (after : List Symbol)
    {earlier later : List Symbol}
    (isWord : body ++ [last] = earlier ++ later) :
    ∃ rest,
      replaceFrom isBreak marker opens line 0 (later ++ after) =
        later ++ rest := by
  induction later generalizing line earlier with
  | nil =>
      exact ⟨_, rfl⟩
  | cons symbol later inductionHypothesis =>
      cases found : opens line (symbol :: (later ++ after)) with
      | none =>
          obtain ⟨rest, isRest⟩ :=
            @inductionHypothesis (advance isBreak line symbol)
              (earlier ++ [symbol])
              (by rw [isWord, List.append_assoc]; rfl)
          refine ⟨rest, ?_⟩
          rw [List.cons_append, replaceFrom_kept found, isRest,
            List.cons_append]
      | some parts =>
          obtain ⟨opening, behind⟩ := parts
          obtain ⟨beyond, isOpening⟩ :=
            word.opening_within lawful isWord found
          obtain ⟨output, isOutput⟩ :=
            @exists_replaceFrom_opened _ _ _ marker _ _ lawful _ _ _ found
          refine ⟨beyond ++ (marker ++ output), ?_⟩
          rw [List.cons_append, isOutput, isOpening, List.append_assoc]

/-- A word whose line was not left open is kept behind what is before it. -/
theorem Word.replaceFrom_append
    (word : Word isBreak stops marker opens body last)
    (lawful : Lawful isBreak stops opens)
    (line before after : List Symbol)
    (closed : leavesOpenFrom isBreak opens line 0 before = false) :
    ∃ rest,
      replaceFrom isBreak marker opens line 0
          (before ++ (body ++ [last] ++ after)) =
        replaceFrom isBreak marker opens line 0 before ++
          (body ++ [last] ++ rest) := by
  induction line, before using scan_induction lawful with
  | nil line =>
      exact word.replaceFrom_within lawful after (List.nil_append _).symm
  | kept line symbol rest isKept inductionHypothesis =>
      rw [leavesOpenFrom_kept isKept] at closed
      obtain ⟨later, isLater⟩ := inductionHypothesis closed
      have keptBefore :
          opens line (symbol :: (rest ++ (body ++ [last] ++ after))) =
            none := by
        rw [← List.cons_append, word.opens_before lawful, isKept,
          Option.map_none]
      refine ⟨later, ?_⟩
      rw [List.cons_append, replaceFrom_kept keptBefore, isLater,
        replaceFrom_kept isKept, List.cons_append]
  | opened line opening remainder tail isOpened oneLine atLineEnd
      inductionHypothesis =>
      rw [leavesOpenFrom_opened lawful isOpened oneLine atLineEnd,
        Bool.or_eq_false_iff] at closed
      obtain ⟨later, isLater⟩ := inductionHypothesis closed.2
      have openedBefore :
          opens line
              (opening ++
                (remainder ++ (tail ++ (body ++ [last] ++ after)))) =
            some (opening, remainder ++ (tail ++ (body ++ [last] ++ after))) := by
        have transported :
            opens line
                (opening ++ (remainder ++ tail) ++
                  (body ++ [last] ++ after)) =
              some
                (opening, remainder ++ tail ++ (body ++ [last] ++ after)) := by
          rw [word.opens_before lawful, isOpened, Option.map_some]
        simpa only [List.append_assoc] using transported
      have stillAtLineEnd :
          AtLineEnd isBreak (tail ++ (body ++ [last] ++ after)) := by
        cases tail with
        | nil => cases closed.1
        | cons first rest => exact atLineEnd
      refine ⟨later, ?_⟩
      rw [List.append_assoc, List.append_assoc,
        replaceFrom_opened lawful openedBefore oneLine stillAtLineEnd,
        isLater, replaceFrom_opened lawful isOpened oneLine atLineEnd,
        List.append_assoc _ _ (body ++ [last] ++ later)]

/-- What the output begins with is free of the marker only where it is kept. -/
theorem prefix_of_replaceFrom
    (lawful : Lawful isBreak stops opens)
    (line text : List Symbol)
    {front rest : List Symbol}
    (unmarked : ∀ symbol ∈ marker.head?, symbol ∉ front)
    (marked : marker ≠ [])
    (isOutput :
      replaceFrom isBreak marker opens line 0 text = front ++ rest) :
    ∃ rest', text = front ++ rest' := by
  induction line, text using scan_induction lawful generalizing front with
  | nil line =>
      have isEmpty : front = [] :=
        (List.append_eq_nil_iff.mp isOutput.symm).1
      exact ⟨[], by rw [isEmpty, List.append_nil]⟩
  | kept line symbol later isKept inductionHypothesis =>
      cases front with
      | nil =>
          exact ⟨_, rfl⟩
      | cons first front =>
          rw [replaceFrom_kept isKept, List.cons_append] at isOutput
          obtain ⟨rfl, isRest⟩ := List.cons.inj isOutput
          obtain ⟨rest', isText⟩ :=
            inductionHypothesis
              (fun symbol isHead inFront =>
                unmarked symbol isHead (List.mem_cons_of_mem _ inFront))
              isRest
          exact ⟨rest', by rw [isText, List.cons_append]⟩
  | opened line opening remainder tail isOpened oneLine atLineEnd _ =>
      rw [replaceFrom_opened lawful isOpened oneLine atLineEnd,
        List.append_assoc] at isOutput
      rcases List.append_eq_append_iff.mp isOutput with
        ⟨part, isFront, isMarked⟩ | ⟨part, isOpening, _⟩
      · cases part with
        | nil =>
            exact ⟨remainder ++ tail,
              by rw [isFront, List.append_nil]⟩
        | cons first part =>
            exfalso
            obtain ⟨head, inner, rfl⟩ := List.exists_cons_of_ne_nil marked
            rw [List.cons_append, List.cons_append] at isMarked
            obtain ⟨rfl, _⟩ := List.cons.inj isMarked
            refine unmarked _ rfl ?_
            rw [isFront]
            exact List.mem_append_right _ List.mem_cons_self
      · exact ⟨part ++ (remainder ++ tail),
          by rw [isOpening, List.append_assoc]⟩

/-- Where the word is in what follows an opening, it is behind the marker. -/
theorem Word.behind_marker
    (word : Word isBreak stops marker opens body last)
    (marked : marker ≠ [])
    {text opening behind output before rest : List Symbol}
    (opened : opens line text = some (opening, behind))
    (isOutput :
      opening ++ (marker ++ output) = before ++ (body ++ [last] ++ rest)) :
    ∃ between,
      before = opening ++ (marker ++ between) ∧
        output = between ++ (body ++ [last] ++ rest) := by
  have notAcross
      {part : List Symbol}
      (nonempty : part ≠ [])
      (inWord : ∀ symbol ∈ part, symbol ∈ body ++ [last])
      {more : List Symbol}
      (isMarked : marker ++ output = part ++ more) :
      False := by
    obtain ⟨head, inner, isMarker⟩ := List.exists_cons_of_ne_nil marked
    obtain ⟨first, others, rfl⟩ := List.exists_cons_of_ne_nil nonempty
    rw [isMarker, List.cons_append, List.cons_append] at isMarked
    obtain ⟨rfl, _⟩ := List.cons.inj isMarked
    exact word.markerHead head (by rw [isMarker]; rfl)
      (inWord head List.mem_cons_self)
  have notInOpening
      {more : List Symbol}
      (isOpening : opening = before ++ (body ++ [last] ++ more)) :
      False :=
    word.notInside opened
      ⟨before, [last] ++ more, by simp [isOpening]⟩
  rcases List.append_eq_append_iff.mp isOutput with
    ⟨part, isBefore, isMarked⟩ | ⟨part, isOpening, isWord⟩
  · rcases List.append_eq_append_iff.mp isMarked with
      ⟨between, isPart, isRest⟩ | ⟨across, isMarker, isWord⟩
    · exact ⟨between, by rw [isBefore, isPart], isRest⟩
    · by_cases isEmpty : across = []
      · subst isEmpty
        exact ⟨[], by simp [isBefore, isMarker], by simpa using isWord.symm⟩
      · -- The word would begin inside the marker.
        exfalso
        rcases List.append_eq_append_iff.mp isWord with
          ⟨more, isAcross, _⟩ | ⟨more, isAcross, _⟩
        · exact word.notInMarker
            ⟨part, more, by rw [isMarker, isAcross, List.append_assoc]⟩
        · have isLast : across.getLast isEmpty ∈ marker.getLast? := by
            rw [isMarker, List.getLast?_append_of_ne_nil _ isEmpty,
              List.getLast?_eq_getLast_of_ne_nil isEmpty]
            exact Option.mem_some_self _
          refine word.markerLast _ isLast ?_
          rw [isAcross]
          exact List.mem_append_left _ (List.getLast_mem isEmpty)
  · exfalso
    rcases List.append_eq_append_iff.mp isWord with
      ⟨more, isPart, _⟩ | ⟨more, isSplit, isMarked⟩
    · exact notInOpening (isOpening.trans (congrArg _ isPart))
    · by_cases isEmpty : more = []
      · subst isEmpty
        rw [List.append_nil] at isSplit
        exact notInOpening
          (isOpening.trans (by rw [← isSplit, List.append_nil]))
      · refine notAcross isEmpty (fun symbol member => ?_) isMarked
        rw [isSplit]
        exact List.mem_append_right _ member

/-- A word of the output is one of the text, on a line that is not open. -/
theorem Word.of_replaceFrom
    (word : Word isBreak stops marker opens body last)
    (lawful : Lawful isBreak stops opens)
    (marked : marker ≠ [])
    (line text : List Symbol)
    {before rest : List Symbol}
    (isOutput :
      replaceFrom isBreak marker opens line 0 text =
        before ++ (body ++ [last] ++ rest)) :
    ∃ before' after,
      text = before' ++ (body ++ [last] ++ after) ∧
        leavesOpenFrom isBreak opens line 0 before' = false ∧
        replaceFrom isBreak marker opens line 0 before' = before := by
  induction line, text using scan_induction lawful
    generalizing before with
  | nil line =>
      have isEmpty := (List.append_eq_nil_iff.mp isOutput.symm).2
      simp at isEmpty
  | kept line symbol later isKept inductionHypothesis =>
      cases before with
      | nil =>
          obtain ⟨after, isText⟩ :=
            prefix_of_replaceFrom lawful line (symbol :: later)
              word.markerHead marked isOutput
          exact ⟨[], after, isText, rfl, rfl⟩
      | cons first before =>
          rw [replaceFrom_kept isKept, List.cons_append] at isOutput
          obtain ⟨rfl, isRest⟩ := List.cons.inj isOutput
          obtain ⟨before', after, isText, closed, isBefore⟩ :=
            inductionHypothesis isRest
          have keptBefore : opens line (symbol :: before') = none := by
            rw [isText, ← List.cons_append, word.opens_before lawful,
              Option.map_eq_none_iff] at isKept
            exact isKept
          refine ⟨symbol :: before', after, ?_, ?_, ?_⟩
          · rw [isText, List.cons_append]
          · rw [leavesOpenFrom_kept keptBefore, closed]
          · rw [replaceFrom_kept keptBefore, isBefore]
  | opened line opening remainder tail isOpened oneLine atLineEnd
      inductionHypothesis =>
      rw [replaceFrom_opened lawful isOpened oneLine atLineEnd,
        List.append_assoc] at isOutput
      obtain ⟨between, rfl, isRest⟩ :=
        word.behind_marker marked isOpened isOutput
      obtain ⟨before', after, rfl, closed, isBefore⟩ :=
        inductionHypothesis isRest
      -- The line ends before the word, which has no line break.
      have tailNonempty : before' ≠ [] := by
        rintro rfl
        obtain ⟨first, others, isBody⟩ :=
          List.exists_cons_of_ne_nil word.nonempty
        have isBreakFirst := atLineEnd first (by rw [isBody]; rfl)
        have notBreak := word.oneLine first (by rw [isBody]; simp)
        rw [notBreak] at isBreakFirst
        cases isBreakFirst
      have stillAtLineEnd : AtLineEnd isBreak before' := by
        cases before' with
        | nil => exact absurd rfl tailNonempty
        | cons first others => exact atLineEnd
      have openedBefore :
          opens line (opening ++ (remainder ++ before')) =
            some (opening, remainder ++ before') := by
        have transported :
            opens line
                (opening ++ (remainder ++ before') ++
                  (body ++ [last] ++ after)) =
              some
                (opening,
                  remainder ++ (before' ++ (body ++ [last] ++ after))) := by
          simpa only [List.append_assoc] using isOpened
        rw [word.opens_before lawful] at transported
        obtain ⟨⟨found, behind⟩, isFound, isSame⟩ :=
          Option.map_eq_some_iff.mp transported
        obtain ⟨rfl, isBehind⟩ := Prod.mk.inj isSame
        dsimp only at isBehind
        rw [← List.append_assoc remainder] at isBehind
        rw [isFound, List.append_cancel_right isBehind]
      refine ⟨opening ++ (remainder ++ before'), after, ?_, ?_, ?_⟩
      · simp only [List.append_assoc]
      · rw [leavesOpenFrom_opened lawful openedBefore oneLine stillAtLineEnd,
          closed, Bool.or_false]
        simpa using tailNonempty
      · rw [replaceFrom_opened lawful openedBefore oneLine stillAtLineEnd,
          isBefore, List.append_assoc]

/--
After two replacements a word is left exactly where it is in the text on a line
that neither search leaves open; the second one reads what the first one made.
-/
theorem infix_replace_replace_iff
    {first second : Opens Symbol}
    (firstWord : Word isBreak stops marker first body last)
    (secondWord : Word isBreak stops marker second body last)
    (firstLawful : Lawful isBreak stops first)
    (secondLawful : Lawful isBreak stops second)
    (marked : marker ≠ [])
    (text : List Symbol) :
    body ++ [last] <:+:
        replace isBreak marker second (replace isBreak marker first text) ↔
      ∃ before after,
        text = before ++ (body ++ [last] ++ after) ∧
          leavesOpen isBreak first before = false ∧
          leavesOpen isBreak second (replace isBreak marker first before) =
            false := by
  constructor
  · rintro ⟨front, rest, isOutput⟩
    obtain ⟨between, after, isFirst, secondClosed, _⟩ :=
      secondWord.of_replaceFrom secondLawful marked [] _
        (isOutput.symm.trans (List.append_assoc _ _ _))
    obtain ⟨before, after, isText, firstClosed, isBetween⟩ :=
      firstWord.of_replaceFrom firstLawful marked [] text isFirst
    refine ⟨before, after, isText, firstClosed, ?_⟩
    rw [replace, isBetween]
    exact secondClosed
  · rintro ⟨before, after, rfl, firstClosed, secondClosed⟩
    obtain ⟨rest, isFirst⟩ :=
      firstWord.replaceFrom_append firstLawful [] before after firstClosed
    obtain ⟨rest', isSecond⟩ :=
      secondWord.replaceFrom_append secondLawful []
        (replace isBreak marker first before) rest secondClosed
    refine
      ⟨replace isBreak marker second (replace isBreak marker first before),
        rest', ?_⟩
    rw [List.append_assoc]
    exact (isFirst ▸ isSecond).symm

end Words

section Settling

variable
  {isBreak stops : Symbol → Bool}
  {marker : List Symbol}
  {opens : Opens Symbol}

/-- Behind every opening of a text, the rest of the line is the marker. -/
def Settled
    (isBreak : Symbol → Bool)
    (marker : List Symbol)
    (opens : Opens Symbol) :
    List Symbol → List Symbol → Prop
  | _, [] => True
  | line, symbol :: rest =>
      (∀ opening behind,
        opens line (symbol :: rest) = some (opening, behind) →
        restOfLine isBreak behind = marker) ∧
        Settled isBreak marker opens (advance isBreak line symbol) rest

theorem Settled.of_append
    {line first second : List Symbol}
    (settled : Settled isBreak marker opens line (first ++ second)) :
    Settled isBreak marker opens (advanceAll isBreak line first) second := by
  induction first generalizing line with
  | nil =>
      exact settled
  | cons symbol rest inductionHypothesis =>
      exact inductionHypothesis settled.2

theorem Settled.opened
    {line text opening behind : List Symbol}
    (lawful : Lawful isBreak stops opens)
    (settled : Settled isBreak marker opens line text)
    (opened : opens line text = some (opening, behind)) :
    restOfLine isBreak behind = marker := by
  have isText := lawful.split opened
  obtain ⟨symbol, rest, isOpening, _⟩ := lawful.begins opened
  rw [isOpening, List.cons_append] at isText
  subst isText
  exact settled.1 opening behind opened

/-- In a settled text there is nothing left to replace. -/
theorem replaceFrom_of_settled
    (lawful : Lawful isBreak stops opens)
    (line text : List Symbol)
    (settled : Settled isBreak marker opens line text) :
    replaceFrom isBreak marker opens line 0 text = text := by
  induction line, text using scan_induction lawful with
  | nil line =>
      rfl
  | kept line symbol rest isKept inductionHypothesis =>
      rw [replaceFrom_kept isKept, inductionHypothesis settled.2]
  | opened line opening remainder tail isOpened oneLine atLineEnd
      inductionHypothesis =>
      have isMarker := settled.opened lawful isOpened
      rw [restOfLine_append oneLine atLineEnd] at isMarker
      have tailSettled :
          Settled isBreak marker opens
            (advanceAll isBreak line (opening ++ remainder)) tail := by
        rw [← List.append_assoc] at settled
        exact settled.of_append
      rw [replaceFrom_opened lawful isOpened oneLine atLineEnd,
        inductionHypothesis tailSettled, isMarker, List.append_assoc]

/-- A text begins as it did before the replacement. -/
theorem head?_replaceFrom
    (lawful : Lawful isBreak stops opens)
    (line text : List Symbol) :
    (replaceFrom isBreak marker opens line 0 text).head? = text.head? := by
  induction line, text using scan_induction lawful with
  | nil line =>
      rfl
  | kept line symbol rest isKept _ =>
      rw [replaceFrom_kept isKept]
      rfl
  | opened line opening remainder tail isOpened oneLine atLineEnd _ =>
      obtain ⟨symbol, rest, isOpening, _⟩ := lawful.begins isOpened
      rw [replaceFrom_opened lawful isOpened oneLine atLineEnd, isOpening]
      rfl

/-- From a line end on, what was read before does not matter. -/
theorem Settled.of_atLineEnd
    {line line' text : List Symbol}
    (lawful : Lawful isBreak stops opens)
    (atLineEnd : AtLineEnd isBreak text)
    (settled : Settled isBreak marker opens line text) :
    Settled isBreak marker opens line' text := by
  cases text with
  | nil =>
      trivial
  | cons symbol rest =>
      have isBreakSymbol := atLineEnd symbol rfl
      refine ⟨fun opening behind opened => ?_, ?_⟩
      · obtain ⟨first, later, isOpening, notBreak⟩ := lawful.begins opened
        have isText := lawful.split opened
        rw [isOpening, List.cons_append] at isText
        rw [(List.cons.inj isText).1, notBreak] at isBreakSymbol
        cases isBreakSymbol
      · have settledRest := settled.2
        rw [advance, if_pos isBreakSymbol] at settledRest ⊢
        exact settledRest

/-- Where nothing opens, a text is settled if what follows is. -/
theorem Settled.append_of_none
    {line front rest : List Symbol}
    (closed :
      ∀ early late,
        front = early ++ late →
        late ≠ [] →
        ∀ line', opens line' (late ++ rest) = none)
    (settled :
      Settled isBreak marker opens (advanceAll isBreak line front) rest) :
    Settled isBreak marker opens line (front ++ rest) := by
  induction front generalizing line with
  | nil =>
      exact settled
  | cons symbol later inductionHypothesis =>
      refine ⟨fun opening behind opened => ?_,
        inductionHypothesis (fun early late isLater => ?_) settled⟩
      · have nothing :=
          closed [] (symbol :: later) rfl (List.cons_ne_nil _ _) line
        rw [List.cons_append] at nothing
        change opens line (symbol :: (later ++ rest)) = _ at opened
        rw [nothing] at opened
        cases opened
      · exact closed (symbol :: early) late
          (by rw [isLater, List.cons_append])

/-- Where nothing opens, a text is kept. -/
theorem replaceFrom_append_of_none
    {line front rest : List Symbol}
    (closed :
      ∀ early late,
        front = early ++ late →
        late ≠ [] →
        ∀ line', opens line' (late ++ rest) = none) :
    replaceFrom isBreak marker opens line 0 (front ++ rest) =
      front ++
        replaceFrom isBreak marker opens (advanceAll isBreak line front) 0
          rest := by
  induction front generalizing line with
  | nil =>
      rfl
  | cons symbol later inductionHypothesis =>
      have nothing :=
        closed [] (symbol :: later) rfl (List.cons_ne_nil _ _) line
      rw [List.cons_append] at nothing
      rw [List.cons_append, replaceFrom_kept nothing, List.cons_append,
        inductionHypothesis fun early late isLater =>
          closed (symbol :: early) late (by rw [isLater, List.cons_append])]
      rfl

/-- What the output begins with was there if nothing ever opens in it. -/
theorem replaceFrom_eq_append
    (lawful : Lawful isBreak stops opens)
    (markerStops : ∀ symbol ∈ marker.head?, stops symbol = true)
    (marked : marker ≠ [])
    {line text front rest : List Symbol}
    (closed :
      ∀ early late,
        front = early ++ late →
        late ≠ [] →
        ∀ line' rest', opens line' (late ++ rest') = none)
    (isOutput :
      replaceFrom isBreak marker opens line 0 text = front ++ rest) :
    ∃ text',
      text = front ++ text' ∧
        rest =
          replaceFrom isBreak marker opens (advanceAll isBreak line front) 0
            text' := by
  induction front generalizing line text with
  | nil =>
      exact ⟨text, rfl, isOutput.symm⟩
  | cons symbol later inductionHypothesis =>
      cases text with
      | nil =>
          cases isOutput
      | cons first others =>
          cases found : opens line (first :: others) with
          | none =>
              rw [replaceFrom_kept found, List.cons_append] at isOutput
              obtain ⟨rfl, isRest⟩ := List.cons.inj isOutput
              obtain ⟨text', isOthers, isReplaced⟩ :=
                inductionHypothesis
                  (fun early late isLater =>
                    closed (first :: early) late
                      (by rw [isLater, List.cons_append]))
                  isRest
              exact ⟨text', by rw [isOthers, List.cons_append], isReplaced⟩
          | some parts =>
              -- The opening would still be one in the output.
              exfalso
              obtain ⟨opening, behind⟩ := parts
              obtain ⟨output, isMarked⟩ :=
                @exists_replaceFrom_opened _ _ _ marker _ _ lawful _ _ _
                  found
              have isText := lawful.split found
              rw [isText] at found
              have opened :
                  opens line (opening ++ (marker ++ output)) =
                    some (opening, marker ++ output) := by
                refine lawful.extend found ?_
                obtain ⟨head, inner, isMarker⟩ :=
                  List.exists_cons_of_ne_nil marked
                rw [isMarker] at markerStops ⊢
                exact markerStops
              rw [← isMarked, isOutput,
                closed [] (symbol :: later) rfl (List.cons_ne_nil _ _) line]
                at opened
              cases opened

/-- Nothing opens in a marker that is the rest of its line. -/
def AvoidsMarker
    (isBreak : Symbol → Bool)
    (marker : List Symbol)
    (opens : Opens Symbol) :
    Prop :=
  ∀ line early late tail,
    marker = early ++ late →
    late ≠ [] →
    AtLineEnd isBreak tail →
    opens line (late ++ tail) = none

/-- The second kind never opens in an opening of the first, but at its start. -/
def Apart (first second : Opens Symbol) : Prop :=
  ∀ line line' text early late behind rest,
    first line text = some (early ++ late, behind) →
    early ≠ [] →
    late ≠ [] →
    second line' (late ++ rest) = none

/-- The second kind never opens in an opening of the first. -/
def Disjoint (first second : Opens Symbol) : Prop :=
  ∀ line line' text early late behind rest,
    first line text = some (early ++ late, behind) →
    late ≠ [] →
    second line' (late ++ rest) = none

theorem Disjoint.apart
    {first second : Opens Symbol}
    (disjoint : Disjoint first second) :
    Apart first second :=
  fun line line' text early late behind rest opened _ =>
    disjoint line line' text early late behind rest opened

/-- What a marker has to be for the openings of a kind. -/
structure LawfulMarker
    (isBreak stops : Symbol → Bool)
    (marker : List Symbol)
    (opens : Opens Symbol) :
    Prop where
  nonempty : marker ≠ []
  oneLine : OneLine isBreak marker
  headStops : ∀ symbol ∈ marker.head?, stops symbol = true
  avoids : AvoidsMarker isBreak marker opens

theorem LawfulMarker.append_stops
    (lawfulMarker : LawfulMarker isBreak stops marker opens)
    (rest : List Symbol) :
    ∀ symbol ∈ (marker ++ rest).head?, stops symbol = true := by
  obtain ⟨head, inner, isMarker⟩ :=
    List.exists_cons_of_ne_nil lawfulMarker.nonempty
  have headStops := lawfulMarker.headStops
  rw [isMarker] at headStops ⊢
  exact headStops

/-- A line end stays one. -/
theorem atLineEnd_replaceFrom
    (lawful : Lawful isBreak stops opens)
    {line text : List Symbol}
    (atLineEnd : AtLineEnd isBreak text) :
    AtLineEnd isBreak (replaceFrom isBreak marker opens line 0 text) := by
  unfold AtLineEnd
  rw [head?_replaceFrom lawful]
  exact atLineEnd

/--
An opening of the output whose first symbol was kept is one of the text, and
what is behind it was replaced alone.
-/
theorem opening_of_replaceFrom
    {searched : Opens Symbol}
    (lawful : Lawful isBreak stops opens)
    (searchedLawful : Lawful isBreak stops searched)
    (lawfulMarker : LawfulMarker isBreak stops marker searched)
    (apart : Apart opens searched)
    {line line' rest opening behind : List Symbol}
    {symbol : Symbol}
    (opened :
      opens line
          (symbol :: replaceFrom isBreak marker searched line' 0 rest) =
        some (opening, behind)) :
    ∃ behind' line'',
      opens line (symbol :: rest) = some (opening, behind') ∧
        behind = replaceFrom isBreak marker searched line'' 0 behind' := by
  have isText := lawful.split opened
  obtain ⟨first, others, rfl, _⟩ := lawful.begins opened
  rw [List.cons_append] at isText
  obtain ⟨rfl, isRest⟩ := List.cons.inj isText
  have closed :
      ∀ early late,
        others = early ++ late →
        late ≠ [] →
        ∀ line' rest', searched line' (late ++ rest') = none := by
    intro early late isOthers nonempty later rest'
    refine apart line later
      (symbol :: replaceFrom isBreak marker searched line' 0 rest)
      (symbol :: early) late behind rest' ?_ (List.cons_ne_nil _ _) nonempty
    rw [List.cons_append, ← isOthers]
    exact opened
  obtain ⟨behind', rfl, isBehind⟩ :=
    replaceFrom_eq_append searchedLawful lawfulMarker.headStops
      lawfulMarker.nonempty closed isRest
  refine ⟨behind', _, ?_, isBehind⟩
  rw [isRest, ← List.cons_append] at opened
  rw [← List.cons_append]
  refine lawful.extend opened ?_
  have stopped := lawful.behindStops opened
  rwa [isBehind, head?_replaceFrom searchedLawful] at stopped

/-- Between an opening and a settled line end, the marker is settled. -/
theorem LawfulMarker.settled_append
    (lawful : Lawful isBreak stops opens)
    (lawfulMarker : LawfulMarker isBreak stops marker opens)
    {line line' tail : List Symbol}
    (atLineEnd : AtLineEnd isBreak tail)
    (settled : Settled isBreak marker opens line tail) :
    Settled isBreak marker opens line' (marker ++ tail) := by
  refine Settled.append_of_none ?_ (settled.of_atLineEnd lawful atLineEnd)
  intro early late isMarker nonempty line''
  exact lawfulMarker.avoids line'' early late tail isMarker nonempty atLineEnd

/-- A replacement leaves nothing of its kind to replace. -/
theorem settled_replaceFrom
    (lawful : Lawful isBreak stops opens)
    (lawfulMarker : LawfulMarker isBreak stops marker opens)
    (apart : Apart opens opens)
    (line text : List Symbol) :
    Settled isBreak marker opens line
      (replaceFrom isBreak marker opens line 0 text) := by
  induction line, text using scan_induction lawful with
  | nil line =>
      trivial
  | kept line symbol rest isKept inductionHypothesis =>
      rw [replaceFrom_kept isKept]
      refine ⟨fun opening behind opened => ?_, inductionHypothesis⟩
      obtain ⟨behind', _, isOpened, _⟩ :=
        opening_of_replaceFrom lawful lawful lawfulMarker apart opened
      rw [isKept] at isOpened
      cases isOpened
  | opened line opening remainder tail isOpened oneLine atLineEnd
      inductionHypothesis =>
      have outputAtLineEnd :
          AtLineEnd isBreak
            (replaceFrom isBreak marker opens
              (advanceAll isBreak line (opening ++ remainder)) 0 tail) :=
        atLineEnd_replaceFrom lawful atLineEnd
      rw [replaceFrom_opened lawful isOpened oneLine atLineEnd,
        List.append_assoc]
      generalize
        replaceFrom isBreak marker opens
          (advanceAll isBreak line (opening ++ remainder)) 0 tail =
          output at outputAtLineEnd inductionHypothesis ⊢
      have stillOpened :
          opens line (opening ++ (marker ++ output)) =
            some (opening, marker ++ output) :=
        lawful.extend isOpened (lawfulMarker.append_stops output)
      obtain ⟨symbol, others, rfl, _⟩ := lawful.begins isOpened
      refine ⟨fun found behind opened => ?_, ?_⟩
      · change opens line (symbol :: others ++ (marker ++ output)) = _
          at opened
        rw [stillOpened] at opened
        cases opened
        exact restOfLine_append lawfulMarker.oneLine outputAtLineEnd
      · refine Settled.append_of_none ?_
          (lawfulMarker.settled_append lawful outputAtLineEnd
            inductionHypothesis)
        intro early late isOthers nonempty line'
        refine apart line line'
          (symbol :: others ++ (remainder ++ tail)) (symbol :: early) late
          (remainder ++ tail) _ ?_ (List.cons_ne_nil _ _) nonempty
        have isOpening : symbol :: others = symbol :: early ++ late := by
          rw [isOthers, List.cons_append]
        rw [← isOpening]
        exact isOpened

/-- A replacement of another kind leaves a settled text settled. -/
theorem Settled.replaceFrom
    {searched : Opens Symbol}
    (lawful : Lawful isBreak stops opens)
    (searchedLawful : Lawful isBreak stops searched)
    (lawfulMarker : LawfulMarker isBreak stops marker opens)
    (searchedMarker : LawfulMarker isBreak stops marker searched)
    (apart : Apart opens searched)
    (disjoint : Disjoint searched opens)
    {line text : List Symbol}
    (settled : Settled isBreak marker opens line text) :
    Settled isBreak marker opens line
      (LineRedaction.replaceFrom isBreak marker searched line 0 text) := by
  induction line, text using scan_induction searchedLawful with
  | nil line =>
      trivial
  | kept line symbol rest isKept inductionHypothesis =>
      rw [replaceFrom_kept isKept]
      refine ⟨fun opening behind opened => ?_, inductionHypothesis settled.2⟩
      obtain ⟨behind', line', isOpened, rfl⟩ :=
        opening_of_replaceFrom lawful searchedLawful searchedMarker apart
          opened
      -- Behind the opening there is a marker, in which nothing is searched.
      have isMarker := settled.1 opening behind' isOpened
      obtain ⟨_, atLineEnd⟩ :=
        @restOfLine_append_dropWhile _ isBreak behind'
      have isBehind :
          marker ++ behind'.dropWhile (fun symbol => !isBreak symbol) =
            behind' := by
        rw [← isMarker]
        exact List.takeWhile_append_dropWhile
      rw [← isBehind, replaceFrom_append_of_none]
      · exact restOfLine_append lawfulMarker.oneLine
          (atLineEnd_replaceFrom searchedLawful atLineEnd)
      · intro early late isSplit nonempty line''
        exact searchedMarker.avoids line'' early late _ isSplit nonempty
          atLineEnd
  | opened line opening remainder tail isOpened oneLine atLineEnd
      inductionHypothesis =>
      have tailSettled :
          Settled isBreak marker opens
            (advanceAll isBreak line (opening ++ remainder)) tail := by
        rw [← List.append_assoc] at settled
        exact settled.of_append
      rw [replaceFrom_opened searchedLawful isOpened oneLine atLineEnd,
        List.append_assoc]
      refine Settled.append_of_none ?_
        (lawfulMarker.settled_append lawful
          (atLineEnd_replaceFrom searchedLawful atLineEnd)
          (inductionHypothesis tailSettled))
      intro early late isOpening nonempty line'
      refine disjoint line line' (opening ++ (remainder ++ tail)) early late
        (remainder ++ tail) _ ?_ nonempty
      rw [← isOpening]
      exact isOpened

/-- Replacing what follows two kinds of openings twice changes nothing. -/
theorem replace_replace_idempotent
    {first second : Opens Symbol}
    (firstLawful : Lawful isBreak stops first)
    (secondLawful : Lawful isBreak stops second)
    (firstMarker : LawfulMarker isBreak stops marker first)
    (secondMarker : LawfulMarker isBreak stops marker second)
    (firstApart : Apart first first)
    (secondApart : Apart second second)
    (firstSecond : Disjoint first second)
    (secondFirst : Disjoint second first)
    (text : List Symbol) :
    replace isBreak marker second
        (replace isBreak marker first
          (replace isBreak marker second
            (replace isBreak marker first text))) =
      replace isBreak marker second (replace isBreak marker first text) := by
  have firstSettled :
      Settled isBreak marker first []
        (replace isBreak marker second (replace isBreak marker first text)) :=
    (settled_replaceFrom firstLawful firstMarker firstApart [] text).replaceFrom
      firstLawful secondLawful firstMarker secondMarker firstSecond.apart
      secondFirst
  have secondSettled :
      Settled isBreak marker second []
        (replace isBreak marker second (replace isBreak marker first text)) :=
    settled_replaceFrom secondLawful secondMarker secondApart [] _
  have firstKept := replaceFrom_of_settled firstLawful [] _ firstSettled
  have secondKept := replaceFrom_of_settled secondLawful [] _ secondSettled
  calc
    _ = replace isBreak marker second
          (replace isBreak marker second
            (replace isBreak marker first text)) :=
      congrArg (replace isBreak marker second) firstKept
    _ = _ := secondKept

end Settling

end LineRedaction

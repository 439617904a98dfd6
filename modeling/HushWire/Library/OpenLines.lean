import HushWire.Library.LineRedaction

/-!
# Which openings leave a line open

`leavesOpen` follows the search for openings.  Here the same is said of places
in the text: a line is left open by an opening with no line break behind it
that stands on one line itself or begins where the line is not already open.
`leavesOpenFrom_iff` says this of one kind of openings, and
`leavesOpen_replace_iff` of a second kind that is looked for after the first
one was replaced.
-/

namespace LineRedaction

variable {Symbol : Type}

/-- An opening begins with a symbol that ends the one before it. -/
def HeadStops (stops : Symbol → Bool) (opens : Opens Symbol) : Prop :=
  ∀ line text opening behind,
    opens line text = some (opening, behind) →
    ∀ symbol ∈ opening.head?, stops symbol = true

/-- An opening in a text, with no line break behind it. -/
structure Reaches
    (isBreak : Symbol → Bool)
    (opens : Opens Symbol)
    (line text before opening behind : List Symbol) :
    Prop where
  isText : text = before ++ (opening ++ behind)
  opened :
    opens (advanceAll isBreak line before) (opening ++ behind) =
      some (opening, behind)
  oneLine : OneLine isBreak behind

section Places

variable
  {isBreak stops : Symbol → Bool}
  {marker : List Symbol}
  {first second : Opens Symbol}

/-- Where an opening stands, the text before it is searched as if it ended. -/
theorem opens_append
    (lawful : Lawful isBreak stops first)
    (secondLawful : Lawful isBreak stops second)
    (headStops : HeadStops stops second)
    (apart : Apart first second)
    {line line' before opening behind : List Symbol}
    (nonempty : before ≠ [])
    (opened : second line' (opening ++ behind) = some (opening, behind)) :
    first line (before ++ (opening ++ behind)) =
      (first line before).map fun parts =>
        (parts.1, parts.2 ++ (opening ++ behind)) := by
  cases found : first line before with
  | some parts =>
      obtain ⟨early, rest⟩ := parts
      have isBefore := lawful.split found
      rw [isBefore] at found
      rw [isBefore, List.append_assoc, Option.map_some]
      refine lawful.extend found ?_
      cases rest with
      | nil =>
          obtain ⟨head, others, rfl, _⟩ := secondLawful.begins opened
          exact fun symbol isHead => headStops _ _ _ _ opened symbol isHead
      | cons head rest =>
          exact fun symbol isHead => lawful.behindStops found symbol isHead
  | none =>
      rw [Option.map_none, Option.eq_none_iff_forall_ne_some]
      rintro ⟨early, rest⟩ isOpened
      have alone {between : List Symbol}
          (isBefore : before = early ++ between)
          (isRest : rest = between ++ (opening ++ behind)) :
          False := by
        rw [isBefore, List.append_assoc, isRest] at isOpened
        have shorter : first line (early ++ between) = some (early, between) := by
          refine lawful.extend isOpened fun symbol isHead => ?_
          refine lawful.behindStops isOpened symbol ?_
          cases between with
          | nil => cases isHead
          | cons head others => exact isHead
        rw [← isBefore, found] at shorter
        cases shorter
      rcases List.append_eq_append_iff.mp (lawful.split isOpened) with
        ⟨part, isEarly, isRest⟩ | ⟨between, isBefore, isRest⟩
      · by_cases isEmpty : part = []
        · subst isEmpty
          exact @alone [] (by rw [isEarly, List.append_nil, List.append_nil])
            isRest.symm
        · rw [isEarly] at isOpened
          have nothing := apart _ line' _ _ _ _ rest isOpened nonempty isEmpty
          rw [← isRest, opened] at nothing
          cases nothing
      · exact alone isBefore isRest

/-- What the search does behind a text that it leaves closed. -/
theorem leavesOpenFrom_append
    (lawful : Lawful isBreak stops first)
    (secondLawful : Lawful isBreak stops second)
    (headStops : HeadStops stops second)
    (apart : Apart first second)
    {line line' before opening behind : List Symbol}
    (opened : second line' (opening ++ behind) = some (opening, behind))
    (closed : leavesOpenFrom isBreak first line 0 before = false) :
    leavesOpenFrom isBreak first line 0 (before ++ (opening ++ behind)) =
        leavesOpenFrom isBreak first (advanceAll isBreak line before) 0
          (opening ++ behind) ∧
      replaceFrom isBreak marker first line 0
          (before ++ (opening ++ behind)) =
        replaceFrom isBreak marker first line 0 before ++
          replaceFrom isBreak marker first (advanceAll isBreak line before) 0
            (opening ++ behind) := by
  induction line, before using scan_induction lawful with
  | nil line =>
      exact ⟨rfl, rfl⟩
  | kept line symbol rest isKept inductionHypothesis =>
      have stillKept :
          first line (symbol :: (rest ++ (opening ++ behind))) = none := by
        rw [← List.cons_append,
          opens_append lawful secondLawful headStops apart
            (List.cons_ne_nil _ _) opened,
          isKept, Option.map_none]
      rw [leavesOpenFrom_kept isKept] at closed
      obtain ⟨sameOpen, sameOutput⟩ := inductionHypothesis closed
      rw [List.cons_append, leavesOpenFrom_kept stillKept,
        replaceFrom_kept stillKept, replaceFrom_kept isKept, sameOpen,
        sameOutput]
      exact ⟨rfl, rfl⟩
  | opened line early remainder tail isOpened oneLine atLineEnd
      inductionHypothesis =>
      rw [leavesOpenFrom_opened lawful isOpened oneLine atLineEnd,
        Bool.or_eq_false_iff] at closed
      obtain ⟨notEmpty, closedTail⟩ := closed
      obtain ⟨sameOpen, sameOutput⟩ := inductionHypothesis closedTail
      have nonempty : early ++ (remainder ++ tail) ≠ [] := by
        obtain ⟨symbol, rest, rfl, _⟩ := lawful.begins isOpened
        exact List.cons_ne_nil _ _
      have stillOpened :
          first line
              (early ++ (remainder ++ (tail ++ (opening ++ behind)))) =
            some (early, remainder ++ (tail ++ (opening ++ behind))) := by
        have transported :=
          @opens_append _ _ _ _ _ lawful secondLawful headStops apart line
            line' _ _ _ nonempty opened
        rw [isOpened, Option.map_some] at transported
        simpa only [List.append_assoc] using transported
      have stillAtLineEnd :
          AtLineEnd isBreak (tail ++ (opening ++ behind)) := by
        cases tail with
        | nil => cases notEmpty
        | cons head rest => exact atLineEnd
      have stillNotEmpty : (tail ++ (opening ++ behind)).isEmpty = false := by
        cases tail with
        | nil => cases notEmpty
        | cons head rest => rfl
      have isLine :
          advanceAll isBreak line (early ++ (remainder ++ tail)) =
            advanceAll isBreak
              (advanceAll isBreak line (early ++ remainder)) tail := by
        rw [← advanceAll_append, List.append_assoc]
      rw [isLine, List.append_assoc, List.append_assoc,
        leavesOpenFrom_opened lawful stillOpened oneLine stillAtLineEnd,
        replaceFrom_opened lawful stillOpened oneLine stillAtLineEnd,
        replaceFrom_opened lawful isOpened oneLine atLineEnd, stillNotEmpty,
        sameOpen, sameOutput, List.append_assoc (early ++ marker)]
      exact ⟨rfl, rfl⟩

/-- An opening whose line ends before another opening stays one without it. -/
theorem opened_before
    (lawful : Lawful isBreak stops first)
    (secondLawful : Lawful isBreak stops second)
    {line line' early remainder before opening behind : List Symbol}
    (isOpened :
      first line
          (early ++ (remainder ++ (before ++ (opening ++ behind)))) =
        some (early, remainder ++ (before ++ (opening ++ behind))))
    (atLineEnd : AtLineEnd isBreak (before ++ (opening ++ behind)))
    (opened : second line' (opening ++ behind) = some (opening, behind)) :
    first line (early ++ (remainder ++ before)) =
        some (early, remainder ++ before) ∧
      AtLineEnd isBreak before ∧
      before.isEmpty = false := by
  cases before with
  | nil =>
      -- The second opening would begin with a line break.
      obtain ⟨head, others, rfl, notBreak⟩ := secondLawful.begins opened
      rw [atLineEnd head rfl] at notBreak
      cases notBreak
  | cons head before =>
      refine ⟨lawful.extend isOpened fun symbol isHead => ?_, atLineEnd, rfl⟩
      refine lawful.behindStops isOpened symbol ?_
      cases remainder with
      | nil => exact isHead
      | cons next remainder => exact isHead

/-- The openings that leave a line open. -/
theorem leavesOpenFrom_iff
    (lawful : Lawful isBreak stops first)
    (headStops : HeadStops stops first)
    (apart : Apart first first)
    (line text : List Symbol) :
    leavesOpenFrom isBreak first line 0 text = true ↔
      ∃ before opening behind,
        Reaches isBreak first line text before opening behind ∧
          (OneLine isBreak opening ∨
            leavesOpenFrom isBreak first line 0 before = false) := by
  constructor
  · intro isOpen
    induction line, text using scan_induction lawful with
    | nil line =>
        cases isOpen
    | kept line symbol rest isKept inductionHypothesis =>
        rw [leavesOpenFrom_kept isKept] at isOpen
        obtain ⟨before, opening, behind, reaches, either⟩ :=
          inductionHypothesis isOpen
        obtain ⟨rfl, opened, oneLine⟩ := reaches
        have keptBefore : first line (symbol :: before) = none := by
          rw [← List.cons_append,
            opens_append lawful lawful headStops apart
              (List.cons_ne_nil _ _) opened,
            Option.map_eq_none_iff] at isKept
          exact isKept
        refine
          ⟨symbol :: before, opening, behind,
            ⟨List.cons_append.symm, opened, oneLine⟩, ?_⟩
        rwa [leavesOpenFrom_kept keptBefore]
    | opened line early remainder tail isOpened oneLine atLineEnd
        inductionHypothesis =>
        rw [leavesOpenFrom_opened lawful isOpened oneLine atLineEnd,
          Bool.or_eq_true] at isOpen
        rcases isOpen with isEmpty | isOpen
        · rw [List.isEmpty_iff] at isEmpty
          subst isEmpty
          rw [List.append_nil] at isOpened ⊢
          exact
            ⟨[], early, remainder, ⟨rfl, isOpened, oneLine⟩, .inr rfl⟩
        · obtain ⟨before, opening, behind, reaches, either⟩ :=
            inductionHypothesis isOpen
          obtain ⟨rfl, opened, behindOneLine⟩ := reaches
          refine
            ⟨early ++ (remainder ++ before), opening, behind,
              ⟨by simp only [List.append_assoc], ?_, behindOneLine⟩, ?_⟩
          · rwa [← List.append_assoc, advanceAll_append]
          · refine either.imp_right fun closed => ?_
            obtain ⟨stillOpened, stillAtLineEnd, notEmpty⟩ :=
              opened_before lawful lawful isOpened atLineEnd opened
            rw [leavesOpenFrom_opened lawful stillOpened oneLine
              stillAtLineEnd, notEmpty, closed]
            rfl
  · rintro ⟨before, opening, behind, ⟨rfl, opened, oneLine⟩, either⟩
    rcases either with openingOneLine | closed
    · refine leavesOpenFrom_of_line lawful line opened ?_
      exact List.forall_mem_append.mpr ⟨openingOneLine, oneLine⟩
    · obtain ⟨sameOpen, _⟩ :=
        @leavesOpenFrom_append _ _ _ [] _ _ lawful lawful headStops apart line
          _ _ _ _ opened closed
      have atEnd : first (advanceAll isBreak line before)
          (opening ++ (behind ++ [])) = some (opening, behind ++ []) := by
        rwa [List.append_nil]
      have reaches :=
        leavesOpenFrom_opened lawful atEnd oneLine (by rintro _ ⟨⟩)
      rw [List.append_nil] at reaches
      rw [sameOpen, reaches]
      rfl

/-- A replacement keeps the line breaks of a text. -/
theorem oneLine_replaceFrom_iff
    (lawful : Lawful isBreak stops first)
    (markerOneLine : OneLine isBreak marker)
    (line text : List Symbol) :
    OneLine isBreak (replaceFrom isBreak marker first line 0 text) ↔
      OneLine isBreak text := by
  induction line, text using scan_induction lawful with
  | nil line =>
      rfl
  | kept line symbol rest isKept inductionHypothesis =>
      rw [replaceFrom_kept isKept, OneLine, OneLine, List.forall_mem_cons,
        List.forall_mem_cons]
      exact and_congr_right fun _ => inductionHypothesis
  | opened line early remainder tail isOpened oneLine atLineEnd
      inductionHypothesis =>
      rw [replaceFrom_opened lawful isOpened oneLine atLineEnd]
      simp only [OneLine, List.forall_mem_append]
      constructor
      · rintro ⟨⟨earlyOneLine, _⟩, outputOneLine⟩
        exact
          ⟨earlyOneLine, oneLine, inductionHypothesis.mp outputOneLine⟩
      · rintro ⟨earlyOneLine, _, tailOneLine⟩
        exact
          ⟨⟨earlyOneLine, markerOneLine⟩,
            inductionHypothesis.mpr tailOneLine⟩

/-- An opening of the second kind in the output is behind the marker. -/
theorem opening_behind_marker
    (secondMarker : LawfulMarker isBreak stops marker second)
    (firstSecond : Disjoint first second)
    {line text early rest output line' before opening behind : List Symbol}
    (isOpened : first line text = some (early, rest))
    (atLineEnd : AtLineEnd isBreak output)
    (isOutput : early ++ marker ++ output = before ++ (opening ++ behind))
    (opened : second line' (opening ++ behind) = some (opening, behind)) :
    ∃ later,
      before = early ++ marker ++ later ∧
        output = later ++ (opening ++ behind) := by
  have nothing
      {part : List Symbol}
      (isPart : opening ++ behind = part ++ output)
      (closed : second line' (part ++ output) = none) :
      False := by
    rw [← isPart, opened] at closed
    cases closed
  rcases List.append_eq_append_iff.mp isOutput with
    ⟨later, isBefore, isTail⟩ | ⟨part, isMarked, isPart⟩
  · exact ⟨later, isBefore, isTail⟩
  · rcases List.append_eq_append_iff.mp isMarked with
      ⟨front, isBefore, isMarker⟩ | ⟨end', isEarly, isEnd⟩
    · by_cases isEmpty : part = []
      · subst isEmpty
        refine ⟨[], ?_, isPart.symm⟩
        rw [isBefore, isMarker, List.append_nil, List.append_nil]
      · exact
          (nothing isPart
            (secondMarker.avoids line' front part output isMarker isEmpty
              atLineEnd)).elim
    · exfalso
      by_cases isEmpty : end' = []
      · subst isEmpty
        rw [List.nil_append] at isEnd
        rw [isEnd] at isPart
        exact
          nothing isPart
            (secondMarker.avoids line' [] marker output rfl
              secondMarker.nonempty atLineEnd)
      · rw [isEarly] at isOpened
        refine nothing isPart ?_
        rw [isEnd, List.append_assoc]
        exact firstSecond line line' text before end' rest _ isOpened isEmpty

/-- An opening of the second kind in the output stands in the text. -/
theorem opening_in_text
    (lawful : Lawful isBreak stops first)
    (secondLawful : Lawful isBreak stops second)
    (headStops : HeadStops stops second)
    (firstMarker : LawfulMarker isBreak stops marker first)
    (secondMarker : LawfulMarker isBreak stops marker second)
    (firstSecond : Disjoint first second)
    (secondFirst : Disjoint second first)
    {line text line' before opening behind : List Symbol}
    (isOutput :
      replaceFrom isBreak marker first line 0 text =
        before ++ (opening ++ behind))
    (opened : second line' (opening ++ behind) = some (opening, behind)) :
    ∃ before' behind' line'',
      text = before' ++ (opening ++ behind') ∧
        second line' (opening ++ behind') = some (opening, behind') ∧
        before = replaceFrom isBreak marker first line 0 before' ∧
        behind = replaceFrom isBreak marker first line'' 0 behind' ∧
        leavesOpenFrom isBreak first line 0 before' = false := by
  induction line, text using scan_induction lawful generalizing before with
  | nil line =>
      obtain ⟨head, others, rfl, _⟩ := secondLawful.begins opened
      simp [replaceFrom] at isOutput
  | kept line symbol rest isKept inductionHypothesis =>
      rw [replaceFrom_kept isKept] at isOutput
      cases before with
      | nil =>
          rw [List.nil_append] at isOutput
          rw [← isOutput] at opened
          obtain ⟨behind', line'', isOpened, isBehind⟩ :=
            opening_of_replaceFrom secondLawful lawful firstMarker
              secondFirst.apart opened
          have isText := secondLawful.split isOpened
          exact
            ⟨[], behind', line'', isText, isText ▸ isOpened, rfl, isBehind,
              rfl⟩
      | cons head before =>
          obtain ⟨rfl, isRest⟩ := List.cons.inj isOutput
          obtain ⟨before', behind', line'', rfl, isOpened, rfl, isBehind,
            closed⟩ := inductionHypothesis isRest
          have keptBefore : first line (symbol :: before') = none := by
            rw [← List.cons_append,
              opens_append lawful secondLawful headStops firstSecond.apart
                (List.cons_ne_nil _ _) isOpened,
              Option.map_eq_none_iff] at isKept
            exact isKept
          refine
            ⟨symbol :: before', behind', line'', rfl, isOpened, ?_, isBehind,
              ?_⟩
          · rw [replaceFrom_kept keptBefore]
          · rwa [leavesOpenFrom_kept keptBefore]
  | opened line early remainder tail isOpened oneLine atLineEnd
      inductionHypothesis =>
      rw [replaceFrom_opened lawful isOpened oneLine atLineEnd] at isOutput
      have outputAtLineEnd :=
        @atLineEnd_replaceFrom _ _ _ marker _ lawful
          (advanceAll isBreak line (early ++ remainder)) _ atLineEnd
      obtain ⟨before, rfl, isTail⟩ :=
        opening_behind_marker secondMarker firstSecond isOpened
          outputAtLineEnd isOutput opened
      obtain ⟨before', behind', line'', rfl, isPlaced, rfl, isBehind, closed⟩ :=
        inductionHypothesis isTail
      obtain ⟨stillOpened, stillAtLineEnd, notEmpty⟩ :=
        opened_before lawful secondLawful isOpened atLineEnd isPlaced
      refine
        ⟨early ++ (remainder ++ before'), behind', line'',
          by simp only [List.append_assoc], isPlaced, ?_, isBehind, ?_⟩
      · rw [replaceFrom_opened lawful stillOpened oneLine stillAtLineEnd]
      · rw [leavesOpenFrom_opened lawful stillOpened oneLine stillAtLineEnd,
          notEmpty, closed]
        rfl

/-- An opening of the second kind in the text stands in the output. -/
theorem opening_in_output
    (lawful : Lawful isBreak stops first)
    (secondLawful : Lawful isBreak stops second)
    (headStops : HeadStops stops second)
    (firstSecond : Disjoint first second)
    (secondFirst : Disjoint second first)
    {line line' before opening behind : List Symbol}
    (opened : second line' (opening ++ behind) = some (opening, behind))
    (closed : leavesOpenFrom isBreak first line 0 before = false) :
    ∃ line'',
      replaceFrom isBreak marker first line 0
            (before ++ (opening ++ behind)) =
          replaceFrom isBreak marker first line 0 before ++
            (opening ++ replaceFrom isBreak marker first line'' 0 behind) ∧
        second line'
            (opening ++ replaceFrom isBreak marker first line'' 0 behind) =
          some
            (opening, replaceFrom isBreak marker first line'' 0 behind) := by
  obtain ⟨_, sameOutput⟩ :=
    @leavesOpenFrom_append _ _ _ marker _ _ lawful secondLawful headStops
      firstSecond.apart line _ _ _ _ opened closed
  rw [sameOutput, replaceFrom_append_of_none]
  · refine ⟨_, rfl, secondLawful.extend opened ?_⟩
    rw [head?_replaceFrom lawful]
    exact secondLawful.behindStops opened
  · intro early late isOpening nonempty line''
    refine secondFirst line' line'' (opening ++ behind) early late behind _ ?_
      nonempty
    rw [← isOpening]
    exact opened

/-- A line that is open before an opening stays open behind it. -/
theorem leavesOpen_of_before
    (lawful : Lawful isBreak stops first)
    (secondLawful : Lawful isBreak stops second)
    (firstHeadStops : HeadStops stops first)
    (headStops : HeadStops stops second)
    (firstApart : Apart first first)
    {line before opening behind : List Symbol}
    (opened : second line (opening ++ behind) = some (opening, behind))
    (oneLine : OneLine isBreak (opening ++ behind))
    (isOpen : leavesOpen isBreak first before = true) :
    leavesOpen isBreak first (before ++ (opening ++ behind)) = true := by
  obtain ⟨front, early, rest, ⟨rfl, isOpened, restOneLine⟩, either⟩ :=
    (leavesOpenFrom_iff lawful firstHeadStops firstApart [] before).mp isOpen
  refine
    (leavesOpenFrom_iff lawful firstHeadStops firstApart [] _).mpr
      ⟨front, early, rest ++ (opening ++ behind),
        ⟨by simp only [List.append_assoc], ?_,
          List.forall_mem_append.mpr ⟨restOneLine, oneLine⟩⟩, either⟩
  refine lawful.extend isOpened ?_
  cases rest with
  | nil =>
      obtain ⟨head, others, rfl, _⟩ := secondLawful.begins opened
      exact fun symbol isHead => headStops _ _ _ _ opened symbol isHead
  | cons head rest =>
      exact fun symbol isHead => lawful.behindStops isOpened symbol isHead

/--
After the first kind was replaced, the openings that leave a line open are
those of the first kind in the text, or of the second kind where they stand on
one line or the text before them leaves no line open for either.
-/
theorem leavesOpen_replace_iff
    (lawful : Lawful isBreak stops first)
    (secondLawful : Lawful isBreak stops second)
    (firstHeadStops : HeadStops stops first)
    (headStops : HeadStops stops second)
    (firstMarker : LawfulMarker isBreak stops marker first)
    (secondMarker : LawfulMarker isBreak stops marker second)
    (firstApart : Apart first first)
    (secondApart : Apart second second)
    (firstSecond : Disjoint first second)
    (secondFirst : Disjoint second first)
    (anywhere : ∀ line line' text, second line text = second line' text)
    (text : List Symbol) :
    (leavesOpen isBreak first text ||
          leavesOpen isBreak second (replace isBreak marker first text)) =
        true ↔
      leavesOpen isBreak first text = true ∨
        ∃ before opening behind,
          Reaches isBreak second [] text before opening behind ∧
            (OneLine isBreak opening ∨
              (leavesOpen isBreak first before ||
                leavesOpen isBreak second
                  (replace isBreak marker first before)) =
                false) := by
  rw [Bool.or_eq_true]
  constructor
  · rintro (isOpen | isOpen)
    · exact .inl isOpen
    · right
      obtain ⟨before, opening, behind, ⟨isOutput, opened, oneLine⟩, either⟩ :=
        (leavesOpenFrom_iff secondLawful headStops secondApart [] _).mp isOpen
      obtain ⟨before', behind', _, rfl, isPlaced, rfl, rfl, closed⟩ :=
        opening_in_text lawful secondLawful headStops firstMarker secondMarker
          firstSecond secondFirst isOutput opened
      refine
        ⟨before', opening, behind', ⟨rfl, ?_, ?_⟩,
          either.imp_right fun closedOutput => ?_⟩
      · rw [anywhere _ _ (opening ++ behind')]
        exact isPlaced
      · exact
          (oneLine_replaceFrom_iff lawful firstMarker.oneLine _ _).mp oneLine
      · exact Bool.or_eq_false_iff.mpr ⟨closed, closedOutput⟩
  · rintro (isOpen | ⟨before, opening, behind, ⟨rfl, opened, oneLine⟩, either⟩)
    · exact .inl isOpen
    · cases isOpen : leavesOpen isBreak first before with
      | true =>
          left
          rcases either with openingOneLine | closed
          · exact
              leavesOpen_of_before lawful secondLawful firstHeadStops headStops
                firstApart opened
                (List.forall_mem_append.mpr ⟨openingOneLine, oneLine⟩) isOpen
          · rw [isOpen] at closed
            cases closed
      | false =>
          right
          obtain ⟨line'', isOutput, stillOpened⟩ :=
            @opening_in_output _ _ _ marker _ _ lawful secondLawful headStops
              firstSecond secondFirst [] _ _ _ _ opened isOpen
          refine
            (leavesOpenFrom_iff secondLawful headStops secondApart [] _).mpr
              ⟨_, opening, _, ⟨isOutput, ?_, ?_⟩, either.imp_right ?_⟩
          · rw [anywhere _ _ (opening ++ _)]
            exact stillOpened
          · exact
              (oneLine_replaceFrom_iff lawful firstMarker.oneLine _ _).mpr
                oneLine
          · exact fun closed => (Bool.or_eq_false_iff.mp closed).2

end Places

end LineRedaction

import Mathlib.Data.Bool.AllAny
import Mathlib.Data.List.Infix
import HushWire.RouteAgreement
import HushWire.Library.OpenLines

namespace HushWire

/-!
# Redacting secrets

Two patterns are searched for in a text, and what follows on the line of a
match is replaced.  The patterns read lines and not the configuration, so a
secret is removed where a key with its sign stands before it and no line break
stands between them.

The parser of the configuration, the decoder of base64 and the character
classes of the regular expressions are parameters.
-/

/-- Why the text of a configuration is rejected. -/
inductive ConfigParseError where
  | toml (source : String)
  | invalid (error : ConfigError)
  deriving DecidableEq

/-- Parse and validate a configuration. -/
def Config.parse
    (fromToml : String → Except String Config)
    (decodeBase64 : String → Option Bytes)
    (text : String) :
    Except ConfigParseError Config :=
  match fromToml text with
  | .error source => .error (.toml source)
  | .ok config =>
      match config.validate decodeBase64 with
      | .error error => .error (.invalid error)
      | .ok _ => .ok config

/-- The strings of a configuration that have to be redacted. -/
def Config.secrets (config : Config) : List String :=
  config.interface.privateKey :: config.peer.map PeerConfig.psk

namespace HushWireRedactor

open LineRedaction
  (Opens replace leavesOpen OneLine AtLineEnd Lawful LawfulMarker Apart
    Disjoint Word HeadStops Reaches advanceAll)

/-- The classes of characters of the regular expressions. -/
structure CharacterClasses where
  /-- The characters that `\s` matches. -/
  isSpace : Char → Bool
  /-- `\b` matches between a part of a line, last character first, and a letter. -/
  wordBoundary : List Char → Bool

/-- No printed ASCII character but the blank is a space. -/
def CharacterClasses.Lawful (classes : CharacterClasses) : Prop :=
  ∀ character, classes.isSpace character = true →
    character.toNat ≤ 0x20 ∨ 0x7f ≤ character.toNat

/-- The characters that a line ends with. -/
def isBreak (character : Char) : Bool :=
  character = '\r' || character = '\n'

/-- The characters that match a letter if its case is ignored. -/
def sameLetter (letter character : Char) : Bool :=
  character = letter || character = letter.toUpper ||
    (letter = 's' && character = 'ſ') ||
    (letter = 'k' && character = '\u212a')

/-- Read a literal, and return what was read and what follows. -/
def readLiteral : List Char → List Char → Option (List Char × List Char)
  | [], text => some ([], text)
  | _ :: _, [] => none
  | letter :: letters, character :: rest =>
      if sameLetter letter character then
        (readLiteral letters rest).map fun parts =>
          (character :: parts.1, parts.2)
      else
        none

/-- Read one of the two keys. -/
def readKey (text : List Char) : Option (List Char × List Char) :=
  (readLiteral "private_key".toList text).or
    (readLiteral "psk".toList text)

/--
A pattern: a key, in quotes or at a word boundary, then a separator, each with
spaces after it, and the rest of the line.
-/
structure Pattern where
  atBoundary : Bool
  quote : List Char
  separator : Char

namespace Pattern

def assignment : Pattern := ⟨true, [], '='⟩

def member : Pattern := ⟨false, ['"'], ':'⟩

/--
The first group of a pattern, and what follows it.  No part of a pattern can
begin with what the part before it repeats, so nothing that was read is ever
given back.
-/
def group (classes : CharacterClasses) (pattern : Pattern) : Opens Char :=
  fun line text =>
    if pattern.atBoundary && !classes.wordBoundary line then
      none
    else do
      let (opening, rest) ← readLiteral pattern.quote text
      let (key, rest) ← readKey rest
      let (closing, rest) ← readLiteral pattern.quote rest
      let blanks := rest.takeWhile classes.isSpace
      let (separator, rest) ←
        readLiteral [pattern.separator] (rest.dropWhile classes.isSpace)
      some
        (opening ++ key ++ closing ++ blanks ++ separator ++
            rest.takeWhile classes.isSpace,
          rest.dropWhile classes.isSpace)

end Pattern

/-- What a match is replaced by, behind its first group. -/
def marker : List Char :=
  "\"<redacted>\"".toList

def patterns : List Pattern :=
  [.assignment, .member]

def redact (classes : CharacterClasses) (text : String) : String :=
  .ofList
    (patterns.foldl
      (fun value pattern =>
        replace isBreak marker (pattern.group classes) value)
      text.toList)

section Literals

/-- The text reads as the literal, in whatever case. -/
abbrev ReadsAs : List Char → List Char → Prop :=
  List.Forall₂ fun letter character => sameLetter letter character = true

theorem readLiteral_eq_some_iff
    {literal text read rest : List Char} :
    readLiteral literal text = some (read, rest) ↔
      text = read ++ rest ∧ ReadsAs literal read := by
  induction literal generalizing text read with
  | nil =>
      constructor
      · intro isRead
        cases isRead
        exact ⟨rfl, .nil⟩
      · rintro ⟨rfl, readsAs⟩
        cases readsAs
        rfl
  | cons letter letters inductionHypothesis =>
      cases text with
      | nil =>
          refine iff_of_false (fun isRead => by cases isRead) ?_
          rintro ⟨isNil, readsAs⟩
          obtain ⟨rfl, _⟩ := List.append_eq_nil_iff.mp isNil.symm
          cases readsAs
      | cons character later =>
          rw [readLiteral]
          split
          next same =>
            constructor
            · intro isRead
              obtain ⟨⟨read', rest'⟩, found, isPair⟩ :=
                Option.map_eq_some_iff.mp isRead
              obtain ⟨rfl, rfl⟩ := Prod.mk.inj isPair
              obtain ⟨isLater, readsAs⟩ := inductionHypothesis.mp found
              exact ⟨by rw [isLater]; rfl, .cons same readsAs⟩
            · rintro ⟨isText, readsAs⟩
              cases readsAs with
              | cons sameHead readsLater =>
                  obtain ⟨rfl, isLater⟩ := List.cons.inj isText
                  rw [inductionHypothesis.mpr ⟨isLater, readsLater⟩]
                  rfl
          next differs =>
            refine iff_of_false (fun isRead => by cases isRead) ?_
            rintro ⟨isText, readsAs⟩
            cases readsAs with
            | cons sameHead _ =>
                obtain ⟨rfl, _⟩ := List.cons.inj isText
                exact differs sameHead

/-- A text reads as one of the keys. -/
def IsKey (key : List Char) : Prop :=
  ReadsAs "private_key".toList key ∨ ReadsAs "psk".toList key

/-- The letters of a literal have their own case or the other. -/
theorem sameLetter_iff
    {letter character : Char}
    (notS : letter ≠ 's')
    (notK : letter ≠ 'k') :
    sameLetter letter character = true ↔
      character = letter ∨ character = letter.toUpper := by
  simp [sameLetter, notS, notK]

/-- A symbol that matches none of the letters is not in what was read. -/
theorem notMem_of_readsAs
    {literal read : List Char}
    {symbol : Char}
    (readsAs : ReadsAs literal read)
    (differs : ∀ letter ∈ literal, sameLetter letter symbol = false) :
    symbol ∉ read := by
  induction readsAs with
  | nil =>
      exact List.not_mem_nil
  | cons same _ inductionHypothesis =>
      obtain ⟨differsFirst, differsLater⟩ := List.forall_mem_cons.mp differs
      rw [List.mem_cons, not_or]
      refine ⟨?_, inductionHypothesis differsLater⟩
      rintro rfl
      rw [same] at differsFirst
      cases differsFirst

/-- A key begins with a letter that is in it only once. -/
theorem IsKey.exists_cons
    {key : List Char}
    (isKey : IsKey key) :
    ∃ first rest,
      key = first :: rest ∧
        sameLetter 'p' first = true ∧
        ∀ symbol ∈ rest, sameLetter 'p' symbol = false := by
  have once
      {letters rest : List Char}
      (readsAs : ReadsAs letters rest)
      (small : ∀ letter ∈ letters, sameLetter letter 'p' = false)
      (capital : ∀ letter ∈ letters, sameLetter letter 'P' = false) :
      ∀ symbol ∈ rest, sameLetter 'p' symbol = false := by
    intro symbol member
    rw [← Bool.not_eq_true, sameLetter_iff (by decide) (by decide)]
    rintro (rfl | rfl)
    · exact notMem_of_readsAs readsAs small member
    · exact notMem_of_readsAs readsAs capital member
  rcases isKey with isKey | isKey
  · cases isKey with
    | cons isFirst later =>
        exact ⟨_, _, rfl, isFirst,
          once later (List.all_iff_forall_prop.mp (by decide))
            (List.all_iff_forall_prop.mp (by decide))⟩
  · cases isKey with
    | cons isFirst later =>
        exact ⟨_, _, rfl, isFirst,
          once later (List.all_iff_forall_prop.mp (by decide))
            (List.all_iff_forall_prop.mp (by decide))⟩

/-- A text begins with one key at most. -/
theorem IsKey.unique
    {key key' rest rest' : List Char}
    (isKey : IsKey key)
    (isKey' : IsKey key')
    (isText : key ++ rest = key' ++ rest') :
    key = key' ∧ rest = rest' := by
  have differ
      {one other : List Char}
      (isPrivateKey : ReadsAs "private_key".toList one)
      (isPsk : ReadsAs "psk".toList other)
      {rest rest' : List Char}
      (isText : one ++ rest = other ++ rest') :
      False := by
    cases isPrivateKey with
    | cons _ later =>
        cases later with
        | cons isR _ =>
            cases isPsk with
            | cons _ later' =>
                cases later' with
                | cons isS _ =>
                    simp only [List.cons_append, List.cons.injEq] at isText
                    obtain ⟨_, rfl, _⟩ := isText
                    rcases (sameLetter_iff (by decide) (by decide)).mp isR
                      with rfl | rfl <;> cases isS
  rcases isKey with isKey | isKey <;> rcases isKey' with isKey' | isKey'
  · exact List.append_inj isText
      (isKey.length_eq.symm.trans isKey'.length_eq)
  · exact (differ isKey isKey' isText).elim
  · exact (differ isKey' isKey isText.symm).elim
  · exact List.append_inj isText
      (isKey.length_eq.symm.trans isKey'.length_eq)

theorem readKey_eq_some_iff
    {text key rest : List Char} :
    readKey text = some (key, rest) ↔ text = key ++ rest ∧ IsKey key := by
  rw [readKey, Option.or_eq_some_iff, readLiteral_eq_some_iff,
    readLiteral_eq_some_iff]
  constructor
  · rintro (⟨isText, isKey⟩ | ⟨_, isText, isKey⟩)
    · exact ⟨isText, .inl isKey⟩
    · exact ⟨isText, .inr isKey⟩
  · rintro ⟨isText, isKey | isKey⟩
    · exact .inl ⟨isText, isKey⟩
    · refine .inr ⟨?_, isText, isKey⟩
      rw [Option.eq_none_iff_forall_ne_some]
      rintro ⟨key', rest'⟩ isRead
      obtain ⟨isText', isKey'⟩ := readLiteral_eq_some_iff.mp isRead
      obtain ⟨rfl, _⟩ :=
        IsKey.unique (.inr isKey) (.inl isKey')
          (isText.symm.trans isText')
      have sameLength := isKey.length_eq.trans isKey'.length_eq.symm
      revert sameLength
      decide

end Literals

/-- Punctuation is read as it stands. -/
theorem readsAs_iff_eq
    {literal read : List Char}
    (exact :
      ∀ letter ∈ literal,
        letter ≠ 's' ∧ letter ≠ 'k' ∧ letter.toUpper = letter) :
    ReadsAs literal read ↔ read = literal := by
  induction literal generalizing read with
  | nil =>
      exact List.forall₂_nil_left_iff
  | cons letter letters inductionHypothesis =>
      obtain ⟨⟨notS, notK, same⟩, later⟩ := List.forall_mem_cons.mp exact
      refine List.forall₂_cons_left_iff.trans ?_
      constructor
      · rintro ⟨character, rest, isLetter, readsLater, rfl⟩
        rw [sameLetter_iff notS notK, same, or_self] at isLetter
        rw [isLetter, (inductionHypothesis later).mp readsLater]
      · rintro rfl
        refine ⟨letter, letters, ?_, (inductionHypothesis later).mpr rfl, rfl⟩
        exact (sameLetter_iff notS notK).mpr (.inl rfl)

/-- One of the two patterns. -/
def Pattern.Known (pattern : Pattern) : Prop :=
  pattern = .assignment ∨ pattern = .member

section Groups

variable {classes : CharacterClasses} {pattern : Pattern}

/-- A first group: the key in its quotes, spaces, the separator, spaces. -/
structure Pattern.IsGroup
    (classes : CharacterClasses)
    (pattern : Pattern)
    (key blanks blanks' : List Char) :
    Prop where
  isKey : IsKey key
  blanks : ∀ character ∈ blanks, classes.isSpace character = true
  blanks' : ∀ character ∈ blanks', classes.isSpace character = true

/-- The text of a first group. -/
def Pattern.groupOf
    (pattern : Pattern)
    (key blanks blanks' : List Char) :
    List Char :=
  pattern.quote ++ (key ++ (pattern.quote ++ (blanks ++
    (pattern.separator :: blanks'))))

/-- The line at whose end a text stands, last character first. -/
def lineBefore (before : List Char) : List Char :=
  before.reverse.takeWhile fun character => !isBreak character

/-- A key with its sign stands in a text, and no line break behind them. -/
structure Pattern.ShowsKey
    (classes : CharacterClasses)
    (pattern : Pattern)
    (text before group behind : List Char) :
    Prop where
  isText : text = before ++ (group ++ behind)
  boundary :
    pattern.atBoundary = true →
    classes.wordBoundary (lineBefore before) = true
  isGroup :
    ∃ key blanks blanks',
      pattern.IsGroup classes key blanks blanks' ∧
        group = pattern.groupOf key blanks blanks'
  stops : ∀ character ∈ behind.head?, classes.isSpace character = false
  oneLine : OneLine isBreak behind

theorem Pattern.ShowsKey.before_shorter
    {text before group behind : List Char}
    (shown : pattern.ShowsKey classes text before group behind) :
    before.length < text.length := by
  obtain ⟨key, blanks, blanks', _, isGroup⟩ := shown.isGroup
  rw [shown.isText, isGroup, groupOf]
  simp only [List.length_append, List.length_cons]
  omega

/--
The last line of a text is the rest of a key: `private_key =` or `psk =` at a
word boundary.  Where spaces with line breaks are within these, the key must
not itself be in the rest of an earlier one.
-/
def EndsInAssignment (classes : CharacterClasses) (text : List Char) : Prop :=
  ∃ before group behind,
    ∃ _ : Pattern.assignment.ShowsKey classes text before group behind,
      OneLine isBreak group ∨ ¬ EndsInAssignment classes before
termination_by text.length
decreasing_by
  rename_i shown
  exact shown.before_shorter

/--
The last line of a text is the rest of a key, which may also be `"private_key":`
or `"psk":`.
-/
def EndsInKey (classes : CharacterClasses) (text : List Char) : Prop :=
  EndsInAssignment classes text ∨
    ∃ before group behind,
      ∃ _ : Pattern.member.ShowsKey classes text before group behind,
        OneLine isBreak group ∨ ¬ EndsInKey classes before
termination_by text.length
decreasing_by
  rename_i shown
  exact shown.before_shorter

/-- What is not a space ends a run of spaces. -/
theorem takeWhile_spaces
    {isSpace : Char → Bool}
    {blanks rest : List Char}
    (allBlank : ∀ character ∈ blanks, isSpace character = true)
    (stops : ∀ character ∈ rest.head?, isSpace character = false) :
    (blanks ++ rest).takeWhile isSpace = blanks ∧
      (blanks ++ rest).dropWhile isSpace = rest := by
  rw [List.takeWhile_append_of_pos allBlank,
    List.dropWhile_append_of_pos allBlank]
  cases rest with
  | nil =>
      exact ⟨List.append_nil _, rfl⟩
  | cons first later =>
      have notBlank : ¬ isSpace first = true :=
        Bool.eq_false_iff.mp (stops first rfl)
      rw [List.takeWhile_cons_of_neg notBlank,
        List.dropWhile_cons_of_neg notBlank, List.append_nil]
      exact ⟨rfl, rfl⟩

theorem Pattern.Known.readsAs_quote
    (known : pattern.Known)
    {read : List Char} :
    ReadsAs pattern.quote read ↔ read = pattern.quote := by
  refine readsAs_iff_eq (List.all_iff_forall_prop.mp ?_)
  rcases known with rfl | rfl <;> decide

theorem Pattern.Known.readsAs_separator
    (known : pattern.Known)
    {read : List Char} :
    ReadsAs [pattern.separator] read ↔ read = [pattern.separator] := by
  refine readsAs_iff_eq (List.all_iff_forall_prop.mp ?_)
  rcases known with rfl | rfl <;> decide

/-- What is printed in ASCII is no space. -/
theorem CharacterClasses.Lawful.isSpace_eq_false
    (lawful : classes.Lawful)
    {character : Char}
    (printed : 0x20 < character.toNat ∧ character.toNat < 0x7f) :
    classes.isSpace character = false := by
  rw [← Bool.not_eq_true]
  intro isSpace
  have unprinted := lawful character isSpace
  omega

theorem Pattern.Known.separator_notSpace
    (known : pattern.Known)
    (lawful : classes.Lawful) :
    classes.isSpace pattern.separator = false := by
  apply lawful.isSpace_eq_false
  rcases known with rfl | rfl <;> decide

/-- What a pattern matches before the rest of the line. -/
theorem Pattern.group_eq_some_iff
    (lawful : classes.Lawful)
    (known : pattern.Known)
    {line text opening behind : List Char} :
    pattern.group classes line text = some (opening, behind) ↔
      (pattern.atBoundary && !classes.wordBoundary line) = false ∧
        text = opening ++ behind ∧
        (∀ character ∈ behind.head?, classes.isSpace character = false) ∧
        ∃ key blanks blanks',
          pattern.IsGroup classes key blanks blanks' ∧
          opening = pattern.groupOf key blanks blanks' := by
  unfold Pattern.group
  split
  next closed =>
    refine iff_of_false (fun isRead => by cases isRead) ?_
    rintro ⟨isOpen, _⟩
    rw [closed] at isOpen
    cases isOpen
  next isOpen =>
    rw [Bool.not_eq_true] at isOpen
    simp only [bind, Option.bind_eq_some_iff, Option.some.injEq,
      Prod.mk.injEq, Prod.exists, readLiteral_eq_some_iff,
      readKey_eq_some_iff, known.readsAs_quote, known.readsAs_separator]
    constructor
    · rintro ⟨_, _, ⟨rfl, rfl⟩, key, _, ⟨rfl, isKey⟩, _, spaced, ⟨rfl, rfl⟩,
        _, rest, ⟨isSeparated, rfl⟩, rfl, rfl⟩
      refine ⟨isOpen, ?_, ?_, key, spaced.takeWhile classes.isSpace,
        rest.takeWhile classes.isSpace,
        ⟨isKey, fun _ => List.mem_takeWhile_imp,
          fun _ => List.mem_takeWhile_imp⟩, ?_⟩
      · have isSpaced :
            spaced =
              spaced.takeWhile classes.isSpace ++
                ([pattern.separator] ++
                  (rest.takeWhile classes.isSpace ++
                    rest.dropWhile classes.isSpace)) := by
          rw [List.takeWhile_append_dropWhile, ← isSeparated,
            List.takeWhile_append_dropWhile]
        conv_lhs => rw [isSpaced]
        simp only [List.append_assoc]
      · intro character isHead
        have stopped := List.head?_dropWhile_not classes.isSpace rest
        rw [Option.mem_def.mp isHead] at stopped
        simpa using stopped
      · simp [Pattern.groupOf]
    · rintro ⟨_, rfl, stops, key, blanks, blanks', isGroup, rfl⟩
      obtain ⟨isBlanks, isSeparated⟩ :=
        @takeWhile_spaces classes.isSpace blanks
          (pattern.separator :: (blanks' ++ behind)) isGroup.blanks
          (fun character isHead => by
            cases isHead
            exact known.separator_notSpace lawful)
      obtain ⟨isBlanks', isBehind⟩ :=
        takeWhile_spaces isGroup.blanks' stops
      refine ⟨pattern.quote, _, ⟨?_, rfl⟩, key, _, ⟨rfl, isGroup.isKey⟩,
        pattern.quote, blanks ++ (pattern.separator :: (blanks' ++ behind)),
        ⟨rfl, rfl⟩, [pattern.separator], blanks' ++ behind,
        ⟨isSeparated, rfl⟩, ?_, isBehind⟩
      · simp [Pattern.groupOf]
      · rw [isBlanks, isBlanks']
        simp [Pattern.groupOf]

/-- The first letter of the key is the only one of its kind in a group. -/
theorem Pattern.exists_first
    (lawful : classes.Lawful)
    (known : pattern.Known)
    {key blanks blanks' : List Char}
    (isGroup : pattern.IsGroup classes key blanks blanks') :
    ∃ first rest,
      pattern.groupOf key blanks blanks' = pattern.quote ++ first :: rest ∧
        sameLetter 'p' first = true ∧
        ∀ character ∈ rest, sameLetter 'p' character = false := by
  obtain ⟨first, letters, rfl, isFirst, others⟩ := isGroup.isKey.exists_cons
  have notLetter {character : Char}
      (isSpace : classes.isSpace character = true) :
      sameLetter 'p' character = false := by
    rw [← Bool.not_eq_true, sameLetter_iff (by decide) (by decide)]
    rintro (rfl | rfl)
    · rw [lawful.isSpace_eq_false (by decide)] at isSpace
      cases isSpace
    · rw [lawful.isSpace_eq_false (by decide)] at isSpace
      cases isSpace
  refine ⟨first, letters ++ (pattern.quote ++ (blanks ++
    (pattern.separator :: blanks'))), rfl, isFirst, ?_⟩
  intro character member
  simp only [List.mem_append, List.mem_cons] at member
  rcases member with inLetters | inQuote | isBlank | isSeparator | isBlank
  · exact others character inLetters
  · rcases known with rfl | rfl
    · cases inQuote
    · cases List.mem_singleton.mp inQuote
      decide
  · exact notLetter (isGroup.blanks character isBlank)
  · rw [isSeparator]
    rcases known with rfl | rfl <;> decide
  · exact notLetter (isGroup.blanks' character isBlank)

/-- A group ends with the separator or with a space. -/
theorem Pattern.last_of_group
    {key blanks blanks' : List Char}
    (isGroup : pattern.IsGroup classes key blanks blanks')
    {last : Char}
    (isLast : last ∈ (pattern.groupOf key blanks blanks').getLast?) :
    last = pattern.separator ∨ classes.isSpace last = true := by
  have isTail :
      pattern.groupOf key blanks blanks' =
        pattern.quote ++ key ++ pattern.quote ++ blanks ++
          (pattern.separator :: blanks') := by
    simp [Pattern.groupOf]
  rw [isTail, List.getLast?_append_of_ne_nil _ (List.cons_ne_nil _ _)]
    at isLast
  rcases List.mem_cons.mp (List.mem_of_getLast? isLast) with
    isSeparator | isBlank
  · exact .inl isSeparator
  · exact .inr (isGroup.blanks' last isBlank)

/-- The groups of the patterns are found by the search. -/
theorem Pattern.Known.lawful
    (known : pattern.Known)
    (lawful : classes.Lawful) :
    Lawful isBreak (fun character => !classes.isSpace character)
      (pattern.group classes) where
  split := fun found =>
    ((Pattern.group_eq_some_iff lawful known).mp found).2.1
  begins := fun found => by
    obtain ⟨_, _, _, key, blanks, blanks', isGroup, rfl⟩ :=
      (Pattern.group_eq_some_iff lawful known).mp found
    obtain ⟨first, rest, isFirst, isP, _⟩ :=
      Pattern.exists_first lawful known isGroup
    rw [isFirst]
    rcases known with rfl | rfl
    · refine ⟨first, rest, rfl, ?_⟩
      rcases (sameLetter_iff (by decide) (by decide)).mp isP with
        rfl | rfl <;> decide
    · exact ⟨'"', first :: rest, rfl, by decide⟩
  behindStops := fun found character isHead => by
    obtain ⟨_, _, stops, _⟩ :=
      (Pattern.group_eq_some_iff lawful known).mp found
    rw [stops character isHead]
    rfl
  extend := fun found stops => by
    obtain ⟨isOpen, _, _, isGroup⟩ :=
      (Pattern.group_eq_some_iff lawful known).mp found
    refine (Pattern.group_eq_some_iff lawful known).mpr
      ⟨isOpen, rfl, fun character isHead => ?_, isGroup⟩
    simpa using stops character isHead

/-- A group begins with a quote or with a letter. -/
theorem Pattern.Known.headStops
    (known : pattern.Known)
    (lawful : classes.Lawful) :
    HeadStops (fun character => !classes.isSpace character)
      (pattern.group classes) := by
  intro line text opening behind found character isHead
  obtain ⟨_, _, _, key, blanks, blanks', isGroup, rfl⟩ :=
    (Pattern.group_eq_some_iff lawful known).mp found
  obtain ⟨first, rest, isFirst, isP, _⟩ :=
    Pattern.exists_first lawful known isGroup
  rw [isFirst] at isHead
  refine Bool.not_eq_eq_eq_not.mpr (lawful.isSpace_eq_false ?_)
  · rcases known with rfl | rfl
    · cases isHead
      rcases (sameLetter_iff (by decide) (by decide)).mp isP with
        rfl | rfl <;> decide
    · cases isHead
      decide

/-- A match begins with the quote and the first letter of a key. -/
theorem Pattern.begins_of_group
    (lawful : classes.Lawful)
    (known : pattern.Known)
    {line text opening behind : List Char}
    (found : pattern.group classes line text = some (opening, behind)) :
    ∃ first rest,
      text = pattern.quote ++ first :: rest ∧
        sameLetter 'p' first = true := by
  obtain ⟨_, isText, _, key, blanks, blanks', isGroup, isOpening⟩ :=
    (Pattern.group_eq_some_iff lawful known).mp found
  obtain ⟨first, rest, isFirst, isP, _⟩ :=
    Pattern.exists_first lawful known isGroup
  refine ⟨first, rest ++ behind, ?_, isP⟩
  rw [isText, isOpening, isFirst, List.append_assoc, List.cons_append]

/-- The marker takes up a line end, and has no key in it. -/
theorem Pattern.Known.lawfulMarker
    (known : pattern.Known)
    (lawful : classes.Lawful) :
    LawfulMarker isBreak (fun character => !classes.isSpace character)
      marker (pattern.group classes) where
  nonempty := by decide
  oneLine := List.all_iff_forall_prop.mp (by decide)
  headStops := fun character isHead => by
    cases isHead
    rw [lawful.isSpace_eq_false (by decide)]
    rfl
  avoids := by
    intro line early late tail isMarker nonempty atLineEnd
    have noLetter :
        ∀ character ∈ marker, sameLetter 'p' character = false :=
      List.all_iff_forall_prop.mp (by decide)
    have notBreak
        {character : Char}
        (isLineEnd : isBreak character = true) :
        sameLetter 'p' character = false := by
      rcases Bool.or_eq_true_iff.mp isLineEnd with isEnd | isEnd <;>
        rw [of_decide_eq_true isEnd] <;> decide
    have inLate
        {character : Char}
        (member : character ∈ late) :
        sameLetter 'p' character = false :=
      noLetter character (isMarker ▸ List.mem_append_right _ member)
    rw [Option.eq_none_iff_forall_ne_some]
    rintro ⟨opening, behind⟩ found
    obtain ⟨first, rest, isText, isP⟩ :=
      Pattern.begins_of_group lawful known found
    have isFirst : sameLetter 'p' first = false := by
      obtain ⟨head, later, rfl⟩ := List.exists_cons_of_ne_nil nonempty
      rcases known with rfl | rfl
      · obtain ⟨rfl, _⟩ := List.cons.inj isText
        exact inLate List.mem_cons_self
      · obtain ⟨_, isLater⟩ := List.cons.inj isText
        cases later with
        | nil =>
            have isTail : tail = first :: rest := isLater
            exact notBreak (atLineEnd first (by rw [isTail]; rfl))
        | cons second others =>
            obtain ⟨rfl, _⟩ := List.cons.inj isLater
            exact inLate (List.mem_cons_of_mem _ List.mem_cons_self)
    rw [isFirst] at isP
    cases isP

/-- There is no quote in an assignment. -/
theorem quote_notMem_assignment
    (lawful : classes.Lawful)
    {key blanks blanks' : List Char}
    (isGroup : Pattern.assignment.IsGroup classes key blanks blanks') :
    '"' ∉ Pattern.assignment.groupOf key blanks blanks' := by
  have notSpace : classes.isSpace '"' = false :=
    lawful.isSpace_eq_false (by decide)
  have notBlank
      {spaces : List Char}
      (allBlank :
        ∀ character ∈ spaces, classes.isSpace character = true) :
      '"' ∉ spaces := by
    intro member
    have isSpace := allBlank '"' member
    rw [notSpace] at isSpace
    cases isSpace
  have notInKey : '"' ∉ key := by
    rcases isGroup.isKey with isKey | isKey
    · exact notMem_of_readsAs isKey
        (List.all_iff_forall_prop.mp (by decide))
    · exact notMem_of_readsAs isKey
        (List.all_iff_forall_prop.mp (by decide))
  intro member
  simp only [Pattern.groupOf, Pattern.assignment, List.nil_append,
    List.mem_append, List.mem_cons] at member
  rcases member with inKey | isBlank | isSeparator | isBlank
  · exact notInKey inKey
  · exact notBlank isGroup.blanks isBlank
  · cases isSeparator
  · exact notBlank isGroup.blanks' isBlank

/-- No assignment begins inside an assignment. -/
theorem assignment_apart (lawful : classes.Lawful) :
    Apart (Pattern.assignment.group classes)
      (Pattern.assignment.group classes) := by
  intro line line' text early late behind rest found earlier nonempty
  obtain ⟨_, _, _, key, blanks, blanks', isGroup, isOpening⟩ :=
    (Pattern.group_eq_some_iff lawful (.inl rfl)).mp found
  obtain ⟨first, others, isFirst, _, onlyFirst⟩ :=
    Pattern.exists_first lawful (.inl rfl) isGroup
  rw [isFirst] at isOpening
  obtain ⟨head, before, rfl⟩ := List.exists_cons_of_ne_nil earlier
  obtain ⟨rfl, isOthers⟩ := List.cons.inj isOpening
  rw [Option.eq_none_iff_forall_ne_some]
  rintro ⟨opening, behind'⟩ found'
  obtain ⟨first', rest', isText, isP⟩ :=
    Pattern.begins_of_group lawful (.inl rfl) found'
  obtain ⟨second, later, rfl⟩ := List.exists_cons_of_ne_nil nonempty
  obtain ⟨rfl, _⟩ := List.cons.inj isText
  rw [onlyFirst second
    (isOthers ▸ List.mem_append_right _ List.mem_cons_self)] at isP
  cases isP

/-- No member begins in an assignment. -/
theorem assignment_disjoint_member (lawful : classes.Lawful) :
    Disjoint (Pattern.assignment.group classes)
      (Pattern.member.group classes) := by
  intro line line' text early late behind rest found nonempty
  obtain ⟨_, _, _, key, blanks, blanks', isGroup, isOpening⟩ :=
    (Pattern.group_eq_some_iff lawful (.inl rfl)).mp found
  rw [Option.eq_none_iff_forall_ne_some]
  rintro ⟨opening, behind'⟩ found'
  obtain ⟨first', rest', isText, _⟩ :=
    Pattern.begins_of_group lawful (.inr rfl) found'
  obtain ⟨second, later, rfl⟩ := List.exists_cons_of_ne_nil nonempty
  obtain ⟨rfl, _⟩ := List.cons.inj isText
  refine quote_notMem_assignment lawful isGroup ?_
  rw [← isOpening]
  exact List.mem_append_right _ List.mem_cons_self

/-- No member begins inside a member. -/
theorem member_apart (lawful : classes.Lawful) :
    Apart (Pattern.member.group classes)
      (Pattern.member.group classes) := by
  intro line line' text early late behind rest found earlier nonempty
  obtain ⟨_, _, _, key, blanks, blanks', isGroup, isOpening⟩ :=
    (Pattern.group_eq_some_iff lawful (.inr rfl)).mp found
  obtain ⟨first, others, isFirst, isLetter, onlyFirst⟩ :=
    Pattern.exists_first lawful (.inr rfl) isGroup
  have isWhole := isFirst
  rw [← isOpening] at isWhole
  rw [Option.eq_none_iff_forall_ne_some]
  rintro ⟨opening, behind'⟩ found'
  obtain ⟨first', rest', isText, isP⟩ :=
    Pattern.begins_of_group lawful (.inr rfl) found'
  obtain ⟨quote, later, rfl⟩ := List.exists_cons_of_ne_nil nonempty
  obtain ⟨rfl, isLater⟩ := List.cons.inj isText
  obtain ⟨head, before, rfl⟩ := List.exists_cons_of_ne_nil earlier
  obtain ⟨rfl, isOthers⟩ := List.cons.inj isWhole
  cases before with
  | nil =>
      obtain ⟨rfl, _⟩ := List.cons.inj isOthers
      cases isLetter
  | cons letter before =>
      obtain ⟨rfl, isRest⟩ := List.cons.inj isOthers
      cases later with
      | nil =>
          have isLast : '"' ∈ (Pattern.member.groupOf key blanks
              blanks').getLast? := by
            rw [← isOpening, List.getLast?_append_of_ne_nil _ (by simp)]
            rfl
          rcases Pattern.last_of_group isGroup isLast with
            isSeparator | isSpace
          · cases isSeparator
          · rw [lawful.isSpace_eq_false (by decide)] at isSpace
            cases isSpace
      | cons second later =>
          obtain ⟨rfl, _⟩ := List.cons.inj isLater
          have inOthers : second ∈ others := by
            rw [← isRest]
            simp
          rw [onlyFirst second inOthers] at isP
          cases isP

/-- No assignment begins in a member: the key is followed by a quote. -/
theorem member_disjoint_assignment (lawful : classes.Lawful) :
    Disjoint (Pattern.member.group classes)
      (Pattern.assignment.group classes) := by
  intro line line' text early late behind rest found nonempty
  obtain ⟨_, _, _, key, blanks, blanks', isGroup, isOpening⟩ :=
    (Pattern.group_eq_some_iff lawful (.inr rfl)).mp found
  obtain ⟨first, others, isFirst, isLetter, onlyFirst⟩ :=
    Pattern.exists_first lawful (.inr rfl) isGroup
  have isWhole := isFirst
  rw [← isOpening] at isWhole
  rw [Option.eq_none_iff_forall_ne_some]
  rintro ⟨opening, behind'⟩ found'
  obtain ⟨first', rest', isText, isP⟩ :=
    Pattern.begins_of_group lawful (.inl rfl) found'
  obtain ⟨head, later, rfl⟩ := List.exists_cons_of_ne_nil nonempty
  obtain ⟨rfl, _⟩ := List.cons.inj isText
  cases early with
  | nil =>
      obtain ⟨rfl, _⟩ := List.cons.inj isWhole
      cases isP
  | cons quote early =>
      obtain ⟨rfl, isOthers⟩ := List.cons.inj isWhole
      cases early with
      | nil =>
          -- The key of the assignment would be that of the member.
          obtain ⟨_, isAssignment, _, key', spaces, spaces', isGroup',
            rfl⟩ :=
            (Pattern.group_eq_some_iff lawful (.inl rfl)).mp found'
          have isKeyed :
              key ++ ('"' :: (blanks ++ (':' :: blanks')) ++ rest) =
                key' ++ (spaces ++ ('=' :: spaces') ++ behind') := by
            have isMember :
                head :: later =
                  key ++ ('"' :: (blanks ++ (':' :: blanks'))) :=
              (List.cons.inj isOpening).2
            rw [isMember] at isAssignment
            simpa [Pattern.groupOf, Pattern.assignment] using isAssignment
          obtain ⟨_, isBehind⟩ :=
            IsKey.unique isGroup.isKey isGroup'.isKey isKeyed
          cases spaces with
          | nil =>
              cases (List.cons.inj isBehind).1
          | cons blank spaces =>
              obtain ⟨rfl, _⟩ := List.cons.inj isBehind
              have isSpace := isGroup'.blanks _ List.mem_cons_self
              rw [lawful.isSpace_eq_false (by decide)] at isSpace
              cases isSpace
      | cons letter early =>
          obtain ⟨rfl, isRest⟩ := List.cons.inj isOthers
          have inOthers : head ∈ others := by
            rw [← isRest]
            simp
          rw [onlyFirst head inOthers] at isP
          cases isP

end Groups

section Secrets

/-- The digits of base64. -/
def isBase64 (character : Char) : Bool :=
  character.isAlphanum || character = '+' || character = '/'

/-- 32 bytes are written with 43 digits and one character of padding. -/
def Base64Lawful (decodeBase64 : String → Option Bytes) : Prop :=
  ∀ text bytes,
    decodeBase64 text = some bytes →
    bytes.length = 32 →
    ∃ digits,
      text.toList = digits ++ ['='] ∧
        digits.length = 43 ∧
        ∀ character ∈ digits, isBase64 character = true

theorem printed_of_isBase64
    {character : Char}
    (isDigit : isBase64 character = true) :
    0x20 < character.toNat ∧ character.toNat < 0x7f := by
  unfold isBase64 Char.isAlphanum Char.isAlpha Char.isUpper Char.isLower
    Char.isDigit at isDigit
  simp only [Bool.or_eq_true, Bool.and_eq_true, decide_eq_true_eq,
    ge_iff_le, UInt32.le_iff_toNat_le] at isDigit
  have between
      {first last : Char}
      (low : first.val.toNat ≤ character.val.toNat)
      (high : character.val.toNat ≤ last.val.toNat)
      (firstPrinted : 0x20 < first.val.toNat)
      (lastPrinted : last.val.toNat < 0x7f) :
      0x20 < character.toNat ∧ character.toNat < 0x7f :=
    ⟨Nat.lt_of_lt_of_le firstPrinted low,
      Nat.lt_of_le_of_lt high lastPrinted⟩
  rcases isDigit with (((⟨low, high⟩ | ⟨low, high⟩) | ⟨low, high⟩) | rfl) |
    rfl
  · exact between low high (by decide) (by decide)
  · exact between low high (by decide) (by decide)
  · exact between low high (by decide) (by decide)
  · decide
  · decide

variable {classes : CharacterClasses} {pattern : Pattern}

/-- A key has at most eleven letters. -/
theorem IsKey.length_le
    {key : List Char}
    (isKey : IsKey key) :
    key.length ≤ 11 := by
  rcases isKey with isKey | isKey
  · exact isKey.length_eq ▸ (by decide)
  · exact isKey.length_eq ▸ (by decide)

/-- Of a group, only the key has digits of base64. -/
theorem countP_groupOf_le
    (lawful : classes.Lawful)
    (known : pattern.Known)
    {key blanks blanks' : List Char}
    (isGroup : pattern.IsGroup classes key blanks blanks') :
    (pattern.groupOf key blanks blanks').countP isBase64 ≤ 11 := by
  have noDigit
      {spaces : List Char}
      (allBlank :
        ∀ character ∈ spaces, classes.isSpace character = true) :
      spaces.countP isBase64 = 0 := by
    rw [List.countP_eq_zero]
    intro character member isDigit
    have isSpace := allBlank character member
    rw [lawful.isSpace_eq_false (printed_of_isBase64 isDigit)] at isSpace
    cases isSpace
  have punctuation :
      pattern.quote.countP isBase64 = 0 ∧
        isBase64 pattern.separator = false := by
    rcases known with rfl | rfl <;> decide
  have keyDigits : key.countP isBase64 ≤ 11 :=
    List.countP_le_length.trans isGroup.isKey.length_le
  simp only [Pattern.groupOf, List.countP_append, List.countP_cons,
    punctuation, noDigit isGroup.blanks, noDigit isGroup.blanks']
  simpa using keyDigits

/-- A key in base64 stands clear of the patterns. -/
theorem word_of_isBase64
    (lawful : classes.Lawful)
    (known : pattern.Known)
    {digits : List Char}
    (size : digits.length = 43)
    (areDigits : ∀ character ∈ digits, isBase64 character = true) :
    Word isBreak (fun character => !classes.isSpace character) marker
      (pattern.group classes) digits '=' where
  nonempty := by
    rintro rfl
    cases size
  bodyStops := fun character member => by
    rw [lawful.isSpace_eq_false
      (printed_of_isBase64 (areDigits character member))]
    rfl
  oneLine := by
    intro character member
    rw [← Bool.not_eq_true]
    intro isLineEnd
    rcases List.mem_append.mp member with inDigits | isPadding
    · have printed := printed_of_isBase64 (areDigits character inDigits)
      rcases Bool.or_eq_true_iff.mp isLineEnd with isEnd | isEnd <;>
        rw [of_decide_eq_true isEnd] at printed <;>
        exact absurd printed (by decide)
    · rw [List.mem_singleton.mp isPadding] at isLineEnd
      cases isLineEnd
  endsOutside := fun found last isLast member => by
    obtain ⟨_, _, _, key, blanks, blanks', isGroup, rfl⟩ :=
      (Pattern.group_eq_some_iff lawful known).mp found
    have isDigit := areDigits last member
    rcases Pattern.last_of_group isGroup isLast with isSeparator | isSpace
    · rw [isSeparator] at isDigit
      rcases known with rfl | rfl <;> cases isDigit
    · rw [lawful.isSpace_eq_false (printed_of_isBase64 isDigit)] at isSpace
      cases isSpace
  notInside := fun found inside => by
    obtain ⟨_, _, _, key, blanks, blanks', isGroup, rfl⟩ :=
      (Pattern.group_eq_some_iff lawful known).mp found
    have counted :
        digits.countP isBase64 ≤
          (pattern.groupOf key blanks blanks').countP isBase64 :=
      inside.sublist.countP_le
    rw [List.countP_eq_length.mpr areDigits, size] at counted
    have atMost := countP_groupOf_le lawful known isGroup
    omega
  markerHead := fun character isHead member => by
    cases isHead
    rcases List.mem_append.mp member with inDigits | isPadding
    · cases areDigits _ inDigits
    · cases List.mem_singleton.mp isPadding
  markerLast := fun character isLast member => by
    cases isLast
    rcases List.mem_append.mp member with inDigits | isPadding
    · cases areDigits _ inDigits
    · cases List.mem_singleton.mp isPadding
  notInMarker := fun inside => by
    have bounded := inside.length_le
    rw [List.length_append, size] at bounded
    exact absurd bounded (by decide)

/-- The secrets of an accepted configuration are keys in base64. -/
theorem digits_of_secret
    {fromToml : String → Except String Config}
    {decodeBase64 : String → Option Bytes}
    {text secret : String}
    {config : Config}
    (base64 : Base64Lawful decodeBase64)
    (accepted : Config.parse fromToml decodeBase64 text = .ok config)
    (isSecret : secret ∈ config.secrets) :
    ∃ digits,
      secret.toList = digits ++ ['='] ∧
        digits.length = 43 ∧
        ∀ character ∈ digits, isBase64 character = true := by
  have validated : config.validate decodeBase64 = .ok () := by
    unfold Config.parse at accepted
    split at accepted
    · cases accepted
    · split at accepted
      · cases accepted
      next isValid =>
        cases accepted
        exact isValid
  have isKey : (decodeKey decodeBase64 secret).isSome := by
    rcases List.mem_cons.mp isSecret with rfl | isPsk
    · simp only [Config.validate, Checked.bind_eq_ok,
        Checked.require_eq_ok] at validated
      obtain ⟨_, _, _, _, _, _, key, decoded, _⟩ := validated
      rw [decoded]
      rfl
    · obtain ⟨peer, member, rfl⟩ := List.mem_map.mp isPsk
      exact ((Config.validate_ok validated).peers peer member).psk
  obtain ⟨key, decoded⟩ := Option.isSome_iff_exists.mp isKey
  obtain ⟨bytes, isBytes, isKey⟩ := Option.bind_eq_some_iff.mp decoded
  refine base64 secret bytes isBytes ?_
  unfold Key.ofBytes? at isKey
  split at isKey
  next size =>
    exact size
  next =>
    cases isKey

/--
The text before a secret leaves its line open: an assignment of a key stands
on it, or, in what is left of the text after assignments, a member with a key.
-/
def leavesLineOpen
    (classes : CharacterClasses)
    (before : List Char) :
    Bool :=
  leavesOpen isBreak (Pattern.assignment.group classes) before ||
    leavesOpen isBreak (Pattern.member.group classes)
      (replace isBreak marker (Pattern.assignment.group classes) before)

theorem advanceAll_eq_lineBefore (before : List Char) :
    advanceAll isBreak [] before = lineBefore before := by
  induction before using List.reverseRecOn with
  | nil =>
      rfl
  | append_singleton earlier character inductionHypothesis =>
      have isLine :
          lineBefore (earlier ++ [character]) =
            if isBreak character then [] else
              character :: lineBefore earlier := by
        cases isEnd : isBreak character <;> simp [lineBefore, isEnd]
      rw [LineRedaction.advanceAll_append, inductionHypothesis, isLine]
      rfl

/-- The keys in a text are what the patterns find there. -/
theorem Pattern.Known.reaches_iff
    (known : pattern.Known)
    (lawful : classes.Lawful)
    {text before group behind : List Char} :
    Reaches isBreak (pattern.group classes) [] text before group behind ↔
      pattern.ShowsKey classes text before group behind := by
  constructor
  · rintro ⟨isText, opened, oneLine⟩
    obtain ⟨boundary, _, stops, isGroup⟩ :=
      (Pattern.group_eq_some_iff lawful known).mp opened
    refine ⟨isText, fun atBoundary => ?_, isGroup, stops, oneLine⟩
    rw [atBoundary, Bool.true_and, Bool.not_eq_false',
      advanceAll_eq_lineBefore] at boundary
    exact boundary
  · rintro ⟨isText, boundary, isGroup, stops, oneLine⟩
    refine ⟨isText, ?_, oneLine⟩
    refine (Pattern.group_eq_some_iff lawful known).mpr
      ⟨?_, rfl, stops, isGroup⟩
    rw [advanceAll_eq_lineBefore]
    cases atBoundary : pattern.atBoundary with
    | false => rfl
    | true =>
        rw [boundary atBoundary]
        rfl

/-- The first pattern leaves a line open where the text ends in an assignment. -/
theorem leavesOpen_iff_endsInAssignment
    (lawful : classes.Lawful)
    (text : List Char) :
    leavesOpen isBreak (Pattern.assignment.group classes) text = true ↔
      EndsInAssignment classes text := by
  induction sized : text.length using Nat.strong_induction_on
    generalizing text with
  | _ size inductionHypothesis =>
      subst sized
      have known : Pattern.assignment.Known := .inl rfl
      rw [leavesOpen,
        LineRedaction.leavesOpenFrom_iff (known.lawful lawful)
          (known.headStops lawful) (assignment_apart lawful),
        EndsInAssignment]
      refine exists₃_congr fun before group behind => ?_
      rw [known.reaches_iff lawful, exists_prop]
      refine and_congr_right fun shown => or_congr_right ?_
      rw [← inductionHypothesis _ shown.before_shorter before rfl,
        Bool.not_eq_true]
      rfl

/-- The text before a secret leaves its line open where it ends in a key. -/
theorem leavesLineOpen_iff_endsInKey
    (lawful : classes.Lawful)
    (text : List Char) :
    leavesLineOpen classes text = true ↔ EndsInKey classes text := by
  induction sized : text.length using Nat.strong_induction_on
    generalizing text with
  | _ size inductionHypothesis =>
      subst sized
      have assignment : Pattern.assignment.Known := .inl rfl
      have member : Pattern.member.Known := .inr rfl
      rw [leavesLineOpen,
        LineRedaction.leavesOpen_replace_iff (assignment.lawful lawful)
          (member.lawful lawful) (assignment.headStops lawful)
          (member.headStops lawful) (assignment.lawfulMarker lawful)
          (member.lawfulMarker lawful) (assignment_apart lawful)
          (member_apart lawful) (assignment_disjoint_member lawful)
          (member_disjoint_assignment lawful) fun _ _ _ => rfl,
        leavesOpen_iff_endsInAssignment lawful, EndsInKey]
      refine or_congr_right (exists₃_congr fun before group behind => ?_)
      rw [member.reaches_iff lawful, exists_prop]
      refine and_congr_right fun shown => or_congr_right ?_
      rw [← inductionHypothesis _ shown.before_shorter before rfl,
        Bool.not_eq_true]
      rfl

/-- What is redacted once is not changed again. -/
theorem redact_redact
    (lawful : classes.Lawful)
    (text : String) :
    redact classes (redact classes text) = redact classes text := by
  have idempotent :=
    LineRedaction.replace_replace_idempotent
      (Pattern.Known.lawful (.inl rfl) lawful)
      (Pattern.Known.lawful (.inr rfl) lawful)
      (Pattern.Known.lawfulMarker (.inl rfl) lawful)
      (Pattern.Known.lawfulMarker (.inr rfl) lawful)
      (assignment_apart lawful) (member_apart lawful)
      (assignment_disjoint_member lawful)
      (member_disjoint_assignment lawful) text.toList
  refine congrArg String.ofList ?_
  rw [redact, String.toList_ofList]
  exact idempotent

/-- A secret is left where the text before it does not leave its line open. -/
theorem infix_redact_iff
    (lawful : classes.Lawful)
    {text secret : String}
    {digits : List Char}
    (isSecret : secret.toList = digits ++ ['='])
    (size : digits.length = 43)
    (areDigits : ∀ character ∈ digits, isBase64 character = true) :
    secret.toList <:+: (redact classes text).toList ↔
      ∃ before after,
        text.toList = before ++ (secret.toList ++ after) ∧
          leavesLineOpen classes before = false := by
  rw [isSecret, redact, String.toList_ofList]
  refine (LineRedaction.infix_replace_replace_iff
    (word_of_isBase64 lawful (.inl rfl) size areDigits)
    (word_of_isBase64 lawful (.inr rfl) size areDigits)
    (Pattern.Known.lawful (.inl rfl) lawful)
    (Pattern.Known.lawful (.inr rfl) lawful) (by decide)
    text.toList).trans ?_
  simp only [leavesLineOpen, Bool.or_eq_false_iff]

/--
Redaction removes the secrets of an accepted configuration, and changes nothing
more when it is repeated, if and only if the text before every place where a
secret stands ends in a key with its sign and what follows on the line.
-/
theorem redaction_complete_iff
    {fromToml : String → Except String Config}
    {decodeBase64 : String → Option Bytes}
    {text : String}
    {config : Config}
    (lawful : classes.Lawful)
    (base64 : Base64Lawful decodeBase64)
    (accepted : Config.parse fromToml decodeBase64 text = .ok config) :
    ((∀ secret ∈ config.secrets,
        ¬ secret.toList <:+: (redact classes text).toList) ∧
        redact classes (redact classes text) = redact classes text) ↔
      ∀ secret ∈ config.secrets, ∀ before after,
        text.toList = before ++ (secret.toList ++ after) →
        EndsInKey classes before := by
  simp only [← leavesLineOpen_iff_endsInKey lawful]
  rw [and_iff_left (redact_redact lawful text)]
  refine forall₂_congr fun secret isSecret => ?_
  obtain ⟨digits, isDigits, size, areDigits⟩ :=
    digits_of_secret base64 accepted isSecret
  rw [infix_redact_iff lawful isDigits size areDigits]
  constructor
  · intro removed before after isText
    by_contra closed
    exact removed ⟨before, after, isText, Bool.eq_false_iff.mpr closed⟩
  · rintro covered ⟨before, after, isText, closed⟩
    rw [covered before after isText] at closed
    cases closed

end Secrets

namespace RedactionExample

/-- The classes as they are on ASCII. -/
def classes : CharacterClasses where
  isSpace := Text.isWhiteSpace
  wordBoundary
    | [] => true
    | character :: _ => !(character.isAlphanum || character = '_')

theorem classes_lawful : classes.Lawful := by
  intro character isSpace
  simp only [classes, Text.isWhiteSpace, Bool.or_eq_true, Bool.and_eq_true,
    decide_eq_true_eq] at isSpace
  omega

def privateKey : String :=
  "Q0NDQ0NDQ0NDQ0NDQ0NDQ0NDQ0NDQ0NDQ0NDQ0NDQ0M="

/-- Three keys, each the same byte repeated. -/
def decodeBase64 (text : String) : Option Bytes :=
  if text = privateKey then
    some (List.replicate 32 0x43)
  else
    RouteExample.decodeBase64 text

def config : Config :=
  { RouteExample.config with
    interface := { RouteExample.interface with privateKey := privateKey }
    peer :=
      [{ RouteExample.exit with
        psk := "QkJCQkJCQkJCQkJCQkJCQkJCQkJCQkJCQkJCQkJCQkI=" }] }

/-- The configuration, with the lines of its private key as they are given. -/
def document (keyLines : List String) : List Char :=
  (["[interface]", "name = \"utun10\"", "address = \"10.77.0.1/24\"",
      "listen = \"0.0.0.0:0\"", "mtu = 1280"] ++
    keyLines ++
    ["[[peer]]", "name = \"exit\"", "endpoint = \"203.0.113.9:11063\"",
      "allowed_ips = [\"0.0.0.0/0\"]",
      "psk = \"QkJCQkJCQkJCQkJCQkJCQkJCQkJCQkJCQkJCQkJCQkI=\"",
      "public_key = \"QUFBQUFBQUFBQUFBQUFBQUFBQUFBQUFBQUFBQUFBQUE=\"",
      "persistent_keepalive = 5", "udp_rebind_after = 30"]).flatMap
    fun line => line.toList ++ ['\n']

/-- The key is on the line of its value. -/
def oneLine : List Char :=
  document
    ["private_key = \"Q0NDQ0NDQ0NDQ0NDQ0NDQ0NDQ0NDQ0NDQ0NDQ0NDQ0M=\""]

/-- The value begins on the line after its delimiter. -/
def tripleQuoted : List Char :=
  document
    ["private_key = \"\"\"",
      "Q0NDQ0NDQ0NDQ0NDQ0NDQ0NDQ0NDQ0NDQ0NDQ0NDQ0M=\"\"\""]

/-- Both documents are texts of the one configuration. -/
def fromToml (text : String) : Except String Config :=
  if text.toList = oneLine ∨ text.toList = tripleQuoted then
    .ok config
  else
    .error "TOML parse error"

theorem decodeBase64_lawful : Base64Lawful decodeBase64 := by
  intro text bytes decoded _
  have isKey :
      text = privateKey ∨
        text = "QUFBQUFBQUFBQUFBQUFBQUFBQUFBQUFBQUFBQUFBQUE=" ∨
        text = "QkJCQkJCQkJCQkJCQkJCQkJCQkJCQkJCQkJCQkJCQkI=" := by
    unfold decodeBase64 RouteExample.decodeBase64 at decoded
    grind
  refine ⟨text.toList.dropLast, ?_, ?_,
    List.all_iff_forall_prop.mp ?_⟩
  all_goals
    rcases isKey with rfl | rfl | rfl <;> decide +kernel

theorem parsed
    {text : List Char}
    (isDocument : text = oneLine ∨ text = tripleQuoted) :
    Config.parse fromToml decodeBase64 (.ofList text) = .ok config := by
  have read : fromToml (.ofList text) = .ok config := by
    refine if_pos ?_
    rwa [String.toList_ofList]
  have valid : config.validate decodeBase64 = .ok () := by
    decide +kernel
  rw [Config.parse, read]
  dsimp only
  rw [valid]

end RedactionExample

/-- A place in a text is where one of its ends begins. -/
theorem leavesLineOpen_of_tails
    {classes : CharacterClasses}
    {text secret : List Char}
    (checked :
      ∀ rest ∈ text.tails,
        secret <+: rest →
        leavesLineOpen classes (text.take (text.length - rest.length)) =
          true)
    {before after : List Char}
    (isText : text = before ++ (secret ++ after)) :
    leavesLineOpen classes before = true := by
  subst isText
  have isEnd :
      secret ++ after ∈ (before ++ (secret ++ after)).tails :=
    (List.mem_tails _ _).mpr (List.suffix_append _ _)
  have atPlace := checked _ isEnd (List.prefix_append _ _)
  rwa [List.length_append, Nat.add_sub_cancel, List.take_left] at atPlace

/-- Where the keys are on the lines of their values, nothing is left of them. -/
theorem redaction_complete_example :
    ¬ RedactionExample.privateKey.toList <:+:
          (redact RedactionExample.classes
            (.ofList RedactionExample.oneLine)).toList ∧
      redact RedactionExample.classes
          (redact RedactionExample.classes
            (.ofList RedactionExample.oneLine)) =
        redact RedactionExample.classes
          (.ofList RedactionExample.oneLine) := by
  have covered :
      ∀ secret ∈ RedactionExample.config.secrets,
        ∀ rest ∈ RedactionExample.oneLine.tails,
        secret.toList <+: rest →
        leavesLineOpen RedactionExample.classes
            (RedactionExample.oneLine.take
              (RedactionExample.oneLine.length - rest.length)) =
          true := by
    decide +kernel
  have complete :=
    (redaction_complete_iff RedactionExample.classes_lawful
      RedactionExample.decodeBase64_lawful
      (RedactionExample.parsed (.inl rfl))).mpr
      (fun secret isSecret before after isText =>
        (leavesLineOpen_iff_endsInKey RedactionExample.classes_lawful _).mp
          (leavesLineOpen_of_tails (covered secret isSecret)
            (String.toList_ofList.symm.trans isText)))
  exact ⟨complete.1 _ List.mem_cons_self, complete.2⟩

/--
A key in a string of several lines is on the line after the one that is
redacted, and is left.
-/
theorem redaction_complete_counterexample :
    Config.parse RedactionExample.fromToml RedactionExample.decodeBase64
          (.ofList RedactionExample.tripleQuoted) =
        .ok RedactionExample.config ∧
      (∀ secret ∈ RedactionExample.config.secrets,
        (RedactionExample.tripleQuoted.tails.countP fun rest =>
          secret.toList.isPrefixOf rest) = 1) ∧
      RedactionExample.privateKey ∈ RedactionExample.config.secrets ∧
      RedactionExample.privateKey.toList <:+:
        (redact RedactionExample.classes
          (.ofList RedactionExample.tripleQuoted)).toList := by
  refine ⟨RedactionExample.parsed (.inr rfl), by decide +kernel,
    List.mem_cons_self, ?_⟩
  rw [redact, String.toList_ofList, String.toList_ofList]
  decide +kernel

end HushWireRedactor

end HushWire

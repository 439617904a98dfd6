import Mathlib.Algebra.Order.BigOperators.Group.List
import Mathlib.Algebra.Order.Group.Nat
import Mathlib.Data.Bool.AllAny
import HushWire.Forwarding
import HushWire.Library.NumberedRemoval

namespace HushWire

/-!
# The rules that a gateway deletes

The gateway finds its rules in what `iptables -S` prints.  Comments may contain
any characters: what is printed for a rule may look like a rule of the gateway,
and may take more than one line.  The gateway deletes exactly its own rules if
and only if the printed lines tell them apart.
-/

/-- A rule of a chain, with all its arguments. -/
abbrev ChainRule := List Argument

namespace ChainRule

/-- The comment of the rule is the owner's tag. -/
def isOwnedBy (ownerTag : String) (rule : ChainRule) : Bool :=
  (rule.zip rule.tail).contains (.word "--comment", .quoted ownerTag)

/-- What is printed for a rule, without the end of the line. -/
def print (chain : String) (rule : ChainRule) : List Char :=
  "-A ".toList ++ chain.toList ++
    rule.flatMap fun argument => ' ' :: argument.print

end ChainRule

/-- A carriage return at the end belongs to the end of the line. -/
def stripReturn (line : List Char) : List Char :=
  if line.getLast? = some '\r' then line.dropLast else line

/-- The lines of a text at whose end there is a line break. -/
def terminatedLines (text : List Char) : List String :=
  (text.splitOn '\n').map fun line => .ofList (stripReturn line)

/-- `str::lines`. -/
def lines (text : List Char) : List String :=
  let pieces := text.splitOn '\n'
  let terminated :=
    pieces.dropLast.map fun line => String.ofList (stripReturn line)
  match pieces.getLast? with
  | none | some [] => terminated
  | some rest => terminated ++ [.ofList rest]

inductive ChainPolicy where
  | accept
  | drop
  deriving DecidableEq

def ChainPolicy.text : ChainPolicy → String
  | .accept => "ACCEPT"
  | .drop => "DROP"

/-- What `iptables -S` prints for a chain. -/
def listing
    (location : IptablesLocation)
    (policy : ChainPolicy)
    (rules : List ChainRule) :
    List Char :=
  ("-P " ++ location.chain ++ " " ++ policy.text).toList ++ '\n' ::
    rules.flatMap fun rule => rule.print location.chain ++ ['\n']

/-- The chains of a host with their policies. -/
structure Firewall where
  policies : IptablesLocation → ChainPolicy
  chains : IptablesLocation → List ChainRule

namespace Firewall

def setChain
    (firewall : Firewall)
    (location : IptablesLocation)
    (rules : List ChainRule) :
    Firewall :=
  { firewall with
    chains := Function.update firewall.chains location rules }

/-- The lines that a listing of a chain gives. -/
def chainLines
    (firewall : Firewall)
    (location : IptablesLocation) :
    List String :=
  lines
    (listing location (firewall.policies location)
      (firewall.chains location))

end Firewall

namespace GatewayPlan

variable (plan : GatewayPlan)

/-- `count_owned_rules`, where every command succeeds. -/
def countOwnedLines (firewall : Firewall) : Nat :=
  (ownedRuleLocations.map fun location =>
    (firewall.chainLines location).countP fun line =>
      iptablesLineHasOwner line plan.ownerTag).sum

/--
The loop of `delete_owned_rules` over one chain, given how many removals are
still allowed.  Deleting a rule fails where there is none of that number.
-/
def deleteOwnedIn
    (location : IptablesLocation)
    (policy : ChainPolicy) :
    Nat → List ChainRule → Except String Nat × List ChainRule
  | 0, rules =>
      match plan.ownedRuleNumber 0 (lines (listing location policy rules)) with
      | none => (.ok 0, rules)
      | some ruleNumber =>
          if ruleNumber ≤ rules.length then
            (.error "refusing to remove more than 128 owned gateway rules",
              rules.eraseIdx (ruleNumber - 1))
          else
            (.error
              (s!"could not delete owned rule {ruleNumber} from iptables " ++
                s!"chain {location.chain}: "),
              rules)
  | allowed + 1, rules =>
      match plan.ownedRuleNumber 0 (lines (listing location policy rules)) with
      | none => (.ok (allowed + 1), rules)
      | some ruleNumber =>
          if ruleNumber ≤ rules.length then
            deleteOwnedIn location policy allowed
              (rules.eraseIdx (ruleNumber - 1))
          else
            (.error
              (s!"could not delete owned rule {ruleNumber} from iptables " ++
                s!"chain {location.chain}: "),
              rules)

/-- The loop over the chains. -/
def deleteOwnedFrom :
    Nat → List IptablesLocation → Firewall → Except String Nat × Firewall
  | allowed, [], firewall => (.ok allowed, firewall)
  | allowed, location :: locations, firewall =>
      match
        plan.deleteOwnedIn location (firewall.policies location) allowed
          (firewall.chains location) with
      | (.ok left, rules) =>
          deleteOwnedFrom left locations (firewall.setChain location rules)
      | (.error error, rules) =>
          (.error error, firewall.setChain location rules)

/-- `delete_owned_rules`, where the commands succeed that can. -/
def deleteOwned (firewall : Firewall) : Except String Nat × Firewall :=
  let (left, after) := plan.deleteOwnedFrom 128 ownedRuleLocations firewall
  (left.map fun left => 128 - left, after)

end GatewayPlan

/-- The lines that are printed for a rule. -/
def ChainRule.lines (chain : String) (rule : ChainRule) : List String :=
  terminatedLines (rule.print chain)

/-- A text up to a line break, and the text behind it. -/
theorem lines_append (first rest : List Char) :
    lines (first ++ '\n' :: rest) = terminatedLines first ++ lines rest := by
  have nonempty := List.splitOn_ne_nil '\n' rest
  simp only [lines, terminatedLines, List.splitOn_append_cons_self,
    List.dropLast_append_of_ne_nil nonempty,
    List.getLast?_append_of_ne_nil _ nonempty, List.map_append]
  split
  · rfl
  · rfl
  · rw [List.append_assoc]

/-- A listing has a line for the policy, and then those of the rules. -/
theorem lines_listing
    (location : IptablesLocation)
    (policy : ChainPolicy)
    (rules : List ChainRule) :
    lines (listing location policy rules) =
      terminatedLines
          ("-P " ++ location.chain ++ " " ++ policy.text).toList ++
        rules.flatMap (ChainRule.lines location.chain) := by
  rw [listing, lines_append]
  congr 1
  induction rules with
  | nil =>
      rfl
  | cons rule rules inductionHypothesis =>
      rw [List.flatMap_cons, List.append_assoc, List.singleton_append,
        lines_append, inductionHypothesis, List.flatMap_cons]
      rfl

/-- The line of a policy is neither numbered nor of an owner. -/
theorem policy_lines
    {location : IptablesLocation}
    (isManaged : location ∈ ownedRuleLocations)
    (policy : ChainPolicy) :
    ∀ line ∈
        terminatedLines
          ("-P " ++ location.chain ++ " " ++ policy.text).toList,
      isRuleLine line = false ∧ "--comment" ∉ iptablesTokens line := by
  simp only [ownedRuleLocations, List.mem_cons, List.not_mem_nil,
    or_false] at isManaged
  rcases isManaged with rfl | rfl | rfl <;> cases policy <;> decide +kernel

/-- A line without the option has no owner. -/
theorem not_hasOwner_of_notMem
    {line : String}
    (noComment : "--comment" ∉ iptablesTokens line)
    (ownerTag : String) :
    iptablesLineHasOwner line ownerTag = false := by
  simp only [iptablesLineHasOwner, List.any_eq_false, Bool.and_eq_true,
    decide_eq_true_eq, not_and]
  intro pair member isComment
  exact absurd (isComment ▸ (List.of_mem_zip member).1) noComment

namespace GatewayPlan

variable (plan : GatewayPlan)

/-- The numbered lines of a rule, and whether they are taken for the owner's. -/
def marks (location : IptablesLocation) (rule : ChainRule) : List Bool :=
  ((rule.lines location.chain).filter isRuleLine).map fun line =>
    iptablesLineHasOwner line plan.ownerTag

theorem ownedRuleNumber_eq
    (others : Nat)
    (lines : List String) :
    plan.ownedRuleNumber others lines =
      (((lines.filter isRuleLine).map fun line =>
        iptablesLineHasOwner line plan.ownerTag).findIdx? id).map
        (others + 1 + ·) := by
  induction lines generalizing others with
  | nil =>
      rfl
  | cons line lines inductionHypothesis =>
      unfold ownedRuleNumber
      cases isRule : isRuleLine line with
      | false =>
          rw [List.filter_cons, isRule, inductionHypothesis]
          rfl
      | true =>
          rw [List.filter_cons, isRule, if_pos rfl, List.map_cons,
            List.findIdx?_cons, Bool.not_true, if_neg Bool.false_ne_true]
          cases owned : iptablesLineHasOwner line plan.ownerTag with
          | true =>
              rfl
          | false =>
              rw [if_neg Bool.false_ne_true, inductionHypothesis]
              simp only [id_eq, Bool.false_eq_true, ↓reduceIte,
                Option.map_map]
              congr 1
              funext position
              simp only [Function.comp_apply]
              omega

/-- The number that is found is the first of the marks. -/
theorem ownedRuleNumber_listing
    {location : IptablesLocation}
    (isManaged : location ∈ ownedRuleLocations)
    (policy : ChainPolicy)
    (rules : List ChainRule) :
    plan.ownedRuleNumber 0 (lines (listing location policy rules)) =
      (NumberedRemoval.first (plan.marks location) rules).map (· + 1) := by
  have notNumbered :
      (terminatedLines
        ("-P " ++ location.chain ++ " " ++ policy.text).toList).filter
          isRuleLine = [] := by
    rw [List.filter_eq_nil_iff]
    intro line member
    rw [(policy_lines isManaged policy line member).1]
    exact Bool.false_ne_true
  have isMarks :
      ((rules.flatMap (ChainRule.lines location.chain)).filter isRuleLine).map
          (fun line => iptablesLineHasOwner line plan.ownerTag) =
        rules.flatMap (plan.marks location) := by
    rw [List.filter_flatMap, List.map_flatMap]
    rfl
  rw [ownedRuleNumber_eq, lines_listing, List.filter_append, notNumbered,
    List.nil_append, isMarks, NumberedRemoval.first]
  congr 1
  funext position
  omega

/-- The loop over a chain removes rules by the marks of their lines. -/
theorem deleteOwnedIn_eq_remove
    {location : IptablesLocation}
    (isManaged : location ∈ ownedRuleLocations)
    (policy : ChainPolicy)
    (allowed : Nat)
    (rules : List ChainRule) :
    plan.deleteOwnedIn location policy allowed rules =
      NumberedRemoval.remove (plan.marks location)
        (fun number =>
          s!"could not delete owned rule {number + 1} from iptables " ++
            s!"chain {location.chain}: ")
        "refusing to remove more than 128 owned gateway rules" allowed
        rules := by
  induction allowed generalizing rules with
  | zero =>
      unfold deleteOwnedIn NumberedRemoval.remove
      rw [plan.ownedRuleNumber_listing isManaged]
      cases NumberedRemoval.first (plan.marks location) rules <;> rfl
  | succ allowed inductionHypothesis =>
      unfold deleteOwnedIn NumberedRemoval.remove
      rw [plan.ownedRuleNumber_listing isManaged]
      cases NumberedRemoval.first (plan.marks location) rules with
      | none => rfl
      | some number =>
          rw [Option.map_some]
          dsimp only
          rw [Nat.add_sub_cancel, inductionHypothesis]
          rfl

/-- The first line of a rule is numbered. -/
theorem exists_lines
    (chain : String)
    (rule : ChainRule) :
    ∃ first rest,
      rule.lines chain = first :: rest ∧ isRuleLine first = true := by
  have isPrinted :
      rule.print chain =
        '-' :: 'A' :: ' ' ::
          (chain.toList ++
            rule.flatMap fun argument => ' ' :: argument.print) :=
    rfl
  rw [ChainRule.lines, terminatedLines, isPrinted]
  generalize
    chain.toList ++ rule.flatMap (fun argument => ' ' :: argument.print) =
      content
  obtain ⟨line, others, isSplit⟩ :=
    List.exists_cons_of_ne_nil (List.splitOn_ne_nil '\n' content)
  simp only [List.splitOn_cons_eq_if_modifyHead, isSplit,
    List.modifyHead_cons]
  refine ⟨_, _, rfl, ?_⟩
  cases line with
  | nil => rfl
  | cons character line =>
      simp only [isRuleLine, stripReturn]
      split <;> simp

/-- The marks of a rule are those of its first line and of some others. -/
theorem marks_eq
    {location : IptablesLocation}
    {rule : ChainRule}
    {first : String}
    {rest : List String}
    (isLines : rule.lines location.chain = first :: rest)
    (isRule : isRuleLine first = true) :
    plan.marks location rule =
      iptablesLineHasOwner first plan.ownerTag ::
        (rest.filter isRuleLine).map fun line =>
          iptablesLineHasOwner line plan.ownerTag := by
  rw [marks, isLines, List.filter_cons, if_pos isRule, List.map_cons]

theorem marks_ne_nil
    (location : IptablesLocation)
    (rule : ChainRule) :
    plan.marks location rule ≠ [] := by
  obtain ⟨first, rest, isLines, isRule⟩ := exists_lines location.chain rule
  rw [plan.marks_eq isLines isRule]
  exact List.cons_ne_nil _ _

/-- Neighbours in a list. -/
theorem mem_zip_tail
    {Item : Type}
    {items : List Item}
    {first second : Item} :
    (first, second) ∈ items.zip items.tail ↔
      ∃ earlier later, items = earlier ++ first :: second :: later := by
  constructor
  · intro member
    induction items with
    | nil =>
        cases member
    | cons item items inductionHypothesis =>
        cases items with
        | nil =>
            cases member
        | cons next items =>
            rcases List.mem_cons.mp member with isHead | isLater
            · obtain ⟨rfl, rfl⟩ := Prod.mk.inj isHead
              exact ⟨[], items, rfl⟩
            · obtain ⟨earlier, later, isItems⟩ := inductionHypothesis isLater
              refine ⟨item :: earlier, later, ?_⟩
              rw [isItems, List.cons_append]
  · rintro ⟨earlier, later, rfl⟩
    induction earlier with
    | nil =>
        exact List.mem_cons_self
    | cons item earlier inductionHypothesis =>
        cases earlier with
        | nil => exact List.mem_cons_of_mem _ inductionHypothesis
        | cons next earlier => exact List.mem_cons_of_mem _ inductionHypothesis

/-- A line has an owner where the option stands in front of its tag. -/
theorem hasOwner_iff
    {line ownerTag : String} :
    iptablesLineHasOwner line ownerTag = true ↔
      ∃ earlier later,
        iptablesTokens line = earlier ++ "--comment" :: ownerTag :: later := by
  rw [← mem_zip_tail]
  simp only [iptablesLineHasOwner, List.any_eq_true, Bool.and_eq_true,
    decide_eq_true_eq]
  constructor
  · rintro ⟨⟨first, second⟩, member, rfl, rfl⟩
    exact member
  · intro member
    exact ⟨_, member, rfl, rfl⟩

/-- A tag that is printed in quotes and is a single word. -/
structure PlainTag (ownerTag : String) : Prop where
  quoted : ¬ownerTag.toList.all Argument.isPlain = true
  characters :
    ∀ character ∈ ownerTag.toList,
      isAsciiWhitespace character = false ∧ isQuote character = false ∧
        character ≠ '\\' ∧ character ≠ '\n'

/-- The characters of an interface name need no care. -/
theorem plain_of_valid
    {character : Char}
    (isValid :
      (character.isAlphanum || character = '_' || character = '-' ||
        character = '.') = true) :
    isAsciiWhitespace character = false ∧ isQuote character = false ∧
      character ≠ '\\' ∧ character ≠ '\n' := by
  refine ⟨Bool.eq_false_iff.mpr ?_, Bool.eq_false_iff.mpr ?_, ?_, ?_⟩
  · intro blank
    simp only [isAsciiWhitespace, Bool.or_eq_true, decide_eq_true_eq] at blank
    rcases blank with (((rfl | rfl) | rfl) | rfl) | rfl <;>
      exact absurd isValid (by decide)
  · intro quote
    simp only [isQuote, Bool.or_eq_true, decide_eq_true_eq] at quote
    rcases quote with rfl | rfl <;> exact absurd isValid (by decide)
  · rintro rfl
    exact absurd isValid (by decide)
  · rintro rfl
    exact absurd isValid (by decide)

/-- The tag of an accepted gateway is such a tag. -/
theorem plainTag_of_fromConfig
    {plan : GatewayPlan}
    {decodeBase64 : String → Option Bytes}
    {config : Config}
    (accepted : config.validate decodeBase64 = .ok ())
    (built : fromConfig config = .ok plan) :
    PlainTag plan.ownerTag := by
  unfold fromConfig at built
  cases isGateway : config.gateway with
  | none =>
      rw [isGateway] at built
      cases built
  | some gateway =>
      rw [isGateway] at built
      simp only [Config.validate, Checked.bind_eq_ok, isGateway,
        GatewayConfig.validateOptional, GatewayConfig.validate,
        Checked.ensure_eq_ok, exists_const] at accepted
      obtain ⟨_, _, _, ⟨_, isValid, _⟩, _⟩ := accepted
      dsimp only at built
      split at built
      · cases built
      · split at built
        · cases built
        · cases built
          refine ⟨?_, ?_⟩
          · simp [Argument.isPlain]
          · intro character member
            rw [String.toList_append, List.mem_append] at member
            rcases member with inPrefix | inName
            · revert character
              exact List.all_iff_forall_prop.mp (by decide)
            · simp only [isValidLinuxInterfaceName, Bool.and_eq_true,
                List.all_eq_true] at isValid
              exact plain_of_valid (isValid.2 character inName)

/-- The text is a word, possibly with quotes around it. -/
def Quoting (word : String) (text : List Char) : Prop :=
  ∃ opening closing,
    text = opening ++ (word.toList ++ closing) ∧
      (∀ character ∈ opening, isQuote character = true) ∧
      ∀ character ∈ closing, isQuote character = true

/--
In the text of a line, the option and the tag stand next to each other: two
words, possibly in quotes, with white space around them and between them.
-/
def ShowsOwner (ownerTag line : String) : Prop :=
  ∃ option tag,
    Quoting "--comment" option ∧
      Quoting ownerTag tag ∧
      Text.Neighbours isAsciiWhitespace option tag line.toList

/-- A word without quotes is what remains when they are trimmed. -/
theorem trim_eq_iff_quoting
    {word : String}
    (noQuote : ∀ character ∈ word.toList, isQuote character = false)
    {text : List Char} :
    String.ofList (Text.trimList isQuote text) = word ↔ Quoting word text := by
  rw [Quoting, ← Text.trimList_eq_iff noQuote]
  constructor
  · rintro rfl
    rw [String.toList_ofList]
  · intro isWord
    rw [isWord, String.ofList_toList]

/-- The lines that have an owner are those that show its tag. -/
theorem hasOwner_iff_showsOwner
    {ownerTag : String}
    (plain : PlainTag ownerTag)
    (line : String) :
    iptablesLineHasOwner line ownerTag = true ↔ ShowsOwner ownerTag line := by
  have isOption {text : List Char} :
      String.ofList (Text.trimList isQuote text) = "--comment" ↔
        Quoting "--comment" text :=
    trim_eq_iff_quoting (List.all_iff_forall_prop.mp (by decide))
  have isTag {text : List Char} :
      String.ofList (Text.trimList isQuote text) = ownerTag ↔
        Quoting ownerTag text :=
    trim_eq_iff_quoting fun character member =>
      (plain.characters character member).2.1
  have isTokens :
      iptablesTokens line =
        (Text.words isAsciiWhitespace line.toList).map fun token =>
          .ofList (Text.trimList isQuote token) :=
    rfl
  rw [hasOwner_iff, isTokens]
  constructor
  · rintro ⟨earlier, later, isWords⟩
    obtain ⟨before, rest, isText, _, isRest⟩ := List.map_eq_append_iff.mp isWords
    obtain ⟨option, rest, rfl, optionWord, isRest⟩ :=
      List.map_eq_cons_iff.mp isRest
    obtain ⟨tag, after, rfl, tagWord, _⟩ := List.map_eq_cons_iff.mp isRest
    exact
      ⟨option, tag, isOption.mp optionWord, isTag.mp tagWord,
        Text.neighbours_iff.mpr ⟨before, after, isText⟩⟩
  · rintro ⟨option, tag, optionWord, tagWord, neighbours⟩
    obtain ⟨before, after, isText⟩ := Text.neighbours_iff.mp neighbours
    let trimmed := fun token : List Char =>
      String.ofList (Text.trimList isQuote token)
    refine ⟨before.map trimmed, after.map trimmed, ?_⟩
    rw [isText, List.map_append, List.map_cons, List.map_cons,
      isOption.mpr optionWord, isTag.mpr tagWord]

theorem hasOwner_eq_false_iff
    {ownerTag : String}
    (plain : PlainTag ownerTag)
    (line : String) :
    iptablesLineHasOwner line ownerTag = false ↔
      ¬ ShowsOwner ownerTag line := by
  rw [← hasOwner_iff_showsOwner plain, Bool.not_eq_true]

theorem isRuleLine_eq_false_iff (line : String) :
    isRuleLine line = false ↔ ¬ "-A ".toList <+: line.toList := by
  rw [← Bool.not_eq_true]
  exact not_congr List.isPrefixOf_iff_prefix

/-- The printed lines tell the rules of the owner from those of others. -/
structure Distinguished
    (location : IptablesLocation)
    (rules : List ChainRule) :
    Prop where
  /-- No line of another rule shows the tag as its comment. -/
  foreign :
    ∀ rule ∈ rules, rule.isOwnedBy plan.ownerTag = false →
      ∀ line ∈ rule.lines location.chain, ¬ ShowsOwner plan.ownerTag line
  /-- The first line of a rule of the owner does, and no other. -/
  owned :
    ∀ rule ∈ rules, rule.isOwnedBy plan.ownerTag = true →
      ∃ first rest,
        rule.lines location.chain = first :: rest ∧
          ShowsOwner plan.ownerTag first ∧
          ∀ line ∈ rest, ¬ ShowsOwner plan.ownerTag line
  /-- In front of a rule of the owner, each rule has one line with a number. -/
  numbered :
    rules.Pairwise fun earlier later =>
      earlier.isOwnedBy plan.ownerTag = false →
        later.isOwnedBy plan.ownerTag = true →
          ∀ line ∈ (earlier.lines location.chain).tail,
            ¬ "-A ".toList <+: line.toList

/-- How often lines of a rule are counted. -/
def counted (location : IptablesLocation) (rule : ChainRule) : Nat :=
  (rule.lines location.chain).countP fun line =>
    iptablesLineHasOwner line plan.ownerTag

/-- Rules that are told apart have faithful marks. -/
theorem Distinguished.faithful
    {location : IptablesLocation}
    {rules : List ChainRule}
    (plain : PlainTag plan.ownerTag)
    (distinguished : plan.Distinguished location rules) :
    NumberedRemoval.Faithful (plan.marks location)
      (ChainRule.isOwnedBy plan.ownerTag) rules := by
  refine ⟨?_, ?_, ?_⟩
  · intro rule member notOwned isMark
    obtain ⟨line, isLine, hasOwner⟩ := List.mem_map.mp isMark
    exact
      absurd ((hasOwner_iff_showsOwner plain line).mp hasOwner)
        (distinguished.foreign rule member notOwned line
          (List.mem_of_mem_filter isLine))
  · intro rule member isOwned
    obtain ⟨first, rest, isLines, isRule⟩ :=
      exists_lines location.chain rule
    obtain ⟨_, _, sameLines, shows, _⟩ :=
      distinguished.owned rule member isOwned
    obtain ⟨rfl, rfl⟩ := List.cons_eq_cons.mp (isLines.symm.trans sameLines)
    rw [plan.marks_eq isLines isRule,
      (hasOwner_iff_showsOwner plain _).mpr shows, List.head?_cons]
  · refine distinguished.numbered.imp ?_
    intro earlier later notNumbered notOwned isOwned
    obtain ⟨first, rest, isLines, isRule⟩ :=
      exists_lines location.chain earlier
    have noNumber := notNumbered notOwned isOwned
    rw [isLines, List.tail_cons] at noNumber
    rw [plan.marks_eq isLines isRule, List.length_cons, List.length_map,
      List.filter_eq_nil_iff.mpr, List.length_nil]
    intro line member
    rw [(isRuleLine_eq_false_iff line).mpr (noNumber line member)]
    exact Bool.false_ne_true

/-- Of rules that are told apart each of the owner's is counted once. -/
theorem Distinguished.counted_eq
    {location : IptablesLocation}
    {rules : List ChainRule}
    (plain : PlainTag plan.ownerTag)
    (distinguished : plan.Distinguished location rules) :
    ∀ rule ∈ rules,
      plan.counted location rule =
        if rule.isOwnedBy plan.ownerTag then 1 else 0 := by
  intro rule member
  cases isOwned : rule.isOwnedBy plan.ownerTag with
  | false =>
      rw [counted, if_neg Bool.false_ne_true, List.countP_eq_zero]
      intro line isLine
      rw [(hasOwner_eq_false_iff plain line).mpr
        (distinguished.foreign rule member isOwned line isLine)]
      exact Bool.false_ne_true
  | true =>
      obtain ⟨first, rest, isLines, shows, others⟩ :=
        distinguished.owned rule member isOwned
      rw [counted, isLines, List.countP_cons,
        (hasOwner_iff_showsOwner plain _).mpr shows,
        List.countP_eq_zero.mpr]
      · rfl
      · intro line isLine
        rw [(hasOwner_eq_false_iff plain line).mpr (others line isLine)]
        exact Bool.false_ne_true

/-- Rules are told apart when their marks are faithful and counted once. -/
theorem distinguished_iff
    (plain : PlainTag plan.ownerTag)
    {location : IptablesLocation}
    {rules : List ChainRule} :
    plan.Distinguished location rules ↔
      NumberedRemoval.Faithful (plan.marks location)
          (ChainRule.isOwnedBy plan.ownerTag) rules ∧
        ∀ rule ∈ rules,
          plan.counted location rule =
            if rule.isOwnedBy plan.ownerTag then 1 else 0 := by
  constructor
  · intro distinguished
    exact
      ⟨distinguished.faithful plan plain,
        distinguished.counted_eq plan plain⟩
  · rintro ⟨faithful, once⟩
    refine ⟨?_, ?_, ?_⟩
    · intro rule member notOwned line isLine
      have none := once rule member
      rw [notOwned, if_neg Bool.false_ne_true, counted,
        List.countP_eq_zero] at none
      rw [← hasOwner_eq_false_iff plain]
      exact Bool.eq_false_iff.mpr (none line isLine)
    · intro rule member isOwned
      obtain ⟨first, rest, isLines, isRule⟩ :=
        exists_lines location.chain rule
      have isHead := faithful.head rule member isOwned
      rw [plan.marks_eq isLines isRule, List.head?_cons] at isHead
      have hasOwner := Option.some.inj isHead
      have one := once rule member
      rw [isOwned, if_pos rfl, counted, isLines, List.countP_cons, hasOwner,
        if_pos rfl, Nat.add_eq_right, List.countP_eq_zero] at one
      refine
        ⟨first, rest, isLines, (hasOwner_iff_showsOwner plain _).mp hasOwner, ?_⟩
      intro line isLine
      rw [← hasOwner_eq_false_iff plain]
      exact Bool.eq_false_iff.mpr (one line isLine)
    · refine faithful.single.imp ?_
      intro earlier later oneEach notOwned isOwned
      obtain ⟨first, rest, isLines, isRule⟩ :=
        exists_lines location.chain earlier
      have oneMark := oneEach notOwned isOwned
      rw [plan.marks_eq isLines isRule, List.length_cons, List.length_map,
        Nat.add_eq_right, List.length_eq_zero_iff,
        List.filter_eq_nil_iff] at oneMark
      rw [isLines, List.tail_cons]
      intro line isLine
      rw [← isRuleLine_eq_false_iff]
      exact Bool.eq_false_iff.mpr (oneMark line isLine)

end GatewayPlan

namespace Firewall

/-- The firewall without the rules of an owner in some chains. -/
def withoutOwned
    (firewall : Firewall)
    (ownerTag : String)
    (locations : List IptablesLocation) :
    Firewall :=
  { firewall with
    chains := fun location =>
      if location ∈ locations then
        (firewall.chains location).filter (!·.isOwnedBy ownerTag)
      else
        firewall.chains location }

/-- How many rules an owner has in some chains. -/
def ownedCount
    (firewall : Firewall)
    (ownerTag : String)
    (locations : List IptablesLocation) :
    Nat :=
  (locations.map fun location =>
    (firewall.chains location).countP (ChainRule.isOwnedBy ownerTag)).sum

/-- Other chains are not changed. -/
theorem setChain_others
    {location : IptablesLocation}
    {locations : List IptablesLocation}
    (notAmong : location ∉ locations)
    (firewall : Firewall)
    (rules : List ChainRule) :
    ∀ other ∈ locations,
      (firewall.setChain location rules).chains other =
        firewall.chains other := by
  intro other member
  have isOther : other ≠ location := by
    rintro rfl
    exact notAmong member
  exact Function.update_of_ne isOther _ _

end Firewall

namespace GatewayPlan

variable {plan : GatewayPlan} {firewall : Firewall}

/-- The loop over the chains changes no other chain. -/
theorem deleteOwnedFrom_chains
    {locations : List IptablesLocation}
    {location : IptablesLocation}
    (isOther : location ∉ locations)
    (allowed : Nat)
    (firewall : Firewall) :
    (plan.deleteOwnedFrom allowed locations firewall).2.chains location =
      firewall.chains location := by
  induction locations generalizing allowed firewall with
  | nil =>
      rfl
  | cons first locations inductionHypothesis =>
      obtain ⟨notFirst, notLater⟩ :=
        not_or.mp fun among => isOther (List.mem_cons.mpr among)
      unfold deleteOwnedFrom
      split
      · rw [inductionHypothesis notLater]
        exact Function.update_of_ne notFirst _ _
      · exact Function.update_of_ne notFirst _ _

/-- Removing from one chain and then from others. -/
theorem withoutOwned_cons
    {location : IptablesLocation}
    {locations : List IptablesLocation}
    (firewall : Firewall)
    (ownerTag : String)
    (distinct : location ∉ locations) :
    (firewall.setChain location
        ((firewall.chains location).filter
          (!·.isOwnedBy ownerTag))).withoutOwned ownerTag locations =
      firewall.withoutOwned ownerTag (location :: locations) := by
  simp only [Firewall.withoutOwned, Firewall.setChain, Firewall.mk.injEq,
    true_and]
  funext other
  by_cases same : other = location
  · subst same
    simp [distinct]
  · simp [same]

/-- Where the marks are faithful, all chains lose the owner's rules. -/
theorem deleteOwnedFrom_eq
    {locations : List IptablesLocation}
    (distinct : locations.Nodup)
    (managed : ∀ location ∈ locations, location ∈ ownedRuleLocations)
    (faithful :
      ∀ location ∈ locations,
        NumberedRemoval.Faithful (plan.marks location)
          (ChainRule.isOwnedBy plan.ownerTag) (firewall.chains location))
    {allowed : Nat}
    (enough : firewall.ownedCount plan.ownerTag locations ≤ allowed) :
    plan.deleteOwnedFrom allowed locations firewall =
      (.ok (allowed - firewall.ownedCount plan.ownerTag locations),
        firewall.withoutOwned plan.ownerTag locations) := by
  induction locations generalizing allowed firewall with
  | nil =>
      simp [deleteOwnedFrom, Firewall.ownedCount, Firewall.withoutOwned]
  | cons location locations inductionHypothesis =>
      obtain ⟨notLater, laterDistinct⟩ := List.nodup_cons.mp distinct
      obtain ⟨isManaged, laterManaged⟩ := List.forall_mem_cons.mp managed
      obtain ⟨isFaithful, laterFaithful⟩ := List.forall_mem_cons.mp faithful
      have unchanged := Firewall.setChain_others notLater firewall
      have sameCount (rules : List ChainRule) :
          (firewall.setChain location rules).ownedCount plan.ownerTag
              locations =
            firewall.ownedCount plan.ownerTag locations := by
        refine congrArg List.sum (List.map_congr_left ?_)
        intro other member
        rw [unchanged rules other member]
      have isCount :
          firewall.ownedCount plan.ownerTag (location :: locations) =
            (firewall.chains location).countP
                (ChainRule.isOwnedBy plan.ownerTag) +
              firewall.ownedCount plan.ownerTag locations :=
        rfl
      rw [isCount] at enough ⊢
      rw [deleteOwnedFrom, plan.deleteOwnedIn_eq_remove isManaged,
        isFaithful.remove_eq (by omega)]
      dsimp only
      rw [inductionHypothesis laterDistinct laterManaged, sameCount,
        withoutOwned_cons _ _ notLater, Nat.sub_sub]
      · intro other member
        rw [unchanged _ other member]
        exact laterFaithful other member
      · rw [sameCount]
        omega

/-- The marks are faithful where all chains lose the owner's rules only. -/
theorem faithful_of_deleteOwnedFrom
    {locations : List IptablesLocation}
    (distinct : locations.Nodup)
    (managed : ∀ location ∈ locations, location ∈ ownedRuleLocations)
    {allowed left : Nat}
    (deleted :
      plan.deleteOwnedFrom allowed locations firewall =
        (.ok left, firewall.withoutOwned plan.ownerTag locations)) :
    ∀ location ∈ locations,
      NumberedRemoval.Faithful (plan.marks location)
        (ChainRule.isOwnedBy plan.ownerTag) (firewall.chains location) := by
  induction locations generalizing allowed firewall with
  | nil =>
      exact fun location member => absurd member List.not_mem_nil
  | cons location locations inductionHypothesis =>
      obtain ⟨notLater, laterDistinct⟩ := List.nodup_cons.mp distinct
      obtain ⟨isManaged, laterManaged⟩ := List.forall_mem_cons.mp managed
      cases removed :
          plan.deleteOwnedIn location (firewall.policies location) allowed
            (firewall.chains location) with
      | mk result rules =>
          rw [deleteOwnedFrom, removed] at deleted
          cases result with
          | error error =>
              cases (Prod.mk.inj deleted).1
          | ok middle =>
              dsimp only at deleted
              have isRest :
                  rules =
                    (firewall.chains location).filter
                      (!·.isOwnedBy plan.ownerTag) := by
                have kept :=
                  @deleteOwnedFrom_chains plan _ _ notLater middle
                    (firewall.setChain location rules)
                rw [deleted] at kept
                simpa [Firewall.withoutOwned, Firewall.setChain] using kept.symm
              rw [isRest] at deleted removed
              rw [plan.deleteOwnedIn_eq_remove isManaged] at removed
              have isFaithful :=
                NumberedRemoval.faithful_of_remove
                  (plan.marks_ne_nil location) removed
              rw [← withoutOwned_cons _ _ notLater] at deleted
              have laterFaithful :=
                inductionHypothesis laterDistinct laterManaged deleted
              refine List.forall_mem_cons.mpr ⟨isFaithful, ?_⟩
              intro other member
              have isLater := laterFaithful other member
              rw [Firewall.setChain_others notLater _ _ other member]
                at isLater
              exact isLater

/-- Where the marks are faithful, the rules of others stay in any case. -/
theorem deleteOwnedFrom_others
    {locations : List IptablesLocation}
    (distinct : locations.Nodup)
    (managed : ∀ location ∈ locations, location ∈ ownedRuleLocations)
    (faithful :
      ∀ location ∈ locations,
        NumberedRemoval.Faithful (plan.marks location)
          (ChainRule.isOwnedBy plan.ownerTag) (firewall.chains location))
    (allowed : Nat)
    (location : IptablesLocation) :
    ((plan.deleteOwnedFrom allowed locations firewall).2.chains
        location).filter (!·.isOwnedBy plan.ownerTag) =
      (firewall.chains location).filter (!·.isOwnedBy plan.ownerTag) := by
  induction locations generalizing allowed firewall with
  | nil =>
      rfl
  | cons first locations inductionHypothesis =>
      obtain ⟨notLater, laterDistinct⟩ := List.nodup_cons.mp distinct
      obtain ⟨isManaged, laterManaged⟩ := List.forall_mem_cons.mp managed
      obtain ⟨isFaithful, laterFaithful⟩ := List.forall_mem_cons.mp faithful
      have remain :
          (plan.deleteOwnedIn first (firewall.policies first) allowed
              (firewall.chains first)).2.filter
              (!·.isOwnedBy plan.ownerTag) =
            (firewall.chains first).filter (!·.isOwnedBy plan.ownerTag) := by
        rw [plan.deleteOwnedIn_eq_remove isManaged]
        exact isFaithful.others_remain allowed
      have set (rules : List ChainRule)
          (isRest :
            rules.filter (!·.isOwnedBy plan.ownerTag) =
              (firewall.chains first).filter
                (!·.isOwnedBy plan.ownerTag)) :
          ((firewall.setChain first rules).chains location).filter
              (!·.isOwnedBy plan.ownerTag) =
            (firewall.chains location).filter
              (!·.isOwnedBy plan.ownerTag) := by
        by_cases same : location = first
        · subst same
          simpa [Firewall.setChain] using isRest
        · simp [Firewall.setChain, same]
      unfold deleteOwnedFrom
      cases removed :
          plan.deleteOwnedIn first (firewall.policies first) allowed
            (firewall.chains first) with
      | mk result rules =>
          rw [removed] at remain
          cases result with
          | error error =>
              exact set rules remain
          | ok left =>
              dsimp only
              rw [inductionHypothesis laterDistinct laterManaged]
              · exact set rules remain
              · intro other member
                rw [Firewall.setChain_others notLater _ _ other member]
                exact laterFaithful other member

/-- Numbers that are no smaller than others, with the same sum, are these. -/
theorem eq_of_sum_eq
    {Item : Type}
    {items : List Item}
    {larger smaller : Item → Nat}
    (noSmaller : ∀ item ∈ items, smaller item ≤ larger item)
    (sameSum : (items.map larger).sum = (items.map smaller).sum) :
    ∀ item ∈ items, larger item = smaller item := by
  induction items with
  | nil =>
      exact fun item member => absurd member List.not_mem_nil
  | cons item items inductionHypothesis =>
      obtain ⟨headNoSmaller, restNoSmaller⟩ := List.forall_mem_cons.mp noSmaller
      have restSums := List.sum_le_sum restNoSmaller
      simp only [List.map_cons, List.sum_cons] at sameSum
      refine List.forall_mem_cons.mpr ⟨by omega, ?_⟩
      exact inductionHypothesis restNoSmaller (by omega)

/-- The rules of an owner are counted one by one. -/
theorem countP_eq_sum
    (ownerTag : String)
    (rules : List ChainRule) :
    rules.countP (ChainRule.isOwnedBy ownerTag) =
      (rules.map fun rule =>
        if rule.isOwnedBy ownerTag then 1 else 0).sum := by
  induction rules with
  | nil =>
      rfl
  | cons rule rules inductionHypothesis =>
      rw [List.countP_cons, inductionHypothesis, List.map_cons, List.sum_cons,
        Nat.add_comm]

/-- The lines of a chain are counted rule by rule. -/
theorem countP_chainLines
    {location : IptablesLocation}
    (isManaged : location ∈ ownedRuleLocations)
    (firewall : Firewall) :
    ((firewall.chainLines location).countP fun line =>
        iptablesLineHasOwner line plan.ownerTag) =
      ((firewall.chains location).map (plan.counted location)).sum := by
  rw [Firewall.chainLines, lines_listing, List.countP_append,
    List.countP_eq_zero.mpr, Nat.zero_add, List.countP_flatMap]
  · rfl
  · intro line member
    rw [not_hasOwner_of_notMem (policy_lines isManaged _ line member).2]
    exact Bool.false_ne_true

/-- Each rule of the owner is counted once, and no others. -/
theorem countOwnedLines_eq_iff
    (faithful :
      ∀ location ∈ ownedRuleLocations,
        NumberedRemoval.Faithful (plan.marks location)
          (ChainRule.isOwnedBy plan.ownerTag) (firewall.chains location)) :
    plan.countOwnedLines firewall =
        firewall.ownedCount plan.ownerTag ownedRuleLocations ↔
      ∀ location ∈ ownedRuleLocations, ∀ rule ∈ firewall.chains location,
        plan.counted location rule =
          if rule.isOwnedBy plan.ownerTag then 1 else 0 := by
  have atLeastOnce :
      ∀ location ∈ ownedRuleLocations, ∀ rule ∈ firewall.chains location,
        (if rule.isOwnedBy plan.ownerTag then 1 else 0) ≤
          plan.counted location rule := by
    intro location isManaged rule member
    split
    · rename_i isOwned
      obtain ⟨first, rest, isLines, isRule⟩ :=
        exists_lines location.chain rule
      have isHead := (faithful location isManaged).head rule member isOwned
      rw [plan.marks_eq isLines isRule, List.head?_cons] at isHead
      rw [counted, isLines, List.countP_cons, Option.some.inj isHead,
        if_pos rfl]
      exact Nat.le_add_left 1 _
    · exact Nat.zero_le _
  have counts :
      ∀ location ∈ ownedRuleLocations,
        ((firewall.chainLines location).countP fun line =>
            iptablesLineHasOwner line plan.ownerTag) =
          ((firewall.chains location).map (plan.counted location)).sum :=
    fun location isManaged => countP_chainLines isManaged firewall
  rw [countOwnedLines, List.map_congr_left counts, Firewall.ownedCount]
  simp only [countP_eq_sum]
  constructor
  · intro same location isManaged
    have perChain :=
      eq_of_sum_eq
        (fun location isManaged =>
          List.sum_le_sum (atLeastOnce location isManaged))
        same location isManaged
    exact eq_of_sum_eq (atLeastOnce location isManaged) perChain
  · intro once
    refine congrArg List.sum (List.map_congr_left ?_)
    intro location isManaged
    exact congrArg List.sum (List.map_congr_left (once location isManaged))

/-- The words on both sides of a blank. -/
theorem iptablesTokens_append
    (first rest : List Char) :
    iptablesTokens (.ofList (first ++ ' ' :: rest)) =
      iptablesTokens (.ofList first) ++ iptablesTokens (.ofList rest) := by
  simp only [iptablesTokens, String.toList_ofList]
  rw [List.splitOnP_append_cons _ _ (by decide), List.filter_append,
    List.map_append]

/-- White space at the end is in no word. -/
theorem iptablesTokens_stripReturn (line : List Char) :
    iptablesTokens (.ofList (stripReturn line)) =
      iptablesTokens (.ofList line) := by
  unfold stripReturn
  split
  · rename_i isLast
    have isLine : line = line.dropLast ++ ['\r'] := by
      obtain ⟨earlier, rfl⟩ := List.getLast?_eq_some_iff.mp isLast
      simp
    conv_rhs => rw [isLine]
    simp only [iptablesTokens, String.toList_ofList]
    rw [List.splitOnP_append_cons _ _ (by decide), List.filter_append]
    simp
  · rfl

/-- The printed tag is one word, which is the tag. -/
theorem PlainTag.tokens
    {ownerTag : String}
    (plain : PlainTag ownerTag) :
    iptablesTokens (.ofList (Argument.quoted ownerTag).print) = [ownerTag] := by
  have notEscaped :
      ownerTag.toList.flatMap Argument.escape = ownerTag.toList := by
    calc
      ownerTag.toList.flatMap Argument.escape =
          ownerTag.toList.flatMap fun character => [character] := by
        refine List.flatMap_congr fun character member => ?_
        obtain ⟨_, noQuote, noBackslash, _⟩ := plain.characters character member
        rw [Argument.escape, if_neg]
        rintro (rfl | rfl | rfl)
        · exact absurd noQuote (by decide)
        · exact noBackslash rfl
        · exact absurd noQuote (by decide)
      _ = ownerTag.toList := List.flatMap_singleton' _
  have isPrinted :
      (Argument.quoted ownerTag).print = '"' :: (ownerTag.toList ++ ['"']) := by
    rw [Argument.print, if_neg fun isPlain => plain.quoted isPlain.2,
      notEscaped]
    rfl
  have oneWord :
      ('"' :: (ownerTag.toList ++ ['"'])).splitOnP isAsciiWhitespace =
        ['"' :: (ownerTag.toList ++ ['"'])] := by
    apply List.splitOnP_eq_singleton
    intro character member
    rcases List.mem_cons.mp member with rfl | rest
    · decide
    · rcases List.mem_append.mp rest with inTag | isLast
      · exact (plain.characters character inTag).1
      · rw [List.mem_singleton.mp isLast]
        decide
  rw [isPrinted, iptablesTokens, String.toList_ofList, oneWord]
  simp only [ne_eq, reduceCtorEq, not_false_eq_true, decide_true,
    List.filter_cons_of_pos, List.filter_nil, List.map_cons, List.map_nil]
  congr 1
  exact
    (trim_eq_iff_quoting fun character member =>
      (plain.characters character member).2.1).mpr
      ⟨['"'], ['"'], rfl, List.forall_mem_singleton.mpr rfl,
        List.forall_mem_singleton.mpr rfl⟩

/-- A rule of the owner has the option and the tag among its words. -/
theorem hasOwner_of_isOwnedBy
    {ownerTag chain : String}
    {rule : ChainRule}
    (plain : PlainTag ownerTag)
    (isOwned : rule.isOwnedBy ownerTag = true) :
    iptablesLineHasOwner (.ofList (rule.print chain)) ownerTag = true := by
  rw [ChainRule.isOwnedBy, List.contains_iff_mem, mem_zip_tail] at isOwned
  obtain ⟨earlier, later, rfl⟩ := isOwned
  rw [hasOwner_iff]
  have isPrinted :
      ChainRule.print chain
          (earlier ++ .word "--comment" :: .quoted ownerTag :: later) =
        ChainRule.print chain earlier ++ ' ' :: ("--comment".toList ++
          ' ' :: ((Argument.quoted ownerTag).print ++
            later.flatMap fun argument => ' ' :: argument.print)) := by
    simp [ChainRule.print, Argument.print]
  have isOption :
      iptablesTokens (.ofList "--comment".toList) = ["--comment"] := by
    decide +kernel
  have isTag :
      ∃ rest,
        iptablesTokens
            (.ofList
              ((Argument.quoted ownerTag).print ++
                later.flatMap fun argument => ' ' :: argument.print)) =
          ownerTag :: rest := by
    cases later with
    | nil =>
        refine ⟨[], ?_⟩
        rw [List.flatMap_nil, List.append_nil, plain.tokens]
    | cons argument later =>
        rw [List.flatMap_cons, List.cons_append, iptablesTokens_append,
          plain.tokens]
        exact ⟨_, rfl⟩
  obtain ⟨rest, isTokens⟩ := isTag
  rw [isPrinted, iptablesTokens_append, iptablesTokens_append, isOption,
    isTokens]
  exact ⟨_, rest, rfl⟩

/--
Where each rule is printed on one line, the rules are told apart unless another
rule shows the tag.
-/
theorem distinguished_iff_of_singleLine
    {location : IptablesLocation}
    {rules : List ChainRule}
    (plain : PlainTag plan.ownerTag)
    (singleLine : ∀ rule ∈ rules, '\n' ∉ rule.print location.chain) :
    plan.Distinguished location rules ↔
      ∀ rule ∈ rules, rule.isOwnedBy plan.ownerTag = false →
        ¬ ShowsOwner plan.ownerTag (.ofList (rule.print location.chain)) := by
  have isLines :
      ∀ rule ∈ rules,
        rule.lines location.chain =
          [.ofList (stripReturn (rule.print location.chain))] := by
    intro rule member
    rw [ChainRule.lines, terminatedLines,
      List.splitOn_eq_singleton (singleLine rule member)]
    rfl
  have sameOwner (line : List Char) :
      ShowsOwner plan.ownerTag (.ofList (stripReturn line)) ↔
        ShowsOwner plan.ownerTag (.ofList line) := by
    rw [← hasOwner_iff_showsOwner plain, ← hasOwner_iff_showsOwner plain]
    simp only [iptablesLineHasOwner, iptablesTokens_stripReturn]
  constructor
  · intro distinguished rule member notOwned
    rw [← sameOwner]
    apply distinguished.foreign rule member notOwned
    rw [isLines rule member]
    exact List.mem_cons_self
  · intro noOther
    refine ⟨?_, ?_, ?_⟩
    · intro rule member notOwned line isLine
      rw [isLines rule member, List.mem_singleton] at isLine
      rw [isLine, sameOwner]
      exact noOther rule member notOwned
    · intro rule member isOwned
      refine ⟨_, [], isLines rule member, ?_, ?_⟩
      · rw [sameOwner, ← hasOwner_iff_showsOwner plain]
        exact hasOwner_of_isOwnedBy plain isOwned
      · exact fun line isLine => absurd isLine List.not_mem_nil
    · refine List.Pairwise.imp_of_mem ?_
        (List.pairwise_of_forall fun _ _ => trivial)
      intro earlier later member _ _ _ _ line isLine
      rw [isLines earlier member] at isLine
      cases isLine

/--
Where an owner has at most as many rules as the gateway removes, it deletes and
counts exactly these if and only if the printed lines tell them apart.  Where
they do, the rules of others stay however many rules the owner has.
-/
theorem deletes_exactly_owned_iff
    {decodeBase64 : String → Option Bytes}
    {config : Config}
    {plan : GatewayPlan}
    (accepted : config.validate decodeBase64 = .ok ())
    (built : fromConfig config = .ok plan)
    (firewall : Firewall) :
    (firewall.ownedCount plan.ownerTag ownedRuleLocations ≤ 128 →
      (plan.deleteOwned firewall =
            (.ok (firewall.ownedCount plan.ownerTag ownedRuleLocations),
              firewall.withoutOwned plan.ownerTag ownedRuleLocations) ∧
          plan.countOwnedLines firewall =
            firewall.ownedCount plan.ownerTag ownedRuleLocations ↔
        ∀ location ∈ ownedRuleLocations,
          plan.Distinguished location (firewall.chains location))) ∧
      ((∀ location ∈ ownedRuleLocations,
          plan.Distinguished location (firewall.chains location)) →
        ∀ location,
          ((plan.deleteOwned firewall).2.chains location).filter
              (!·.isOwnedBy plan.ownerTag) =
            (firewall.chains location).filter
              (!·.isOwnedBy plan.ownerTag)) := by
  have plain := plainTag_of_fromConfig accepted built
  have distinct : ownedRuleLocations.Nodup := by
    decide
  have managed :
      ∀ location ∈ ownedRuleLocations, location ∈ ownedRuleLocations :=
    fun _ member => member
  constructor
  · intro few
    constructor
    · rintro ⟨deleted, isCount⟩
      have faithful :
          ∀ location ∈ ownedRuleLocations,
            NumberedRemoval.Faithful (plan.marks location)
              (ChainRule.isOwnedBy plan.ownerTag)
              (firewall.chains location) := by
        cases ran : plan.deleteOwnedFrom 128 ownedRuleLocations firewall with
        | mk left after =>
            rw [deleteOwned, ran] at deleted
            obtain ⟨isLeft, isAfter⟩ := Prod.mk.inj deleted
            cases left with
            | error error => cases isLeft
            | ok left =>
                exact
                  faithful_of_deleteOwnedFrom distinct managed
                    (isAfter ▸ ran)
      have once := (countOwnedLines_eq_iff faithful).mp isCount
      intro location isManaged
      exact
        (plan.distinguished_iff plain).mpr
          ⟨faithful location isManaged, once location isManaged⟩
    · intro distinguished
      have faithful := fun location isManaged =>
        ((plan.distinguished_iff plain).mp
          (distinguished location isManaged)).1
      refine ⟨?_, (countOwnedLines_eq_iff faithful).mpr ?_⟩
      · rw [deleteOwned, deleteOwnedFrom_eq distinct managed faithful few]
        dsimp only [Except.map]
        rw [Nat.sub_sub_self few]
      · intro location isManaged
        exact
          ((plan.distinguished_iff plain).mp
          (distinguished location isManaged)).2
  · intro distinguished
    have faithful := fun location isManaged =>
      ((plan.distinguished_iff plain).mp
          (distinguished location isManaged)).1
    exact deleteOwnedFrom_others distinct managed faithful 128

/-- A rule that drops what is forwarded, with a comment. -/
def commentedRule (comment : String) : ChainRule :=
  [.word "-m", .word "comment", .word "--comment", .quoted comment,
    .word "-j", .word "DROP"]

/-- A host with some rules in the chain for forwarding. -/
def forwardFirewall (rules : List ChainRule) : Firewall where
  policies := fun _ => .accept
  chains := fun location =>
    if location = ⟨none, "FORWARD"⟩ then rules else []

/-- A rule of a similar tunnel, one of this gateway, and one without a tag. -/
def neighbouringRules : List ChainRule :=
  [commentedRule "hushwire-gateway:hush01",
    commentedRule "hushwire-gateway:hush0", commentedRule "to \"hush0\""]

/-- Of the rules of three owners, those of the gateway are deleted. -/
theorem deletes_exactly_owned_example :
    GatewayExample.plan.deleteOwned (forwardFirewall neighbouringRules) =
        (.ok 1,
          (forwardFirewall neighbouringRules).withoutOwned
            GatewayExample.plan.ownerTag ownedRuleLocations) ∧
      GatewayExample.plan.countOwnedLines
          (forwardFirewall neighbouringRules) =
        1 := by
  have plain :=
    plainTag_of_fromConfig GatewayExample.config_accepted
      GatewayExample.plan_built
  have isCount :
      (forwardFirewall neighbouringRules).ownedCount
          GatewayExample.plan.ownerTag ownedRuleLocations =
        1 := by
    decide +kernel
  have distinguished :
      ∀ location ∈ ownedRuleLocations,
        GatewayExample.plan.Distinguished location
          ((forwardFirewall neighbouringRules).chains location) := by
    intro location isManaged
    rw [distinguished_iff_of_singleLine plain]
    · simp only [← hasOwner_eq_false_iff plain]
      revert location
      decide +kernel
    · revert location
      decide +kernel
  have exact :=
    ((deletes_exactly_owned_iff GatewayExample.config_accepted
      GatewayExample.plan_built (forwardFirewall neighbouringRules)).1
      (by rw [isCount]; decide)).mpr distinguished
  rwa [isCount] at exact

/-- A rule of somebody else, whose comment begins with the tag. -/
def formerRule : ChainRule :=
  commentedRule "hushwire-gateway:hush0 (old)"

/-- A rule of another owner is counted and deleted. -/
theorem deletes_exactly_owned_counterexample :
    GatewayExample.config.validate GatewayExample.decodeBase64 = .ok () ∧
      GatewayPlan.fromConfig GatewayExample.config =
        .ok GatewayExample.plan ∧
      formerRule.isOwnedBy GatewayExample.plan.ownerTag = false ∧
      GatewayExample.plan.countOwnedLines (forwardFirewall [formerRule]) =
        1 ∧
      (GatewayExample.plan.deleteOwned
          (forwardFirewall [formerRule])).2.chains ⟨none, "FORWARD"⟩ =
        [] :=
  ⟨GatewayExample.config_accepted, GatewayExample.plan_built,
    by decide +kernel, by decide +kernel, by decide +kernel⟩

end GatewayPlan

end HushWire

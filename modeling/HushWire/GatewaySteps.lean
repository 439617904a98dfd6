import HushWire.Gateway
import Mathlib.Algebra.Order.BigOperators.Group.List
import Mathlib.Algebra.Order.Group.Nat

namespace HushWire

/-!
# What the steps of a gateway do

Checks and listings leave the host alone; deleting keeps the rules of others;
adding puts a rule behind the others of its chain.  Every operation is read
off these facts: `Applies` and `Removes` list all that an operation can do.
-/

open Commands
open Text (trim)

/-- One more command was issued. -/
def Shell.tick (shell : Shell) : Shell :=
  { shell with issued := shell.issued + 1 }

@[simp] theorem Shell.tick_host (shell : Shell) : shell.tick.host = shell.host :=
  rfl

@[simp] theorem Shell.tick_issued (shell : Shell) :
    shell.tick.issued = shell.issued + 1 :=
  rfl

/-- How an operation ended, and the host after it. -/
def GatewayHost.ended :
    EStateM.Result String Shell Unit → Except String Unit × GatewayHost
  | .ok () shell => (.ok (), shell.host)
  | .error error shell => (.error error, shell.host)

theorem GatewayHost.run_eq_ended
    (host : GatewayHost)
    (operation : Command Unit) :
    host.run operation = ended (operation { host, issued := 0 }) :=
  rfl

section Commands

variable {fails : Nat → Bool} {before after : Shell}

theorem issue_of_fails
    {failure : String}
    {effect : GatewayHost → GatewayHost}
    (failed : fails before.issued = true) :
    issue fails failure effect before = .error failure before.tick := by
  simp [issue, failed, Shell.tick]

theorem issue_of_not_fails
    {failure : String}
    {effect : GatewayHost → GatewayHost}
    (succeeded : fails before.issued = false) :
    issue fails failure effect before =
      .ok () { host := effect before.host, issued := before.issued + 1 } := by
  simp [issue, succeeded]

@[simp] theorem examine_eq
    {Value : Type}
    (value : GatewayHost → Value)
    (shell : Shell) :
    examine value shell = .ok (value shell.host) shell :=
  rfl

@[simp] theorem modifyHost_eq
    (effect : GatewayHost → GatewayHost)
    (shell : Shell) :
    modifyHost effect shell =
      .ok () { shell with host := effect shell.host } :=
  rfl

/-- A command that only looks fails or yields what it sees. -/
theorem look_cases
    {Value : Type}
    (fails : Nat → Bool)
    {failure : String}
    (value : GatewayHost → Value)
    (shell : Shell) :
    (fails shell.issued = true ∧
        (do issue fails failure id; examine value) shell =
          .error failure shell.tick) ∨
      (fails shell.issued = false ∧
        (do issue fails failure id; examine value) shell =
          .ok (value shell.host) shell.tick) := by
  cases failed : fails shell.issued with
  | true =>
      exact .inl ⟨rfl, bind_of_error (issue_of_fails failed)⟩
  | false =>
      exact .inr ⟨rfl, bind_of_ok (issue_of_not_fails failed)⟩

namespace IptablesRule

theorem exists?_cases
    (rule : IptablesRule)
    (fails : Nat → Bool)
    (shell : Shell) :
    (fails shell.issued = true ∧
        ∃ error, rule.exists? fails shell = .error error shell.tick) ∨
      (fails shell.issued = false ∧
        rule.exists? fails shell =
          .ok (rule.present shell.host) shell.tick) := by
  rcases look_cases fails rule.present shell with
    ⟨failed, isError⟩ | ⟨succeeded, isOk⟩
  · exact .inl ⟨failed, _, isError⟩
  · exact .inr ⟨succeeded, isOk⟩

end IptablesRule

theorem listIptablesChain_cases
    (fails : Nat → Bool)
    (location : IptablesLocation)
    (shell : Shell) :
    (fails shell.issued = true ∧
        ∃ error, listIptablesChain fails location shell =
          .error error shell.tick) ∨
      (fails shell.issued = false ∧
        listIptablesChain fails location shell =
          .ok (shell.host.chainLines location) shell.tick) := by
  rcases look_cases fails
      (fun host => host.chainLines location) shell with
    ⟨failed, isError⟩ | ⟨succeeded, isOk⟩
  · exact .inl ⟨failed, _, isError⟩
  · exact .inr ⟨succeeded, isOk⟩

end Commands

namespace GatewayHost

/-- Add a rule behind the others of its chain. -/
def addRule (host : GatewayHost) (rule : IptablesRule) : GatewayHost :=
  host.setChain rule.location (host.chains rule.location ++ [rule.spec])

@[simp] theorem setChain_chains
    (host : GatewayHost)
    (location : IptablesLocation)
    (rules : List RuleSpec) :
    (host.setChain location rules).chains =
      Function.update host.chains location rules :=
  rfl

@[simp] theorem setChain_self
    (host : GatewayHost)
    (location : IptablesLocation) :
    host.setChain location (host.chains location) = host := by
  simp [setChain]

@[simp] theorem setChain_setChain
    (host : GatewayHost)
    (location : IptablesLocation)
    (first second : List RuleSpec) :
    (host.setChain location first).setChain location second =
      host.setChain location second := by
  simp [setChain]

/-- Two hosts that differ at most in their chains. -/
def SameButChains (first second : GatewayHost) : Prop :=
  second = { first with chains := second.chains }

namespace SameButChains

theorem refl (host : GatewayHost) : SameButChains host host :=
  rfl

theorem trans
    {first second third : GatewayHost}
    (earlier : SameButChains first second)
    (later : SameButChains second third) :
    SameButChains first third := by
  unfold SameButChains at *
  rw [later, earlier]

theorem setChain
    (host : GatewayHost)
    (location : IptablesLocation)
    (rules : List RuleSpec) :
    SameButChains host (host.setChain location rules) :=
  rfl

theorem addRule (host : GatewayHost) (rule : IptablesRule) :
    SameButChains host (host.addRule rule) :=
  rfl

/-- A sequence of added rules changes the chains only. -/
theorem foldl_addRule (host : GatewayHost) (rules : List IptablesRule) :
    SameButChains host (rules.foldl GatewayHost.addRule host) := by
  induction rules generalizing host with
  | nil =>
      exact .refl host
  | cons rule rules inductionHypothesis =>
      exact (addRule host rule).trans (inductionHypothesis _)

end SameButChains

end GatewayHost

/-- A rule's line is one of those that are numbered. -/
@[simp] theorem isRuleLine_ruleLine
    (host : GatewayHost)
    (location : IptablesLocation)
    (spec : RuleSpec) :
    isRuleLine (host.ruleLine location spec) = true := by
  simp [isRuleLine, GatewayHost.ruleLine]

/-- The line of a policy is not numbered. -/
@[simp] theorem isRuleLine_policyLine
    (host : GatewayHost)
    (location : IptablesLocation) :
    isRuleLine (host.policyLine location) = false := by
  simp [isRuleLine, GatewayHost.policyLine]
  rfl

namespace GatewayPlan

variable (plan : GatewayPlan)

/-- The line of a rule is recognised as one of the owner. -/
def owns
    (host : GatewayHost)
    (location : IptablesLocation)
    (spec : RuleSpec) :
    Bool :=
  iptablesLineHasOwner (host.ruleLine location spec) plan.ownerTag

/-- The number of a rule counts the rules in front of it. -/
theorem ownedRuleNumber_map
    (host : GatewayHost)
    (location : IptablesLocation)
    (others : Nat)
    (specs : List RuleSpec) :
    plan.ownedRuleNumber others (specs.map (host.ruleLine location)) =
      (specs.findIdx? (plan.owns host location)).map (others + 1 + ·) := by
  induction specs generalizing others with
  | nil =>
      rfl
  | cons spec specs inductionHypothesis =>
      rw [List.map_cons, ownedRuleNumber, isRuleLine_ruleLine,
        List.findIdx?_cons, Bool.not_true, if_neg Bool.false_ne_true]
      by_cases owned :
          iptablesLineHasOwner (host.ruleLine location spec) plan.ownerTag
      · simp [owns, owned]
      · rw [if_neg owned, inductionHypothesis, owns, if_neg owned,
          Option.map_map]
        congr 1
        funext position
        simp only [Function.comp_apply]
        omega

/-- The first rule of the owner in a chain as it is listed. -/
theorem ownedRuleNumber_chainLines
    (host : GatewayHost)
    (location : IptablesLocation) :
    plan.ownedRuleNumber 0 (host.chainLines location) =
      ((host.chains location).findIdx? (plan.owns host location)).map
        (1 + ·) := by
  rw [GatewayHost.chainLines, ownedRuleNumber, isRuleLine_policyLine,
    Bool.not_false, if_pos rfl, ownedRuleNumber_map]

/-- What deleting the first rule of the owner in a chain comes to. -/
inductive DeletesFirst
    (fails : Nat → Bool)
    (location : IptablesLocation)
    (before : Shell) :
    EStateM.Result String Shell Bool → Prop where
  | notListed
      {error : String} :
      fails before.issued = true →
      DeletesFirst fails location before (.error error before.tick)
  | noRule :
      fails before.issued = false →
      (∀ spec ∈ before.host.chains location,
        ¬ plan.owns before.host location spec) →
      DeletesFirst fails location before (.ok false before.tick)
  | notDeleted
      {error : String} :
      (∃ spec ∈ before.host.chains location,
        plan.owns before.host location spec) →
      fails before.issued = false →
      fails (before.issued + 1) = true →
      DeletesFirst fails location before (.error error before.tick.tick)
  | deleted :
      (∃ spec ∈ before.host.chains location,
        plan.owns before.host location spec) →
      fails before.issued = false →
      fails (before.issued + 1) = false →
      DeletesFirst fails location before
        (.ok true
          { host :=
              before.host.setChain location
                ((before.host.chains location).eraseP
                  (plan.owns before.host location))
            issued := before.issued + 2 })

theorem deleteFirstOwnedRule_deletes
    (fails : Nat → Bool)
    (location : IptablesLocation)
    (before : Shell) :
    plan.DeletesFirst fails location before
      (plan.deleteFirstOwnedRule fails location before) := by
  unfold deleteFirstOwnedRule
  rcases listIptablesChain_cases fails location before with
    ⟨failed, error, isError⟩ | ⟨listed, isOk⟩
  · rw [bind_of_error isError]
    exact .notListed failed
  · rw [bind_of_ok isOk, ownedRuleNumber_chainLines]
    cases found :
        (before.host.chains location).findIdx?
          (plan.owns before.host location) with
    | none =>
        refine .noRule listed ?_
        simpa using List.findIdx?_eq_none_iff.mp found
    | some position =>
        have someOwned :
            ∃ spec ∈ before.host.chains location,
              plan.owns before.host location spec := by
          obtain ⟨inside, owned, _⟩ :=
            List.findIdx?_eq_some_iff_getElem.mp found
          exact ⟨_, List.getElem_mem inside, owned⟩
        have isErase :
            (before.host.chains location).eraseIdx position =
              (before.host.chains location).eraseP
                (plan.owns before.host location) := by
          rw [List.eraseP_eq_eraseIdx, found]
        dsimp only [Option.map_some, deleteIptablesRuleNumber]
        cases deleted : fails before.tick.issued with
        | true =>
            rw [bind_of_error (issue_of_fails deleted)]
            exact .notDeleted someOwned listed deleted
        | false =>
            rw [bind_of_ok (issue_of_not_fails deleted)]
            simp only [Nat.add_sub_cancel_left]
            have isDeleted := DeletesFirst.deleted someOwned listed deleted
            rw [← isErase] at isDeleted
            exact isDeleted

/-- The rules of others in a chain. -/
def foreign
    (host : GatewayHost)
    (location : IptablesLocation) :
    List RuleSpec :=
  (host.chains location).filter fun spec => !plan.owns host location spec

/-- The host without the rules of the owner in some chains. -/
def withoutOwned
    (host : GatewayHost)
    (locations : List IptablesLocation) :
    GatewayHost :=
  { host with
    chains := fun location =>
      if location ∈ locations then
        plan.foreign host location
      else
        host.chains location }

/-- Removing the first rule of the owner keeps the rules of others. -/
theorem foreign_eraseP
    (host : GatewayHost)
    (location : IptablesLocation) :
    plan.foreign
        (host.setChain location
          ((host.chains location).eraseP (plan.owns host location)))
        location =
      plan.foreign host location := by
  simp only [foreign, GatewayHost.setChain_chains, Function.update_self]
  generalize host.chains location = specs
  change
    (specs.eraseP (plan.owns host location)).filter
        (fun spec => !plan.owns host location spec) =
      specs.filter fun spec => !plan.owns host location spec
  induction specs with
  | nil =>
      rfl
  | cons spec specs inductionHypothesis =>
      by_cases owned : plan.owns host location spec
      · simp [owned]
      · simp [owned, inductionHypothesis]

/-- A chain without rules of the owner is not changed by removing them. -/
theorem foreign_of_none
    {host : GatewayHost}
    {location : IptablesLocation}
    (none :
      ∀ spec ∈ host.chains location, ¬ plan.owns host location spec) :
    plan.foreign host location = host.chains location := by
  rw [foreign, List.filter_eq_self]
  intro spec member
  simpa using none spec member

/-- Success leaves the rules of others in the chain. -/
theorem deleteOwnedRulesIn_ok
    {fails : Nat → Bool}
    {location : IptablesLocation}
    {allowed left : Nat}
    {before after : Shell}
    (deleted :
      plan.deleteOwnedRulesIn fails location allowed before =
        .ok left after) :
    after.host =
      before.host.setChain location (plan.foreign before.host location) := by
  induction allowed generalizing before with
  | zero =>
      obtain ⟨wasDeleted, middle, first, later⟩ := bind_eq_ok.mp deleted
      have deletes := plan.deleteFirstOwnedRule_deletes fails location before
      rw [first] at deletes
      cases deletes with
      | noRule _ none =>
          obtain ⟨-, rfl⟩ := EStateM.Result.ok.inj later
          rw [plan.foreign_of_none none, GatewayHost.setChain_self]
          rfl
      | deleted =>
          cases later
  | succ allowed inductionHypothesis =>
      obtain ⟨wasDeleted, middle, first, later⟩ := bind_eq_ok.mp deleted
      have deletes := plan.deleteFirstOwnedRule_deletes fails location before
      rw [first] at deletes
      cases deletes with
      | noRule _ none =>
          obtain ⟨-, rfl⟩ := EStateM.Result.ok.inj later
          rw [plan.foreign_of_none none, GatewayHost.setChain_self]
          rfl
      | deleted =>
          rw [inductionHypothesis later, foreign_eraseP,
            GatewayHost.setChain_setChain]

/-- Success leaves the rules of others in all chains. -/
theorem foldlM_deleteOwnedRulesIn_ok
    {fails : Nat → Bool}
    {locations : List IptablesLocation}
    {allowed left : Nat}
    {before after : Shell}
    (deleted :
      locations.foldlM
          (fun allowed location =>
            plan.deleteOwnedRulesIn fails location allowed)
          allowed before =
        .ok left after) :
    after.host = plan.withoutOwned before.host locations := by
  induction locations generalizing allowed before with
  | nil =>
      obtain ⟨-, rfl⟩ := EStateM.Result.ok.inj deleted
      simp [withoutOwned]
  | cons location locations inductionHypothesis =>
      rw [List.foldlM_cons] at deleted
      obtain ⟨middleLeft, middle, first, later⟩ := bind_eq_ok.mp deleted
      rw [inductionHypothesis later, plan.deleteOwnedRulesIn_ok first]
      simp only [withoutOwned, foreign, GatewayHost.setChain, owns,
        GatewayHost.ruleLine, List.mem_cons]
      congr 1
      funext other
      by_cases isHead : other = location
      · subst isHead
        simp
      · simp [isHead]

theorem deleteOwnedRules_ok
    {fails : Nat → Bool}
    {removed : Nat}
    {before after : Shell}
    (deleted : plan.deleteOwnedRules fails before = .ok removed after) :
    after.host = plan.withoutOwned before.host ownedRuleLocations := by
  obtain ⟨left, middle, all, returned⟩ := bind_eq_ok.mp deleted
  obtain ⟨-, rfl⟩ := EStateM.Result.ok.inj returned
  exact plan.foldlM_deleteOwnedRulesIn_ok all

end GatewayPlan

/-- What adding a rule that may be there already comes to. -/
inductive IptablesRule.AddsIfMissing
    (fails : Nat → Bool)
    (rule : IptablesRule)
    (before : Shell) :
    EStateM.Result String Shell Bool → Prop where
  | notChecked
      {error : String} :
      fails before.issued = true →
      AddsIfMissing fails rule before (.error error before.tick)
  | present :
      rule.present before.host = true →
      AddsIfMissing fails rule before (.ok false before.tick)
  | notAdded
      {error : String} :
      fails (before.issued + 1) = true →
      AddsIfMissing fails rule before (.error error before.tick.tick)
  | added :
      rule.present before.host = false →
      AddsIfMissing fails rule before
        (.ok true
          { host := before.host.addRule rule
            issued := before.issued + 2 })

theorem IptablesRule.addIfMissing_adds
    (fails : Nat → Bool)
    (rule : IptablesRule)
    (before : Shell) :
    rule.AddsIfMissing fails before (rule.addIfMissing fails before) := by
  unfold addIfMissing
  rcases rule.exists?_cases fails before with
    ⟨failed, error, isError⟩ | ⟨checked, isOk⟩
  · rw [bind_of_error isError]
    exact .notChecked failed
  · rw [bind_of_ok isOk]
    cases isPresent : rule.present before.host with
    | true =>
        exact .present isPresent
    | false =>
        cases added : fails before.tick.issued with
        | true =>
            simp only [Bool.false_eq_true, ↓reduceIte]
            rw [bind_of_error (issue_of_fails added)]
            exact .notAdded added
        | false =>
            simp only [Bool.false_eq_true, ↓reduceIte]
            rw [bind_of_ok (issue_of_not_fails added)]
            exact .added isPresent

namespace GatewayHost

/-- Each rule is missing when the ones before it have been added. -/
def Absent : GatewayHost → List IptablesRule → Prop
  | _, [] => True
  | host, rule :: rules =>
      rule.present host = false ∧ Absent (host.addRule rule) rules

/-- The rules that are added to a host so that none is missing. -/
def missing : GatewayHost → List IptablesRule → List IptablesRule
  | _, [] => []
  | host, rule :: rules =>
      if rule.present host then
        missing host rules
      else
        rule :: missing (host.addRule rule) rules

end GatewayHost

/-- Rules are added as far as no command fails, each one that is missing. -/
theorem GatewayPlan.addRules_adds
    (fails : Nat → Bool)
    (rules added : List IptablesRule)
    (before : Shell) :
    ∃ result new after,
      addRules fails rules added before = .ok (result, added ++ new) after ∧
        after.host = new.foldl GatewayHost.addRule before.host ∧
        before.host.Absent new ∧
        new <+: before.host.missing rules ∧
        (result = .ok () → new = before.host.missing rules) ∧
        (∀ error, result = .error error →
          ∃ number, number < after.issued ∧ fails number = true) := by
  induction rules generalizing added before with
  | nil =>
      exact ⟨.ok (), [], before, by rw [List.append_nil]; rfl, rfl, trivial,
        List.prefix_rfl, fun _ => rfl, nofun⟩
  | cons rule rules inductionHypothesis =>
      have adds := rule.addIfMissing_adds fails before
      unfold addRules
      generalize rule.addIfMissing fails before = outcome at adds
      cases adds with
      | @notChecked error failed =>
          exact ⟨.error error, [], before.tick, by rw [List.append_nil], rfl,
            trivial, List.nil_prefix, nofun,
            fun _ _ => ⟨_, Nat.lt_succ_self _, failed⟩⟩
      | @notAdded error failed =>
          exact ⟨.error error, [], before.tick.tick,
            by rw [List.append_nil], rfl, trivial, List.nil_prefix, nofun,
            fun _ _ => ⟨_, Nat.lt_succ_self _, failed⟩⟩
      | present isPresent =>
          obtain ⟨result, new, after, isOk, isHost, absent, isPrefix,
            isMissing, blamed⟩ := inductionHypothesis added before.tick
          have sameMissing :
              before.host.missing (rule :: rules) =
                before.host.missing rules := by
            rw [GatewayHost.missing, isPresent, if_pos rfl]
          rw [sameMissing]
          exact ⟨result, new, after, isOk, isHost, absent, isPrefix, isMissing,
            blamed⟩
      | added isAbsent =>
          obtain ⟨result, new, after, isOk, isHost, absent, isPrefix,
            isMissing, blamed⟩ := inductionHypothesis (added ++ [rule])
              { host := before.host.addRule rule
                issued := before.issued + 2 }
          have isFirst :
              before.host.missing (rule :: rules) =
                rule :: (before.host.addRule rule).missing rules := by
            rw [GatewayHost.missing, isAbsent, if_neg Bool.false_ne_true]
          rw [isFirst]
          refine ⟨result, rule :: new, after, ?_, isHost,
            ⟨isAbsent, absent⟩, List.prefix_cons_inj rule |>.mpr isPrefix,
            ?_, blamed⟩
          · rw [← List.append_cons] at isOk
            exact isOk
          · intro succeeded
            rw [isMissing succeeded]

namespace GatewayPlan

variable (plan : GatewayPlan)

/-- Count the lines that are recognised as the owner's in a chain. -/
def countLines
    (host : GatewayHost)
    (count : Nat)
    (location : IptablesLocation) :
    Nat :=
  count +
    (host.chainLines location).countP fun line =>
      iptablesLineHasOwner line plan.ownerTag

/-- The number of lines that are recognised as the owner's. -/
def ownedCount (host : GatewayHost) : Nat :=
  ownedRuleLocations.foldl (plan.countLines host) 0

/-- Nothing is to be reconciled. -/
def inPlace (host : GatewayHost) : Bool :=
  plan.rules.all (fun rule => rule.present host) &&
    plan.ownedCount host = plan.rules.length

end GatewayPlan

/-- None of so many commands from the first one on fails. -/
def NoneFails (fails : Nat → Bool) (first count : Nat) : Prop :=
  ∀ number, first ≤ number → number < first + count → fails number = false

namespace NoneFails

variable {fails : Nat → Bool} {first count others : Nat}

theorem zero : NoneFails fails first 0 := by
  intro number lower upper
  omega

theorem cons
    (succeeded : fails first = false)
    (later : NoneFails fails (first + 1) count) :
    NoneFails fails first (count + 1) := by
  intro number lower upper
  rcases Nat.eq_or_lt_of_le lower with rfl | isLater
  · exact succeeded
  · exact later number isLater (by omega)

theorem append
    (earlier : NoneFails fails first count)
    (later : NoneFails fails (first + count) others) :
    NoneFails fails first (count + others) := by
  intro number lower upper
  by_cases isEarlier : number < first + count
  · exact earlier number lower isEarlier
  · exact later number (Nat.le_of_not_lt isEarlier) (by omega)

end NoneFails

namespace GatewayPlan

variable (plan : GatewayPlan)

/-- The presence of all rules is looked up, or a command fails. -/
theorem mapM_exists?_cases
    (fails : Nat → Bool)
    (rules : List IptablesRule)
    (before : Shell) :
    (∃ error after,
      rules.mapM (IptablesRule.exists? fails) before = .error error after ∧
        after.host = before.host ∧
        ∃ number,
          before.issued ≤ number ∧
            number < before.issued + rules.length ∧ fails number = true) ∨
      NoneFails fails before.issued rules.length ∧
        rules.mapM (IptablesRule.exists? fails) before =
          .ok (rules.map fun rule => rule.present before.host)
            { before with issued := before.issued + rules.length } := by
  induction rules generalizing before with
  | nil =>
      exact .inr ⟨.zero, rfl⟩
  | cons rule rules inductionHypothesis =>
      rw [List.mapM_cons]
      rcases rule.exists?_cases fails before with
        ⟨failed, error, isError⟩ | ⟨checked, isOk⟩
      · rw [bind_of_error isError]
        exact .inl ⟨error, before.tick, rfl, rfl, before.issued,
          Nat.le_refl _, by simp, failed⟩
      · rw [bind_of_ok isOk]
        rcases inductionHypothesis before.tick with
          ⟨error, after, isError, sameHost, number, lower, upper, failed⟩ |
          ⟨noneFails, isOk⟩
        · rw [bind_of_error isError]
          refine .inl ⟨error, after, rfl, sameHost, number, ?_, ?_, failed⟩
          · exact Nat.le_of_succ_le lower
          · rw [Shell.tick_issued] at upper
            rw [List.length_cons]
            omega
        · rw [bind_of_ok isOk]
          refine .inr ⟨.cons checked noneFails, ?_⟩
          simp only [pure, EStateM.pure, Shell.tick, List.map_cons,
            List.length_cons]
          rw [Nat.add_right_comm, Nat.add_assoc]

/-- The lines of the owner are counted, or a command fails. -/
theorem foldlM_countOwnedRulesIn_cases
    (fails : Nat → Bool)
    (locations : List IptablesLocation)
    (count : Nat)
    (before : Shell) :
    (∃ error after,
      locations.foldlM (plan.countOwnedRulesIn fails) count before =
          .error error after ∧
        after.host = before.host ∧
        ∃ number,
          before.issued ≤ number ∧
            number < before.issued + locations.length ∧
            fails number = true) ∨
      NoneFails fails before.issued locations.length ∧
        locations.foldlM (plan.countOwnedRulesIn fails) count before =
          .ok (locations.foldl (plan.countLines before.host) count)
            { before with issued := before.issued + locations.length } := by
  induction locations generalizing count before with
  | nil =>
      exact .inr ⟨.zero, rfl⟩
  | cons location locations inductionHypothesis =>
      rw [List.foldlM_cons]
      rcases listIptablesChain_cases fails location before with
        ⟨failed, error, isError⟩ | ⟨listed, isOk⟩
      · rw [countOwnedRulesIn, bind_of_error (bind_of_error isError)]
        exact .inl ⟨error, before.tick, rfl, rfl, before.issued,
          Nat.le_refl _, by simp, failed⟩
      · have counted :
            plan.countOwnedRulesIn fails count location before =
              .ok (plan.countLines before.host count location)
                before.tick :=
          bind_of_ok isOk
        rw [bind_of_ok counted]
        rcases inductionHypothesis
            (plan.countLines before.host count location) before.tick with
          ⟨error, after, isError, sameHost, number, lower, upper, failed⟩ |
          ⟨noneFails, isOk⟩
        · refine
            .inl ⟨error, after, isError, sameHost, number, ?_, ?_, failed⟩
          · exact Nat.le_of_succ_le lower
          · rw [Shell.tick_issued] at upper
            rw [List.length_cons]
            omega
        · refine .inr ⟨.cons listed noneFails, isOk.trans ?_⟩
          simp only [Shell.tick, List.foldl_cons, List.length_cons]
          rw [Nat.add_right_comm, Nat.add_assoc]

/-- The number of commands that only look at the rules. -/
def lookups : Nat :=
  plan.rules.length + ownedRuleLocations.length

/-- What reconciling comes to. -/
inductive Reconciles
    (fails : Nat → Bool)
    (before : Shell) :
    EStateM.Result String Shell Unit → Prop where
  | notLookedUp
      {error : String}
      {after : Shell}
      {number : Nat} :
      after.host = before.host →
      before.issued ≤ number →
      number < before.issued + plan.lookups →
      fails number = true →
      Reconciles fails before (.error error after)
  | inPlace :
      plan.inPlace before.host = true →
      Reconciles fails before
        (.ok () { before with issued := before.issued + plan.lookups })
  | deletes
      {result : EStateM.Result String Shell Unit} :
      NoneFails fails before.issued plan.lookups →
      plan.inPlace before.host = false →
      result =
        (discard (plan.deleteOwnedRules fails) : Command Unit)
          { before with issued := before.issued + plan.lookups } →
      Reconciles fails before result

theorem reconcile_reconciles (fails : Nat → Bool) (before : Shell) :
    plan.Reconciles fails before (plan.reconcile fails before) := by
  unfold reconcile
  rcases mapM_exists?_cases fails plan.rules before with
    ⟨error, after, isError, sameHost, number, lower, upper, failed⟩ |
    ⟨noneChecked, checked⟩
  · rw [bind_of_error isError]
    refine .notLookedUp sameHost lower ?_ failed
    unfold lookups
    omega
  · rw [bind_of_ok checked]
    unfold countOwnedRules
    rcases plan.foldlM_countOwnedRulesIn_cases fails ownedRuleLocations 0
        { before with issued := before.issued + plan.rules.length } with
      ⟨error, after, isError, sameHost, number, lower, upper, failed⟩ |
      ⟨noneCounted, counted⟩
    · rw [bind_of_error isError]
      refine .notLookedUp sameHost ?_ ?_ failed
      · exact Nat.le_trans (Nat.le_add_right _ _) lower
      · dsimp only at upper
        unfold lookups
        omega
    · have condition :
          (!(plan.rules.map fun rule => rule.present before.host).all id ||
              decide
                (plan.ownedCount before.host ≠ plan.rules.length)) =
            !plan.inPlace before.host := by
        rw [GatewayPlan.inPlace, Bool.not_and, List.all_map, decide_not]
        rfl
      rw [bind_of_ok counted, Nat.add_assoc]
      change
        plan.Reconciles fails before
          ((if (!(plan.rules.map fun rule =>
                rule.present before.host).all id ||
              decide
                (plan.ownedCount before.host ≠ plan.rules.length)) = true then
            discard (plan.deleteOwnedRules fails)
          else pure ())
            { before with issued := before.issued + plan.lookups })
      rw [condition]
      cases isInPlace : plan.inPlace before.host with
      | true =>
          exact .inPlace isInPlace
      | false =>
          exact .deletes (noneChecked.append noneCounted) isInPlace rfl

end GatewayPlan

/-- Everything but the chains. -/
def Shell.bookkeeping (shell : Shell) : GatewayHost :=
  { shell.host with chains := fun _ => [] }

/-- Where everything but the chains is the same, the hosts differ in them. -/
theorem GatewayHost.SameButChains.of_bookkeeping
    {before after : Shell}
    (same : after.bookkeeping = before.bookkeeping) :
    before.host.SameButChains after.host := by
  cases before
  cases after
  simp_all [Shell.bookkeeping, GatewayHost.SameButChains,
    GatewayHost.ext_iff]

/-- A command that changes chains only preserves the rest. -/
theorem issue_preserves
    (fails : Nat → Bool)
    (failure : String)
    {effect : GatewayHost → GatewayHost}
    (chainsOnly : ∀ host : GatewayHost, host.SameButChains (effect host)) :
    Preserves Shell.bookkeeping (issue fails failure effect) := by
  intro before
  cases failed : fails before.issued with
  | true =>
      rw [issue_of_fails failed]
      rfl
  | false =>
      rw [issue_of_not_fails failed]
      simp only [reached_ok, Shell.bookkeeping]
      rw [chainsOnly before.host]

theorem issue_id_preserves (fails : Nat → Bool) (failure : String) :
    Preserves Shell.bookkeeping (issue fails failure id) :=
  issue_preserves fails failure fun host => .refl host

theorem issue_setChain_preserves
    (fails : Nat → Bool)
    (failure : String)
    (location : IptablesLocation)
    (rules : GatewayHost → List RuleSpec) :
    Preserves Shell.bookkeeping
      (issue fails failure fun host => host.setChain location (rules host)) :=
  issue_preserves fails failure fun host => .setChain host location _

theorem examine_preserves
    {Value : Type}
    (value : GatewayHost → Value) :
    Preserves Shell.bookkeeping (examine value) :=
  fun _ => rfl

theorem listIptablesChain_preserves
    (fails : Nat → Bool)
    (location : IptablesLocation) :
    Preserves Shell.bookkeeping (listIptablesChain fails location) :=
  (issue_id_preserves fails _).bind fun _ => examine_preserves _

namespace IptablesRule

theorem exists?_preserves (fails : Nat → Bool) (rule : IptablesRule) :
    Preserves Shell.bookkeeping (rule.exists? fails) :=
  (issue_id_preserves fails _).bind fun _ => examine_preserves _

theorem deleteOnce_preserves (fails : Nat → Bool) (rule : IptablesRule) :
    Preserves Shell.bookkeeping (rule.deleteOnce fails) := by
  refine (examine_preserves _).bind fun isPresent => ?_
  cases isPresent with
  | true =>
      exact issue_setChain_preserves fails _ rule.location fun host =>
        (host.chains rule.location).erase rule.spec
  | false =>
      exact (issue_id_preserves fails _).bind fun _ => .throw _

end IptablesRule

namespace GatewayPlan

variable (plan : GatewayPlan)

theorem deleteFirstOwnedRule_preserves
    (fails : Nat → Bool)
    (location : IptablesLocation) :
    Preserves Shell.bookkeeping
      (plan.deleteFirstOwnedRule fails location) := by
  refine (listIptablesChain_preserves fails location).bind fun lines => ?_
  cases plan.ownedRuleNumber 0 lines with
  | none =>
      exact .pure _
  | some ruleNumber =>
      exact (issue_setChain_preserves fails _ _ _).bind fun _ => .pure _

theorem deleteOwnedRulesIn_preserves
    (fails : Nat → Bool)
    (location : IptablesLocation)
    (allowed : Nat) :
    Preserves Shell.bookkeeping
      (plan.deleteOwnedRulesIn fails location allowed) := by
  induction allowed with
  | zero =>
      refine
        (plan.deleteFirstOwnedRule_preserves fails location).bind
          fun wasDeleted => ?_
      cases wasDeleted with
      | true => exact .throw _
      | false => exact .pure _
  | succ allowed inductionHypothesis =>
      refine
        (plan.deleteFirstOwnedRule_preserves fails location).bind
          fun wasDeleted => ?_
      cases wasDeleted with
      | true => exact inductionHypothesis
      | false => exact .pure _

theorem deleteOwnedRules_preserves (fails : Nat → Bool) :
    Preserves Shell.bookkeeping (plan.deleteOwnedRules fails) :=
  (Preserves.foldlM
      (fun allowed location =>
        plan.deleteOwnedRulesIn_preserves fails location allowed) _ _).bind
    fun _ => .pure _

theorem reconcile_preserves (fails : Nat → Bool) :
    Preserves Shell.bookkeeping (plan.reconcile fails) := by
  refine
    (Preserves.mapM (IptablesRule.exists?_preserves fails) _).bind
      fun present => ?_
  refine
    (Preserves.foldlM
      (fun count location =>
        (listIptablesChain_preserves fails location).bind fun _ =>
          .pure _) _ _).bind fun count => ?_
  split
  · exact (plan.deleteOwnedRules_preserves fails).bind fun _ => .pure _
  · exact .pure _

/-- What changing the system comes to. -/
inductive ChangesSystem
    (fails : Nat → Bool)
    (forwardingBefore : String)
    (before : Shell) :
    EStateM.Result String Shell (Except String Unit × List IptablesRule) →
      Prop where
  | notReconciled
      {error : String}
      {after : Shell} :
      plan.reconcile fails before = .error error after →
      ChangesSystem fails forwardingBefore before (.ok (.error error, []) after)
  /-- A rule could not be added, or forwarding could not be enabled. -/
  | interrupted
      {error : String}
      {new : List IptablesRule}
      {middle after : Shell}
      {number : Nat} :
      plan.reconcile fails before = .ok () middle →
      after.host = new.foldl GatewayHost.addRule middle.host →
      middle.host.Absent new →
      new <+: middle.host.missing plan.rules →
      number < after.issued →
      fails number = true →
      ChangesSystem fails forwardingBefore before
        (.ok (.error error, new) after)
  | done
      {new : List IptablesRule}
      {middle after : Shell} :
      plan.reconcile fails before = .ok () middle →
      after.host =
        { (middle.host.missing plan.rules).foldl GatewayHost.addRule
            middle.host with
          ipForward :=
            if forwardingBefore ≠ "1" then "1" else middle.host.ipForward } →
      ChangesSystem fails forwardingBefore before (.ok (.ok (), new) after)

theorem changeSystem_changes
    (fails : Nat → Bool)
    (forwardingBefore : String)
    (before : Shell) :
    plan.ChangesSystem fails forwardingBefore before
      (plan.changeSystem fails forwardingBefore before) := by
  unfold changeSystem
  cases reconciled : plan.reconcile fails before with
  | error error after =>
      exact .notReconciled reconciled
  | ok _ middle =>
      obtain ⟨result, new, after, isOk, isHost, absent, isPrefix, isMissing,
        blamed⟩ := addRules_adds fails plan.rules [] middle
      rw [List.nil_append] at isOk
      dsimp only
      rw [isOk]
      cases result with
      | error error =>
          obtain ⟨number, bound, failed⟩ := blamed error rfl
          exact .interrupted reconciled isHost absent isPrefix bound failed
      | ok =>
          have sameForwarding :
              after.host.ipForward = middle.host.ipForward := by
            rw [isHost,
              GatewayHost.SameButChains.foldl_addRule middle.host new]
          rw [isMissing rfl] at isHost
          dsimp only
          split
          · rename_i notForwarding
            cases failed : fails after.issued with
            | true =>
                rw [writeIpForward, issue_of_fails failed]
                rw [← isMissing rfl] at isHost
                exact .interrupted reconciled isHost absent isPrefix
                  (Nat.lt_succ_self _) failed
            | false =>
                rw [writeIpForward, issue_of_not_fails failed]
                refine .done reconciled ?_
                rw [if_pos notForwarding, isHost]
          · rename_i forwarding
            refine .done reconciled ?_
            rw [if_neg forwarding, ← sameForwarding, ← isHost]

end GatewayPlan

@[simp] theorem ignoreFailure_eq (command : Command Unit) (shell : Shell) :
    GatewayPlan.ignoreFailure command shell =
      .ok () (reached (command shell)) :=
  rfl

theorem ignoreFailure_preserves
    {View : Type}
    {view : Shell → View}
    {command : Command Unit}
    (preserves : Preserves view command) :
    Preserves view (GatewayPlan.ignoreFailure command) :=
  preserves

/-- Deleting rules never fails. -/
theorem deleteRules_ok
    (fails : Nat → Bool)
    (rules : List IptablesRule)
    (before : Shell) :
    ∃ after, GatewayPlan.deleteRules fails rules before = .ok () after := by
  unfold GatewayPlan.deleteRules
  induction rules generalizing before with
  | nil =>
      exact ⟨before, rfl⟩
  | cons rule rules inductionHypothesis =>
      rw [List.forM_cons, bind_of_ok (ignoreFailure_eq _ _)]
      exact inductionHypothesis _

/-- Deleting rules changes the chains only. -/
theorem deleteRules_sameButChains
    {fails : Nat → Bool}
    {rules : List IptablesRule}
    {before after : Shell}
    (deleted : GatewayPlan.deleteRules fails rules before = .ok () after) :
    before.host.SameButChains after.host := by
  have preserved :=
    Preserves.forM
      (fun rule : IptablesRule =>
        ignoreFailure_preserves (rule.deleteOnce_preserves fails))
      rules before
  rw [GatewayPlan.deleteRules] at deleted
  rw [deleted] at preserved
  exact .of_bookkeeping preserved

/-- Deleting a rule that was just added takes it away again. -/
theorem GatewayHost.erase_addRule
    {host : GatewayHost}
    {rule : IptablesRule}
    (absent : rule.present host = false) :
    (host.addRule rule).setChain rule.location
        (((host.addRule rule).chains rule.location).erase rule.spec) =
      host := by
  have notThere : rule.spec ∉ host.chains rule.location := by
    simpa [IptablesRule.present] using absent
  simp [addRule, List.erase_append_right _ notThere]

/-- Without failures, all rules that were added are deleted again. -/
theorem deleteRules_reverse
    {fails : Nat → Bool}
    {host : GatewayHost}
    {rules : List IptablesRule}
    {before : Shell}
    (absent : host.Absent rules)
    (isHost : before.host = rules.foldl GatewayHost.addRule host)
    (noFailures : ∀ number, before.issued ≤ number → fails number = false) :
    ∃ after,
      GatewayPlan.deleteRules fails rules.reverse before = .ok () after ∧
        after.host = host ∧
        before.issued ≤ after.issued := by
  unfold GatewayPlan.deleteRules
  induction rules generalizing host with
  | nil =>
      exact ⟨before, rfl, isHost, Nat.le_refl _⟩
  | cons rule rules inductionHypothesis =>
      obtain ⟨isAbsent, othersAbsent⟩ := absent
      obtain ⟨middle, isOk, isMiddle, later⟩ :=
        inductionHypothesis othersAbsent isHost
      have deleted :
          rule.deleteOnce fails middle =
            .ok () { host := host, issued := middle.issued + 1 } := by
        have isPresent : rule.present middle.host = true := by
          rw [isMiddle]
          simp [IptablesRule.present, GatewayHost.addRule]
        unfold IptablesRule.deleteOnce
        rw [bind_of_ok (examine_eq _ _), isPresent, if_pos rfl,
          issue_of_not_fails (noFailures _ later), isMiddle,
          GatewayHost.erase_addRule isAbsent]
      refine ⟨{ host := host, issued := middle.issued + 1 }, ?_, rfl,
        Nat.le_succ_of_le later⟩
      rw [List.reverse_cons, List.forM_append, bind_of_ok isOk,
        List.forM_cons, bind_of_ok (ignoreFailure_eq _ _), deleted]
      rfl

namespace GatewayPlan

variable (plan : GatewayPlan)

/-- The host with the plan's marker removed. -/
def withoutMarker (host : GatewayHost) : GatewayHost :=
  { host with markers := host.markers.erase plan.tunnelInterface }

/-- The host after the first step of undoing that is not about rules. -/
def unmarked (markerCreated : Bool) (host : GatewayHost) : GatewayHost :=
  if markerCreated then plan.withoutMarker host else host

/-- What undoing comes to, once the added rules were deleted. -/
inductive RollsBack
    (fails : Nat → Bool)
    (forwardingBefore : String)
    (markerCreated originalCreated : Bool)
    (deleted : Shell) :
    GatewayHost → Prop where
  | kept :
      originalCreated = false ∨
        (plan.unmarked markerCreated deleted.host).markers.entries ≠ [] →
      RollsBack fails forwardingBefore markerCreated originalCreated deleted
        (plan.unmarked markerCreated deleted.host)
  | forgotten
      {ipForward : String} :
      originalCreated = true →
      (plan.unmarked markerCreated deleted.host).markers.entries = [] →
      ipForward = forwardingBefore ∨
        fails deleted.issued = true ∧ ipForward = deleted.host.ipForward →
      RollsBack fails forwardingBefore markerCreated originalCreated deleted
        { plan.unmarked markerCreated deleted.host with
          ipForward, originalForwarding := none }

/-- Undoing deletes the added rules first. -/
theorem rollBack_rollsBack
    {fails : Nat → Bool}
    {forwardingBefore : String}
    {added : List IptablesRule}
    {markerCreated originalCreated : Bool}
    {before deleted : Shell}
    (isDeleted : deleteRules fails added.reverse before = .ok () deleted) :
    ∃ after,
      plan.rollBack fails forwardingBefore added markerCreated
          originalCreated before =
          .ok () after ∧
        plan.RollsBack fails forwardingBefore markerCreated originalCreated
          deleted after.host := by
  let middle : Shell :=
    { deleted with host := plan.unmarked markerCreated deleted.host }
  have isMiddle :
      plan.rollBack fails forwardingBefore added markerCreated
          originalCreated before =
        (if originalCreated then
          forgetOriginalForwarding fails forwardingBefore
        else
          pure ()) middle := by
    unfold rollBack
    rw [bind_of_ok isDeleted]
    cases markerCreated <;> cases originalCreated <;> rfl
  have sameForwarding : middle.host.ipForward = deleted.host.ipForward := by
    cases markerCreated <;> rfl
  rw [isMiddle]
  cases originalCreated with
  | false =>
      exact ⟨middle, rfl, .kept (.inl rfl)⟩
  | true =>
      rw [if_pos rfl]
      unfold forgetOriginalForwarding hasGatewayMarkers
      rw [bind_of_ok (examine_eq _ _)]
      by_cases noMarkers : middle.host.markers.entries = []
      · rw [noMarkers, if_neg (by simp), bind_of_ok (ignoreFailure_eq _ _)]
        refine ⟨_, rfl, ?_⟩
        cases failed : fails middle.issued with
        | true =>
            rw [writeIpForward, issue_of_fails failed]
            exact .forgotten rfl noMarkers (.inr ⟨failed, sameForwarding⟩)
        | false =>
            rw [writeIpForward, issue_of_not_fails failed]
            exact .forgotten rfl noMarkers (.inl rfl)
      · rw [if_pos (by simpa using noMarkers)]
        exact ⟨middle, rfl, .kept (.inr noMarkers)⟩

/-- What must be so for an `apply` to begin. -/
def Ready (host : GatewayHost) : Prop :=
  host.isRoot = true ∧
    (host.interfaceMtu plan.lanInterface).isSome = true ∧
    host.interfaceMtu plan.tunnelInterface = some plan.tunnelMtu ∧
    host.namespaceId.isSome = true

instance (host : GatewayHost) : Decidable (plan.Ready host) :=
  inferInstanceAs (Decidable (_ ∧ _ ∧ _ ∧ _))

/-- The host when the value and the marker have been recorded. -/
def recorded (namespaceId : String) (host : GatewayHost) : GatewayHost :=
  { host with
    originalForwarding :=
      some (host.originalForwarding.getD (host.ipForward ++ "\n"))
    markers :=
      host.markers.insert plan.tunnelInterface
        (plan.markerContents namespaceId) }

theorem ensureLinuxRoot_ok {shell : Shell} (isRoot : shell.host.isRoot = true) :
    ensureLinuxRoot shell = .ok () shell := by
  unfold ensureLinuxRoot
  rw [bind_of_ok (examine_eq _ _), isRoot]
  rfl

theorem ensureLinuxRoot_error
    {shell : Shell}
    (notRoot : shell.host.isRoot ≠ true) :
    ∃ error, ensureLinuxRoot shell = .error error shell := by
  unfold ensureLinuxRoot
  rw [bind_of_ok (examine_eq _ _), eq_false_of_ne_true notRoot]
  exact ⟨_, rfl⟩

theorem statePaths_ok
    {namespaceId : String}
    {shell : Shell}
    (isNamespace : shell.host.namespaceId = some namespaceId) :
    statePaths shell = .ok namespaceId shell := by
  unfold statePaths
  rw [bind_of_ok (examine_eq _ _), isNamespace]
  rfl

theorem statePaths_error
    {shell : Shell}
    (noNamespace : shell.host.namespaceId = none) :
    ∃ error, statePaths shell = .error error shell := by
  unfold statePaths
  rw [bind_of_ok (examine_eq _ _), noNamespace]
  exact ⟨_, rfl⟩

theorem preflightInterfaces_cases (shell : Shell) :
    ((shell.host.interfaceMtu plan.lanInterface).isSome = true ∧
        shell.host.interfaceMtu plan.tunnelInterface = some plan.tunnelMtu ∧
        plan.preflightInterfaces shell = .ok () shell) ∨
      (¬ ((shell.host.interfaceMtu plan.lanInterface).isSome = true ∧
          shell.host.interfaceMtu plan.tunnelInterface =
            some plan.tunnelMtu) ∧
        ∃ error, plan.preflightInterfaces shell = .error error shell) := by
  unfold preflightInterfaces
  simp only [List.forM_cons, List.forM_nil, bind_assoc]
  rw [bind_of_ok (examine_eq _ _)]
  cases lan : shell.host.interfaceMtu plan.lanInterface with
  | none =>
      refine .inr ⟨fun isReady => ?_, _, rfl⟩
      exact absurd isReady.1 Bool.false_ne_true
  | some lanMtu =>
      rw [Option.isNone_some, if_neg Bool.false_ne_true, pure_bind,
        bind_of_ok (examine_eq _ _)]
      cases tunnel : shell.host.interfaceMtu plan.tunnelInterface with
      | none =>
          exact .inr ⟨fun isReady => absurd isReady.2 nofun, _, rfl⟩
      | some tunnelMtu =>
          rw [Option.isNone_some, if_neg Bool.false_ne_true, pure_bind,
            pure_bind, bind_of_ok (examine_eq _ _), tunnel]
          dsimp only
          by_cases isExpected : tunnelMtu = plan.tunnelMtu
          · rw [if_neg (not_not_intro isExpected)]
            exact .inl ⟨rfl, congrArg some isExpected, rfl⟩
          · rw [if_pos isExpected]
            exact .inr
              ⟨fun isReady => isExpected (Option.some.inj isReady.2), _,
                rfl⟩

/-- All that applying a plan can do. -/
inductive Applies
    (fails : Nat → Bool)
    (before : GatewayHost) :
    Except String Unit × GatewayHost → Prop where
  | refused
      {error : String} :
      ¬ plan.Ready before ∨ fails 0 = true →
      Applies fails before (.error error, before)
  | applied
      {namespaceId : String}
      {added : List IptablesRule}
      {after : Shell} :
      plan.Ready before →
      before.namespaceId = some namespaceId →
      fails 0 = false →
      plan.changeSystem fails before.ipForward
          { host := plan.recorded namespaceId before, issued := 1 } =
        .ok (.ok (), added) after →
      Applies fails before (.ok (), after.host)
  | rolledBack
      {namespaceId error failure : String}
      {added : List IptablesRule}
      {middle deleted : Shell}
      {after : GatewayHost} :
      plan.Ready before →
      before.namespaceId = some namespaceId →
      fails 0 = false →
      plan.changeSystem fails before.ipForward
          { host := plan.recorded namespaceId before, issued := 1 } =
        .ok (.error failure, added) middle →
      deleteRules fails added.reverse middle = .ok () deleted →
      plan.RollsBack fails before.ipForward
        (before.markers.lookup plan.tunnelInterface).isNone
        before.originalForwarding.isNone deleted after →
      Applies fails before (.error error, after)

theorem recordOriginalForwarding_eq (value : String) (shell : Shell) :
    recordOriginalForwarding value shell =
      .ok shell.host.originalForwarding.isNone
        { shell with
          host :=
            { shell.host with
              originalForwarding :=
                some
                  (shell.host.originalForwarding.getD (value ++ "\n")) } } := by
  obtain ⟨host, issued⟩ := shell
  unfold recordOriginalForwarding
  rw [bind_of_ok (examine_eq _ _)]
  dsimp only
  cases original : host.originalForwarding with
  | some contents =>
      have same : { host with originalForwarding := some contents } = host := by
        rw [← original]
      rw [Option.isSome_some, if_pos rfl, Option.getD_some, same]
      rfl
  | none =>
      rfl

theorem apply_applies (fails : Nat → Bool) (before : GatewayHost) :
    plan.Applies fails before (before.run (plan.apply fails)) := by
  rw [GatewayHost.run_eq_ended, apply]
  by_cases isRoot : before.isRoot = true
  · rw [bind_of_ok (ensureLinuxRoot_ok isRoot)]
    rcases plan.preflightInterfaces_cases { host := before, issued := 0 } with
      ⟨lan, tunnel, isOk⟩ | ⟨notReady, error, isError⟩
    · rw [bind_of_ok isOk]
      cases failed : fails 0 with
      | true =>
          rw [ensureIptablesAvailable, bind_of_error (issue_of_fails failed)]
          exact .refused (.inr failed)
      | false =>
          rw [ensureIptablesAvailable,
            bind_of_ok (issue_of_not_fails failed)]
          dsimp only [id]
          cases isNamespace : before.namespaceId with
          | none =>
              obtain ⟨error, isError⟩ :=
                @statePaths_error { host := before, issued := 1 } isNamespace
              rw [bind_of_error isError]
              refine .refused (.inl fun isReady => ?_)
              have isSome := isReady.2.2.2
              rw [isNamespace] at isSome
              cases isSome
          | some namespaceId =>
              have isReady : plan.Ready before :=
                ⟨isRoot, lan, tunnel, by rw [isNamespace]; rfl⟩
              rw [bind_of_ok
                  (@statePaths_ok namespaceId { host := before, issued := 1 }
                    isNamespace),
                readIpForward, bind_of_ok (examine_eq _ _),
                bind_of_ok (recordOriginalForwarding_eq _ _), recordGateway,
                bind_assoc, bind_of_ok (examine_eq _ _), bind_assoc,
                bind_of_ok (modifyHost_eq _ _), pure_bind]
              change
                plan.Applies fails before
                  (GatewayHost.ended
                    ((plan.changeSystem fails before.ipForward >>= _)
                      { host := plan.recorded namespaceId before
                        issued := 1 }))
              cases changed :
                  plan.changeSystem fails before.ipForward
                    { host := plan.recorded namespaceId before
                      issued := 1 } with
              | error error after =>
                  have changes :=
                    plan.changeSystem_changes fails before.ipForward
                      { host := plan.recorded namespaceId before
                        issued := 1 }
                  rw [changed] at changes
                  cases changes
              | ok outcome middle =>
                  obtain ⟨result, added⟩ := outcome
                  rw [bind_of_ok changed]
                  cases result with
                  | ok =>
                      exact .applied isReady isNamespace failed changed
                  | error failure =>
                      obtain ⟨deleted, isDeleted⟩ :=
                        deleteRules_ok fails added.reverse middle
                      obtain ⟨after, isAfter, rollsBack⟩ :=
                        plan.rollBack_rollsBack isDeleted
                      dsimp only
                      rw [bind_of_ok isAfter]
                      exact .rolledBack isReady isNamespace failed changed
                        isDeleted rollsBack
    · rw [bind_of_error isError]
      exact .refused (.inl fun isReady => notReady ⟨isReady.2.1, isReady.2.2.1⟩)
  · obtain ⟨error, isError⟩ :=
      @ensureLinuxRoot_error { host := before, issued := 0 } isRoot
    rw [bind_of_error isError]
    exact .refused (.inl fun isReady => isRoot isReady.1)

/-- The host when the rules and the marker of a plan are gone. -/
def withdrawn (host : GatewayHost) : GatewayHost :=
  plan.withoutMarker (plan.withoutOwned host ownedRuleLocations)

/-- A recorded value that is written back. -/
abbrev IsForwarding (value : String) : Prop :=
  value = "0" ∨ value = "1"

/-- All that removing a plan can do. -/
inductive Removes
    (fails : Nat → Bool)
    (before : GatewayHost) :
    Except String Unit × GatewayHost → Prop where
  | notDeleted
      {error : String}
      {after : GatewayHost} :
      before.SameButChains after →
      (before.isRoot = true → before.namespaceId.isSome = true →
        fails 0 = false →
          ∃ failure shell,
            plan.deleteOwnedRules fails { host := before, issued := 1 } =
              .error failure shell) →
      Removes fails before (.error error, after)
  | notRestored
      {error contents : String}
      {number : Nat} :
      before.originalForwarding = some contents →
      (plan.withdrawn before).markers.entries = [] →
      IsForwarding (trim contents) →
      fails number = true →
      Removes fails before (.error error, plan.withdrawn before)
  | kept :
      before.originalForwarding = none ∨
        (plan.withdrawn before).markers.entries ≠ [] →
      Removes fails before (.ok (), plan.withdrawn before)
  | restored
      {contents : String} :
      before.originalForwarding = some contents →
      (plan.withdrawn before).markers.entries = [] →
      Removes fails before
        (.ok (),
          { plan.withdrawn before with
            ipForward :=
              if IsForwarding (trim contents) then
                trim contents
              else
                before.ipForward
            originalForwarding := none })

/-- What restoring the value after the removal comes to. -/
theorem restoreForwarding_removes
    {fails : Nat → Bool}
    {before : GatewayHost}
    {shell : Shell}
    (isWithdrawn : shell.host = plan.withdrawn before) :
    plan.Removes fails before
      (match restoreForwarding fails shell with
      | .ok () shell => (.ok (), shell.host)
      | .error error shell => (.error error, shell.host)) := by
  have sameOriginal :
      shell.host.originalForwarding = before.originalForwarding := by
    rw [isWithdrawn]
    rfl
  unfold restoreForwarding hasGatewayMarkers
  rw [bind_of_ok (examine_eq _ _), sameOriginal]
  cases original : before.originalForwarding with
  | none =>
      dsimp only [pure, EStateM.pure]
      rw [isWithdrawn]
      exact .kept (.inl original)
  | some contents =>
      dsimp only
      rw [bind_of_ok (examine_eq _ _), isWithdrawn]
      by_cases noMarkers : (plan.withdrawn before).markers.entries = []
      · rw [noMarkers, if_pos (by simp)]
        by_cases isForwarding : IsForwarding (trim contents)
        · rw [if_pos isForwarding, writeIpForward]
          cases failed : fails shell.issued with
          | true =>
              rw [bind_of_error (issue_of_fails failed)]
              dsimp only [Shell.tick]
              rw [isWithdrawn]
              exact .notRestored original noMarkers isForwarding failed
          | false =>
              rw [bind_of_ok (issue_of_not_fails failed)]
              have restored :=
                @Removes.restored plan fails before contents original noMarkers
              rw [if_pos isForwarding, ← isWithdrawn] at restored
              exact restored
        · rw [if_neg isForwarding]
          have restored :=
            @Removes.restored plan fails before contents original noMarkers
          rw [if_neg isForwarding] at restored
          dsimp only [removeOriginalForwarding, modifyHost]
          rw [isWithdrawn]
          exact restored
      · rw [if_neg (by simpa using noMarkers)]
        dsimp only [pure, EStateM.pure]
        rw [isWithdrawn]
        exact .kept (.inr noMarkers)

theorem remove_removes (fails : Nat → Bool) (before : GatewayHost) :
    plan.Removes fails before (before.run (plan.remove fails)) := by
  rw [GatewayHost.run_eq_ended, remove]
  by_cases isRoot : before.isRoot = true
  · rw [bind_of_ok (ensureLinuxRoot_ok isRoot)]
    cases failed : fails 0 with
    | true =>
        rw [ensureIptablesAvailable, bind_of_error (issue_of_fails failed)]
        refine .notDeleted (.refl before) fun _ _ succeeded => ?_
        rw [failed] at succeeded
        cases succeeded
    | false =>
        rw [ensureIptablesAvailable,
          bind_of_ok (issue_of_not_fails failed)]
        dsimp only [id]
        cases isNamespace : before.namespaceId with
        | none =>
            obtain ⟨error, isError⟩ :=
              @statePaths_error { host := before, issued := 1 } isNamespace
            rw [bind_of_error (discard_of_error isError)]
            refine .notDeleted (.refl before) fun _ isNamespace' _ => ?_
            rw [isNamespace] at isNamespace'
            cases isNamespace'
        | some namespaceId =>
            rw [bind_of_ok
              (discard_of_ok
                (@statePaths_ok namespaceId { host := before, issued := 1 }
                  isNamespace))]
            have preserved :=
              plan.deleteOwnedRules_preserves fails
                { host := before, issued := 1 }
            cases deleted :
                plan.deleteOwnedRules fails
                  { host := before, issued := 1 } with
            | error error after =>
                rw [bind_of_error (discard_of_error deleted)]
                rw [deleted] at preserved
                exact .notDeleted (.of_bookkeeping preserved)
                  fun _ _ _ => ⟨error, after, deleted⟩
            | ok removed after =>
                rw [bind_of_ok (discard_of_ok deleted), removeMarker,
                  bind_of_ok (modifyHost_eq _ _)]
                refine plan.restoreForwarding_removes ?_
                rw [plan.deleteOwnedRules_ok deleted]
                rfl
  · obtain ⟨error, isError⟩ :=
      @ensureLinuxRoot_error { host := before, issued := 0 } isRoot
    rw [bind_of_error isError]
    exact .notDeleted (.refl before) fun isRoot' _ _ => absurd isRoot' isRoot

end GatewayPlan

namespace GatewayPlan

/-- The rules of the owner in a chain. -/
def ownedIn
    (plan : GatewayPlan)
    (host : GatewayHost)
    (location : IptablesLocation) :
    List RuleSpec :=
  (host.chains location).filter (plan.owns host location)

variable {plan : GatewayPlan} {before after : GatewayHost}

/-- Removing the first rule of the owner leaves one less. -/
theorem length_filter_eraseP
    {specs : List RuleSpec}
    {owned : RuleSpec → Bool}
    (someOwned : ∃ spec ∈ specs, owned spec = true) :
    ((specs.eraseP owned).filter owned).length + 1 =
      (specs.filter owned).length := by
  induction specs with
  | nil =>
      obtain ⟨_, member, _⟩ := someOwned
      cases member
  | cons spec specs inductionHypothesis =>
      by_cases isOwned : owned spec = true
      · simp [isOwned]
      · have later : ∃ other ∈ specs, owned other = true := by
          obtain ⟨other, member, isOther⟩ := someOwned
          rcases List.mem_cons.mp member with rfl | inRest
          · exact absurd isOther isOwned
          · exact ⟨other, inRest, isOther⟩
        rw [List.eraseP_cons, eq_false_of_ne_true isOwned, cond_false,
          List.filter_cons_of_neg isOwned, List.filter_cons_of_neg isOwned]
        exact inductionHypothesis later

/-- A chain with no more rules of the owner than allowed is cleaned. -/
theorem deleteOwnedRulesIn_succeeds
    {fails : Nat → Bool}
    {location : IptablesLocation}
    {allowed : Nat}
    {before : Shell}
    (noFailure : ∀ number, fails number = false)
    (bounded : (plan.ownedIn before.host location).length ≤ allowed) :
    ∃ after,
      plan.deleteOwnedRulesIn fails location allowed before =
        .ok (allowed - (plan.ownedIn before.host location).length) after := by
  have deletes := plan.deleteFirstOwnedRule_deletes fails location before
  have noneOwned :
      (∀ spec ∈ before.host.chains location,
        ¬ plan.owns before.host location spec = true) →
      plan.ownedIn before.host location = [] :=
    List.filter_eq_nil_iff.mpr
  induction allowed generalizing before with
  | zero =>
      generalize first :
        plan.deleteFirstOwnedRule fails location before = outcome at deletes
      cases deletes with
      | notListed failed =>
          rw [noFailure] at failed
          cases failed
      | noRule _ none =>
          rw [noneOwned none]
          exact ⟨before.tick, bind_of_ok first⟩
      | notDeleted _ _ failed =>
          rw [noFailure] at failed
          cases failed
      | deleted someOwned =>
          obtain ⟨spec, member, owned⟩ := someOwned
          have isOwned : spec ∈ plan.ownedIn before.host location :=
            List.mem_filter.mpr ⟨member, owned⟩
          rw [List.length_eq_zero_iff.mp (Nat.le_zero.mp bounded)] at isOwned
          cases isOwned
  | succ allowed inductionHypothesis =>
      generalize first :
        plan.deleteFirstOwnedRule fails location before = outcome at deletes
      cases deletes with
      | notListed failed =>
          rw [noFailure] at failed
          cases failed
      | noRule _ none =>
          rw [noneOwned none]
          exact ⟨before.tick, bind_of_ok first⟩
      | notDeleted _ _ failed =>
          rw [noFailure] at failed
          cases failed
      | deleted someOwned =>
          let middle : Shell :=
            { host :=
                before.host.setChain location
                  ((before.host.chains location).eraseP
                    (plan.owns before.host location))
              issued := before.issued + 2 }
          have oneLess :
              (plan.ownedIn middle.host location).length + 1 =
                (plan.ownedIn before.host location).length := by
            change
              ((Function.update before.host.chains location _ location).filter
                (plan.owns before.host location)).length + 1 = _
            rw [Function.update_self]
            exact length_filter_eraseP someOwned
          obtain ⟨after, isAfter⟩ :=
            @inductionHypothesis middle (by omega)
              (plan.deleteFirstOwnedRule_deletes fails location middle)
              List.filter_eq_nil_iff.mpr
          refine ⟨after, ?_⟩
          rw [deleteOwnedRulesIn, bind_of_ok first, if_pos rfl,
            isAfter, ← oneLess, Nat.add_sub_add_right]

/-- Chains with no more rules of the owner than allowed are cleaned. -/
theorem foldlM_deleteOwnedRulesIn_succeeds
    {fails : Nat → Bool}
    {locations : List IptablesLocation}
    {allowed : Nat}
    {before : Shell}
    (noFailure : ∀ number, fails number = false)
    (bounded :
      (locations.map fun location =>
        (plan.ownedIn before.host location).length).sum ≤ allowed) :
    ∃ left after,
      locations.foldlM
          (fun allowed location =>
            plan.deleteOwnedRulesIn fails location allowed)
          allowed before =
        .ok left after := by
  induction locations generalizing allowed before with
  | nil =>
      exact ⟨allowed, before, rfl⟩
  | cons location locations inductionHypothesis =>
      rw [List.map_cons, List.sum_cons] at bounded
      obtain ⟨middle, isMiddle⟩ :=
        @deleteOwnedRulesIn_succeeds plan fails location allowed before
          noFailure (Nat.le_of_add_right_le bounded)
      have fewer :
          ∀ other,
            (plan.ownedIn middle.host other).length ≤
              (plan.ownedIn before.host other).length := by
        intro other
        rw [plan.deleteOwnedRulesIn_ok isMiddle]
        by_cases isSame : other = location
        · subst isSame
          simp only [ownedIn, GatewayHost.setChain_chains,
            Function.update_self]
          exact (List.filter_sublist.filter _).length_le
        · simp only [ownedIn, GatewayHost.setChain_chains,
            Function.update_of_ne isSame]
          exact Nat.le_refl _
      rw [List.foldlM_cons, bind_of_ok isMiddle]
      refine inductionHypothesis (Nat.le_trans ?_ (Nat.le_sub_of_add_le' bounded))
      exact List.sum_le_sum fun other _ => fewer other

/-- Where no command fails and few rules are the owner's, a removal succeeds. -/
theorem remove_succeeds
    {fails : Nat → Bool}
    (noFailure : ∀ number, fails number = false)
    (isRoot : before.isRoot = true)
    (isNamespace : before.namespaceId.isSome = true)
    (bounded :
      (ownedRuleLocations.map fun location =>
        (plan.ownedIn before location).length).sum ≤ 128) :
    (before.run (plan.remove fails)).1 = .ok () := by
  have removes := plan.remove_removes fails before
  generalize before.run (plan.remove fails) = outcome at removes
  cases removes with
  | notDeleted _ notDeleted =>
      obtain ⟨failure, shell, isError⟩ :=
        notDeleted isRoot isNamespace (noFailure 0)
      obtain ⟨left, middle, isOk⟩ :=
        @foldlM_deleteOwnedRulesIn_succeeds plan fails ownedRuleLocations 128
          { host := before, issued := 1 } noFailure bounded
      unfold deleteOwnedRules at isError
      rw [bind_of_ok isOk] at isError
      cases isError
  | notRestored _ _ _ failed =>
      rw [noFailure] at failed
      cases failed
  | kept =>
      rfl
  | restored =>
      rfl

end GatewayPlan

end HushWire

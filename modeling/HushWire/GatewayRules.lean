import HushWire.Forwarding

namespace HushWire

/-!
# The rules of a gateway

When a plan has been applied, its rules are there once each and its owner has
no others; what others have in the chains stays as it is, in its order.  The
check that nothing is to be done says the same: as the rules of a plan are
distinct, the owner has as many rules as the plan only if they are the plan's.
-/

namespace GatewayPlan

/-- A specification names its owner in a comment. -/
def OwnedBy (ownerTag : String) (spec : RuleSpec) : Prop :=
  ("--comment", ownerTag) ∈ spec.zip spec.tail

instance (ownerTag : String) (spec : RuleSpec) :
    Decidable (OwnedBy ownerTag spec) :=
  inferInstanceAs (Decidable (_ ∈ _))

/-- The rules of a list that belong into a chain. -/
def specsIn
    (rules : List IptablesRule)
    (location : IptablesLocation) :
    List RuleSpec :=
  (rules.filter fun rule => rule.location = location).map IptablesRule.spec

theorem mem_specsIn
    {rules : List IptablesRule}
    {location : IptablesLocation}
    {spec : RuleSpec} :
    spec ∈ specsIn rules location ↔
      ∃ rule ∈ rules, rule.location = location ∧ rule.spec = spec := by
  simp [specsIn, and_assoc]

/-- What holds of the rules of a plan. -/
structure Proper (plan : GatewayPlan) : Prop where
  five : plan.rules.length = 5
  located : ∀ rule ∈ plan.rules, rule.location ∈ ownedRuleLocations
  owned : ∀ rule ∈ plan.rules, OwnedBy plan.ownerTag rule.spec
  distinct : (plan.rules.map fun rule => (rule.location, rule.spec)).Nodup
  counted :
    (ownedRuleLocations.map fun location =>
      (specsIn plan.rules location).length).sum = 5

/-- The interfaces of an accepted gateway differ. -/
theorem interfaces_differ
    {decodeBase64 : String → Option Bytes}
    {config : Config}
    {gateway : GatewayConfig}
    (accepted : config.validate decodeBase64 = .ok ())
    (isGateway : config.gateway = some gateway) :
    Text.trim gateway.lanInterface ≠ config.interface.name := by
  simp only [Config.validate, Checked.bind_eq_ok, isGateway,
    GatewayConfig.validateOptional, GatewayConfig.validate,
    Checked.ensure_eq_ok, exists_const] at accepted
  obtain ⟨_, _, _, ⟨_, _, _, differ, _⟩, _⟩ := accepted
  exact differ

theorem fromConfig_proper
    {decodeBase64 : String → Option Bytes}
    {config : Config}
    {plan : GatewayPlan}
    (accepted : config.validate decodeBase64 = .ok ())
    (built : fromConfig config = .ok plan) :
    plan.Proper := by
  unfold fromConfig at built
  cases isGateway : config.gateway with
  | none =>
      rw [isGateway] at built
      cases built
  | some gateway =>
      have differ := interfaces_differ accepted isGateway
      rw [isGateway] at built
      dsimp only at built
      split at built
      · cases built
      · split at built
        · cases built
        · obtain rfl := Except.ok.inj built
          generalize Text.trim gateway.lanInterface = lan at differ
          generalize config.interface.name = tunnel at differ
          refine ⟨rfl, ?_, ?_, ?_, ?_⟩
          · simp [IptablesRule.location, ownedRuleLocations]
          · simp [OwnedBy, mssSpec, comment]
          · simp [IptablesRule.location, mssSpec, differ]
          · rfl

/-- In each chain the rules of a plan are distinct. -/
theorem Proper.nodup_specsIn
    {plan : GatewayPlan}
    (proper : plan.Proper)
    (location : IptablesLocation) :
    (specsIn plan.rules location).Nodup := by
  refine List.Nodup.map_on ?_ ((proper.distinct.of_map _).filter _)
  intro first firstMember second secondMember sameSpec
  rw [List.mem_filter, decide_eq_true_iff] at firstMember secondMember
  refine
    List.inj_on_of_nodup_map proper.distinct firstMember.1 secondMember.1 ?_
  rw [firstMember.2, secondMember.2, sameSpec]

end GatewayPlan

namespace GatewayHost

theorem addRule_chains
    (host : GatewayHost)
    (rule : IptablesRule)
    (location : IptablesLocation) :
    (host.addRule rule).chains location =
      host.chains location ++ GatewayPlan.specsIn [rule] location := by
  by_cases isThere : rule.location = location
  · subst isThere
    simp [addRule, GatewayPlan.specsIn]
  · simp [addRule, GatewayPlan.specsIn, isThere, Ne.symm isThere]

/-- Added rules stand behind those of their chain. -/
theorem foldl_addRule_chains
    (host : GatewayHost)
    (rules : List IptablesRule)
    (location : IptablesLocation) :
    (rules.foldl addRule host).chains location =
      host.chains location ++ GatewayPlan.specsIn rules location := by
  induction rules generalizing host with
  | nil =>
      simp [GatewayPlan.specsIn]
  | cons rule rules inductionHypothesis =>
      rw [List.foldl_cons, inductionHypothesis, addRule_chains,
        List.append_assoc]
      simp only [GatewayPlan.specsIn]
      rw [← List.map_append, ← List.filter_append, List.singleton_append]

/-- Nothing is missing where all rules are present. -/
theorem missing_eq_nil
    {host : GatewayHost}
    {rules : List IptablesRule}
    (present : ∀ rule ∈ rules, rule.present host = true) :
    host.missing rules = [] := by
  induction rules with
  | nil =>
      rfl
  | cons rule rules inductionHypothesis =>
      rw [missing, if_pos (present rule List.mem_cons_self)]
      exact
        inductionHypothesis fun other member =>
          present other (List.mem_cons_of_mem _ member)

/-- All of several distinct rules are missing where none is present. -/
theorem missing_eq_self
    {host : GatewayHost}
    {rules : List IptablesRule}
    (distinct : (rules.map fun rule => (rule.location, rule.spec)).Nodup)
    (absent : ∀ rule ∈ rules, rule.spec ∉ host.chains rule.location) :
    host.missing rules = rules := by
  induction rules generalizing host with
  | nil =>
      rfl
  | cons rule rules inductionHypothesis =>
      rw [List.map_cons, List.nodup_cons] at distinct
      have isAbsent : ¬ rule.present host = true := by
        simpa [IptablesRule.present] using absent rule List.mem_cons_self
      rw [missing, if_neg isAbsent, inductionHypothesis distinct.2]
      intro other member
      rw [addRule_chains, List.mem_append, not_or]
      refine ⟨absent other (List.mem_cons_of_mem _ member), ?_⟩
      rw [GatewayPlan.mem_specsIn]
      rintro ⟨_, isRule, sameLocation, sameSpec⟩
      obtain rfl := List.mem_singleton.mp isRule
      refine distinct.1 (List.mem_map.mpr ⟨other, member, ?_⟩)
      rw [sameLocation, sameSpec]

end GatewayHost

namespace GatewayPlan

/-- What `iptables -S` prints shows whose the rules are. -/
structure Recognises (plan : GatewayPlan) (host : GatewayHost) : Prop where
  policy :
    ∀ location ∈ ownedRuleLocations,
      iptablesLineHasOwner (host.policyLine location) plan.ownerTag = false
  rule :
    ∀ location ∈ ownedRuleLocations, ∀ spec,
      spec ∈ host.chains location ∨ spec ∈ specsIn plan.rules location →
        (plan.owns host location spec = true ↔
          OwnedBy plan.ownerTag spec)

/-- How rules are shown is the same on two hosts. -/
structure SameDisplay (first second : GatewayHost) : Prop where
  printed : second.printed = first.printed
  policies : second.policies = first.policies

/-- The chains of a host after a plan was applied to another. -/
structure Reconciled
    (plan : GatewayPlan)
    (before after : GatewayHost) :
    Prop where
  display : SameDisplay before after
  owned :
    ∀ location ∈ ownedRuleLocations,
      (plan.ownedIn after location).Perm (specsIn plan.rules location)
  foreign :
    ∀ location ∈ ownedRuleLocations,
      plan.foreign after location = plan.foreign before location
  others :
    ∀ location, location ∉ ownedRuleLocations →
      after.chains location = before.chains location

variable {plan : GatewayPlan} {before after : GatewayHost}

theorem SameDisplay.owns
    (same : SameDisplay before after)
    (location : IptablesLocation)
    (spec : RuleSpec) :
    plan.owns after location spec = plan.owns before location spec := by
  simp only [GatewayPlan.owns, GatewayHost.ruleLine, same.printed]

/-- The lines that are counted are those of the rules of the owner. -/
theorem ownedCount_eq
    (policy :
      ∀ location ∈ ownedRuleLocations,
        iptablesLineHasOwner (before.policyLine location) plan.ownerTag =
          false) :
    plan.ownedCount before =
      (ownedRuleLocations.map fun location =>
        (plan.ownedIn before location).length).sum := by
  have counted :
      ∀ location ∈ ownedRuleLocations,
        ((before.chainLines location).countP fun line =>
          iptablesLineHasOwner line plan.ownerTag) =
          (plan.ownedIn before location).length := by
    intro location isManaged
    rw [GatewayHost.chainLines, List.countP_cons,
      policy location isManaged, List.countP_map, ownedIn,
      List.countP_eq_length_filter]
    rfl
  simp only [ownedRuleLocations, List.forall_mem_cons] at counted
  obtain ⟨mangle, nat, filter, -⟩ := counted
  simp only [GatewayPlan.ownedCount, ownedRuleLocations, countLines,
    List.foldl_cons, List.foldl_nil, List.map_cons, List.map_nil,
    List.sum_cons, List.sum_nil, mangle, nat, filter]
  omega

theorem Recognises.ownedCount
    (recognises : plan.Recognises before) :
    plan.ownedCount before =
      (ownedRuleLocations.map fun location =>
        (plan.ownedIn before location).length).sum :=
  ownedCount_eq recognises.policy

/-- Where the owner has the rules of the plan, nothing is to be done. -/
theorem inPlace_of_perm
    (proper : plan.Proper)
    (policy :
      ∀ location ∈ ownedRuleLocations,
        iptablesLineHasOwner (after.policyLine location) plan.ownerTag =
          false)
    (owned :
      ∀ location ∈ ownedRuleLocations,
        (plan.ownedIn after location).Perm (specsIn plan.rules location)) :
    plan.inPlace after = true := by
  rw [GatewayPlan.inPlace, Bool.and_eq_true, List.all_eq_true,
    decide_eq_true_iff]
  constructor
  · intro rule isRule
    have member : rule.spec ∈ specsIn plan.rules rule.location :=
      mem_specsIn.mpr ⟨rule, isRule, rfl, rfl⟩
    have isThere :=
      (owned rule.location (proper.located rule isRule)).symm.subset member
    simpa [IptablesRule.present] using (List.mem_filter.mp isThere).1
  · have sameLengths :
        (ownedRuleLocations.map fun location =>
            (plan.ownedIn after location).length) =
          ownedRuleLocations.map fun location =>
            (specsIn plan.rules location).length :=
      List.map_congr_left fun location isManaged =>
        (owned location isManaged).length_eq
    rw [ownedCount_eq policy, sameLengths, proper.counted, proper.five]

/-- A rule of the plan is one of its owner. -/
theorem Recognises.owns_of_mem
    {location : IptablesLocation}
    {spec : RuleSpec}
    (recognises : plan.Recognises before)
    (proper : plan.Proper)
    (isManaged : location ∈ ownedRuleLocations)
    (member : spec ∈ specsIn plan.rules location) :
    plan.owns before location spec = true := by
  obtain ⟨rule, isRule, rfl, rfl⟩ := mem_specsIn.mp member
  exact
    (recognises.rule _ isManaged _ (.inr member)).mpr
      (proper.owned rule isRule)

/--
Where nothing is to be done the rules of the owner are those of the plan: they
are at least those, and not more of them.
-/
theorem Recognises.perm_of_inPlace
    (recognises : plan.Recognises before)
    (proper : plan.Proper)
    (isInPlace : plan.inPlace before = true) :
    ∀ location ∈ ownedRuleLocations,
      (plan.ownedIn before location).Perm (specsIn plan.rules location) := by
  rw [GatewayPlan.inPlace, Bool.and_eq_true, List.all_eq_true,
    decide_eq_true_iff] at isInPlace
  obtain ⟨present, sameCount⟩ := isInPlace
  have contained :
      ∀ location ∈ ownedRuleLocations,
        (specsIn plan.rules location).Subperm
          (plan.ownedIn before location) := by
    intro location isManaged
    refine (proper.nodup_specsIn location).subperm fun spec member => ?_
    obtain ⟨rule, isRule, rfl, rfl⟩ := mem_specsIn.mp member
    refine List.mem_filter.mpr ⟨?_, ?_⟩
    · simpa [IptablesRule.present] using present rule isRule
    · exact recognises.owns_of_mem proper isManaged member
  have atMost :
      ∀ location ∈ ownedRuleLocations,
        (plan.ownedIn before location).length ≤
          (specsIn plan.rules location).length := by
    have atLeast := fun location isManaged =>
      (contained location isManaged).length_le
    have counted := proper.counted
    rw [recognises.ownedCount, proper.five] at sameCount
    simp only [ownedRuleLocations, List.forall_mem_cons, List.map_cons,
      List.map_nil, List.sum_cons, List.sum_nil] at atLeast counted sameCount ⊢
    obtain ⟨mangle, nat, filter, -⟩ := atLeast
    refine ⟨?_, ?_, ?_, fun _ member => absurd member List.not_mem_nil⟩
    · omega
    · omega
    · omega
  exact fun location isManaged =>
    ((contained location isManaged).perm_of_length_le
      (atMost location isManaged)).symm

/-- A rule that is there afterwards was there or is one of the plan. -/
theorem Reconciled.mem_chains
    {location : IptablesLocation}
    {spec : RuleSpec}
    (reconciled : plan.Reconciled before after)
    (isManaged : location ∈ ownedRuleLocations)
    (member : spec ∈ after.chains location) :
    spec ∈ before.chains location ∨ spec ∈ specsIn plan.rules location := by
  by_cases owned : plan.owns after location spec = true
  · exact .inr
      ((reconciled.owned location isManaged).subset
        (List.mem_filter.mpr ⟨member, owned⟩))
  · have isForeign : spec ∈ plan.foreign after location :=
      List.mem_filter.mpr ⟨member, by simpa using owned⟩
    rw [reconciled.foreign location isManaged] at isForeign
    exact .inl (List.mem_filter.mp isForeign).1

/-- The rules are still recognised. -/
theorem Reconciled.recognises
    (reconciled : plan.Reconciled before after)
    (recognises : plan.Recognises before) :
    plan.Recognises after := by
  refine ⟨fun location isManaged => ?_, fun location isManaged spec member => ?_⟩
  · rw [GatewayHost.policyLine, reconciled.display.policies]
    exact recognises.policy location isManaged
  · rw [reconciled.display.owns]
    refine recognises.rule location isManaged spec ?_
    rcases member with isThere | isRule
    · exact reconciled.mem_chains isManaged isThere
    · exact .inr isRule

/-- Afterwards nothing is to be done. -/
theorem Reconciled.inPlace
    (reconciled : plan.Reconciled before after)
    (proper : plan.Proper)
    (recognises : plan.Recognises before) :
    plan.inPlace after = true :=
  inPlace_of_perm proper (reconciled.recognises recognises).policy
    reconciled.owned

/-- In place of the rules of the owner those of the plan have been added. -/
theorem Recognises.reconciled_of_withoutOwned
    (recognises : plan.Recognises before)
    (proper : plan.Proper)
    (display : SameDisplay before after)
    (isAfter :
      after.chains =
        (((plan.withoutOwned before ownedRuleLocations).missing
          plan.rules).foldl GatewayHost.addRule
            (plan.withoutOwned before ownedRuleLocations)).chains) :
    plan.Reconciled before after := by
  have isForeign :
      ∀ location ∈ ownedRuleLocations,
        (plan.withoutOwned before ownedRuleLocations).chains location =
          plan.foreign before location :=
    fun location isManaged => if_pos isManaged
  have allMissing :
      (plan.withoutOwned before ownedRuleLocations).missing plan.rules =
        plan.rules := by
    refine GatewayHost.missing_eq_self proper.distinct fun rule isRule => ?_
    have isManaged := proper.located rule isRule
    rw [isForeign _ isManaged]
    intro member
    have notOwned := (List.mem_filter.mp member).2
    rw [recognises.owns_of_mem proper isManaged
      (mem_specsIn.mpr ⟨rule, isRule, rfl, rfl⟩)] at notOwned
    cases notOwned
  rw [allMissing] at isAfter
  have isChain :
      ∀ location ∈ ownedRuleLocations,
        after.chains location =
          plan.foreign before location ++ specsIn plan.rules location := by
    intro location isManaged
    rw [isAfter, GatewayHost.foldl_addRule_chains, isForeign _ isManaged]
  have ruleOwned :
      ∀ location ∈ ownedRuleLocations,
        ∀ spec ∈ specsIn plan.rules location,
          plan.owns before location spec = true :=
    fun location isManaged spec member =>
      recognises.owns_of_mem proper isManaged member
  have sameOwns := fun location =>
    funext (fun spec => @SameDisplay.owns plan before after display location spec)
  refine ⟨display, fun location isManaged => ?_,
    fun location isManaged => ?_, fun location notManaged => ?_⟩
  · have noneOwned :
        (plan.foreign before location).filter (plan.owns before location) =
          [] := by
      simp [GatewayPlan.foreign, List.filter_filter]
    have allOwned :
        (specsIn plan.rules location).filter (plan.owns before location) =
          specsIn plan.rules location :=
      List.filter_eq_self.mpr (ruleOwned location isManaged)
    rw [ownedIn, isChain location isManaged, sameOwns, List.filter_append,
      noneOwned, allOwned, List.nil_append]
  · have allForeign :
        (plan.foreign before location).filter
            (fun spec => !plan.owns before location spec) =
          plan.foreign before location := by
      simp [GatewayPlan.foreign, List.filter_filter]
    have noneForeign :
        (specsIn plan.rules location).filter
            (fun spec => !plan.owns before location spec) =
          [] := by
      rw [List.filter_eq_nil_iff]
      intro spec member
      simp [ruleOwned location isManaged spec member]
    rw [GatewayPlan.foreign, isChain location isManaged, sameOwns,
      List.filter_append, allForeign, noneForeign, List.append_nil]
  · have notThere : specsIn plan.rules location = [] := by
      refine List.eq_nil_iff_forall_not_mem.mpr fun spec member => ?_
      obtain ⟨rule, isRule, rfl, -⟩ := mem_specsIn.mp member
      exact notManaged (proper.located rule isRule)
    rw [isAfter, GatewayHost.foldl_addRule_chains, notThere,
      List.append_nil]
    exact if_neg notManaged

/-- Where nothing is to be done nothing is added either. -/
theorem missing_eq_nil_of_inPlace
    (isInPlace : plan.inPlace before = true) :
    before.missing plan.rules = [] := by
  rw [GatewayPlan.inPlace, Bool.and_eq_true, List.all_eq_true] at isInPlace
  exact GatewayHost.missing_eq_nil isInPlace.1

/-- Where nothing is to be done reconciling leaves the host alone. -/
theorem reconcile_host_of_inPlace
    {fails : Nat → Bool}
    {before : Shell}
    {outcome : EStateM.Result String Shell Unit}
    (isInPlace : plan.inPlace before.host = true)
    (reconciled : plan.reconcile fails before = outcome) :
    (Commands.reached outcome).host = before.host := by
  have reconciles := plan.reconcile_reconciles fails before
  rw [reconciled] at reconciles
  cases reconciles with
  | notLookedUp sameHost =>
      exact sameHost
  | inPlace =>
      rfl
  | deletes _ notInPlace =>
      rw [isInPlace] at notInPlace
      cases notInPlace

/-- Where nothing is to be done no rule is added and no chain changed. -/
theorem changeSystem_of_inPlace
    {fails : Nat → Bool}
    {forwardingBefore : String}
    {before after : Shell}
    {result : Except String Unit}
    {added : List IptablesRule}
    (isInPlace : plan.inPlace before.host = true)
    (changed :
      plan.changeSystem fails forwardingBefore before =
        .ok (result, added) after) :
    after.host.chains = before.host.chains ∧
      (result ≠ .ok () → added = []) := by
  have changes := plan.changeSystem_changes fails forwardingBefore before
  have noneMissing := missing_eq_nil_of_inPlace isInPlace
  rw [changed] at changes
  cases changes with
  | notReconciled reconciled =>
      have sameHost := reconcile_host_of_inPlace isInPlace reconciled
      exact ⟨congrArg GatewayHost.chains sameHost, fun _ => rfl⟩
  | @interrupted _ _ middle _ _ reconciled isHost _ isPrefix =>
      have sameHost : middle.host = before.host :=
        reconcile_host_of_inPlace isInPlace reconciled
      rw [sameHost, noneMissing, List.prefix_nil] at isPrefix
      subst isPrefix
      refine ⟨?_, fun _ => rfl⟩
      rw [isHost, sameHost]
      rfl
  | @done _ middle _ reconciled isHost =>
      have sameHost : middle.host = before.host :=
        reconcile_host_of_inPlace isInPlace reconciled
      refine ⟨?_, fun notOk => absurd rfl notOk⟩
      rw [isHost, sameHost, noneMissing]
      rfl

/-- Where nothing is to be done applying a plan changes no chain. -/
theorem apply_chains_of_inPlace
    {fails : Nat → Bool}
    (isInPlace : plan.inPlace before = true) :
    (before.run (plan.apply fails)).2.chains = before.chains := by
  have applies := plan.apply_applies fails before
  generalize before.run (plan.apply fails) = outcome at applies
  cases applies with
  | refused =>
      rfl
  | applied _ _ _ changed =>
      exact
        (@changeSystem_of_inPlace plan fails before.ipForward
          { host := plan.recorded _ before, issued := 1 } _ _ _ isInPlace
          changed).1
  | @rolledBack _ _ _ added middle _ _ _ _ _ changed deleted rollsBack =>
      obtain ⟨sameChains, noneAdded⟩ :=
        @changeSystem_of_inPlace plan fails before.ipForward
          { host := plan.recorded _ before, issued := 1 } _ _ _ isInPlace
          changed
      rw [noneAdded nofun] at deleted
      obtain ⟨-, rfl⟩ := EStateM.Result.ok.inj deleted
      exact rollsBack.chains.trans sameChains

/-- A changed system is reconciled. -/
theorem changeSystem_reconciled
    {fails : Nat → Bool}
    {forwardingBefore : String}
    {before after : Shell}
    {added : List IptablesRule}
    (proper : plan.Proper)
    (recognises : plan.Recognises before.host)
    (changed :
      plan.changeSystem fails forwardingBefore before =
        .ok (.ok (), added) after) :
    plan.Reconciled before.host after.host := by
  have changes := plan.changeSystem_changes fails forwardingBefore before
  rw [changed] at changes
  cases changes with
  | @done _ middle _ reconciled isHost =>
      have reconciles := plan.reconcile_reconciles fails before
      rw [reconciled] at reconciles
      cases reconciles with
      | inPlace isInPlace =>
          rw [missing_eq_nil_of_inPlace isInPlace] at isHost
          rw [isHost]
          exact
            { display := ⟨rfl, rfl⟩
              owned := recognises.perm_of_inPlace proper isInPlace
              foreign := fun _ _ => rfl
              others := fun _ _ => rfl }
      | deletes _ _ deleted =>
          obtain ⟨removed, isDeleted⟩ := Commands.discard_eq_ok deleted.symm
          have isMiddle := plan.deleteOwnedRules_ok isDeleted
          dsimp only at isMiddle
          rw [isMiddle] at isHost
          have added :=
            GatewayHost.SameButChains.foldl_addRule
              (plan.withoutOwned before.host ownedRuleLocations)
              ((plan.withoutOwned before.host ownedRuleLocations).missing
                plan.rules)
          refine recognises.reconciled_of_withoutOwned proper ⟨?_, ?_⟩ ?_
          · rw [isHost, added]
            rfl
          · rw [isHost, added]
            rfl
          · rw [isHost]

/-- An applied plan is reconciled. -/
theorem apply_reconciled
    {fails : Nat → Bool}
    (proper : plan.Proper)
    (recognises : plan.Recognises before)
    (ran : before.run (plan.apply fails) = (.ok (), after)) :
    plan.Reconciled before after := by
  have applies := plan.apply_applies fails before
  rw [ran] at applies
  cases applies with
  | @applied namespaceId _ _ _ _ _ changed =>
      have reconciled :=
        @changeSystem_reconciled plan fails before.ipForward
          { host := plan.recorded namespaceId before, issued := 1 } _ _
          proper ⟨recognises.policy, recognises.rule⟩ changed
      exact
        { display := ⟨reconciled.display.printed, reconciled.display.policies⟩
          owned := reconciled.owned
          foreign := reconciled.foreign
          others := reconciled.others }

/-- A removal leaves the rules of others. -/
theorem remove_chains
    {fails : Nat → Bool}
    (ran : before.run (plan.remove fails) = (.ok (), after)) :
    after.chains =
      (plan.withoutOwned before ownedRuleLocations).chains := by
  have removes := plan.remove_removes fails before
  rw [ran] at removes
  cases removes with
  | kept =>
      rfl
  | restored =>
      rfl

/-- An applied plan leaves its owner who it was and where it was. -/
theorem apply_keeps
    {fails : Nat → Bool}
    (ran : before.run (plan.apply fails) = (.ok (), after)) :
    after.isRoot = true ∧ after.namespaceId.isSome = true := by
  have applies := plan.apply_applies fails before
  rw [ran] at applies
  cases applies with
  | @applied namespaceId _ _ ready _ _ changed =>
      have changes :=
        plan.changeSystem_changes fails before.ipForward
          { host := plan.recorded namespaceId before, issued := 1 }
      rw [changed] at changes
      cases changes with
      | @done _ middle _ reconciled isHost =>
          have same :=
            (plan.reconcile_sameButChains reconciled).trans
              (.foldl_addRule middle.host (middle.host.missing plan.rules))
          rw [isHost, same]
          exact ⟨ready.1, ready.2.2.2⟩

/-- The rules in a chain that do not name the owner. -/
def othersIn
    (plan : GatewayPlan)
    (host : GatewayHost)
    (location : IptablesLocation) :
    List RuleSpec :=
  (host.chains location).filter fun spec => ¬ OwnedBy plan.ownerTag spec

theorem Recognises.foreign_eq
    {location : IptablesLocation}
    (recognises : plan.Recognises before)
    (isManaged : location ∈ ownedRuleLocations) :
    plan.foreign before location = plan.othersIn before location := by
  refine List.filter_congr fun spec member => ?_
  rw [Bool.eq_iff_iff, Bool.not_eq_true', ← Bool.not_eq_true,
    decide_eq_true_iff]
  exact not_congr (recognises.rule location isManaged spec (.inl member))

/--
A gateway that was applied has each of its rules once and no others; what is
not its own is as it was, in its order.  Applying it again changes no chain,
whatever then fails, and its removal leaves what is not its own.
-/
theorem apply_reconciles
    {decodeBase64 : String → Option Bytes}
    {config : Config}
    {fails : Nat → Bool}
    (accepted : config.validate decodeBase64 = .ok ())
    (built : fromConfig config = .ok plan)
    (recognises : plan.Recognises before)
    (ran : before.run (plan.apply fails) = (.ok (), after)) :
    plan.rules.length = 5 ∧
    (∀ rule ∈ plan.rules,
      (after.chains rule.location).count rule.spec = 1) ∧
    (∀ location ∈ ownedRuleLocations, ∀ spec ∈ after.chains location,
      OwnedBy plan.ownerTag spec →
        ∃ rule ∈ plan.rules, rule.location = location ∧ rule.spec = spec) ∧
    (∀ location ∈ ownedRuleLocations,
      plan.othersIn after location = plan.othersIn before location) ∧
    (∀ location, location ∉ ownedRuleLocations →
      after.chains location = before.chains location) ∧
    (∀ fails, (after.run (plan.apply fails)).2.chains = after.chains) ∧
    ∀ fails outcome removed,
      after.run (plan.remove fails) = (outcome, removed) →
        ((∀ number, fails number = false) → outcome = .ok ()) ∧
        (outcome = .ok () →
          (∀ location ∈ ownedRuleLocations,
            removed.chains location = plan.othersIn before location) ∧
          ∀ location, location ∉ ownedRuleLocations →
            removed.chains location = before.chains location) := by
  have proper := fromConfig_proper accepted built
  have reconciled := apply_reconciled proper recognises ran
  have recognisesAfter := reconciled.recognises recognises
  have sameOthers :
      ∀ location ∈ ownedRuleLocations,
        plan.othersIn after location = plan.othersIn before location := by
    intro location isManaged
    rw [← recognisesAfter.foreign_eq isManaged,
      reconciled.foreign location isManaged,
      recognises.foreign_eq isManaged]
  refine ⟨proper.five, ?_, ?_, sameOthers, reconciled.others,
    fun _ => apply_chains_of_inPlace (reconciled.inPlace proper recognises),
    ?_⟩
  · intro rule isRule
    have isManaged := proper.located rule isRule
    have member : rule.spec ∈ specsIn plan.rules rule.location :=
      mem_specsIn.mpr ⟨rule, isRule, rfl, rfl⟩
    calc (after.chains rule.location).count rule.spec
        = (plan.ownedIn after rule.location).count rule.spec :=
          (List.count_filter
            (recognisesAfter.owns_of_mem proper isManaged member)).symm
      _ = (specsIn plan.rules rule.location).count rule.spec :=
          (reconciled.owned _ isManaged).count_eq _
      _ = 1 :=
          List.count_eq_one_of_mem (proper.nodup_specsIn _) member
  · intro location isManaged spec member isOwned
    refine
      mem_specsIn.mp ((reconciled.owned location isManaged).subset ?_)
    exact List.mem_filter.mpr
      ⟨member, (recognisesAfter.rule location isManaged spec
        (.inl member)).mpr isOwned⟩
  · intro fails outcome removed ranRemove
    constructor
    · intro noFailure
      obtain ⟨isRoot, isNamespace⟩ := apply_keeps ran
      have sameLengths :
          (ownedRuleLocations.map fun location =>
              (plan.ownedIn after location).length) =
            ownedRuleLocations.map fun location =>
              (specsIn plan.rules location).length :=
        List.map_congr_left fun location isManaged =>
          (reconciled.owned location isManaged).length_eq
      have succeeded :=
        @remove_succeeds plan after fails noFailure isRoot isNamespace
          (by rw [sameLengths, proper.counted]; decide)
      rw [ranRemove] at succeeded
      exact succeeded
    · rintro rfl
      rw [remove_chains ranRemove]
      constructor
      · intro location isManaged
        rw [← sameOthers location isManaged,
          ← recognisesAfter.foreign_eq isManaged]
        exact if_pos isManaged
      · intro location notManaged
        rw [← reconciled.others location notManaged]
        exact if_neg notManaged

end GatewayPlan

namespace GatewayExample

open GatewayPlan

/-- Rules of others around an old rule of the owner. -/
def mixedChains (location : IptablesLocation) : List RuleSpec :=
  if location = ⟨none, "FORWARD"⟩ then
    [["-i", "lo", "-j", "ACCEPT"],
      ["-i", "eth1", "-o", "hush0"] ++ comment plan.ownerTag ++
        ["-j", "ACCEPT"],
      ["-j", "DROP"]]
  else
    []

/-- The host with the plan applied to these rules. -/
def tidied : GatewayHost :=
  after (host mixedChains) (plan.apply noFailure)

theorem tidied_outcome :
    ((host mixedChains).run (plan.apply noFailure)).1 = .ok () := by
  decide +kernel

theorem tidied_ok :
    (host mixedChains).run (plan.apply noFailure) = (.ok (), tidied) :=
  run_eq tidied_outcome

theorem mixed_recognised : plan.Recognises (host mixedChains) where
  policy := by
    decide +kernel
  rule := by
    have eachRule :
        ∀ location ∈ ownedRuleLocations,
          ∀ spec ∈ mixedChains location ++ specsIn plan.rules location,
            (plan.owns (host mixedChains) location spec = true ↔
              OwnedBy plan.ownerTag spec) := by
      decide +kernel
    intro location isManaged spec member
    exact eachRule location isManaged spec (List.mem_append.mpr member)

end GatewayExample

open GatewayExample in
/-- The old rule is replaced, and the rules around it are kept. -/
theorem GatewayPlan.apply_reconciles_example :
    (∀ rule ∈ plan.rules,
      (tidied.chains rule.location).count rule.spec = 1) ∧
    plan.othersIn tidied ⟨none, "FORWARD"⟩ =
      plan.othersIn (host mixedChains) ⟨none, "FORWARD"⟩ :=
  have reconciles :=
    GatewayPlan.apply_reconciles config_accepted plan_built mixed_recognised
      tidied_ok
  ⟨reconciles.2.1, reconciles.2.2.2.1 _ (by decide)⟩

end HushWire

import HushWire.GatewayStatus

namespace HushWire

namespace GatewayPlan

/-!
# The health of a gateway while others operate

What another gateway does, whichever of its commands fail, keeps the rules and
the marker of this one: it deletes by number what is shown with its own owner
and adds or takes back its own rules.  So the status of a gateway follows its
own last operation.
-/

open Commands

/-- The owner has the rules of the plan and no others. -/
def Has (plan : GatewayPlan) (host : GatewayHost) : Prop :=
  ∀ location ∈ ownedRuleLocations,
    (plan.ownedIn host location).Perm (specsIn plan.rules location)

/-- No gateway takes a rule of the other plan for one of its own. -/
structure Apart (plan other : GatewayPlan) (host : GatewayHost) : Prop where
  interface : other.tunnelInterface ≠ plan.tunnelInterface
  spared :
    ∀ rule ∈ plan.rules, other.owns host rule.location rule.spec = false
  foreign :
    ∀ rule ∈ other.rules, plan.owns host rule.location rule.spec = false

/-- What others leave as it is of a gateway. -/
structure Kept (plan : GatewayPlan) (before after : GatewayHost) : Prop where
  display : SameDisplay before after
  interfaces : after.interfaceMtu = before.interfaceMtu
  namespaceId : after.namespaceId = before.namespaceId
  marker :
    after.markers.lookup plan.tunnelInterface =
      before.markers.lookup plan.tunnelInterface
  rules : plan.Has before → plan.Has after

variable
  {plan other : GatewayPlan}
  {before middle after : GatewayHost}
  {fails : Nat → Bool}

namespace Kept

theorem refl (host : GatewayHost) : plan.Kept host host where
  display := ⟨rfl, rfl⟩
  interfaces := rfl
  namespaceId := rfl
  marker := rfl
  rules := id

theorem trans
    (first : plan.Kept before middle)
    (later : plan.Kept middle after) :
    plan.Kept before after where
  display :=
    ⟨later.display.printed.trans first.display.printed,
      later.display.policies.trans first.display.policies⟩
  interfaces := later.interfaces.trans first.interfaces
  namespaceId := later.namespaceId.trans first.namespaceId
  marker := later.marker.trans first.marker
  rules := later.rules ∘ first.rules

/-- Changes of what is recorded keep a gateway that is not recorded by them. -/
theorem of_chains
    (display : SameDisplay before after)
    (interfaces : after.interfaceMtu = before.interfaceMtu)
    (namespaceId : after.namespaceId = before.namespaceId)
    (marker :
      after.markers.lookup plan.tunnelInterface =
        before.markers.lookup plan.tunnelInterface)
    (chains : after.chains = before.chains) :
    plan.Kept before after where
  display := display
  interfaces := interfaces
  namespaceId := namespaceId
  marker := marker
  rules has location isManaged := by
    have sameOwns :
        plan.owns after location = plan.owns before location :=
      funext fun spec => display.owns location spec
    rw [ownedIn, chains, sameOwns]
    exact has location isManaged

/-- A chain may be changed in what is not the owner's. -/
theorem setChain
    {location : IptablesLocation}
    {rules : List RuleSpec}
    (same :
      plan.Has before →
        location ∈ ownedRuleLocations →
          rules.filter (plan.owns before location) =
            plan.ownedIn before location) :
    plan.Kept before (before.setChain location rules) where
  display := ⟨rfl, rfl⟩
  interfaces := rfl
  namespaceId := rfl
  marker := rfl
  rules has managed isManaged := by
    by_cases isChanged : managed = location
    · subst isChanged
      have unchanged :
          plan.ownedIn (before.setChain managed rules) managed =
            rules.filter (plan.owns before managed) := by
        simp only [ownedIn, GatewayHost.setChain, Function.update_self]
        rfl
      rw [unchanged, same has isManaged]
      exact has managed isManaged
    · have unchanged :
          plan.ownedIn (before.setChain location rules) managed =
            plan.ownedIn before managed := by
        simp only [ownedIn, GatewayHost.setChain,
          Function.update_of_ne isChanged]
        rfl
      rw [unchanged]
      exact has managed isManaged

end Kept

/-- Rules are told apart by how they are shown. -/
theorem Apart.of_display
    (apart : plan.Apart other before)
    (display : SameDisplay before after) :
    plan.Apart other after where
  interface := apart.interface
  spared rule member := by
    rw [display.owns]
    exact apart.spared rule member
  foreign rule member := by
    rw [display.owns]
    exact apart.foreign rule member

/-- A change by a gateway apart keeps the other one. -/
def Sparing (plan other : GatewayPlan) (before after : Shell) : Prop :=
  plan.Apart other before.host → plan.Kept before.host after.host

namespace Sparing

theorem refl (shell : Shell) : plan.Sparing other shell shell :=
  fun _ => .refl shell.host

theorem trans
    {first second third : Shell}
    (earlier : plan.Sparing other first second)
    (later : plan.Sparing other second third) :
    plan.Sparing other first third := by
  intro apart
  have kept := earlier apart
  exact kept.trans (later (apart.of_display kept.display))

theorem of_sameHost
    {first second : Shell}
    (same : second.host = first.host) :
    plan.Sparing other first second := by
  intro _
  rw [same]
  exact .refl first.host

end Sparing

/-- Filtering does not notice what was erased, if it drops that anyway. -/
theorem filter_eraseP
    {Element : Type}
    {erased kept : Element → Bool}
    {elements : List Element}
    (disjoint :
      ∀ element ∈ elements, erased element = true → kept element = false) :
    (elements.eraseP erased).filter kept = elements.filter kept := by
  induction elements with
  | nil =>
      rfl
  | cons element elements inductionHypothesis =>
      cases isErased : erased element with
      | true =>
          have notKept := disjoint element List.mem_cons_self isErased
          rw [List.eraseP_cons_of_pos isErased,
            List.filter_cons_of_neg (by simp [notKept])]
      | false =>
          have later :=
            inductionHypothesis fun other member =>
              disjoint other (List.mem_cons_of_mem _ member)
          rw [List.eraseP_cons_of_neg (by simp [isErased]),
            List.filter_cons, List.filter_cons, later]

/-- What is shown with the other owner is none of the plan's rules. -/
theorem Apart.not_owns
    {location : IptablesLocation}
    {spec : RuleSpec}
    (apart : plan.Apart other before)
    (has : plan.Has before)
    (isManaged : location ∈ ownedRuleLocations)
    (member : spec ∈ before.chains location)
    (isOther : other.owns before location spec = true) :
    plan.owns before location spec = false := by
  cases isOwned : plan.owns before location spec with
  | false =>
      rfl
  | true =>
      have owned : spec ∈ plan.ownedIn before location :=
        List.mem_filter.mpr ⟨member, isOwned⟩
      obtain ⟨rule, isRule, rfl, rfl⟩ :=
        mem_specsIn.mp ((has location isManaged).subset owned)
      rw [apart.spared rule isRule] at isOther
      cases isOther

section Commands

theorem examine_spares {Value : Type} (value : GatewayHost → Value) :
    Relates (plan.Sparing other) (examine value) :=
  Sparing.refl

theorem issue_spares
    {failure : String}
    {effect : GatewayHost → GatewayHost}
    (keeps :
      ∀ host : GatewayHost,
        plan.Apart other host → plan.Kept host (effect host)) :
    Relates (plan.Sparing other) (issue fails failure effect) := by
  intro before apart
  cases failed : fails before.issued with
  | true =>
      rw [issue_of_fails failed]
      exact .refl before.host
  | false =>
      rw [issue_of_not_fails failed]
      exact keeps before.host apart

theorem deleteFirstOwnedRule_spares (location : IptablesLocation) :
    Relates (plan.Sparing other)
      (other.deleteFirstOwnedRule fails location) := by
  intro before apart
  have deletes := other.deleteFirstOwnedRule_deletes fails location before
  generalize other.deleteFirstOwnedRule fails location before = outcome
    at deletes
  cases deletes with
  | notListed | noRule | notDeleted =>
      exact .refl before.host
  | deleted =>
      refine .setChain fun has isManaged => ?_
      apply filter_eraseP
      intro spec member isOther
      exact apart.not_owns has isManaged member isOther

theorem deleteOwnedRulesIn_spares
    (location : IptablesLocation)
    (allowed : Nat) :
    Relates (plan.Sparing other)
      (other.deleteOwnedRulesIn fails location allowed) := by
  induction allowed with
  | zero =>
      refine .bind Sparing.trans (deleteFirstOwnedRule_spares location)
        fun wasDeleted => ?_
      cases wasDeleted with
      | true => exact .throw Sparing.refl _
      | false => exact .pure Sparing.refl _
  | succ allowed inductionHypothesis =>
      refine .bind Sparing.trans (deleteFirstOwnedRule_spares location)
        fun wasDeleted => ?_
      cases wasDeleted with
      | true => exact inductionHypothesis
      | false => exact .pure Sparing.refl _

theorem deleteOwnedRules_spares :
    Relates (plan.Sparing other) (other.deleteOwnedRules fails) :=
  .bind Sparing.trans
    (.foldlM Sparing.refl Sparing.trans
      (fun allowed location => deleteOwnedRulesIn_spares location allowed)
      _ _)
    fun _ => .pure Sparing.refl _

theorem reconcile_spares :
    Relates (plan.Sparing other) (other.reconcile fails) := by
  intro before
  have reconciles := other.reconcile_reconciles fails before
  generalize isOutcome : other.reconcile fails before = outcome at reconciles
  cases reconciles with
  | notLookedUp sameHost =>
      exact .of_sameHost sameHost
  | inPlace =>
      exact .of_sameHost rfl
  | deletes _ _ isResult =>
      have looked :
          plan.Sparing other before
            { before with issued := before.issued + other.lookups } :=
        .of_sameHost rfl
      have deleted :=
        @deleteOwnedRules_spares plan other fails
          { before with issued := before.issued + other.lookups }
      rw [isResult, reached_discard]
      exact looked.trans deleted

/-- A rule of the other plan may be added. -/
theorem Apart.addRule
    {rule : IptablesRule}
    (apart : plan.Apart other before)
    (isRule : rule ∈ other.rules) :
    plan.Kept before (before.addRule rule) := by
  apply Kept.setChain
  intro _ _
  rw [List.filter_append, ownedIn]
  simp [apart.foreign rule isRule]

theorem Apart.foldl_addRule
    {rules : List IptablesRule}
    (apart : plan.Apart other before)
    (areRules : ∀ rule ∈ rules, rule ∈ other.rules) :
    plan.Kept before (rules.foldl GatewayHost.addRule before) := by
  induction rules generalizing before with
  | nil =>
      exact .refl before
  | cons rule rules inductionHypothesis =>
      have added := apart.addRule (areRules rule List.mem_cons_self)
      have later :=
        inductionHypothesis (apart.of_display added.display)
          fun rule member => areRules rule (List.mem_cons_of_mem _ member)
      exact added.trans later

theorem mem_of_mem_missing
    {rules : List IptablesRule}
    {rule : IptablesRule}
    (member : rule ∈ before.missing rules) :
    rule ∈ rules := by
  induction rules generalizing before with
  | nil =>
      exact member
  | cons first rules inductionHypothesis =>
      rw [GatewayHost.missing] at member
      split at member
      · exact List.mem_cons_of_mem _ (inductionHypothesis member)
      · rcases List.mem_cons.mp member with isFirst | isLater
        · exact isFirst ▸ List.mem_cons_self
        · exact List.mem_cons_of_mem _ (inductionHypothesis isLater)

theorem deleteOnce_spares
    {rule : IptablesRule}
    (isRule : rule ∈ other.rules) :
    Relates (plan.Sparing other) (rule.deleteOnce fails) := by
  refine .bind Sparing.trans (examine_spares _) fun isPresent => ?_
  cases isPresent with
  | true =>
      rw [if_pos rfl]
      refine issue_spares fun host apart => .setChain fun _ _ => ?_
      rw [List.erase_eq_eraseP]
      apply filter_eraseP
      intro spec _ isErased
      have isSpec : spec = rule.spec := (eq_of_beq isErased).symm
      rw [isSpec]
      exact apart.foreign rule isRule
  | false =>
      exact
        .bind Sparing.trans (issue_spares fun host _ => .refl host)
          fun _ => .throw Sparing.refl _

theorem deleteRules_spares
    {rules : List IptablesRule}
    (areRules : ∀ rule ∈ rules, rule ∈ other.rules) :
    Relates (plan.Sparing other) (deleteRules fails rules) := by
  unfold deleteRules
  induction rules with
  | nil =>
      exact .pure Sparing.refl _
  | cons rule rules inductionHypothesis =>
      rw [List.forM_cons]
      have deleted :
          Relates (plan.Sparing other)
            (ignoreFailure (rule.deleteOnce fails)) :=
        deleteOnce_spares (areRules rule List.mem_cons_self)
      refine .bind Sparing.trans deleted fun _ => inductionHypothesis ?_
      intro rule member
      exact areRules rule (List.mem_cons_of_mem _ member)

/-- Changing the system keeps gateways apart; it adds only its own rules. -/
theorem changeSystem_spares
    {forwardingBefore : String}
    {before after : Shell}
    {result : Except String Unit}
    {added : List IptablesRule}
    (changed :
      other.changeSystem fails forwardingBefore before =
        .ok (result, added) after) :
    plan.Sparing other before after ∧
      (result ≠ .ok () → ∀ rule ∈ added, rule ∈ other.rules) := by
  have changes := other.changeSystem_changes fails forwardingBefore before
  rw [changed] at changes
  have reconciles := @reconcile_spares plan other fails before
  cases changes with
  | notReconciled reconciled =>
      rw [reconciled] at reconciles
      exact ⟨reconciles, fun _ _ member => nomatch member⟩
  | @interrupted _ _ middle _ _ reconciled isHost _ isPrefix =>
      rw [reconciled] at reconciles
      have areRules : ∀ rule ∈ added, rule ∈ other.rules := fun rule member =>
        mem_of_mem_missing (isPrefix.subset member)
      refine ⟨fun apart => ?_, fun _ => areRules⟩
      have kept := reconciles apart
      have apartThen := apart.of_display kept.display
      rw [isHost]
      exact kept.trans (apartThen.foldl_addRule areRules)
  | @done _ middle _ reconciled isHost =>
      rw [reconciled] at reconciles
      refine ⟨fun apart => ?_, fun notOk => absurd rfl notOk⟩
      have kept := reconciles apart
      have apartThen := apart.of_display kept.display
      have added :
          plan.Kept middle.host
            ((middle.host.missing other.rules).foldl GatewayHost.addRule
              middle.host) :=
        apartThen.foldl_addRule fun rule => mem_of_mem_missing
      rw [isHost]
      refine (kept.trans added).trans ?_
      exact .of_chains ⟨rfl, rfl⟩ rfl rfl rfl rfl

theorem Apart.withoutMarker
    (apart : plan.Apart other before) :
    plan.Kept before (other.withoutMarker before) :=
  .of_chains ⟨rfl, rfl⟩ rfl rfl
    (AList.lookup_erase_ne apart.interface.symm) rfl

theorem Apart.unmarked
    {markerCreated : Bool}
    (apart : plan.Apart other before) :
    plan.Kept before (other.unmarked markerCreated before) := by
  cases markerCreated with
  | true => exact apart.withoutMarker
  | false => exact .refl before

theorem RollsBack.keeps
    {forwardingBefore : String}
    {markerCreated originalCreated : Bool}
    {deleted : Shell}
    (rollsBack :
      other.RollsBack fails forwardingBefore markerCreated originalCreated
        deleted after)
    (apart : plan.Apart other deleted.host) :
    plan.Kept deleted.host after := by
  cases rollsBack with
  | kept =>
      exact apart.unmarked
  | forgotten =>
      exact apart.unmarked.trans (.of_chains ⟨rfl, rfl⟩ rfl rfl rfl rfl)

theorem Apart.recorded
    (apart : plan.Apart other before)
    (namespaceId : String) :
    plan.Kept before (other.recorded namespaceId before) :=
  .of_chains ⟨rfl, rfl⟩ rfl rfl
    (AList.lookup_insert_ne apart.interface.symm) rfl

theorem discard_spares
    {Value : Type}
    {command : Command Value}
    (spares : Relates (plan.Sparing other) command) :
    Relates (plan.Sparing other) (discard command : Command Unit) := by
  intro before
  rw [reached_discard]
  exact spares before

theorem modifyHost_spares
    {effect : GatewayHost → GatewayHost}
    (keeps :
      ∀ host : GatewayHost,
        plan.Apart other host → plan.Kept host (effect host)) :
    Relates (plan.Sparing other) (modifyHost effect) :=
  fun before apart => keeps before.host apart

theorem restoreForwarding_spares :
    Relates (plan.Sparing other) (restoreForwarding fails) := by
  have written (value : String) :
      Relates (plan.Sparing other) (writeIpForward fails value) :=
    issue_spares fun _ _ => .of_chains ⟨rfl, rfl⟩ rfl rfl rfl rfl
  have removed :
      Relates (plan.Sparing other) removeOriginalForwarding :=
    modifyHost_spares fun _ _ => .of_chains ⟨rfl, rfl⟩ rfl rfl rfl rfl
  refine .bind Sparing.trans (examine_spares _) fun original => ?_
  cases original with
  | none =>
      exact .pure Sparing.refl _
  | some contents =>
      refine .bind Sparing.trans (examine_spares _) fun hasMarkers => ?_
      cases hasMarkers with
      | true =>
          exact .pure Sparing.refl _
      | false =>
          dsimp only
          split
          · split
            · exact .bind Sparing.trans (written _) fun _ => removed
            · exact removed
          · exact .pure Sparing.refl _

theorem remove_spares :
    Relates (plan.Sparing other) (other.remove fails) := by
  have checked : Relates (plan.Sparing other) ensureLinuxRoot := by
    refine .bind Sparing.trans (examine_spares _) fun isRoot => ?_
    cases isRoot with
    | true => exact .pure Sparing.refl _
    | false => exact .throw Sparing.refl _
  have located : Relates (plan.Sparing other) statePaths := by
    refine .bind Sparing.trans (examine_spares _) fun namespaceId => ?_
    cases namespaceId with
    | none => exact .throw Sparing.refl _
    | some => exact .pure Sparing.refl _
  refine .bind Sparing.trans checked fun _ => ?_
  refine .bind Sparing.trans (issue_spares fun host _ => .refl host) fun _ => ?_
  refine .bind Sparing.trans (discard_spares located) fun _ => ?_
  refine
    .bind Sparing.trans (discard_spares deleteOwnedRules_spares) fun _ => ?_
  refine
    .bind Sparing.trans (modifyHost_spares fun _ => Apart.withoutMarker)
      fun _ => ?_
  exact restoreForwarding_spares

/-- Applying another plan keeps a gateway, whether it succeeds or not. -/
theorem Apart.apply
    {outcome : Except String Unit}
    (apart : plan.Apart other before)
    (ran : before.run (other.apply fails) = (outcome, after)) :
    plan.Kept before after := by
  have applies := other.apply_applies fails before
  rw [ran] at applies
  cases applies with
  | refused =>
      exact .refl before
  | @applied namespaceId added after _ _ _ changed =>
      have recorded := apart.recorded namespaceId
      have kept :=
        (changeSystem_spares changed).1 (apart.of_display recorded.display)
      exact recorded.trans kept
  | @rolledBack namespaceId _ _ added middle deleted _ _ _ _ changed isDeleted
      rollsBack =>
      have recorded := apart.recorded namespaceId
      obtain ⟨changes, areRules⟩ := changeSystem_spares changed
      have changedKept := changes (apart.of_display recorded.display)
      have kept := recorded.trans changedKept
      have spares :
          Relates (plan.Sparing other) (deleteRules fails added.reverse) :=
        deleteRules_spares fun rule member =>
          areRules nofun rule (List.mem_reverse.mp member)
      have deletes := spares middle (apart.of_display kept.display)
      rw [isDeleted] at deletes
      have keptThen := kept.trans deletes
      exact
        keptThen.trans (rollsBack.keeps (apart.of_display keptThen.display))

/-- So does removing another plan. -/
theorem Apart.remove
    {outcome : Except String Unit}
    (apart : plan.Apart other before)
    (ran : before.run (other.remove fails) = (outcome, after)) :
    plan.Kept before after := by
  have kept :=
    @remove_spares plan other fails { host := before, issued := 0 } apart
  rw [GatewayHost.run_eq_ended] at ran
  cases isOutcome : other.remove fails { host := before, issued := 0 } with
  | ok value shell =>
      rw [isOutcome] at ran kept
      cases ran
      exact kept
  | error error shell =>
      rw [isOutcome] at ran kept
      cases ran
      exact kept

end Commands

section Owners

/-- An owner's tag is longer than an option of one letter. -/
theorem ownerTag_ne
    {name option : String}
    (isShort : option.length < 17) :
    "hushwire-gateway:" ++ name ≠ option := by
  intro same
  have lengths := congrArg String.length same
  rw [String.length_append] at lengths
  have tagLength : "hushwire-gateway:".length = 17 := rfl
  omega

theorem fromConfig_ownerTag
    {config : Config}
    (built : fromConfig config = .ok plan) :
    plan.ownerTag = "hushwire-gateway:" ++ plan.tunnelInterface := by
  unfold fromConfig at built
  cases isGateway : config.gateway with
  | none =>
      rw [isGateway] at built
      cases built
  | some gateway =>
      rw [isGateway] at built
      dsimp only at built
      split at built
      · cases built
      · split at built
        · cases built
        · obtain rfl := Except.ok.inj built
          rfl

/-- A rule of a plan names no owner but the plan's. -/
theorem eq_of_ownedBy
    {config : Config}
    {name : String}
    {rule : IptablesRule}
    (built : fromConfig config = .ok plan)
    (isRule : rule ∈ plan.rules)
    (owned : OwnedBy ("hushwire-gateway:" ++ name) rule.spec) :
    name = plan.tunnelInterface := by
  have inOut := @ownerTag_ne name "-o" (by decide)
  have protocol := @ownerTag_ne name "-p" (by decide)
  have matching := @ownerTag_ne name "-m" (by decide)
  have jumping := @ownerTag_ne name "-j" (by decide)
  unfold fromConfig at built
  cases isGateway : config.gateway with
  | none =>
      rw [isGateway] at built
      cases built
  | some gateway =>
      rw [isGateway] at built
      dsimp only at built
      split at built
      · cases built
      · split at built
        · cases built
        · obtain rfl := Except.ok.inj built
          simp only [List.mem_cons, List.not_mem_nil, or_false] at isRule
          obtain rfl | rfl | rfl | rfl | rfl := isRule <;>
            simpa [OwnedBy, mssSpec, comment, inOut, protocol, matching,
              jumping] using owned

/-- What `iptables -S` prints shows which of the rules name the owner. -/
def Shows
    (host : GatewayHost)
    (ownerTag : String)
    (rules : List IptablesRule) :
    Prop :=
  ∀ rule ∈ rules,
    iptablesLineHasOwner (host.ruleLine rule.location rule.spec) ownerTag =
        true ↔
      OwnedBy ownerTag rule.spec

/-- The plan of another accepted configuration, whose rules are shown. -/
structure IsOther
    (plan other : GatewayPlan)
    (host : GatewayHost) :
    Prop where
  built : ∃ config, fromConfig config = .ok other
  differs : other.tunnelInterface ≠ plan.tunnelInterface
  shows : Shows host plan.ownerTag other.rules
  shown : Shows host other.ownerTag plan.rules

/-- Gateways of two tunnel interfaces are apart. -/
theorem IsOther.apart
    {config : Config}
    (built : fromConfig config = .ok plan)
    (isOther : plan.IsOther other before) :
    plan.Apart other before := by
  obtain ⟨otherConfig, otherBuilt⟩ := isOther.built
  refine ⟨isOther.differs, fun rule isRule => ?_, fun rule isRule => ?_⟩
  · rw [← Bool.not_eq_true, owns, isOther.shown rule isRule,
      fromConfig_ownerTag otherBuilt]
    exact fun owned =>
      isOther.differs (eq_of_ownedBy built isRule owned)
  · rw [← Bool.not_eq_true, owns, isOther.shows rule isRule,
      fromConfig_ownerTag built]
    exact fun owned =>
      isOther.differs (eq_of_ownedBy otherBuilt isRule owned).symm

end Owners

section Runs

variable {events : List GatewayEvent} {final : GatewayHost}

/-- A step of others: gateways of other interfaces, or what spares this one. -/
def OthersStep
    (plan : GatewayPlan)
    (before : GatewayHost)
    (event : GatewayEvent)
    (after : GatewayHost) :
    Prop :=
  GatewayStep before event after ∧
    match event with
    | .apply other _ _ | .remove other _ _ => plan.IsOther other before
    | .others => plan.Kept before after

theorem OthersStep.keeps
    {config : Config}
    {event : GatewayEvent}
    (built : fromConfig config = .ok plan)
    (step : plan.OthersStep before event after) :
    plan.Kept before after := by
  obtain ⟨taken, spares⟩ := step
  cases taken with
  | apply ran =>
      exact (spares.apart built).apply ran
  | remove ran =>
      exact (spares.apart built).remove ran
  | others =>
      exact spares

/-- A run of others keeps a gateway. -/
theorem kept_of_run
    {config : Config}
    (built : fromConfig config = .ok plan)
    (run : Execution plan.OthersStep before events after) :
    plan.Kept before after := by
  apply run.preserves (plan.Kept before) (.refl before)
  intro middle event next _ kept step
  exact kept.trans (step.keeps built)

/-- A gateway that has been applied, but for forwarding. -/
structure Installed (plan : GatewayPlan) (host : GatewayHost) : Prop where
  policy :
    ∀ location ∈ ownedRuleLocations,
      iptablesLineHasOwner (host.policyLine location) plan.ownerTag = false
  rules : plan.Has host
  lan : (host.interfaceMtu plan.lanInterface).isSome = true
  tunnel : host.interfaceMtu plan.tunnelInterface = some plan.tunnelMtu
  namespaceId : host.namespaceId.isSome = true
  marker : (host.markers.lookup plan.tunnelInterface).isSome = true

theorem Kept.installed
    (kept : plan.Kept before after)
    (installed : plan.Installed before) :
    plan.Installed after where
  policy location isManaged := by
    rw [GatewayHost.policyLine, kept.display.policies]
    exact installed.policy location isManaged
  rules := kept.rules installed.rules
  lan := by
    rw [kept.interfaces]
    exact installed.lan
  tunnel := by
    rw [kept.interfaces]
    exact installed.tunnel
  namespaceId := by
    rw [kept.namespaceId]
    exact installed.namespaceId
  marker := by
    rw [kept.marker]
    exact installed.marker

theorem healthy_iff :
    (plan.statusOf before).healthy = true ↔
      before.ipForward = "1" ∧
        (before.interfaceMtu plan.lanInterface).isSome = true ∧
        before.interfaceMtu plan.tunnelInterface = some plan.tunnelMtu ∧
        (before.markers.lookup plan.tunnelInterface).isSome = true ∧
        plan.inPlace before = true := by
  rw [GatewayStatus.healthy_iff, inPlace, Bool.and_eq_true,
    decide_eq_true_iff, List.all_eq_true]
  simp only [statusOf, List.forall_mem_map, decide_eq_true_iff]
  constructor
  · rintro ⟨forwards, lan, -, mtu, marked, counted, present⟩
    exact ⟨forwards, lan, mtu, marked, present, counted⟩
  · rintro ⟨forwards, lan, mtu, marked, present, counted⟩
    have isThere :
        (before.interfaceMtu plan.tunnelInterface).isSome = true := by
      rw [mtu]
      rfl
    exact ⟨forwards, lan, isThere, mtu, marked, counted, present⟩

theorem Installed.healthy
    (installed : plan.Installed before)
    (proper : plan.Proper)
    (forwards : before.ipForward = "1") :
    (plan.statusOf before).healthy = true :=
  healthy_iff.mpr
    ⟨forwards, installed.lan, installed.tunnel, installed.marker,
      inPlace_of_perm proper installed.policy installed.rules⟩

/-- What applying a plan leaves of the host, besides the chains. -/
theorem apply_interfaces
    (ran : before.run (plan.apply fails) = (.ok (), after)) :
    plan.Ready before ∧
      after.interfaceMtu = before.interfaceMtu ∧
      after.namespaceId = before.namespaceId ∧
      (after.markers.lookup plan.tunnelInterface).isSome = true := by
  have applies := plan.apply_applies fails before
  rw [ran] at applies
  cases applies with
  | @applied namespaceId _ _ ready _ _ changed =>
      have changes :=
        plan.changeSystem_changes fails before.ipForward
          { host := plan.recorded namespaceId before, issued := 1 }
      rw [changed] at changes
      cases changes with
      | @done _ middle _ reconciled isHost =>
          have same :=
            (plan.reconcile_sameButChains reconciled).trans
              (.foldl_addRule middle.host (middle.host.missing plan.rules))
          rw [isHost, same]
          exact ⟨ready, rfl, rfl, by simp [recorded]⟩

theorem apply_installs
    (proper : plan.Proper)
    (recognises : plan.Recognises before)
    (ran : before.run (plan.apply fails) = (.ok (), after)) :
    plan.Installed after := by
  have reconciled := apply_reconciled proper recognises ran
  obtain ⟨ready, interfaces, namespaceId, marked⟩ := apply_interfaces ran
  obtain ⟨-, lan, tunnel, isNamespace⟩ := ready
  exact
    { policy := (reconciled.recognises recognises).policy
      rules := reconciled.owned
      lan := by rwa [interfaces]
      tunnel := by rwa [interfaces]
      namespaceId := by rwa [namespaceId]
      marker := marked }

/-- What the status reports, where it can be read, and that it can be. -/
structure Reports
    (plan : GatewayPlan)
    (host : GatewayHost)
    (healthy : Bool) :
    Prop where
  reported :
    ∀ fails issued status shell,
      plan.status fails { host, issued } = .ok status shell →
        status.healthy = healthy ∧ shell.host = host
  /-- Where none of its commands fails the status can be read. -/
  readable :
    ∀ fails issued,
      (∀ number, fails number = false) →
        ∃ status shell,
          plan.status fails { host, issued } = .ok status shell

theorem reports_of_statusOf
    (isNamespace : before.namespaceId.isSome = true) :
    plan.Reports before (plan.statusOf before).healthy where
  reported fails issued status shell isOk := by
    rcases @status_cases fails plan { host := before, issued } isNamespace with
      ⟨after, isStatus, sameHost⟩ | ⟨error, after, isError, -⟩
    · rw [isStatus] at isOk
      cases isOk
      exact ⟨rfl, sameHost⟩
    · rw [isError] at isOk
      cases isOk
  readable fails issued noneFails := by
    rcases @status_cases fails plan { host := before, issued } isNamespace with
      ⟨after, isStatus, -⟩ | ⟨error, after, -, -, number, failed⟩
    · exact ⟨_, _, isStatus⟩
    · rw [noneFails] at failed
      cases failed

/-- A removal that succeeds has found the network namespace. -/
theorem remove_namespaceId
    (ran : before.run (plan.remove fails) = (.ok (), after)) :
    after.namespaceId.isSome = true := by
  have removes := plan.remove_removes fails before
  have sameNamespace : after.namespaceId = before.namespaceId := by
    rw [ran] at removes
    cases removes with
    | kept => rfl
    | restored => rfl
  rw [sameNamespace]
  cases isNamespace : before.namespaceId with
  | some =>
      rfl
  | none =>
      exfalso
      rw [GatewayHost.run_eq_ended, remove] at ran
      by_cases isRoot : before.isRoot = true
      · rw [bind_of_ok (ensureLinuxRoot_ok isRoot)] at ran
        cases failed : fails 0 with
        | true =>
            rw [ensureIptablesAvailable,
              bind_of_error (issue_of_fails failed)] at ran
            cases ran
        | false =>
            obtain ⟨error, isError⟩ :=
              @statePaths_error { host := before, issued := 1 } isNamespace
            rw [ensureIptablesAvailable,
              bind_of_ok (issue_of_not_fails failed)] at ran
            dsimp only [id] at ran
            rw [bind_of_error (discard_of_error isError)] at ran
            cases ran
      · obtain ⟨error, isError⟩ :=
          @ensureLinuxRoot_error { host := before, issued := 0 } isRoot
        rw [bind_of_error isError] at ran
        cases ran

theorem statusOf_healthy_of_unmarked
    (unmarked : before.markers.lookup plan.tunnelInterface = none) :
    (plan.statusOf before).healthy = false := by
  rw [← Bool.not_eq_true, healthy_iff, unmarked]
  simp

theorem OthersStep.run
    (run : Execution plan.OthersStep before events after) :
    Execution GatewayStep before events after :=
  run.mono fun step => step.1

/--
From before the first gateway on: once a gateway was applied its status is
healthy, and once it was removed it is not, whatever gateways of other
interfaces do from then on and whichever of their commands fail.
-/
theorem status_follows_operations
    {decodeBase64 : String → Option Bytes}
    {config : Config}
    {initial : GatewayHost}
    {earlier later : List GatewayEvent}
    (accepted : config.validate decodeBase64 = .ok ())
    (built : fromConfig config = .ok plan)
    (isValue : IsForwarding initial.ipForward)
    (noMarkers : initial.markers = ∅)
    (notRecorded : initial.originalForwarding = none)
    (reached : Execution GatewayStep initial earlier before)
    (others : Execution plan.OthersStep after later final) :
    (before.run (plan.apply fails) = (.ok (), after) →
      plan.Recognises before →
      plan.Reports final true) ∧
    (before.run (plan.remove fails) = (.ok (), after) →
      plan.Reports final false) := by
  have kept := kept_of_run built others
  constructor
  · intro ran recognises
    have proper := fromConfig_proper accepted built
    have installed := kept.installed (apply_installs proper recognises ran)
    have whole :=
      (reached.snoc (.apply ran)).append (OthersStep.run others)
    have someMarkers : final.markers.entries ≠ [] := by
      intro isEmpty
      have marker := installed.marker
      rw [AList.lookup, isEmpty] at marker
      cases marker
    have forwards :=
      ((GatewayHost.forwarding_counted isValue noMarkers notRecorded whole).1
        someMarkers).1
    have reports :
        plan.Reports final (plan.statusOf final).healthy :=
      reports_of_statusOf installed.namespaceId
    rwa [installed.healthy proper forwards] at reports
  · intro ran
    have unmarked : final.markers.lookup plan.tunnelInterface = none := by
      rw [kept.marker, remove_markers plan ran]
      exact AList.lookup_erase _ _
    have isNamespace : final.namespaceId.isSome = true := by
      rw [kept.namespaceId]
      exact remove_namespaceId ran
    have reports :
        plan.Reports final (plan.statusOf final).healthy :=
      reports_of_statusOf isNamespace
    rwa [statusOf_healthy_of_unmarked unmarked] at reports

end Runs

end GatewayPlan

namespace GatewayExample

/-- The gateway of another tunnel on the same host. -/
def otherConfig : Config :=
  { config with interface := { config.interface with name := "hush1" } }

def otherPlan : GatewayPlan :=
  (GatewayPlan.fromConfig otherConfig).toOption.getD
    ⟨"", "", 0, 0, false, "", []⟩

theorem isOther : plan.IsOther otherPlan tidied where
  built := ⟨otherConfig, by decide +kernel⟩
  differs := by decide +kernel
  shows := by
    unfold GatewayPlan.Shows
    decide +kernel
  shown := by
    unfold GatewayPlan.Shows
    decide +kernel

end GatewayExample

open GatewayExample in
/--
A gateway is applied, then the one of another tunnel; elsewhere it is applied
and removed.
-/
theorem GatewayPlan.status_follows_operations_example :
    plan.Reports (after tidied (otherPlan.apply noFailure)) true ∧
      plan.Reports removed false := by
  have others :
      Execution plan.OthersStep tidied
        [.apply otherPlan noFailure
          (tidied.run (otherPlan.apply noFailure)).1]
        (after tidied (otherPlan.apply noFailure)) :=
    .single ⟨.apply (run_eq rfl), isOther⟩
  have noOthers : Execution plan.OthersStep removed [] removed := .nil
  constructor
  · exact
      (GatewayPlan.status_follows_operations config_accepted plan_built
        (.inl rfl) rfl rfl .nil others).1 tidied_ok mixed_recognised
  · exact
      (GatewayPlan.status_follows_operations config_accepted plan_built
        (.inl rfl) rfl rfl (.single (.apply applied_ok)) noOthers).2
        removed_ok

end HushWire

import HushWire.Forwarding

namespace HushWire

/-!
# An exit node beside gateways

A tunnel process that is an exit node enables forwarding as gateways do, but
keeps the value from before to itself and writes it back when it ends.  If the
lifetimes of the exit node and the gateways overlap, each may write back what
the other still needs otherwise.
-/

open Commands
open Text (trim)

/-- A rule with the chain it was added to. -/
structure FirewallRule where
  location : IptablesLocation
  spec : RuleSpec
  deriving DecidableEq

structure FirewallManager where
  tunName : String
  subnet : String
  originalIpForward : Option String
  rules : List FirewallRule
  deriving DecidableEq

namespace FirewallManager

variable (fails : Nat → Bool) (manager : FirewallManager)

def new (tunName subnet : String) : FirewallManager where
  tunName := tunName
  subnet := subnet
  originalIpForward := none
  rules := []

def enableIpForward : Command FirewallManager := do
  let original ← readIpForward
  if original ≠ "1" then
    writeIpForward fails "1"
    return { manager with originalIpForward := some original }
  else
    return { manager with originalIpForward := some original }

def addIptablesRule (rule : FirewallRule) : Command FirewallManager := do
  issue fails "iptables -A failed" fun host =>
    host.setChain rule.location (host.chains rule.location ++ [rule.spec])
  return { manager with rules := manager.rules ++ [rule] }

/-- Enable forwarding, and masquerade and forward for the tunnel. -/
def setup : Command FirewallManager := do
  let manager ← manager.enableIpForward fails
  let manager ←
    manager.addIptablesRule fails
      ⟨⟨some "nat", "POSTROUTING"⟩,
        ["-s", manager.subnet, "!", "-o", manager.tunName, "-j",
          "MASQUERADE"]⟩
  let manager ←
    manager.addIptablesRule fails
      ⟨⟨none, "FORWARD"⟩, ["-i", manager.tunName, "-j", "ACCEPT"]⟩
  manager.addIptablesRule fails
    ⟨⟨none, "FORWARD"⟩, ["-o", manager.tunName, "-j", "ACCEPT"]⟩

/-- `iptables -D`, which fails where no rule is as specified. -/
def delIptablesRule (rule : FirewallRule) : Command Unit := do
  if ← examine fun host => (host.chains rule.location).contains rule.spec then
    issue fails "iptables -D failed" fun host =>
      host.setChain rule.location
        ((host.chains rule.location).erase rule.spec)
  else
    issue fails "iptables -D failed" id
    throw "iptables -D failed"

/-- Remove the rules and restore forwarding; what fails is passed over. -/
def cleanup : Command Unit := do
  forM manager.rules fun rule =>
    GatewayPlan.ignoreFailure (delIptablesRule fails rule)
  match manager.originalIpForward with
  | some original =>
      GatewayPlan.ignoreFailure (writeIpForward fails original)
  | none => pure ()

end FirewallManager

/-- A host with an exit node, if one is up. -/
structure SharedHost where
  host : GatewayHost
  exitNode : Option FirewallManager

inductive SharedEvent where
  | setUp (tunName subnet : String)
  | cleanUp
  | gateway (event : GatewayEvent)

/-- No command of a gateway's operation fails. -/
def GatewayEvent.NeverFails : GatewayEvent → Prop
  | .apply _ fails _ => ∀ number, fails number = false
  | .remove _ fails _ => ∀ number, fails number = false
  | .others => True

/--
One process at a time is an exit node, and gateways operate at any time.  No
command fails.
-/
inductive SharedStep : SharedHost → SharedEvent → SharedHost → Prop where
  | setUp
      {before : GatewayHost}
      {tunName subnet : String}
      {fails : Nat → Bool}
      {manager : FirewallManager}
      {after : Shell} :
      (∀ number, fails number = false) →
      (FirewallManager.new tunName subnet).setup fails
          { host := before, issued := 0 } =
        .ok manager after →
      SharedStep ⟨before, none⟩ (.setUp tunName subnet)
        ⟨after.host, some manager⟩
  | cleanUp
      {before : GatewayHost}
      {fails : Nat → Bool}
      {manager : FirewallManager}
      {after : Shell} :
      (∀ number, fails number = false) →
      manager.cleanup fails { host := before, issued := 0 } =
        .ok () after →
      SharedStep ⟨before, some manager⟩ .cleanUp ⟨after.host, none⟩
  | gateway
      {before after : GatewayHost}
      {exitNode : Option FirewallManager}
      {event : GatewayEvent} :
      event.NeverFails →
      GatewayStep before event after →
      SharedStep ⟨before, exitNode⟩ (.gateway event) ⟨after, exitNode⟩

section Operations

variable
  {fails : Nat → Bool}
  {manager : FirewallManager}
  {before after : Shell}

theorem delIptablesRule_preserves (rule : FirewallRule) :
    Preserves Shell.bookkeeping
      (FirewallManager.delIptablesRule fails rule) := by
  refine (examine_preserves _).bind fun isPresent => ?_
  cases isPresent with
  | true =>
      exact issue_setChain_preserves fails _ rule.location fun host =>
        (host.chains rule.location).erase rule.spec
  | false =>
      exact (issue_id_preserves fails _).bind fun _ => .throw _

/-- Adding a rule changes a chain, and keeps the value. -/
theorem addIptablesRule_ok
    {rule : FirewallRule}
    {result : FirewallManager}
    (added :
      manager.addIptablesRule fails rule before = .ok result after) :
    before.host.SameButChains after.host ∧
      result.originalIpForward = manager.originalIpForward := by
  obtain ⟨_, middle, isIssued, returned⟩ := bind_eq_ok.mp added
  obtain ⟨rfl, rfl⟩ := EStateM.Result.ok.inj returned
  have preserved :=
    issue_setChain_preserves fails "iptables -A failed" rule.location
      (fun host => host.chains rule.location ++ [rule.spec]) before
  rw [isIssued] at preserved
  exact ⟨.of_bookkeeping preserved, rfl⟩

/-- Forwarding is on afterwards, and the value before is kept. -/
theorem enableIpForward_ok
    {result : FirewallManager}
    (enabled : manager.enableIpForward fails before = .ok result after) :
    after.host = { before.host with ipForward := "1" } ∧
      result.originalIpForward = some before.host.ipForward := by
  unfold FirewallManager.enableIpForward readIpForward at enabled
  rw [bind_of_ok (examine_eq _ _)] at enabled
  by_cases isOn : before.host.ipForward = "1"
  · rw [if_neg (not_not_intro isOn)] at enabled
    obtain ⟨rfl, rfl⟩ := EStateM.Result.ok.inj enabled
    refine ⟨?_, rfl⟩
    rw [← isOn]
  · rw [if_pos isOn, writeIpForward] at enabled
    obtain ⟨_, middle, isWritten, returned⟩ := bind_eq_ok.mp enabled
    obtain ⟨rfl, rfl⟩ := EStateM.Result.ok.inj returned
    refine ⟨?_, rfl⟩
    cases failed : fails before.issued with
    | true =>
        rw [issue_of_fails failed] at isWritten
        cases isWritten
    | false =>
        rw [issue_of_not_fails failed] at isWritten
        obtain ⟨-, rfl⟩ := EStateM.Result.ok.inj isWritten
        rfl

/-- What setting up an exit node does to forwarding. -/
theorem setup_forwarding
    {result : FirewallManager}
    (isSetUp : manager.setup fails before = .ok result after) :
    after.host.ipForward = "1" ∧
      after.host.markers = before.host.markers ∧
      after.host.originalForwarding = before.host.originalForwarding ∧
      result.originalIpForward = some before.host.ipForward := by
  obtain ⟨enabled, first, isEnabled, later⟩ := bind_eq_ok.mp isSetUp
  obtain ⟨masquerading, second, isMasquerading, later⟩ := bind_eq_ok.mp later
  obtain ⟨inbound, third, isInbound, isOutbound⟩ := bind_eq_ok.mp later
  obtain ⟨isFirst, keptFirst⟩ := enableIpForward_ok isEnabled
  obtain ⟨isSecond, keptSecond⟩ := addIptablesRule_ok isMasquerading
  obtain ⟨isThird, keptThird⟩ := addIptablesRule_ok isInbound
  obtain ⟨isLast, keptLast⟩ := addIptablesRule_ok isOutbound
  have same := (isSecond.trans isThird).trans isLast
  rw [isFirst] at same
  refine ⟨same.ipForward, same.markers, same.originalForwarding, ?_⟩
  rw [keptLast, keptThird, keptSecond, keptFirst]

/-- What cleaning up after an exit node does to forwarding. -/
theorem cleanup_forwarding
    (noFailure : ∀ number, fails number = false)
    (isCleanedUp : manager.cleanup fails before = .ok () after) :
    after.host.ipForward =
        manager.originalIpForward.getD before.host.ipForward ∧
      after.host.markers = before.host.markers ∧
      after.host.originalForwarding = before.host.originalForwarding := by
  obtain ⟨_, middle, isDeleted, isRestored⟩ := bind_eq_ok.mp isCleanedUp
  have preserved :=
    Preserves.forM
      (fun rule =>
        ignoreFailure_preserves
          (@delIptablesRule_preserves fails rule))
      manager.rules before
  rw [isDeleted] at preserved
  have same := GatewayHost.SameButChains.of_bookkeeping preserved
  cases isKept : manager.originalIpForward with
  | none =>
      rw [isKept] at isRestored
      obtain ⟨-, rfl⟩ := EStateM.Result.ok.inj isRestored
      exact ⟨same.ipForward, same.markers, same.originalForwarding⟩
  | some original =>
      rw [isKept] at isRestored
      dsimp only at isRestored
      rw [ignoreFailure_eq, writeIpForward,
        issue_of_not_fails (noFailure _)] at isRestored
      obtain ⟨-, rfl⟩ := EStateM.Result.ok.inj isRestored
      exact ⟨rfl, same.markers, same.originalForwarding⟩

end Operations

/-- The operation of a gateway succeeds; others always do. -/
def SharedEvent.Succeeds : SharedEvent → Prop
  | .gateway (.apply _ _ outcome) => outcome = .ok ()
  | .gateway (.remove _ _ outcome) => outcome = .ok ()
  | _ => True

namespace SharedHost

/--
Forwarding is on for an exit node and for applied gateways, and as it was
before when there are none.
-/
structure Serves (value : String) (shared : SharedHost) : Prop where
  inUse :
    shared.exitNode.isSome = true ∨ shared.host.markers.entries ≠ [] →
      shared.host.ipForward = "1"
  unused :
    shared.exitNode = none →
      shared.host.markers.entries = [] → shared.host.ipForward = value

/--
The value that a step would write back is no longer needed otherwise: the
exit node or the last gateway goes alone, or it was not the first to come.
-/
def Allows (shared : SharedHost) : SharedEvent → Prop
  | .cleanUp =>
      ∀ manager, shared.exitNode = some manager →
        manager.originalIpForward = some "1" ∨
          shared.host.markers.entries = []
  | .gateway (.remove plan _ _) =>
      (plan.withdrawn shared.host).markers.entries = [] →
        ∀ contents, shared.host.originalForwarding = some contents →
          contents = "1\n" ∨ shared.exitNode = none
  | _ => True

/-- The first to come keeps the value from before, the second one `1`. -/
def Accounted (value : String) (shared : SharedHost) : Prop :=
  match shared.exitNode, shared.host.originalForwarding with
  | none, none =>
      shared.host.markers.entries = [] ∧ shared.host.ipForward = value
  | some manager, none =>
      shared.host.markers.entries = [] ∧ shared.host.ipForward = "1" ∧
        manager.originalIpForward = some value
  | none, some contents =>
      shared.host.markers.entries ≠ [] ∧ shared.host.ipForward = "1" ∧
        contents = value ++ "\n"
  | some manager, some contents =>
      shared.host.markers.entries ≠ [] ∧ shared.host.ipForward = "1" ∧
        (manager.originalIpForward = some value ∧ contents = "1\n" ∨
          manager.originalIpForward = some "1" ∧ contents = value ++ "\n")

namespace Accounted

variable
  {value : String}
  {before after : GatewayHost}
  {exitNode : Option FirewallManager}

theorem serves
    {shared : SharedHost}
    (accounted : shared.Accounted value) :
    shared.Serves value := by
  obtain ⟨host, exitNode⟩ := shared
  unfold Accounted at accounted
  cases exitNode with
  | none =>
      cases isRecorded : host.originalForwarding with
      | none =>
          rw [isRecorded] at accounted
          obtain ⟨noMarkers, isValue⟩ := accounted
          refine ⟨?_, fun _ _ => isValue⟩
          rintro (isSome | someMarkers)
          · cases isSome
          · exact absurd noMarkers someMarkers
      | some contents =>
          rw [isRecorded] at accounted
          exact ⟨fun _ => accounted.2.1,
            fun _ noMarkers => absurd noMarkers accounted.1⟩
  | some manager =>
      refine ⟨fun _ => ?_, nofun⟩
      cases isRecorded : host.originalForwarding with
      | none =>
          rw [isRecorded] at accounted
          exact accounted.2.1
      | some contents =>
          rw [isRecorded] at accounted
          exact accounted.2.1

/-- Without a record there is no marker. -/
theorem unused
    (accounted : Accounted value ⟨before, exitNode⟩)
    (notRecorded : before.originalForwarding = none) :
    before.markers.entries = [] := by
  unfold Accounted at accounted
  cases exitNode with
  | none =>
      rw [notRecorded] at accounted
      exact accounted.1
  | some manager =>
      rw [notRecorded] at accounted
      exact accounted.1

/-- It is a matter of the markers, forwarding and the record only. -/
theorem of_same
    (accounted : Accounted value ⟨before, exitNode⟩)
    (markers :
      after.markers.entries = [] ↔ before.markers.entries = [])
    (forwarding : after.ipForward = before.ipForward)
    (original : after.originalForwarding = before.originalForwarding) :
    Accounted value ⟨after, exitNode⟩ := by
  unfold Accounted at *
  dsimp only at *
  rw [original, forwarding]
  cases exitNode with
  | none =>
      cases isRecorded : before.originalForwarding with
      | none =>
          rw [isRecorded] at accounted
          exact ⟨markers.mpr accounted.1, accounted.2⟩
      | some contents =>
          rw [isRecorded] at accounted
          exact ⟨mt markers.mp accounted.1, accounted.2⟩
  | some manager =>
      cases isRecorded : before.originalForwarding with
      | none =>
          rw [isRecorded] at accounted
          exact ⟨markers.mpr accounted.1, accounted.2⟩
      | some contents =>
          rw [isRecorded] at accounted
          exact ⟨mt markers.mp accounted.1, accounted.2⟩

theorem apply
    {plan : GatewayPlan}
    {fails : Nat → Bool}
    {outcome : Except String Unit}
    (accounted : Accounted value ⟨before, exitNode⟩)
    (ran : before.run (plan.apply fails) = (outcome, after)) :
    Accounted value ⟨after, exitNode⟩ := by
  rcases plan.apply_forwarding ran accounted.unused with
    ⟨-, isOn, original, isMarked⟩ | ⟨-, forwarding, original, markers⟩
  · unfold Accounted at *
    dsimp only at *
    rw [original]
    cases exitNode with
    | none =>
        refine ⟨isMarked, isOn, ?_⟩
        cases isRecorded : before.originalForwarding with
        | none =>
            rw [isRecorded] at accounted
            rw [← accounted.2]
            rfl
        | some contents =>
            rw [isRecorded] at accounted
            exact accounted.2.2
    | some manager =>
        refine ⟨isMarked, isOn, ?_⟩
        cases isRecorded : before.originalForwarding with
        | none =>
            rw [isRecorded] at accounted
            obtain ⟨-, isForwarding, isKept⟩ := accounted
            refine .inl ⟨isKept, ?_⟩
            rw [isForwarding]
            rfl
        | some contents =>
            rw [isRecorded] at accounted
            exact accounted.2.2
  · exact accounted.of_same markers forwarding original

/-- Only the value `1` is recorded as that. -/
theorem recorded_eq_one_iff (isValue : GatewayPlan.IsForwarding value) :
    value ++ "\n" = "1\n" ↔ value = "1" := by
  rcases isValue with rfl | rfl <;> decide

theorem setUp
    {tunName subnet : String}
    {fails : Nat → Bool}
    {manager : FirewallManager}
    {result : Shell}
    (accounted : Accounted value ⟨before, none⟩)
    (isSetUp :
      (FirewallManager.new tunName subnet).setup fails
          { host := before, issued := 0 } =
        .ok manager result) :
    Accounted value ⟨result.host, some manager⟩ := by
  obtain ⟨isOn, markers, original, isKept⟩ := setup_forwarding isSetUp
  unfold Accounted at *
  dsimp only at *
  rw [original, markers]
  cases isRecorded : before.originalForwarding with
  | none =>
      rw [isRecorded] at accounted
      exact ⟨accounted.1, isOn, isKept.trans (congrArg some accounted.2)⟩
  | some contents =>
      rw [isRecorded] at accounted
      obtain ⟨someMarkers, wasOn, isValue⟩ := accounted
      exact ⟨someMarkers, isOn,
        .inr ⟨isKept.trans (congrArg some wasOn), isValue⟩⟩

section CleanUp

variable
  {fails : Nat → Bool}
  {manager : FirewallManager}
  {result : Shell}

theorem cleanUp
    (accounted : Accounted value ⟨before, some manager⟩)
    (noFailure : ∀ number, fails number = false)
    (isCleanedUp :
      manager.cleanup fails { host := before, issued := 0 } = .ok () result)
    (allowed :
      manager.originalIpForward = some "1" ∨ before.markers.entries = []) :
    Accounted value ⟨result.host, none⟩ := by
  obtain ⟨forwarding, markers, original⟩ :=
    cleanup_forwarding noFailure isCleanedUp
  unfold Accounted at *
  dsimp only at *
  rw [original, markers, forwarding]
  cases isRecorded : before.originalForwarding with
  | none =>
      rw [isRecorded] at accounted
      obtain ⟨noMarkers, -, isKept⟩ := accounted
      refine ⟨noMarkers, ?_⟩
      rw [isKept, Option.getD_some]
  | some contents =>
      rw [isRecorded] at accounted
      obtain ⟨someMarkers, -, isBoth⟩ := accounted
      have isOne := allowed.resolve_right someMarkers
      rw [isOne] at isBoth ⊢
      refine ⟨someMarkers, rfl, ?_⟩
      rcases isBoth with ⟨isValue, isContents⟩ | ⟨-, isContents⟩
      · rw [← Option.some.inj isValue]
        exact isContents
      · exact isContents

/-- What the gateways need is lost when `0` is written back. -/
theorem not_serves_cleanUp
    (accounted : Accounted value ⟨before, some manager⟩)
    (noFailure : ∀ number, fails number = false)
    (isCleanedUp :
      manager.cleanup fails { host := before, issued := 0 } = .ok () result)
    (notAllowed :
      ¬ (manager.originalIpForward = some "1" ∨
        before.markers.entries = [])) :
    ¬ Serves value ⟨result.host, none⟩ := by
  intro serves
  obtain ⟨forwarding, markers, -⟩ := cleanup_forwarding noFailure isCleanedUp
  rw [not_or] at notAllowed
  obtain ⟨notOne, someMarkers⟩ := notAllowed
  have isOn := serves.inUse (.inr (by rw [markers]; exact someMarkers))
  have unused := mt accounted.unused someMarkers
  unfold Accounted at accounted
  dsimp only at accounted isOn
  cases isRecorded : before.originalForwarding with
  | none =>
      exact unused isRecorded
  | some contents =>
      rw [isRecorded] at accounted
      rcases accounted.2.2 with ⟨isValue, -⟩ | ⟨isOne, -⟩
      · rw [forwarding, isValue, Option.getD_some] at isOn
        exact notOne (isValue.trans (congrArg some isOn))
      · exact notOne isOne

end CleanUp

section Remove

variable
  {plan : GatewayPlan}
  {fails : Nat → Bool}
  {outcome : Except String Unit}

/-- A marker that is erased from none leaves none. -/
theorem withdrawn_markers
    (noMarkers : before.markers.entries = []) :
    (plan.withdrawn before).markers.entries = [] := by
  have isErased :
      (plan.withdrawn before).markers.entries =
        before.markers.entries.kerase plan.tunnelInterface := rfl
  rw [isErased, noMarkers, List.kerase_nil]

theorem remove
    (isForwarding : GatewayPlan.IsForwarding value)
    (accounted : Accounted value ⟨before, exitNode⟩)
    (noFailure : ∀ number, fails number = false)
    (ran : before.run (plan.remove fails) = (outcome, after))
    (allowed :
      (plan.withdrawn before).markers.entries = [] →
        ∀ contents, before.originalForwarding = some contents →
          contents = "1\n" ∨ exitNode = none) :
    Accounted value ⟨after, exitNode⟩ := by
  have removes := plan.remove_removes fails before
  rw [ran] at removes
  cases removes with
  | notDeleted same =>
      exact
        accounted.of_same (by rw [same]) same.ipForward
          same.originalForwarding
  | notRestored _ _ _ failed =>
      rw [noFailure] at failed
      cases failed
  | kept isKept =>
      refine accounted.of_same ⟨fun noMarkers => ?_, withdrawn_markers⟩ rfl rfl
      rcases isKept with notRecorded | someMarkers
      · exact accounted.unused notRecorded
      · exact absurd noMarkers someMarkers
  | @restored contents isRecorded noMarkers =>
      have isAllowed := allowed noMarkers contents isRecorded
      unfold Accounted at *
      dsimp only at *
      rw [isRecorded] at accounted
      cases exitNode with
      | none =>
          refine ⟨noMarkers, ?_⟩
          rw [accounted.2.2, GatewayHost.trim_recorded isForwarding,
            if_pos isForwarding]
      | some manager =>
          obtain rfl : contents = "1\n" := isAllowed.resolve_right nofun
          refine ⟨noMarkers, ?_, ?_⟩
          · rfl
          · rcases accounted.2.2 with ⟨isKept, -⟩ | ⟨isKept, isValue⟩
            · exact isKept
            · rw [isKept, (recorded_eq_one_iff isForwarding).mp isValue.symm]

/-- What the exit node needs is lost when `0` is written back. -/
theorem not_serves_remove
    (isForwarding : GatewayPlan.IsForwarding value)
    (accounted : Accounted value ⟨before, exitNode⟩)
    (ran : before.run (plan.remove fails) = (.ok (), after))
    (notAllowed :
      ¬ ((plan.withdrawn before).markers.entries = [] →
        ∀ contents, before.originalForwarding = some contents →
          contents = "1\n" ∨ exitNode = none)) :
    ¬ Serves value ⟨after, exitNode⟩ := by
  intro serves
  push Not at notAllowed
  obtain ⟨noMarkers, contents, isRecorded, notOne, isExitNode⟩ := notAllowed
  have isOn :=
    serves.inUse (.inl (Option.isSome_iff_ne_none.mpr isExitNode))
  have removes := plan.remove_removes fails before
  rw [ran] at removes
  cases removes with
  | kept isKept =>
      rcases isKept with notRecorded | someMarkers
      · rw [isRecorded] at notRecorded
        cases notRecorded
      · exact someMarkers noMarkers
  | @restored contents' isRecorded' _ =>
      obtain rfl : contents = contents' :=
        Option.some.inj (isRecorded.symm.trans isRecorded')
      unfold Accounted at accounted
      dsimp only at accounted isOn
      rw [isRecorded] at accounted
      cases exitNode with
      | none =>
          exact isExitNode rfl
      | some manager =>
          rcases accounted.2.2 with ⟨-, isOne⟩ | ⟨-, isValue⟩
          · exact notOne isOne
          · rw [isValue, GatewayHost.trim_recorded isForwarding,
              if_pos isForwarding] at isOn
            rw [isValue, isOn] at notOne
            exact notOne rfl

end Remove

end Accounted

/-- Every step that is allowed keeps account. -/
theorem Accounted.step
    {value : String}
    {before after : SharedHost}
    {event : SharedEvent}
    (isForwarding : GatewayPlan.IsForwarding value)
    (accounted : before.Accounted value)
    (taken : SharedStep before event after)
    (allowed : before.Allows event) :
    after.Accounted value := by
  cases taken with
  | setUp noFailure isSetUp =>
      exact accounted.setUp isSetUp
  | cleanUp noFailure isCleanedUp =>
      exact accounted.cleanUp noFailure isCleanedUp (allowed _ rfl)
  | gateway noFailure gatewayTaken =>
      cases gatewayTaken with
      | apply ran =>
          exact accounted.apply ran
      | remove ran =>
          exact accounted.remove isForwarding noFailure ran allowed
      | others _ forwarding markers original =>
          exact accounted.of_same (by rw [markers]) forwarding original

/-- A step that succeeds without being allowed does harm. -/
theorem Accounted.not_serves
    {value : String}
    {before after : SharedHost}
    {event : SharedEvent}
    (isForwarding : GatewayPlan.IsForwarding value)
    (accounted : before.Accounted value)
    (taken : SharedStep before event after)
    (succeeds : event.Succeeds)
    (notAllowed : ¬ before.Allows event) :
    ¬ after.Serves value := by
  cases taken with
  | setUp =>
      exact absurd trivial notAllowed
  | @cleanUp _ _ manager _ noFailure isCleanedUp =>
      refine accounted.not_serves_cleanUp noFailure isCleanedUp fun allowed => ?_
      refine notAllowed fun other isOther => ?_
      obtain rfl := Option.some.inj isOther
      exact allowed
  | gateway noFailure gatewayTaken =>
      cases gatewayTaken with
      | apply =>
          exact absurd trivial notAllowed
      | remove ran =>
          obtain rfl : _ = Except.ok () := succeeds
          exact accounted.not_serves_remove isForwarding ran notAllowed
      | others =>
          exact absurd trivial notAllowed

/-- A step that is allowed. -/
def NestedStep
    (before : SharedHost)
    (event : SharedEvent)
    (after : SharedHost) :
    Prop :=
  SharedStep before event after ∧ before.Allows event

/-- In a run of allowed steps the account is kept. -/
theorem Accounted.run
    {value : String}
    {initial final : SharedHost}
    {events : List SharedEvent}
    (isForwarding : GatewayPlan.IsForwarding value)
    (accounted : initial.Accounted value)
    (execution : Execution NestedStep initial events final) :
    final.Accounted value := by
  induction execution with
  | nil =>
      exact accounted
  | snoc _ taken inductionHypothesis =>
      exact inductionHypothesis.step isForwarding taken.1 taken.2

/--
While the steps are allowed, forwarding serves the exit node and the gateways,
and is as before when there are none.  After a further step that succeeds it
still does so exactly if that step is allowed.
-/
theorem forwarding_shared
    {initial : GatewayHost}
    {final : SharedHost}
    {events : List SharedEvent}
    (isForwarding : GatewayPlan.IsForwarding initial.ipForward)
    (noMarkers : initial.markers = ∅)
    (notRecorded : initial.originalForwarding = none)
    (execution : Execution NestedStep ⟨initial, none⟩ events final) :
    final.Serves initial.ipForward ∧
      ∀ event after,
        SharedStep final event after → event.Succeeds →
          (after.Serves initial.ipForward ↔ final.Allows event) := by
  have initially : Accounted initial.ipForward ⟨initial, none⟩ := by
    unfold Accounted
    dsimp only
    rw [notRecorded]
    exact ⟨congrArg AList.entries noMarkers, rfl⟩
  have accounted := initially.run isForwarding execution
  refine ⟨accounted.serves, fun event after taken succeeds => ?_⟩
  constructor
  · intro serves
    by_contra notAllowed
    exact accounted.not_serves isForwarding taken succeeds notAllowed serves
  · exact fun allowed => (accounted.step isForwarding taken allowed).serves

end SharedHost

namespace ExitNodeExample

open GatewayExample

/-- The exit node on the host. -/
def manager : FirewallManager where
  tunName := "hush1"
  subnet := "10.77.1.0/24"
  originalIpForward := some "0"
  rules :=
    [⟨⟨some "nat", "POSTROUTING"⟩,
        ["-s", "10.77.1.0/24", "!", "-o", "hush1", "-j", "MASQUERADE"]⟩,
      ⟨⟨none, "FORWARD"⟩, ["-i", "hush1", "-j", "ACCEPT"]⟩,
      ⟨⟨none, "FORWARD"⟩, ["-o", "hush1", "-j", "ACCEPT"]⟩]

def settingUp : EStateM.Result String Shell FirewallManager :=
  (FirewallManager.new "hush1" "10.77.1.0/24").setup noFailure
    { host := host fun _ => [], issued := 0 }

/-- The host with the exit node. -/
def setUp : Shell :=
  reached settingUp

theorem setUp_ok : settingUp = .ok manager setUp := by
  rfl

/-- The host with the exit node and then a gateway. -/
def both : GatewayHost :=
  after setUp.host (plan.apply noFailure)

theorem both_ok : setUp.host.run (plan.apply noFailure) = (.ok (), both) :=
  run_eq (by decide +kernel)

/-- The host after the exit node, with the gateway. -/
def cleanedUp : Shell :=
  reached (manager.cleanup noFailure { host := both, issued := 0 })

theorem cleanedUp_ok :
    manager.cleanup noFailure { host := both, issued := 0 } =
      .ok () cleanedUp := by
  rfl

theorem setUp_step :
    SharedStep ⟨host fun _ => [], none⟩ (.setUp "hush1" "10.77.1.0/24")
      ⟨setUp.host, some manager⟩ :=
  .setUp (fun _ => rfl) setUp_ok

theorem apply_step :
    SharedStep ⟨setUp.host, some manager⟩
      (.gateway (.apply plan noFailure (.ok ()))) ⟨both, some manager⟩ :=
  .gateway (fun _ => rfl) (.apply both_ok)

theorem cleanUp_step :
    SharedStep ⟨both, some manager⟩ .cleanUp ⟨cleanedUp.host, none⟩ :=
  .cleanUp (fun _ => rfl) cleanedUp_ok

end ExitNodeExample

open GatewayExample ExitNodeExample in
/-- Forwarding is on with an exit node and then a gateway. -/
theorem SharedHost.forwarding_shared_example :
    SharedHost.Serves "0" ⟨both, some manager⟩ :=
  (SharedHost.forwarding_shared (.inl rfl) rfl rfl
    ((Execution.single ⟨setUp_step, trivial⟩).snoc
      ⟨apply_step, trivial⟩)).1

open GatewayExample ExitNodeExample in
/-- When the exit node then ends, the gateway is left without forwarding. -/
theorem SharedHost.forwarding_shared_counterexample :
    ¬ ∀ (initial : GatewayHost) (final : SharedHost)
        (events : List SharedEvent),
      GatewayPlan.IsForwarding initial.ipForward →
      initial.markers = ∅ →
      initial.originalForwarding = none →
      Execution SharedStep ⟨initial, none⟩ events final →
        final.Serves initial.ipForward := by
  intro shared
  have serves :=
    shared _ _ _ (.inl rfl) rfl rfl
      (((Execution.single setUp_step).snoc apply_step).snoc cleanUp_step)
  have isApplied : cleanedUp.host.markers.entries ≠ [] := by
    decide +kernel
  have isOff : cleanedUp.host.ipForward = "0" := by
    decide +kernel
  have isOn := serves.inUse (.inr isApplied)
  rw [isOff] at isOn
  exact absurd isOn (by decide)

end HushWire

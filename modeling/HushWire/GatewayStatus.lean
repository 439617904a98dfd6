import HushWire.GatewayRules

namespace HushWire

/-!
# The status of a gateway

The status of a gateway is read from the host without changing it.  It is
healthy from when the gateway is applied until it is removed, whatever other
gateways do meanwhile and whichever of their commands fail: they delete and add
only rules that name another owner, and forwarding stays on as long as one
gateway is recorded.
-/

open Commands

structure GatewayStatus where
  forwardingEnabled : Bool
  lanInterfaceExists : Bool
  tunnelInterfaceExists : Bool
  tunnelMtu : Option UInt16
  expectedTunnelMtu : UInt16
  stateRecorded : Bool
  ownedRuleCount : Nat
  expectedRuleCount : Nat
  rules : List (String × Bool)
  deriving DecidableEq

def GatewayStatus.healthy (status : GatewayStatus) : Bool :=
  status.forwardingEnabled && status.lanInterfaceExists &&
    status.tunnelInterfaceExists &&
    status.tunnelMtu = some status.expectedTunnelMtu &&
    status.stateRecorded &&
    status.ownedRuleCount = status.expectedRuleCount &&
    status.rules.all Prod.snd

theorem GatewayStatus.healthy_iff {status : GatewayStatus} :
    status.healthy = true ↔
      status.forwardingEnabled = true ∧
        status.lanInterfaceExists = true ∧
        status.tunnelInterfaceExists = true ∧
        status.tunnelMtu = some status.expectedTunnelMtu ∧
        status.stateRecorded = true ∧
        status.ownedRuleCount = status.expectedRuleCount ∧
        ∀ rule ∈ status.rules, rule.2 = true := by
  simp [healthy, and_assoc]

def interfaceExists (interface : String) : Command Bool :=
  examine fun host => (host.interfaceMtu interface).isSome

def readInterfaceMtu (interface : String) : Command UInt16 := do
  match ← examine fun host => host.interfaceMtu interface with
  | none => throw ("reading interface MTU of " ++ interface)
  | some mtu => return mtu

/-- The MTU of an interface, where it is there. -/
def readExistingMtu
    (interface : String)
    (isThere : Bool) :
    Command (Option UInt16) :=
  if isThere then some <$> readInterfaceMtu interface else pure none

theorem readExistingMtu_eq
    {interface : String}
    {shell : Shell} :
    readExistingMtu interface (shell.host.interfaceMtu interface).isSome
        shell =
      .ok (shell.host.interfaceMtu interface) shell := by
  unfold readExistingMtu
  cases isMtu : shell.host.interfaceMtu interface with
  | none =>
      rfl
  | some mtu =>
      have isRead : readInterfaceMtu interface shell = .ok mtu shell := by
        rw [readInterfaceMtu, bind_of_ok (examine_eq _ _), isMtu]
        rfl
      rw [Option.isSome_some, if_pos rfl, map_eq_pure_bind,
        bind_of_ok isRead]
      rfl

/-- A rule in the status: what it is for and whether it is there. -/
def IptablesRule.describe
    (fails : Nat → Bool)
    (rule : IptablesRule) :
    Command (String × Bool) := do
  return (rule.description, ← rule.exists? fails)

namespace GatewayPlan

variable (fails : Nat → Bool) (plan : GatewayPlan)

def status : Command GatewayStatus := do
  let forwardingEnabled := (← readIpForward) = "1"
  let lanInterfaceExists ← interfaceExists plan.lanInterface
  let tunnelInterfaceExists ← interfaceExists plan.tunnelInterface
  let tunnelMtu ← readExistingMtu plan.tunnelInterface tunnelInterfaceExists
  discard statePaths
  let rules ← plan.rules.mapM (IptablesRule.describe fails)
  let ownedRuleCount ← plan.countOwnedRules fails
  let stateRecorded ←
    examine fun host => (host.markers.lookup plan.tunnelInterface).isSome
  return {
    forwardingEnabled
    lanInterfaceExists
    tunnelInterfaceExists
    tunnelMtu
    expectedTunnelMtu := plan.tunnelMtu
    stateRecorded
    ownedRuleCount
    expectedRuleCount := plan.rules.length
    rules }

/-- The status that a host has. -/
def statusOf (host : GatewayHost) : GatewayStatus where
  forwardingEnabled := host.ipForward = "1"
  lanInterfaceExists := (host.interfaceMtu plan.lanInterface).isSome
  tunnelInterfaceExists := (host.interfaceMtu plan.tunnelInterface).isSome
  tunnelMtu := host.interfaceMtu plan.tunnelInterface
  expectedTunnelMtu := plan.tunnelMtu
  stateRecorded := (host.markers.lookup plan.tunnelInterface).isSome
  ownedRuleCount := plan.ownedCount host
  expectedRuleCount := plan.rules.length
  rules := plan.rules.map fun rule => (rule.description, rule.present host)

variable {plan}

/-- All rules are described, or a command fails. -/
theorem mapM_describe_cases
    (rules : List IptablesRule)
    (before : Shell) :
    (∃ error after,
      rules.mapM (IptablesRule.describe fails) before = .error error after ∧
        after.host = before.host ∧
        ∃ number, fails number = true) ∨
      ∃ after,
        rules.mapM (IptablesRule.describe fails) before =
            .ok
              (rules.map fun rule =>
                (rule.description, rule.present before.host))
              after ∧
          after.host = before.host := by
  induction rules generalizing before with
  | nil =>
      exact .inr ⟨before, rfl, rfl⟩
  | cons rule rules inductionHypothesis =>
      rw [List.mapM_cons]
      rcases rule.exists?_cases fails before with
        ⟨failed, error, isError⟩ | ⟨-, isOk⟩
      · rw [IptablesRule.describe, bind_of_error (bind_of_error isError)]
        exact .inl ⟨error, before.tick, rfl, rfl, before.issued, failed⟩
      · have described :
            rule.describe fails before =
              .ok (rule.description, rule.present before.host)
                before.tick :=
          bind_of_ok isOk
        rw [bind_of_ok described]
        rcases inductionHypothesis before.tick with
          ⟨error, after, isError, sameHost, failed⟩ | ⟨after, isOk, sameHost⟩
        · rw [bind_of_error isError]
          exact .inl ⟨error, after, rfl, sameHost, failed⟩
        · rw [bind_of_ok isOk]
          exact .inr ⟨after, rfl, sameHost⟩

/-- The status is that of the host, or it cannot be read. -/
theorem status_cases
    {before : Shell}
    (isNamespace : before.host.namespaceId.isSome = true) :
    (∃ after,
      plan.status fails before = .ok (plan.statusOf before.host) after ∧
        after.host = before.host) ∨
      ∃ error after,
        plan.status fails before = .error error after ∧
          after.host = before.host ∧
          ∃ number, fails number = true := by
  obtain ⟨namespaceId, isSome⟩ := Option.isSome_iff_exists.mp isNamespace
  rw [status, readIpForward, bind_of_ok (examine_eq _ _), interfaceExists,
    bind_of_ok (examine_eq _ _), interfaceExists,
    bind_of_ok (examine_eq _ _), bind_of_ok readExistingMtu_eq,
    bind_of_ok (discard_of_ok (statePaths_ok isSome))]
  rcases mapM_describe_cases fails plan.rules before with
    ⟨error, after, isError, sameHost, failed⟩ | ⟨middle, isOk, sameHost⟩
  · rw [bind_of_error isError]
    exact .inr ⟨error, after, rfl, sameHost, failed⟩
  · rw [bind_of_ok isOk, countOwnedRules]
    rcases plan.foldlM_countOwnedRulesIn_cases fails ownedRuleLocations 0
        middle with
      ⟨error, after, isError, stillSame, number, -, -, failed⟩ |
      ⟨-, isOk⟩
    · rw [bind_of_error isError]
      exact
        .inr ⟨error, after, rfl, stillSame.trans sameHost, number, failed⟩
    · rw [bind_of_ok isOk, bind_of_ok (examine_eq _ _)]
      refine
        .inl
          ⟨{ middle with
              issued := middle.issued + ownedRuleLocations.length },
            ?_, sameHost⟩
      rw [sameHost]
      rfl

end GatewayPlan

end HushWire

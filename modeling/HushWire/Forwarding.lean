import HushWire.GatewaySteps
import HushWire.Library.Execution

namespace HushWire

/-!
# Counting the gateways that need forwarding

The value of `net.ipv4.ip_forward` from before the first gateway is recorded
in a file, and every gateway has a marker.  In a run of gateways of one
network namespace the file exists wherever a marker does, and as long as it
does forwarding is on; the last gateway that is removed restores the value.
-/

open Text (trim)

namespace GatewayHost.SameButChains

variable {first second : GatewayHost}

theorem ipForward (same : first.SameButChains second) :
    second.ipForward = first.ipForward := by
  rw [same]

theorem markers (same : first.SameButChains second) :
    second.markers = first.markers := by
  rw [same]

theorem originalForwarding (same : first.SameButChains second) :
    second.originalForwarding = first.originalForwarding := by
  rw [same]

end GatewayHost.SameButChains

namespace GatewayPlan

variable (plan : GatewayPlan)

/-- Reconciling changes the chains only. -/
theorem reconcile_sameButChains
    {fails : Nat → Bool}
    {before : Shell}
    {outcome : EStateM.Result String Shell Unit}
    (reconciled : plan.reconcile fails before = outcome) :
    before.host.SameButChains (Commands.reached outcome).host := by
  subst reconciled
  exact .of_bookkeeping (plan.reconcile_preserves fails before)

/-- Changing the system touches chains only, and in the end forwarding. -/
theorem changeSystem_forwarding
    {fails : Nat → Bool}
    {forwardingBefore : String}
    {before after : Shell}
    {result : Except String Unit}
    {added : List IptablesRule}
    (changed :
      plan.changeSystem fails forwardingBefore before =
        .ok (result, added) after) :
    after.host.markers = before.host.markers ∧
      after.host.originalForwarding = before.host.originalForwarding ∧
      after.host.ipForward =
        if result.isOk && forwardingBefore ≠ "1" then
          "1"
        else
          before.host.ipForward := by
  have changes := plan.changeSystem_changes fails forwardingBefore before
  rw [changed] at changes
  cases changes with
  | notReconciled reconciled =>
      have same := plan.reconcile_sameButChains reconciled
      exact ⟨same.markers, same.originalForwarding, same.ipForward⟩
  | @interrupted _ _ middle _ _ reconciled isHost =>
      have same :=
        (plan.reconcile_sameButChains reconciled).trans
          (.foldl_addRule middle.host added)
      rw [← isHost] at same
      exact ⟨same.markers, same.originalForwarding, same.ipForward⟩
  | @done _ middle _ reconciled isHost =>
      have reconciledSame := plan.reconcile_sameButChains reconciled
      have same :=
        reconciledSame.trans
          (.foldl_addRule middle.host (middle.host.missing plan.rules))
      have sameForwarding : middle.host.ipForward = before.host.ipForward :=
        reconciledSame.ipForward
      rw [isHost]
      refine ⟨same.markers, same.originalForwarding, ?_⟩
      rw [← sameForwarding]
      simp [Except.isOk, Except.toBool]

theorem unmarked_chains (markerCreated : Bool) (host : GatewayHost) :
    (plan.unmarked markerCreated host).chains = host.chains := by
  cases markerCreated <;> rfl

/-- After the rules nothing is undone in the chains. -/
theorem RollsBack.chains
    {plan : GatewayPlan}
    {fails : Nat → Bool}
    {forwardingBefore : String}
    {markerCreated originalCreated : Bool}
    {deleted : Shell}
    {after : GatewayHost}
    (rollsBack :
      plan.RollsBack fails forwardingBefore markerCreated originalCreated
        deleted after) :
    after.chains = deleted.host.chains := by
  cases rollsBack with
  | kept =>
      exact plan.unmarked_chains markerCreated deleted.host
  | forgotten =>
      exact plan.unmarked_chains markerCreated deleted.host

/-- The markers after undoing: a new one is taken away again. -/
def markersUndone
    (namespaceId : String)
    (host : GatewayHost) :
    AssociationMap String String :=
  match host.markers.lookup plan.tunnelInterface with
  | none => host.markers
  | some _ =>
      host.markers.insert plan.tunnelInterface
        (plan.markerContents namespaceId)

/-- There are as many markers as before. -/
theorem markersUndone_eq_nil
    (namespaceId : String)
    (host : GatewayHost) :
    (plan.markersUndone namespaceId host).entries = [] ↔
      host.markers.entries = [] := by
  unfold markersUndone
  cases stored : host.markers.lookup plan.tunnelInterface with
  | none =>
      exact Iff.rfl
  | some contents =>
      have isThere : host.markers.entries ≠ [] := by
        intro isEmpty
        have member := AssociationMap.mem_entries_iff_lookup.mpr stored
        rw [isEmpty] at member
        cases member
      simp [isThere]

/-- What undoing leaves of what was recorded. -/
theorem RollsBack.bookkeeping
    {plan : GatewayPlan}
    {fails : Nat → Bool}
    {namespaceId : String}
    {before after : GatewayHost}
    {deleted : Shell}
    (markers :
      deleted.host.markers = (plan.recorded namespaceId before).markers)
    (original :
      deleted.host.originalForwarding =
        (plan.recorded namespaceId before).originalForwarding)
    (forwarding : deleted.host.ipForward = before.ipForward)
    (rollsBack :
      plan.RollsBack fails before.ipForward
        (before.markers.lookup plan.tunnelInterface).isNone
        before.originalForwarding.isNone deleted after) :
    after.ipForward = before.ipForward ∧
      after.markers = plan.markersUndone namespaceId before ∧
      after.originalForwarding =
        if before.originalForwarding = none ∧ before.markers.entries = [] then
          none
        else
          (plan.recorded namespaceId before).originalForwarding := by
  have isUndone :
      (plan.unmarked (before.markers.lookup plan.tunnelInterface).isNone
          deleted.host).markers =
        plan.markersUndone namespaceId before := by
    unfold markersUndone
    cases stored : before.markers.lookup plan.tunnelInterface with
    | none =>
        have isNew : plan.tunnelInterface ∉ before.markers :=
          AList.lookup_eq_none.mp stored
        simp [unmarked, withoutMarker, markers, recorded,
          AssociationMap.erase_insert_of_notMem _ isNew]
    | some contents =>
        simp [unmarked, markers, recorded]
  have sameRest :
      ∀ markerCreated,
        (plan.unmarked markerCreated deleted.host).ipForward =
            deleted.host.ipForward ∧
          (plan.unmarked markerCreated deleted.host).originalForwarding =
            deleted.host.originalForwarding := by
    rintro (_ | _) <;> exact ⟨rfl, rfl⟩
  obtain ⟨sameForwarding, sameOriginal⟩ :=
    sameRest (before.markers.lookup plan.tunnelInterface).isNone
  have sameEmpty := plan.markersUndone_eq_nil namespaceId before
  cases rollsBack with
  | kept isKept =>
      refine ⟨sameForwarding.trans forwarding, isUndone, ?_⟩
      have notForgotten :
          ¬ (before.originalForwarding = none ∧
            before.markers.entries = []) := by
        rintro ⟨notRecorded, noMarkers⟩
        rcases isKept with notCreated | someMarkers
        · simp [notRecorded] at notCreated
        · rw [isUndone] at someMarkers
          exact someMarkers (sameEmpty.mpr noMarkers)
      rw [if_neg notForgotten, sameOriginal, original]
  | forgotten wasCreated noMarkers isForwarding =>
      refine ⟨?_, isUndone, ?_⟩
      · rcases isForwarding with isBefore | ⟨-, isDeleted⟩
        · exact isBefore
        · exact isDeleted.trans forwarding
      · rw [isUndone] at noMarkers
        rw [if_pos ⟨Option.isNone_iff_eq_none.mp wasCreated,
          sameEmpty.mp noMarkers⟩]

/--
What applying a plan does to forwarding: it is on and the marker is there,
or nothing of it has changed but a value that an earlier gateway recorded.
-/
theorem apply_forwarding
    {fails : Nat → Bool}
    {before after : GatewayHost}
    {outcome : Except String Unit}
    (ran : before.run (plan.apply fails) = (outcome, after))
    (accounted :
      before.originalForwarding = none → before.markers.entries = []) :
    (outcome = .ok () ∧
        after.ipForward = "1" ∧
        after.originalForwarding =
          some (before.originalForwarding.getD (before.ipForward ++ "\n")) ∧
        after.markers.entries ≠ []) ∨
      outcome ≠ .ok () ∧
        after.ipForward = before.ipForward ∧
        after.originalForwarding = before.originalForwarding ∧
        (after.markers.entries = [] ↔ before.markers.entries = []) := by
  have applies := plan.apply_applies fails before
  rw [ran] at applies
  cases applies with
  | refused =>
      exact .inr ⟨nofun, rfl, rfl, Iff.rfl⟩
  | applied _ _ _ changed =>
      obtain ⟨markers, original, forwarding⟩ :=
        plan.changeSystem_forwarding changed
      refine .inl ⟨rfl, ?_, original, ?_⟩
      · rw [forwarding]
        by_cases isOn : before.ipForward = "1"
        · simp [isOn, recorded]
        · simp [isOn, Except.isOk, Except.toBool]
      · rw [markers]
        simp [recorded]
  | @rolledBack namespaceId _ _ _ middle deleted _ _ _ _ changed isDeleted
      rollsBack =>
      obtain ⟨markers, original, forwarding⟩ :=
        plan.changeSystem_forwarding changed
      have same := deleteRules_sameButChains isDeleted
      obtain ⟨isForwarding, isMarkers, isOriginal⟩ :=
        rollsBack.bookkeeping (same.markers.trans markers)
          (same.originalForwarding.trans original)
          (same.ipForward.trans forwarding)
      refine .inr ⟨nofun, isForwarding, ?_, ?_⟩
      · rw [isOriginal]
        cases wasRecorded : before.originalForwarding with
        | none =>
            rw [if_pos ⟨rfl, accounted wasRecorded⟩]
        | some contents =>
            simp [recorded, wasRecorded]
      · rw [isMarkers]
        exact plan.markersUndone_eq_nil namespaceId before

/-- A removal that succeeds erases the marker. -/
theorem remove_markers
    {fails : Nat → Bool}
    {before after : GatewayHost}
    (ran : before.run (plan.remove fails) = (.ok (), after)) :
    after.markers = before.markers.erase plan.tunnelInterface := by
  have removes := plan.remove_removes fails before
  rw [ran] at removes
  cases removes with
  | kept =>
      rfl
  | restored =>
      rfl

end GatewayPlan

/-- An operation of a gateway, with the commands that fail, or of others. -/
inductive GatewayEvent where
  | apply (plan : GatewayPlan) (fails : Nat → Bool)
      (outcome : Except String Unit)
  | remove (plan : GatewayPlan) (fails : Nat → Bool)
      (outcome : Except String Unit)
  | others

/--
Gateways operate one after the other.  Between them others may change the
host, but not forwarding and what the gateways record.
-/
inductive GatewayStep : GatewayHost → GatewayEvent → GatewayHost → Prop where
  | apply
      {before after : GatewayHost}
      {plan : GatewayPlan}
      {fails : Nat → Bool}
      {outcome : Except String Unit} :
      before.run (plan.apply fails) = (outcome, after) →
      GatewayStep before (.apply plan fails outcome) after
  | remove
      {before after : GatewayHost}
      {plan : GatewayPlan}
      {fails : Nat → Bool}
      {outcome : Except String Unit} :
      before.run (plan.remove fails) = (outcome, after) →
      GatewayStep before (.remove plan fails outcome) after
  | others
      {before after : GatewayHost} :
      after.namespaceId = before.namespaceId →
      after.ipForward = before.ipForward →
      after.markers = before.markers →
      after.originalForwarding = before.originalForwarding →
      GatewayStep before .others after

namespace GatewayHost

/-- The value from before the first gateway is kept while one needs it. -/
structure Counted (value : String) (host : GatewayHost) : Prop where
  unused :
    host.originalForwarding = none →
      host.markers.entries = [] ∧ host.ipForward = value
  inUse :
    ∀ contents, host.originalForwarding = some contents →
      contents = value ++ "\n" ∧ host.ipForward = "1"

/-- The file holds the value with a line end. -/
theorem trim_recorded {value : String} (isValue : GatewayPlan.IsForwarding value) :
    trim (value ++ "\n") = value := by
  rcases isValue with rfl | rfl <;> decide +kernel

namespace Counted

variable {value : String} {before after : GatewayHost}

theorem apply
    {plan : GatewayPlan}
    {fails : Nat → Bool}
    {outcome : Except String Unit}
    (counted : before.Counted value)
    (ran : before.run (plan.apply fails) = (outcome, after)) :
    after.Counted value := by
  rcases plan.apply_forwarding ran fun unused => (counted.unused unused).1 with
    ⟨-, isOn, original, isMarked⟩ | ⟨-, forwarding, original, markers⟩
  · refine ⟨fun unused => ?_, fun contents isRecorded => ⟨?_, isOn⟩⟩
    · rw [original] at unused
      cases unused
    · rw [original, Option.some.injEq] at isRecorded
      cases wasRecorded : before.originalForwarding with
      | none =>
          rw [← isRecorded, wasRecorded, (counted.unused wasRecorded).2]
          rfl
      | some recorded =>
          rw [← isRecorded, wasRecorded]
          exact (counted.inUse recorded wasRecorded).1
  · refine ⟨fun unused => ?_, fun contents isRecorded => ?_⟩
    · rw [original] at unused
      obtain ⟨noMarkers, isValue⟩ := counted.unused unused
      exact ⟨markers.mpr noMarkers, forwarding.trans isValue⟩
    · rw [original] at isRecorded
      obtain ⟨isValue, isOn⟩ := counted.inUse contents isRecorded
      exact ⟨isValue, forwarding.trans isOn⟩

theorem remove
    {plan : GatewayPlan}
    {fails : Nat → Bool}
    {outcome : Except String Unit}
    (isValue : GatewayPlan.IsForwarding value)
    (counted : before.Counted value)
    (ran : before.run (plan.remove fails) = (outcome, after)) :
    after.Counted value ∧
      (outcome = .ok () → after.markers.entries = [] →
        after.ipForward = value ∧ after.originalForwarding = none) := by
  have removes := plan.remove_removes fails before
  rw [ran] at removes
  cases removes with
  | notDeleted same =>
      rw [same]
      exact ⟨⟨counted.unused, counted.inUse⟩, nofun⟩
  | notRestored wasRecorded noMarkers isForwarding failed =>
      refine ⟨⟨fun unused => ?_, counted.inUse⟩, nofun⟩
      exact absurd (wasRecorded.symm.trans unused) nofun
  | kept isKept =>
      refine ⟨⟨fun unused => ?_, counted.inUse⟩, fun _ noMarkers => ?_⟩
      · obtain ⟨noMarkers, isBefore⟩ := counted.unused unused
        refine ⟨?_, isBefore⟩
        have isErased :
            (plan.withdrawn before).markers.entries =
              before.markers.entries.kerase plan.tunnelInterface := rfl
        rw [isErased, noMarkers, List.kerase_nil]
      · rcases isKept with unused | someMarkers
        · exact ⟨(counted.unused unused).2, unused⟩
        · exact absurd noMarkers someMarkers
  | @restored contents wasRecorded noMarkers =>
      obtain ⟨isContents, -⟩ := counted.inUse contents wasRecorded
      have isRestored :
          (if GatewayPlan.IsForwarding (trim contents) then
              trim contents
            else
              before.ipForward) =
            value := by
        rw [isContents, trim_recorded isValue, if_pos isValue]
      exact
        ⟨⟨fun _ => ⟨noMarkers, isRestored⟩, nofun⟩,
          fun _ _ => ⟨isRestored, rfl⟩⟩

theorem step
    {event : GatewayEvent}
    (isValue : GatewayPlan.IsForwarding value)
    (counted : before.Counted value)
    (taken : GatewayStep before event after) :
    after.Counted value := by
  cases taken with
  | apply ran =>
      exact counted.apply ran
  | remove ran =>
      exact (counted.remove isValue ran).1
  | others _ forwarding markers original =>
      refine ⟨?_, ?_⟩
      · rw [forwarding, markers, original]
        exact counted.unused
      · rw [forwarding, original]
        exact counted.inUse

end Counted

/-- Where no gateway was applied yet, the value is the one there is. -/
theorem Counted.initially
    {host : GatewayHost}
    (noMarkers : host.markers = ∅)
    (notRecorded : host.originalForwarding = none) :
    host.Counted host.ipForward where
  unused := fun _ => ⟨congrArg AList.entries noMarkers, rfl⟩
  inUse := fun _ isRecorded => nomatch notRecorded.symm.trans isRecorded

/-- A run of gateways keeps count of them. -/
theorem Counted.run
    {value : String}
    {initial final : GatewayHost}
    {events : List GatewayEvent}
    (isValue : GatewayPlan.IsForwarding value)
    (counted : initial.Counted value)
    (execution : Execution GatewayStep initial events final) :
    final.Counted value := by
  induction execution with
  | nil =>
      exact counted
  | snoc _ taken inductionHypothesis =>
      exact inductionHypothesis.step isValue taken

/--
From before the first gateway on, whatever commands fail: with a marker
forwarding is on and the value is recorded, without the record there is no
marker and the value is as it was, and so it is after the last removal.
-/
theorem forwarding_counted
    {initial final : GatewayHost}
    {events : List GatewayEvent}
    (isValue : GatewayPlan.IsForwarding initial.ipForward)
    (noMarkers : initial.markers = ∅)
    (notRecorded : initial.originalForwarding = none)
    (execution : Execution GatewayStep initial events final) :
    (final.markers.entries ≠ [] →
      final.ipForward = "1" ∧
        final.originalForwarding = some (initial.ipForward ++ "\n")) ∧
    (final.originalForwarding = none →
      final.markers.entries = [] ∧ final.ipForward = initial.ipForward) ∧
    ∀ earlier plan fails,
      events = earlier ++ [.remove plan fails (.ok ())] →
      final.markers.entries = [] →
      final.ipForward = initial.ipForward ∧
        final.originalForwarding = none := by
  have countedInitially := Counted.initially noMarkers notRecorded
  have counted := countedInitially.run isValue execution
  refine ⟨fun someMarkers => ?_, counted.unused, ?_⟩
  · cases isRecorded : final.originalForwarding with
    | none =>
        exact absurd (counted.unused isRecorded).1 someMarkers
    | some contents =>
        obtain ⟨isContents, isOn⟩ := counted.inUse contents isRecorded
        exact ⟨isOn, congrArg some isContents⟩
  · rintro earlier plan fails rfl allRemoved
    obtain ⟨middle, before, taken⟩ := execution.last_step
    cases taken with
    | remove ran =>
        exact
          ((countedInitially.run isValue before).remove isValue ran).2 rfl
            allRemoved

end GatewayHost

namespace GatewayExample

def key : String :=
  "QkJCQkJCQkJCQkJCQkJCQkJCQkJCQkJCQkJCQkJCQkI="

/-- One key, the same byte repeated. -/
def decodeBase64 (text : String) : Option Bytes :=
  if text = key then some (List.replicate 32 0x42) else none

/-- A gateway from a network to a tunnel. -/
def config : Config where
  interface :=
    { name := "hush0"
      address := ⟨0x0a4d0002, 24⟩
      listen := ⟨.v4 0, 11063⟩
      transport := .udp
      mtu := 1280
      privateKey := key }
  gateway := some ⟨"eth0", none⟩
  peer := []

def plan : GatewayPlan :=
  (GatewayPlan.fromConfig config).toOption.getD ⟨"", "", 0, 0, false, "", []⟩

/-- The comment of a rule is a text; its other arguments are words. -/
def arguments : RuleSpec → List Argument
  | "--comment" :: text :: rest =>
      .word "--comment" :: .quoted text :: arguments rest
  | word :: rest => .word word :: arguments rest
  | [] => []

/-- A host with some rules, on which forwarding is off. -/
def host (chains : IptablesLocation → List RuleSpec) : GatewayHost where
  isRoot := true
  interfaceMtu := fun _ => some 1280
  namespaceId := some "net:[4026531840]"
  printed := fun spec =>
    .ofList ([' '].intercalate ((arguments spec).map Argument.print))
  policies := fun _ => "ACCEPT"
  chains := chains
  ipForward := "0"
  markers := ∅
  originalForwarding := none

/-- No command fails. -/
def noFailure : Nat → Bool :=
  fun _ => false

theorem config_accepted : config.validate decodeBase64 = .ok () := by
  decide +kernel

theorem plan_built : GatewayPlan.fromConfig config = .ok plan := by
  decide +kernel

/-- The host after an operation. -/
def after (before : GatewayHost) (operation : Command Unit) : GatewayHost :=
  (before.run operation).2

/-- An operation of which only the outcome is computed. -/
theorem run_eq
    {before : GatewayHost}
    {operation : Command Unit}
    {outcome : Except String Unit}
    (isOutcome : (before.run operation).1 = outcome) :
    before.run operation = (outcome, after before operation) := by
  rw [← isOutcome]
  rfl

/-- The host with the plan applied. -/
def applied : GatewayHost :=
  after (host fun _ => []) (plan.apply noFailure)

/-- The host with the plan removed again. -/
def removed : GatewayHost :=
  after applied (plan.remove noFailure)

theorem applied_ok :
    (host fun _ => []).run (plan.apply noFailure) = (.ok (), applied) :=
  run_eq (by decide +kernel)

theorem removed_ok :
    applied.run (plan.remove noFailure) = (.ok (), removed) := by
  refine
    run_eq
      (GatewayPlan.remove_succeeds (fun _ => rfl) (by decide +kernel)
        (by decide +kernel) ?_)
  have fewRules :
      (ownedRuleLocations.map fun location =>
        (applied.chains location).length).sum ≤ 128 := by
    decide +kernel
  refine Nat.le_trans (List.sum_le_sum fun location _ => ?_) fewRules
  exact List.length_filter_le _ _

theorem removed_markers : removed.markers.entries = [] := by
  rw [plan.remove_markers removed_ok]
  decide +kernel

/-- A gateway is applied and removed. -/
theorem removed_execution :
    Execution GatewayStep (host fun _ => [])
      [.apply plan noFailure (.ok ()), .remove plan noFailure (.ok ())]
      removed :=
  (Execution.single (.apply applied_ok)).snoc (.remove removed_ok)

end GatewayExample

open GatewayExample in
/-- Forwarding is off again when the only gateway is removed. -/
theorem GatewayHost.forwarding_counted_example :
    removed.ipForward = "0" ∧ removed.originalForwarding = none :=
  (GatewayHost.forwarding_counted (.inl rfl) rfl rfl removed_execution).2.2
    [.apply plan noFailure (.ok ())] plan noFailure rfl removed_markers

end HushWire

import HushWire.GatewayRules

namespace HushWire

/-!
# A failed gateway

Undoing a failed `apply` deletes the rules it added and the files it created.
It does not bring back a rule of the owner that was deleted before, nor the
contents of a marker that was written over, so a failure changes nothing only
if it comes before the first deletion and the recorded state was sound.
-/

open Commands

/-- Of all commands this one fails. -/
def onlyFails (position : Nat) : Nat → Bool :=
  fun number => number = position

namespace GatewayHost

/-- The rules, forwarding and the recorded files are as before. -/
structure Unchanged (before after : GatewayHost) : Prop where
  chains : after.chains = before.chains
  ipForward : after.ipForward = before.ipForward
  markers :
    ∀ tunnelInterface,
      after.markers.lookup tunnelInterface =
        before.markers.lookup tunnelInterface
  originalForwarding : after.originalForwarding = before.originalForwarding

/-- No chain is longer than before. -/
def Shrinks (before after : GatewayHost) : Prop :=
  ∀ location, (after.chains location).length ≤ (before.chains location).length

namespace Shrinks

theorem refl (host : GatewayHost) : Shrinks host host :=
  fun _ => Nat.le_refl _

theorem trans
    {first second third : GatewayHost}
    (earlier : Shrinks first second)
    (later : Shrinks second third) :
    Shrinks first third :=
  fun location => Nat.le_trans (later location) (earlier location)

end Shrinks

end GatewayHost

namespace GatewayPlan

variable {plan : GatewayPlan} {fails : Nat → Bool}

/-- The first rule of the owner is gone from its chain. -/
def firstDeleted
    (plan : GatewayPlan)
    (location : IptablesLocation)
    (shell : Shell) :
    Shell where
  host :=
    shell.host.setChain location
      ((shell.host.chains location).eraseP (plan.owns shell.host location))
  issued := shell.issued + 2

theorem firstDeleted_shrinks
    (location : IptablesLocation)
    (shell : Shell) :
    shell.host.Shrinks (plan.firstDeleted location shell).host := by
  intro other
  by_cases isSame : other = location
  · subst isSame
    simp only [firstDeleted, GatewayHost.setChain_chains, Function.update_self]
    exact List.eraseP_sublist.length_le
  · simp [firstDeleted, Function.update_of_ne isSame]

/-- The chain of a rule that was deleted is shorter. -/
theorem firstDeleted_shorter
    {location : IptablesLocation}
    {shell : Shell}
    (someOwned :
      ∃ spec ∈ shell.host.chains location,
        plan.owns shell.host location spec = true) :
    ((plan.firstDeleted location shell).host.chains location).length <
      (shell.host.chains location).length := by
  obtain ⟨spec, member, owned⟩ := someOwned
  simp only [firstDeleted, GatewayHost.setChain_chains, Function.update_self]
  rw [List.length_eraseP_of_mem member owned]
  exact Nat.sub_one_lt (List.length_pos_of_mem member).ne'

/-- Deletions shrink the chains, whether they fail or not. -/
theorem deleteFirstOwnedRule_shrinks (location : IptablesLocation) :
    Relates (fun before after : Shell => before.host.Shrinks after.host)
      (plan.deleteFirstOwnedRule fails location) := by
  intro before
  have deletes := plan.deleteFirstOwnedRule_deletes fails location before
  generalize plan.deleteFirstOwnedRule fails location before = outcome
    at deletes
  cases deletes with
  | notListed =>
      exact .refl before.host
  | noRule =>
      exact .refl before.host
  | notDeleted =>
      exact .refl before.host
  | deleted =>
      exact firstDeleted_shrinks location before

theorem deleteOwnedRulesIn_shrinks
    (location : IptablesLocation)
    (allowed : Nat) :
    Relates (fun before after : Shell => before.host.Shrinks after.host)
      (plan.deleteOwnedRulesIn fails location allowed) := by
  induction allowed with
  | zero =>
      refine
        Relates.bind GatewayHost.Shrinks.trans
          (deleteFirstOwnedRule_shrinks location) fun wasDeleted => ?_
      cases wasDeleted with
      | true => exact .throw (fun shell => .refl shell.host) _
      | false => exact .pure (fun shell => .refl shell.host) _
  | succ allowed inductionHypothesis =>
      refine
        Relates.bind GatewayHost.Shrinks.trans
          (deleteFirstOwnedRule_shrinks location) fun wasDeleted => ?_
      cases wasDeleted with
      | true => exact inductionHypothesis
      | false => exact .pure (fun shell => .refl shell.host) _

theorem foldlM_deleteOwnedRulesIn_shrinks
    (locations : List IptablesLocation)
    (allowed : Nat) :
    Relates (fun before after : Shell => before.host.Shrinks after.host)
      (locations.foldlM
        (fun allowed location =>
          plan.deleteOwnedRulesIn fails location allowed)
        allowed) := by
  have transitive :
      ∀ {first second third : Shell},
        first.host.Shrinks second.host →
          second.host.Shrinks third.host → first.host.Shrinks third.host :=
    GatewayHost.Shrinks.trans
  exact
    @Relates.foldlM String Shell Nat
      (fun before after => before.host.Shrinks after.host) IptablesLocation _
      (fun shell => .refl shell.host) transitive
      (fun allowed location => deleteOwnedRulesIn_shrinks location allowed)
      allowed locations

/--
The number of the command that deletes the first rule of the owner, when
listing the chains begins with a given number.
-/
def firstDeletion
    (plan : GatewayPlan)
    (host : GatewayHost) :
    List IptablesLocation → Nat → Option Nat
  | [], _ => none
  | location :: locations, number =>
      if (host.chains location).any (plan.owns host location) then
        some (number + 1)
      else
        firstDeletion plan host locations (number + 1)

theorem firstDeletion_later
    {host : GatewayHost}
    {locations : List IptablesLocation}
    {number deletion : Nat}
    (isFirst : plan.firstDeletion host locations number = some deletion) :
    number < deletion := by
  induction locations generalizing number with
  | nil =>
      cases isFirst
  | cons location locations inductionHypothesis =>
      rw [firstDeletion] at isFirst
      split at isFirst
      · obtain rfl := Option.some.inj isFirst
        exact Nat.lt_succ_self number
      · exact Nat.lt_of_succ_lt (inductionHypothesis isFirst)

section DeleteOwnedRulesIn

variable
  {location : IptablesLocation}
  {allowed : Nat}
  {before middle : Shell}

theorem deleteOwnedRulesIn_of_error
    {error : String}
    (first :
      plan.deleteFirstOwnedRule fails location before = .error error middle) :
    plan.deleteOwnedRulesIn fails location allowed before =
      .error error middle := by
  cases allowed with
  | zero => exact bind_of_error first
  | succ => exact bind_of_error first

theorem deleteOwnedRulesIn_of_none
    (first :
      plan.deleteFirstOwnedRule fails location before = .ok false middle) :
    plan.deleteOwnedRulesIn fails location allowed before =
      .ok allowed middle := by
  cases allowed with
  | zero => exact bind_of_ok first
  | succ => exact bind_of_ok first

theorem deleteOwnedRulesIn_of_deleted
    (first :
      plan.deleteFirstOwnedRule fails location before = .ok true middle) :
    middle.host.Shrinks
      (reached
        (plan.deleteOwnedRulesIn fails location allowed before)).host := by
  cases allowed with
  | zero =>
      rw [deleteOwnedRulesIn, bind_of_ok first, if_pos rfl]
      exact .refl middle.host
  | succ allowed =>
      rw [deleteOwnedRulesIn, bind_of_ok first, if_pos rfl]
      exact deleteOwnedRulesIn_shrinks location allowed middle

end DeleteOwnedRulesIn

/-- Rules are lost exactly if the first deletion is before the failure. -/
theorem foldlM_deleteOwnedRulesIn_chains_iff
    {position allowed : Nat}
    {locations : List IptablesLocation}
    {before : Shell}
    (upcoming : before.issued ≤ position) :
    (reached
      (locations.foldlM
        (fun allowed location =>
          plan.deleteOwnedRulesIn (onlyFails position) location allowed)
        allowed before)).host.chains =
        before.host.chains ↔
      ∀ deletion,
        plan.firstDeletion before.host locations before.issued =
            some deletion →
          position ≤ deletion := by
  induction locations generalizing allowed before with
  | nil =>
      exact iff_of_true rfl nofun
  | cons location locations inductionHypothesis =>
      rw [List.foldlM_cons]
      have deletes :=
        plan.deleteFirstOwnedRule_deletes (onlyFails position) location before
      generalize first :
        plan.deleteFirstOwnedRule (onlyFails position) location before =
          outcome at deletes
      have noneFailed :
          ∀ {number}, onlyFails position number = false → number ≠ position :=
        of_decide_eq_false
      cases deletes with
      | notListed failed =>
          rw [bind_of_error (deleteOwnedRulesIn_of_error first)]
          refine iff_of_true rfl fun deletion isFirst => ?_
          rw [← of_decide_eq_true failed]
          exact Nat.le_of_lt (firstDeletion_later isFirst)
      | noRule listed none =>
          have noneOwned :
              (before.host.chains location).any
                  (plan.owns before.host location) =
                false := by
            rw [List.any_eq_false]
            exact none
          rw [bind_of_ok (deleteOwnedRulesIn_of_none first), firstDeletion,
            noneOwned, if_neg Bool.false_ne_true]
          exact
            @inductionHypothesis allowed before.tick
              (Nat.lt_of_le_of_ne upcoming (noneFailed listed))
      | notDeleted someOwned listed failed =>
          rw [bind_of_error (deleteOwnedRulesIn_of_error first)]
          refine iff_of_true rfl fun deletion isFirst => ?_
          rw [firstDeletion, if_pos (List.any_eq_true.mpr someOwned)] at isFirst
          rw [← of_decide_eq_true failed, Option.some.inj isFirst]
      | deleted someOwned listed deleted =>
          have isLater : before.issued + 1 < position :=
            Nat.lt_of_le_of_ne
              (Nat.lt_of_le_of_ne upcoming (noneFailed listed))
              (noneFailed deleted)
          refine iff_of_false (fun sameChains => ?_) fun isBound => ?_
          · have shrinks :
                (plan.firstDeleted location before).host.Shrinks
                  (reached
                    ((plan.deleteOwnedRulesIn (onlyFails position) location
                        allowed >>= fun allowed =>
                      locations.foldlM
                        (fun allowed location =>
                          plan.deleteOwnedRulesIn (onlyFails position)
                            location allowed)
                        allowed)
                      before)).host := by
              have inChain :=
                @deleteOwnedRulesIn_of_deleted plan (onlyFails position)
                  location allowed before _ first
              cases ran :
                  plan.deleteOwnedRulesIn (onlyFails position) location
                    allowed before with
              | error error middle =>
                  rw [ran] at inChain
                  rw [bind_of_error ran]
                  exact inChain
              | ok left middle =>
                  rw [ran] at inChain
                  rw [bind_of_ok ran]
                  exact inChain.trans
                    (foldlM_deleteOwnedRulesIn_shrinks locations left middle)
            have shorter := firstDeleted_shorter someOwned
            have isShort := shrinks location
            rw [sameChains] at isShort
            exact absurd shorter (Nat.not_lt.mpr isShort)
          · have isBounded :=
              isBound (before.issued + 1)
                (by
                  rw [firstDeletion,
                    if_pos (List.any_eq_true.mpr someOwned)])
            exact absurd isLater (Nat.not_lt.mpr isBounded)

/-- No rule is lost before the failure. -/
def KeepsRules
    (plan : GatewayPlan)
    (host : GatewayHost)
    (number position : Nat) :
    Prop :=
  plan.inPlace host = true ∨
    ∀ deletion,
      plan.firstDeletion host ownedRuleLocations number = some deletion →
        position ≤ deletion

theorem reconcile_chains_iff
    {position : Nat}
    {before : Shell}
    {outcome : EStateM.Result String Shell Unit}
    (upcoming : before.issued ≤ position)
    (reconciled : plan.reconcile (onlyFails position) before = outcome) :
    (reached outcome).host.chains = before.host.chains ↔
      plan.KeepsRules before.host (before.issued + plan.lookups) position := by
  have reconciles := plan.reconcile_reconciles (onlyFails position) before
  rw [reconciled] at reconciles
  cases reconciles with
  | notLookedUp sameHost _ isLookup failed =>
      refine iff_of_true (congrArg GatewayHost.chains sameHost) (.inr ?_)
      intro deletion isFirst
      rw [← of_decide_eq_true failed]
      exact Nat.le_of_lt (Nat.lt_trans isLookup (firstDeletion_later isFirst))
  | inPlace isInPlace =>
      exact iff_of_true rfl (.inl isInPlace)
  | deletes noneFails notInPlace isResult =>
      have isLater : before.issued + plan.lookups ≤ position := by
        refine Nat.le_of_not_lt fun isLookup => ?_
        have succeeded := noneFails position upcoming isLookup
        exact of_decide_eq_false succeeded rfl
      rw [isResult, reached_discard, deleteOwnedRules, reached_bind_pure]
      refine
        (@foldlM_deleteOwnedRulesIn_chains_iff plan position 128
          ownedRuleLocations
          { before with issued := before.issued + plan.lookups }
          isLater).trans ?_
      simp [KeepsRules, notInPlace]

/-- Deleting the added rules leaves what reconciling left. -/
theorem deleted_chains
    {position : Nat}
    {forwardingBefore failure : String}
    {added : List IptablesRule}
    {before middle deleted : Shell}
    (changed :
      plan.changeSystem (onlyFails position) forwardingBefore before =
        .ok (.error failure, added) middle)
    (isDeleted :
      deleteRules (onlyFails position) added.reverse middle =
        .ok () deleted) :
    deleted.host.chains =
      (reached (plan.reconcile (onlyFails position) before)).host.chains := by
  have changes :=
    plan.changeSystem_changes (onlyFails position) forwardingBefore before
  rw [changed] at changes
  cases changes with
  | notReconciled reconciled =>
      obtain ⟨-, rfl⟩ := EStateM.Result.ok.inj isDeleted
      rw [reconciled]
      rfl
  | @interrupted _ _ reconciledShell _ _ reconciled isHost absent _ isEarlier
      failed =>
      have noFailures :
          ∀ number, middle.issued ≤ number →
            onlyFails position number = false := by
        intro number isLater
        rw [← of_decide_eq_true failed]
        exact
          decide_eq_false (Nat.ne_of_gt (Nat.lt_of_lt_of_le isEarlier isLater))
      obtain ⟨after, isAfter, sameHost, -⟩ :=
        deleteRules_reverse absent isHost noFailures
      rw [isDeleted] at isAfter
      obtain ⟨-, rfl⟩ := EStateM.Result.ok.inj isAfter
      rw [reconciled, sameHost]
      rfl

/-- A marker that is there has the contents it is written with. -/
def MarkerFits (plan : GatewayPlan) (host : GatewayHost) : Prop :=
  ∀ namespaceId contents,
    host.namespaceId = some namespaceId →
      host.markers.lookup plan.tunnelInterface = some contents →
        contents = plan.markerContents namespaceId

/--
The failure is before anything is changed; or else the marker, if there is
one, fits, no value is to be recorded beside markers, and no rule is lost.
-/
def FailsSafely
    (plan : GatewayPlan)
    (host : GatewayHost)
    (position : Nat) :
    Prop :=
  ¬ plan.Ready host ∨ position = 0 ∨
    plan.MarkerFits host ∧
      (host.originalForwarding = none → host.markers.entries = []) ∧
      plan.KeepsRules host (1 + plan.lookups) position

/-- The markers are as before if the one that is there fits. -/
theorem markersUndone_lookup_iff
    {namespaceId : String}
    {host : GatewayHost}
    (isNamespace : host.namespaceId = some namespaceId) :
    (∀ tunnelInterface,
      (plan.markersUndone namespaceId host).lookup tunnelInterface =
        host.markers.lookup tunnelInterface) ↔
      plan.MarkerFits host := by
  unfold markersUndone MarkerFits
  cases stored : host.markers.lookup plan.tunnelInterface with
  | none =>
      exact iff_of_true (fun _ => rfl) nofun
  | some contents =>
      constructor
      · intro same otherId others isOther isStored
        rw [isNamespace, Option.some.injEq] at isOther
        have atPlan := same plan.tunnelInterface
        rw [AList.lookup_insert, stored, isStored] at atPlan
        rw [← isOther]
        exact (Option.some.inj atPlan).symm
      · intro fits tunnelInterface
        by_cases isPlan : tunnelInterface = plan.tunnelInterface
        · rw [isPlan, AList.lookup_insert, stored,
            fits namespaceId contents isNamespace rfl]
        · exact AList.lookup_insert_ne isPlan

/-- The recorded value is as before if no value was to be recorded. -/
theorem originalUndone_iff (namespaceId : String) (host : GatewayHost) :
    (if host.originalForwarding = none ∧ host.markers.entries = [] then
        none
      else
        (plan.recorded namespaceId host).originalForwarding) =
        host.originalForwarding ↔
      (host.originalForwarding = none → host.markers.entries = []) := by
  cases isRecorded : host.originalForwarding with
  | none =>
      by_cases noMarkers : host.markers.entries = []
      · simp [noMarkers]
      · simp [noMarkers, recorded]
  | some contents =>
      simp [recorded, isRecorded]

/-- A failed `apply` changes nothing exactly if it fails safely. -/
theorem failed_apply_unchanged_iff
    {position : Nat}
    {before after : GatewayHost}
    {error : String}
    (ran :
      before.run (plan.apply (onlyFails position)) = (.error error, after)) :
    before.Unchanged after ↔ plan.FailsSafely before position := by
  have applies := plan.apply_applies (onlyFails position) before
  rw [ran] at applies
  cases applies with
  | refused isRefused =>
      refine iff_of_true ⟨rfl, rfl, fun _ => rfl, rfl⟩ ?_
      rcases isRefused with notReady | failed
      · exact .inl notReady
      · exact .inr (.inl (of_decide_eq_true failed).symm)
  | @rolledBack namespaceId _ _ _ middle deleted _ ready isNamespace succeeded
      changed isDeleted rollsBack =>
      have isLater : 1 ≤ position :=
        Nat.one_le_iff_ne_zero.mpr fun isFirst =>
          of_decide_eq_false succeeded isFirst.symm
      obtain ⟨markers, original, forwarding⟩ :=
        plan.changeSystem_forwarding changed
      have same := deleteRules_sameButChains isDeleted
      obtain ⟨isForwarding, isMarkers, isOriginal⟩ :=
        rollsBack.bookkeeping (same.markers.trans markers)
          (same.originalForwarding.trans original)
          (same.ipForward.trans forwarding)
      have sameChains :
          after.chains = before.chains ↔
            plan.KeepsRules before (1 + plan.lookups) position := by
        rw [rollsBack.chains, deleted_chains changed isDeleted]
        exact
          @reconcile_chains_iff plan position
            { host := plan.recorded namespaceId before, issued := 1 } _
            isLater rfl
      have sameMarkers :=
        @markersUndone_lookup_iff plan namespaceId before isNamespace
      have sameOriginal := @originalUndone_iff plan namespaceId before
      rw [← isMarkers] at sameMarkers
      rw [← isOriginal] at sameOriginal
      constructor
      · intro unchanged
        exact .inr (.inr
          ⟨sameMarkers.mp unchanged.markers,
            sameOriginal.mp unchanged.originalForwarding,
            sameChains.mp unchanged.chains⟩)
      · rintro (notReady | isFirst | ⟨fits, accounted, keepsRules⟩)
        · exact absurd ready notReady
        · omega
        · exact
            ⟨sameChains.mpr keepsRules, isForwarding, sameMarkers.mpr fits,
              sameOriginal.mpr accounted⟩

end GatewayPlan

namespace GatewayExample

open GatewayPlan

/-- Only a success is no error. -/
theorem exists_error
    {outcome : Except String Unit}
    (notOk : outcome ≠ .ok ()) :
    ∃ error, outcome = .error error := by
  cases outcome with
  | error error => exact ⟨error, rfl⟩
  | ok => exact absurd rfl notOk

/-- The host when the first deletion of a first `apply` has failed. -/
def notDeleted : GatewayHost :=
  after (host mixedChains) (plan.apply (onlyFails 12))

/-- The host of a gateway that was applied for another network. -/
def appliedEarlier : GatewayHost :=
  { host mixedChains with
    ipForward := "1"
    originalForwarding := some "0\n"
    markers :=
      (∅ : AssociationMap String String).insert "hush0"
        ({ plan with lanInterface := "eth1" }.markerContents
          "net:[4026531840]") }

/-- The host when the first rule could not be added in place of the old one. -/
def notAdded : GatewayHost :=
  after appliedEarlier (plan.apply (onlyFails 15))

end GatewayExample

open GatewayExample in
/-- A deletion that fails is not undone, and need not be. -/
theorem GatewayPlan.failed_apply_unchanged_iff_example :
    (host mixedChains).Unchanged notDeleted := by
  obtain ⟨error, isError⟩ :
      ∃ error,
        ((host mixedChains).run (plan.apply (onlyFails 12))).1 =
          .error error :=
    exists_error (by decide +kernel)
  have isFirst :
      plan.firstDeletion (host mixedChains) ownedRuleLocations
          (1 + plan.lookups) =
        some 12 := by
    decide +kernel
  refine
    (GatewayPlan.failed_apply_unchanged_iff (run_eq isError)).mpr
      (.inr (.inr ⟨nofun, fun _ => rfl, .inr fun deletion isDeletion => ?_⟩))
  rw [isFirst, Option.some.injEq] at isDeletion
  exact Nat.le_of_eq isDeletion

open GatewayExample in
/-- The rule of the earlier gateway is lost when the new one fails. -/
theorem GatewayPlan.failed_apply_unchanged_iff_counterexample :
    ¬ ∀ (plan : GatewayPlan) (before after : GatewayHost) (position : Nat)
        (error : String),
      before.run (plan.apply (onlyFails position)) = (.error error, after) →
        before.Unchanged after := by
  intro unchanged
  obtain ⟨error, isError⟩ :
      ∃ error,
        (appliedEarlier.run (plan.apply (onlyFails 15))).1 = .error error :=
    exists_error (by decide +kernel)
  have same :=
    unchanged plan appliedEarlier notAdded 15 error (run_eq isError)
  have lost :
      notAdded.chains ⟨none, "FORWARD"⟩ ≠
        appliedEarlier.chains ⟨none, "FORWARD"⟩ := by
    decide +kernel
  exact lost (congrFun same.chains _)

end HushWire

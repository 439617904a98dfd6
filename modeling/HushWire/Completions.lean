import HushWire.Preflight

namespace HushWire.PacketTunnel

/-!
# Completion handlers

A message of the app comes with a completion handler.  Until it is called, it
waits with the settings that are kept back, among the duplicates, or with a
call of `setTunnelNetworkSettings` that was not answered yet.  Handlers are
counted: every job answers as many as it takes from where they wait.
-/

open Noise

section Handlers

variable {device : Device} {snow : Snow}

/-- The handlers that an effect calls. -/
def Effect.answers : Effect → List Completion
  | .respond completion _ => [completion]
  | _ => []

/-- The handler that a callback holds. -/
def SettingsCallback.handlers : SettingsCallback → List Completion
  | .activation completionHandler _ => completionHandler.toList
  | _ => []

/-- The handlers that an effect hands to the system. -/
def Effect.hands : Effect → List Completion
  | .setTunnelNetworkSettings _ callback => callback.handlers
  | _ => []

/-- The handlers that a job brings. -/
def Job.brings : Job snow → List Completion
  | .handleAppMessage _ completionHandler => completionHandler.toList
  | _ => []

/-- The handlers that the system hands back for a job. -/
def Job.returns : Job snow → List Completion
  | .settingsInstalled call _ => call.callback.handlers
  | _ => []

/-- The handler that waits for the preflight. -/
def Provider.pendingHandlers (provider : Provider device snow) :
    List Completion :=
  (provider.pendingProtectedActivation.bind
    PendingProtectedActivation.completionHandler).toList

/-- The handlers that wait in the provider. -/
def Provider.keepers (provider : Provider device snow) : List Completion :=
  provider.pendingHandlers ++ provider.duplicateConfigurationCompletionHandlers

/-- The handlers that wait, each as often as it waits. -/
def System.keepers (system : System device snow) : List Completion :=
  system.provider.keepers ++
    system.calls.flatMap fun call => call.callback.handlers

/-- The handlers that were received. -/
def Occurrence.received
    (occurrences : List (Occurrence device snow)) :
    List Completion :=
  occurrences.flatMap fun occurrence => occurrence.job.brings

/-- The handlers that were called. -/
def Occurrence.answered
    (occurrences : List (Occurrence device snow)) :
    List Completion :=
  occurrences.flatMap fun occurrence =>
    occurrence.effects.flatMap Effect.answers

section Accounts

variable (completion : Completion)

/-- How often effects call a handler or hand it on. -/
def Effect.count (effects : List Effect) : Nat :=
  (effects.flatMap Effect.answers).count completion +
    (effects.flatMap Effect.hands).count completion

theorem Effect.count_append (first later : List Effect) :
    Effect.count completion (first ++ later) =
      Effect.count completion first + Effect.count completion later := by
  simp only [Effect.count, List.flatMap_append, List.count_append]
  omega

/-- Effects without handlers. -/
theorem Effect.count_eq_zero
    {effects : List Effect}
    (silent : ∀ effect ∈ effects, effect.answers = [] ∧ effect.hands = []) :
    Effect.count completion effects = 0 := by
  have answers : effects.flatMap Effect.answers = [] :=
    List.flatMap_eq_nil_iff.mpr fun effect member => (silent effect member).1
  have hands : effects.flatMap Effect.hands = [] :=
    List.flatMap_eq_nil_iff.mpr fun effect member => (silent effect member).2
  rw [Effect.count, answers, hands]
  rfl

/-- Answers count as often as the handler is among them. -/
theorem Effect.count_respond
    (completions : List Completion)
    (response : Response) :
    Effect.count completion
        (completions.map fun answered => .respond answered response) =
      completions.count completion := by
  have hands :
      completions.flatMap (fun _ => ([] : List Completion)) = [] :=
    List.flatMap_eq_nil_iff.mpr fun _ _ => rfl
  simp [Effect.count, List.flatMap_map, Effect.answers, Effect.hands, hands]

namespace Provider

/-- A job accounts for the handlers that it is given. -/
def Accounts
    (given : List Completion)
    (before : Provider device snow)
    (outcome : Provider device snow × List Effect) :
    Prop :=
  given.count completion + before.keepers.count completion =
    Effect.count completion outcome.2 + outcome.1.keepers.count completion

/-- A job without handlers, whose provider keeps its own. -/
theorem Accounts.of_silent
    {before : Provider device snow}
    {outcome : Provider device snow × List Effect}
    (keepers : outcome.1.keepers = before.keepers)
    (silent :
      ∀ effect ∈ outcome.2, effect.answers = [] ∧ effect.hands = []) :
    Accounts completion [] before outcome := by
  rw [Accounts, keepers, Effect.count_eq_zero completion silent]
  rfl

/-- Something silent may follow. -/
theorem Accounts.thenSilent
    {given : List Completion}
    {before middle : Provider device snow}
    {first : List Effect}
    {outcome : Provider device snow × List Effect}
    (accounts : Accounts completion given before (middle, first))
    (silent :
      outcome.1.keepers = middle.keepers ∧
        ∀ effect ∈ outcome.2, effect.answers = [] ∧ effect.hands = []) :
    Accounts completion given before (outcome.1, first ++ outcome.2) := by
  unfold Accounts at accounts ⊢
  dsimp only at accounts ⊢
  rw [accounts, silent.1, Effect.count_append,
    Effect.count_eq_zero completion silent.2, Nat.add_zero]

section Functions

variable (provider : Provider device snow)

theorem callCore_silent
    (call : EngineCall snow) :
    (provider.callCore call).1.keepers = provider.keepers ∧
      ∀ effect ∈ (provider.callCore call).2,
        effect.answers = [] ∧ effect.hands = [] := by
  unfold callCore
  cases provider.core with
  | none => simp
  | some core =>
      refine ⟨rfl, ?_⟩
      dsimp only
      cases (core.perform call).1 with
      | error error => simp
      | ok output =>
          intro effect member
          rcases List.mem_append.mp member with isEvent | isAction
          · obtain ⟨event, _, rfl⟩ := List.mem_map.mp isEvent
            exact ⟨rfl, rfl⟩
          · obtain ⟨action, _, isEffect⟩ := List.mem_filterMap.mp isAction
            cases action <;>
            · simp only [Option.ite_none_right_eq_some, Option.some.injEq]
                at isEffect
              obtain ⟨_, rfl⟩ := isEffect
              exact ⟨rfl, rfl⟩

theorem callCoreAll_silent
    (calls : List (EngineCall snow)) :
    (provider.callCoreAll calls).1.keepers = provider.keepers ∧
      ∀ effect ∈ (provider.callCoreAll calls).2,
        effect.answers = [] ∧ effect.hands = [] := by
  induction calls generalizing provider with
  | nil => exact ⟨rfl, by simp [callCoreAll]⟩
  | cons call rest inductionHypothesis =>
      obtain ⟨first, firstSilent⟩ := provider.callCore_silent call
      obtain ⟨later, laterSilent⟩ :=
        inductionHypothesis (provider.callCore call).1
      exact ⟨later.trans first,
        List.forall_mem_append.mpr ⟨firstSilent, laterSilent⟩⟩

theorem refreshRoutes_silent
    (core : CoreRuntime snow)
    (transport : TransportKind)
    (moment : Moment device snow)
    (scheduledPeers : List String)
    (routes : List RouteMetadata) :
    (refreshRoutes core transport moment scheduledPeers provider
        routes).1.keepers = provider.keepers ∧
      ∀ effect ∈
          (refreshRoutes core transport moment scheduledPeers provider
            routes).2,
        effect.answers = [] ∧ effect.hands = [] := by
  induction routes generalizing provider scheduledPeers with
  | nil => exact ⟨rfl, by simp [refreshRoutes]⟩
  | cons route rest inductionHypothesis =>
      unfold refreshRoutes
      split
      · exact inductionHypothesis provider scheduledPeers
      · dsimp only
        split
        · obtain ⟨keepers, silent⟩ :=
            inductionHypothesis
              { provider with
                endpointRefreshInFlight :=
                  device.foundation.canonicalForm route.peerName ::
                    provider.endpointRefreshInFlight
                lastEndpointRefreshAttempt :=
                  provider.lastEndpointRefreshAttempt.insert
                    (device.foundation.canonicalForm route.peerName)
                    moment.now }
              (route.peerName :: scheduledPeers)
          exact ⟨keepers,
            List.forall_mem_cons.mpr ⟨⟨rfl, rfl⟩, silent⟩⟩
        · exact inductionHypothesis provider _

theorem maintain_silent
    (moment : Moment device snow)
    (tick : List (ScheduledCall snow))
    (failed : Bool) :
    (provider.maintain moment tick failed).1.keepers = provider.keepers ∧
      ∀ effect ∈ (provider.maintain moment tick failed).2,
        effect.answers = [] ∧ effect.hands = [] := by
  unfold maintain
  split
  · obtain ⟨ticked, tickSilent⟩ :=
      provider.callCoreAll_silent (tick.map ScheduledCall.engineCall)
    cases failed with
    | true => exact ⟨ticked, tickSilent⟩
    | false =>
        let after :=
          (provider.callCoreAll (tick.map ScheduledCall.engineCall)).1
        have refreshed :
            (after.refreshDynamicEndpointsIfNeeded moment).1.keepers =
                after.keepers ∧
              ∀ effect ∈ (after.refreshDynamicEndpointsIfNeeded moment).2,
                effect.answers = [] ∧ effect.hands = [] := by
          unfold refreshDynamicEndpointsIfNeeded
          split
          · split
            · exact after.refreshRoutes_silent _ _ _ _ _
            · exact ⟨rfl, by simp⟩
          · exact ⟨rfl, by simp⟩
        exact ⟨refreshed.1.trans ticked,
          List.forall_mem_append.mpr ⟨tickSilent, refreshed.2⟩⟩
  · exact ⟨rfl, by simp⟩

theorem activateResolvedEndpoint_silent
    (moment : Moment device snow)
    (endpoint : Endpoint)
    (peerName : String)
    (routes : List RouteMetadata)
    (finalSettings : Option NetworkSettings) :
    (provider.activateResolvedEndpoint moment endpoint peerName routes
        finalSettings).1.keepers = provider.keepers ∧
      ∀ effect ∈
          (provider.activateResolvedEndpoint moment endpoint peerName routes
            finalSettings).2,
        effect.answers = [] ∧ effect.hands = [] := by
  unfold activateResolvedEndpoint
  cases provider.core with
  | none => exact ⟨rfl, by simp⟩
  | some core =>
      simp only
      split
      · split
        · exact callCore_silent _ _
        · exact ⟨rfl, by simp⟩
      · exact ⟨rfl, by simp⟩

theorem applyResolvedEndpoint_silent
    (moment : Moment device snow)
    (endpoint : Endpoint)
    (peerName : String)
    (runtime : Nat) :
    (provider.applyResolvedEndpoint moment endpoint peerName
        runtime).1.keepers = provider.keepers ∧
      ∀ effect ∈
          (provider.applyResolvedEndpoint moment endpoint peerName runtime).2,
        effect.answers = [] ∧ effect.hands = [] := by
  unfold applyResolvedEndpoint
  dsimp only
  split
  · exact ⟨rfl, by simp⟩
  · split
    · exact ⟨rfl, by simp⟩
    · split
      · exact ⟨rfl, List.forall_mem_singleton.mpr ⟨rfl, rfl⟩⟩
      · exact activateResolvedEndpoint_silent _ _ _ _ _ _

theorem transitionFinished_silent
    (moment : Moment device snow)
    (error : Option ProviderError)
    (endpoint : Endpoint)
    (peerName : String)
    (runtime : Nat)
    (routes : List RouteMetadata)
    (finalSettings : NetworkSettings) :
    (provider.transitionFinished moment error endpoint peerName runtime
        routes finalSettings).1.keepers = provider.keepers ∧
      ∀ effect ∈
          (provider.transitionFinished moment error endpoint peerName runtime
            routes finalSettings).2,
        effect.answers = [] ∧ effect.hands = [] := by
  unfold transitionFinished
  split
  · split
    · exact ⟨rfl, by simp⟩
    · exact provider.activateResolvedEndpoint_silent _ _ _ _ _
  · exact ⟨rfl, by simp⟩

/-- A teardown answers every handler that waits in the provider. -/
theorem tearDownRuntime_accounts :
    Accounts completion [] provider provider.tearDownRuntime := by
  have answered :
      Effect.count completion provider.tearDownRuntime.2 =
        provider.keepers.count completion := by
    rw [tearDownRuntime, ← List.singleton_append, ← List.map_append,
      Effect.count_append, Effect.count_respond, keepers, pendingHandlers]
    exact Nat.zero_add _
  rw [Accounts, answered]
  exact Nat.add_comm _ _

theorem finishFailedConfiguration_accounts
    (error : ProviderError)
    (completionHandler : Option Completion) :
    Accounts completion completionHandler.toList provider
      (provider.finishFailedConfiguration error completionHandler) := by
  have tornDown := provider.tearDownRuntime_accounts completion
  have answered :
      Effect.count completion
          (completionHandler.toList.map (fun answered =>
            .respond answered (.failure error)) ++ [.cancelTunnel error]) =
        completionHandler.toList.count completion := by
    rw [Effect.count_append, Effect.count_respond]
    rfl
  unfold Accounts at tornDown ⊢
  unfold finishFailedConfiguration
  dsimp only
  rw [List.append_assoc, Effect.count_append, answered]
  simp only [List.count_nil] at tornDown
  omega

/-- A configuration that is installed takes its handler along. -/
theorem installConfiguration_accounts
    (moment : Moment device snow)
    (configuration : Bytes)
    (completionHandler : Option Completion)
    (noPending :
      provider.core = none → provider.pendingProtectedActivation = none) :
    Accounts completion completionHandler.toList provider
      (provider.installConfiguration moment configuration
        completionHandler) := by
  unfold installConfiguration
  cases isActive : provider.activeConfiguration with
  | some activeConfiguration =>
      simp only
      split
      · exact provider.finishFailedConfiguration_accounts completion _ _
      · split
        · unfold Accounts
          rw [Effect.count_respond]
        · unfold Accounts keepers
          simp only [List.count_append]
          rw [Nat.add_comm, Effect.count, List.flatMap_nil, List.flatMap_nil,
            List.count_nil, Nat.zero_add, Nat.add_assoc,
            ← List.count_append]
          rfl
  | none =>
      simp only
      split
      · exact provider.finishFailedConfiguration_accounts completion _ _
      · rename_i core configurationPlan loaded
        have noHandler : provider.pendingHandlers = [] := by
          rw [pendingHandlers,
            noPending (loadConfiguration_ok loaded).2.2.1]
          rfl
        unfold installLoaded
        dsimp only
        split
        · let waiting : Provider device snow :=
            startMaintenanceTimer
              { provider.install configuration core with
                pendingProtectedActivation :=
                  some
                    ⟨firstSettings device core configurationPlan,
                      completionHandler⟩
                protectedHandshakeTimeout := true }
          have waits :
              Accounts completion completionHandler.toList provider
                (waiting, []) := by
            unfold Accounts keepers
            rw [noHandler, List.nil_append, ← List.count_append]
            exact (Nat.zero_add _).symm
          exact waits.thenSilent completion (waiting.callCoreAll_silent _)
        · unfold Accounts
          rw [Effect.count, List.flatMap_singleton, List.flatMap_singleton]
          exact congrArg₂ _ (Nat.zero_add _).symm rfl

theorem startTunnel_accounts
    (moment : Moment device snow)
    (options protocolConfiguration : Option ProviderConfiguration)
    (noPending :
      provider.core = none → provider.pendingProtectedActivation = none) :
    Accounts completion [] provider
      (provider.startTunnel moment options protocolConfiguration) := by
  have failed (error : ProviderError) :
      Accounts completion [] provider (provider.finishFailedStart error) := by
    have tornDown := provider.tearDownRuntime_accounts completion
    unfold Accounts at tornDown ⊢
    unfold finishFailedStart
    dsimp only
    rw [tornDown, Effect.count_append]
    rfl
  unfold startTunnel
  split
  · exact failed _
  · split
    · exact failed _
    · exact .of_silent completion rfl
        (List.forall_mem_singleton.mpr ⟨rfl, rfl⟩)
    · rename_i networkPolicy configuration _
      have installed :=
        installConfiguration_accounts completion
          { provider with networkPolicy, awaitingConfiguration := true }
          moment configuration none noPending
      unfold Accounts at installed ⊢
      dsimp only
      rw [← List.singleton_append, Effect.count_append]
      exact installed.trans (congrArg₂ _ (Nat.zero_add _).symm rfl)

theorem handleAppMessage_accounts
    (moment : Moment device snow)
    (messageData : Bytes)
    (completionHandler : Option Completion)
    (noPending :
      provider.core = none → provider.pendingProtectedActivation = none) :
    Accounts completion completionHandler.toList provider
      (provider.handleAppMessage moment messageData completionHandler) := by
  have answered (response : Response) :
      Accounts completion completionHandler.toList provider
        (provider,
          completionHandler.toList.map fun answered =>
            .respond answered response) := by
    unfold Accounts
    rw [Effect.count_respond]
  unfold handleAppMessage
  dsimp only
  split
  · exact answered _
  · split
    · exact answered _
    · split
      · exact provider.installConfiguration_accounts completion moment _ _
          noPending
      · exact answered _

/-- The handler that was kept back goes to the callback of its settings. -/
theorem handshakeCompleted_accounts
    (runtime : Nat)
    (peerName : String)
    (endpoint : Endpoint) :
    Accounts completion [] provider
      (provider.handshakeCompleted runtime peerName endpoint) := by
  have released :
      Accounts completion [] provider
        (provider.activatePendingProtectedConfigurationIfNeeded
          peerName) := by
    unfold activatePendingProtectedConfigurationIfNeeded
    split
    · cases isPending : provider.pendingProtectedActivation with
      | none => exact .of_silent completion rfl (by simp)
      | some pending =>
          unfold Accounts keepers pendingHandlers
          rw [isPending, Effect.count, List.flatMap_singleton,
            List.flatMap_singleton, List.count_append]
          exact Nat.add_assoc _ _ _ |>.symm
    · exact .of_silent completion rfl (by simp)
  have cleaned (provider : Provider device snow) :
      (provider.finishEndpointRouteTransitionIfNeeded peerName
          endpoint).1.keepers = provider.keepers ∧
        ∀ effect ∈
            (provider.finishEndpointRouteTransitionIfNeeded peerName
              endpoint).2,
          effect.answers = [] ∧ effect.hands = [] := by
    unfold finishEndpointRouteTransitionIfNeeded
    split
    · exact ⟨rfl, by simp⟩
    · split
      · exact ⟨rfl, List.forall_mem_singleton.mpr ⟨rfl, rfl⟩⟩
      · exact ⟨rfl, by simp⟩
  unfold handshakeCompleted
  split
  · exact released.thenSilent completion (cleaned _)
  · exact .of_silent completion rfl (by simp)

theorem activationFinished_accounts
    (moment : Moment device snow)
    (error : Option ProviderError)
    (completionHandler : Option Completion)
    (handshakeAlreadyStarted : Bool) :
    Accounts completion completionHandler.toList provider
      (provider.activationFinished moment error completionHandler
        handshakeAlreadyStarted) := by
  cases error with
  | some error =>
      exact provider.finishFailedConfiguration_accounts completion _ _
  | none =>
      let active : Provider device snow :=
        startMaintenanceTimer
          { provider with awaitingConfiguration := false, running := true }
      have handshakes :
          (if handshakeAlreadyStarted then (active, [])
              else active.startInitialHandshakes moment).1.keepers =
              active.keepers ∧
            ∀ effect ∈
                (if handshakeAlreadyStarted then (active, [])
                  else active.startInitialHandshakes moment).2,
              effect.answers = [] ∧ effect.hands = [] := by
        cases handshakeAlreadyStarted with
        | true => exact ⟨rfl, by simp⟩
        | false => exact active.callCoreAll_silent _
      have answered
          {outcome : Provider device snow × List Effect}
          (silent :
            outcome.1.keepers = active.keepers ∧
              ∀ effect ∈ outcome.2,
                effect.answers = [] ∧ effect.hands = []) :
          Accounts completion completionHandler.toList provider
            ({ outcome.1 with duplicateConfigurationCompletionHandlers := [] },
              outcome.2 ++
                (completionHandler.toList ++
                  outcome.1.duplicateConfigurationCompletionHandlers).map
                    fun answered => .respond answered .success) := by
        have same : provider.keepers = outcome.1.keepers := silent.1.symm
        have kept :
            keepers
                { outcome.1 with
                  duplicateConfigurationCompletionHandlers := [] } =
              outcome.1.pendingHandlers :=
          List.append_nil _
        unfold Accounts
        dsimp only
        rw [same, kept, Effect.count_append,
          Effect.count_eq_zero completion silent.2, Effect.count_respond,
          keepers, List.count_append, List.count_append]
        omega
      exact answered handshakes

theorem protectedHandshakeExpired_accounts :
    Accounts completion [] provider provider.protectedHandshakeExpired := by
  unfold protectedHandshakeExpired
  split
  · exact .of_silent completion rfl (by simp)
  · rename_i pending isPending
    have failed :=
      finishFailedConfiguration_accounts completion
        { provider with
          pendingProtectedActivation := none
          protectedHandshakeTimeout := false }
        (.failure 11
          "认证预握手在 15 秒内未完成；隧道路由和 DNS 均未修改。")
        pending.completionHandler
    unfold Accounts at failed ⊢
    rw [← failed]
    unfold keepers pendingHandlers
    rw [isPending, List.count_append]
    exact Nat.zero_add _

theorem configurationDeliveryExpired_accounts :
    Accounts completion [] provider
      provider.configurationDeliveryExpired := by
  unfold configurationDeliveryExpired
  dsimp only
  split
  · exact finishFailedConfiguration_accounts completion _ _ none
  · exact .of_silent completion rfl (by simp)

end Functions

/-- Every job accounts for the handlers that it is given. -/
theorem handle_accounts
    (moment : Moment device snow)
    (job : Job snow)
    (provider : Provider device snow)
    (noPending :
      provider.core = none → provider.pendingProtectedActivation = none) :
    Accounts completion (job.brings ++ job.returns) provider
      (provider.handle moment job) := by
  cases job with
  | startTunnel options protocolConfiguration =>
      exact provider.startTunnel_accounts completion moment options
        protocolConfiguration noPending
  | stopTunnel =>
      have silent :
          ∀ effect ∈ [Effect.completeStop],
            effect.answers = [] ∧ effect.hands = [] :=
        List.forall_mem_singleton.mpr ⟨rfl, rfl⟩
      have tornDown := provider.tearDownRuntime_accounts completion
      exact
        @Accounts.thenSilent _ _ completion _ _ _ _
          (provider.tornDown, [.completeStop]) tornDown ⟨rfl, silent⟩
  | handleAppMessage messageData completionHandler =>
      have given :
          (Job.handleAppMessage messageData completionHandler :
              Job snow).brings ++
            (Job.handleAppMessage messageData completionHandler :
              Job snow).returns =
            completionHandler.toList :=
        List.append_nil _
      rw [given]
      exact provider.handleAppMessage_accounts completion moment messageData
        completionHandler noPending
  | handshakeCompleted handshake =>
      exact provider.handshakeCompleted_accounts completion _ _ _
  | protectedHandshakeExpired =>
      exact provider.protectedHandshakeExpired_accounts completion
  | configurationDeliveryExpired =>
      exact provider.configurationDeliveryExpired_accounts completion
  | settingsInstalled call error =>
      have given :
          (Job.settingsInstalled call error : Job snow).brings ++
            (Job.settingsInstalled call error : Job snow).returns =
            call.callback.handlers :=
        List.nil_append _
      rw [given]
      unfold handle settingsInstalled
      dsimp only
      cases call.callback with
      | activation completionHandler handshakeAlreadyStarted =>
          exact provider.activationFinished_accounts completion moment error
            completionHandler handshakeAlreadyStarted
      | transition endpoint peerName runtime routes finalSettings =>
          obtain ⟨kept, silent⟩ :=
            provider.transitionFinished_silent moment error endpoint peerName
              runtime routes finalSettings
          exact .of_silent completion kept silent
      | cleanup => exact .of_silent completion rfl (by simp)
  | maintain tick failed =>
      obtain ⟨kept, silent⟩ := provider.maintain_silent moment tick failed
      exact .of_silent completion kept silent
  | resolve resolution => exact .of_silent completion rfl (by simp [handle])
  | applyResolved resolved =>
      obtain ⟨⟨peerName, runtime⟩, endpoint⟩ := resolved
      cases endpoint with
      | none => exact .of_silent completion rfl (by simp [handle])
      | some endpoint =>
          obtain ⟨kept, silent⟩ :=
            provider.applyResolvedEndpoint_silent moment endpoint peerName
              runtime
          exact .of_silent completion kept silent
  | receiveTransport frame source =>
      obtain ⟨kept, silent⟩ := provider.callCore_silent _
      exact .of_silent completion kept silent
  | readPackets packets =>
      unfold handle readPackets
      dsimp only
      split
      · obtain ⟨kept, silent⟩ := provider.callCoreAll_silent _
        exact .of_silent completion kept silent
      · exact .of_silent completion rfl (by simp)
  | transportSent runtime peerName bytes =>
      unfold handle transportSent
      dsimp only
      split
      · obtain ⟨kept, silent⟩ := provider.callCore_silent _
        exact .of_silent completion kept silent
      · exact .of_silent completion rfl (by simp)

end Provider

end Accounts

namespace System

/-- Effects add the handlers that they hand on. -/
theorem keepers_absorb
    (effects : List Effect)
    (system : System device snow) :
    (effects.foldl absorb system).calls.flatMap
        (fun call => call.callback.handlers) =
      system.calls.flatMap (fun call => call.callback.handlers) ++
        effects.flatMap Effect.hands := by
  induction effects generalizing system with
  | nil => exact (List.append_nil _).symm
  | cons effect rest inductionHypothesis =>
      rw [List.foldl_cons, inductionHypothesis, List.flatMap_cons,
        ← List.append_assoc]
      cases effect with
      | setTunnelNetworkSettings settings callback =>
          simp [absorb, Effect.hands]
      | _ => exact congrArg (· ++ _) (List.append_nil _).symm

/-- A call that is answered returns its handler. -/
theorem keepers_take
    (completion : Completion)
    (system : System device snow)
    (moment : Moment device snow)
    {job : Job snow}
    (enabled : system.Enabled job) :
    job.returns.count completion +
        ((system.take moment job).calls.flatMap fun call =>
          call.callback.handlers).count completion =
      (system.calls.flatMap fun call =>
        call.callback.handlers).count completion := by
  cases job with
  | settingsInstalled call error =>
      have reordered :
          (system.calls.flatMap fun call => call.callback.handlers).Perm
            ((call :: system.calls.erase call).flatMap fun call =>
              call.callback.handlers) :=
        (List.perm_cons_erase enabled).flatMap_right _
      rw [reordered.count_eq, List.flatMap_cons, List.count_append]
      rfl
  | _ => exact Nat.zero_add _

/-- Every handler that was received was called or waits. -/
theorem received_count
    {occurrences : List (Occurrence device snow)}
    {system : System device snow}
    (run : Execution Step initial occurrences system)
    (completion : Completion) :
    (Occurrence.received occurrences).count completion =
      (Occurrence.answered occurrences).count completion +
        system.keepers.count completion := by
  induction run with
  | nil => rfl
  | @snoc occurrences before after occurrence earlier step
      inductionHypothesis =>
      have gate := Gate.of_execution earlier
      have handled :=
        Provider.handle_accounts completion occurrence.moment occurrence.job
          before.provider fun noCore => (gate.gated.noPending noCore).1
      have taken :=
        keepers_take completion before occurrence.moment step.enabled
      have calls :
          (after.calls.flatMap fun call => call.callback.handlers) =
            ((before.take occurrence.moment occurrence.job).calls.flatMap
              fun call => call.callback.handlers) ++
              occurrence.effects.flatMap Effect.hands :=
        (congrArg
          (fun system : System device snow =>
            system.calls.flatMap fun call => call.callback.handlers)
          step.absorbs).trans (keepers_absorb _ _)
      rw [Provider.Accounts, step.handled, Effect.count,
        List.count_append] at handled
      dsimp only at handled
      rw [keepers, List.count_append] at inductionHypothesis
      rw [Occurrence.received, Occurrence.answered, List.flatMap_append,
        List.flatMap_append, List.flatMap_singleton, List.flatMap_singleton,
        List.count_append, List.count_append, ← Occurrence.received,
        ← Occurrence.answered, inductionHypothesis, keepers,
        List.count_append, calls, List.count_append]
      omega

end System

end Handlers

/--
In every run, each handler was called or waits as often as it was received.
Where every message brings a handler of its own, none is called twice, and
each that was not called waits in exactly one place: with the settings that
are kept back, among the duplicates, or with one outstanding call.  After a
teardown none waits in the provider.
-/
theorem messages_answered_once
    {device : Device}
    {snow : Snow}
    {occurrences : List (Occurrence device snow)}
    {system : System device snow}
    (run : Execution System.Step .initial occurrences system) :
    (∀ completion,
      (Occurrence.received occurrences).count completion =
        (Occurrence.answered occurrences).count completion +
          system.keepers.count completion) ∧
      ((Occurrence.received occurrences).Nodup →
        (Occurrence.answered occurrences).Nodup ∧
          system.keepers.Nodup ∧
          ∀ completion,
            completion ∈ system.keepers ↔
              completion ∈ Occurrence.received occurrences ∧
                completion ∉ Occurrence.answered occurrences) ∧
      ∀ earlier ending,
        occurrences = earlier ++ [ending] →
        ending.TearsDown →
        system.provider.pendingProtectedActivation = none ∧
          system.provider.duplicateConfigurationCompletionHandlers = [] := by
  have counted := System.received_count run
  refine ⟨counted, fun distinct => ?_, ?_⟩
  · have once (completion : Completion) :
        (Occurrence.answered occurrences).count completion +
            system.keepers.count completion ≤ 1 :=
      counted completion ▸
        List.nodup_iff_count_le_one.mp distinct completion
    refine
      ⟨List.nodup_iff_count_le_one.mpr fun completion =>
          (Nat.le_add_right _ _).trans (once completion),
        List.nodup_iff_count_le_one.mpr fun completion =>
          (Nat.le_add_left _ _).trans (once completion),
        fun completion => ?_⟩
    rw [← List.count_pos_iff, ← List.count_pos_iff, ← List.count_eq_zero,
      counted completion]
    have atMostOnce := once completion
    omega
  · rintro earlier ending rfl tears
    obtain ⟨before, _, step⟩ := run.last_step
    obtain ⟨middle, isTornDown⟩ := step.performs.eq_tornDown tears
    simp only at isTornDown
    rw [isTornDown]
    exact ⟨rfl, rfl⟩

namespace ProviderExample

/-- The app delivers a configuration and waits for the answer. -/
def deliverWith (completion : Completion) : Job PlainNoise.snow :=
  .handleAppMessage [0x02, 0x66] (some completion)

def deliveredFirst : System device PlainNoise.snow :=
  next fullStarted (deliverWith 7)

def deliveredTwice : System device PlainNoise.snow :=
  next deliveredFirst (deliverWith 8)

/-- The app delivers twice, and the session is stopped. -/
def answeredRun : List (Occurrence device PlainNoise.snow) :=
  [occurrence .initial (start .fullTunnel),
    occurrence fullStarted (deliverWith 7),
    occurrence deliveredFirst (deliverWith 8),
    occurrence deliveredTwice .stopTunnel]

theorem answered_execution :
    Execution System.Step .initial answeredRun
      (next deliveredTwice .stopTunnel) :=
  .snoc
    (.snoc (.snoc (.single (.of_next trivial)) (.of_next trivial))
      (.of_next trivial))
    (.of_next trivial)

end ProviderExample

/-- Both messages are answered when the session is stopped. -/
theorem messages_answered_once_example :
    Occurrence.answered ProviderExample.answeredRun = [7, 8] ∧
      (Occurrence.answered ProviderExample.answeredRun).Nodup ∧
      (ProviderExample.next ProviderExample.deliveredTwice
        .stopTunnel).keepers.Nodup ∧
      ∀ completion,
        completion ∈
            (ProviderExample.next ProviderExample.deliveredTwice
              .stopTunnel).keepers ↔
          completion ∈
              Occurrence.received ProviderExample.answeredRun ∧
            completion ∉ Occurrence.answered ProviderExample.answeredRun :=
  ⟨by decide +kernel,
    (messages_answered_once ProviderExample.answered_execution).2.1
      (by decide +kernel)⟩

end HushWire.PacketTunnel

import HushWire.ProviderSteps

namespace HushWire.PacketTunnel

/-!
# The jobs of the provider step by step

`Provider.handle_performs` splits every job into the steps of
`Provider.Does`, function by function.
-/

open Noise

variable {device : Device} {snow : Snow}

namespace Provider

section Functions

variable
  {moment : Moment device snow}
  {job : Job snow}
  (provider : Provider device snow)

theorem tearDownRuntime_ends
    {later : List Effect}
    (quiet : ∀ effect ∈ later, effect.IsQuiet) :
    EndsWith (provider.tearDownRuntime.2 ++ later) where
  tearDown := List.mem_append_left _ List.mem_cons_self
  quiet := by
    refine List.forall_mem_append.mpr
      ⟨fun effect member => ?_, fun effect member => .inr (quiet _ member)⟩
    rcases List.mem_cons.mp member with isTearDown | answers
    · exact .inl isTearDown
    · refine .inr ?_
      rcases List.mem_append.mp answers with isPending | isDuplicate
      · obtain ⟨_, _, rfl⟩ := List.mem_map.mp isPending
        exact trivial
      · obtain ⟨_, _, rfl⟩ := List.mem_map.mp isDuplicate
        exact trivial

/-- Whatever a teardown is followed by, the session is gone. -/
theorem tearDown_performs
    {before : Provider device snow}
    {later : List Effect}
    (sameRuntimes : provider.runtimes = before.runtimes)
    (quiet : ∀ effect ∈ later, effect.IsQuiet) :
    Performs moment job before
      (provider.tornDown, provider.tearDownRuntime.2 ++ later) := by
  have same : provider.tornDown = before.tornDown := by
    rw [tornDown, tornDown, sameRuntimes]
  rw [same]
  exact ⟨[], before, .nil,
    .inr ⟨_, provider.tearDownRuntime_ends quiet, by simp, by simp⟩⟩

theorem finishFailedConfiguration_performs
    {before : Provider device snow}
    (sameRuntimes : provider.runtimes = before.runtimes)
    (error : ProviderError)
    (completionHandler : Option Completion) :
    Performs moment job before
      (provider.finishFailedConfiguration error completionHandler) := by
  unfold finishFailedConfiguration
  rw [tearDownRuntime]
  dsimp only
  rw [List.append_assoc]
  refine provider.tearDown_performs sameRuntimes ?_
  refine List.forall_mem_append.mpr ⟨fun effect member => ?_, ?_⟩
  · obtain ⟨_, _, rfl⟩ := List.mem_map.mp member
    exact trivial
  · exact List.forall_mem_singleton.mpr trivial

theorem installConfiguration_performs
    (configuration : Bytes)
    (completionHandler : Option Completion) :
    Performs moment job provider
      (provider.installConfiguration moment configuration
        completionHandler) := by
  unfold installConfiguration
  cases isActive : provider.activeConfiguration with
  | some activeConfiguration =>
      simp only
      split
      · exact provider.finishFailedConfiguration_performs rfl _ _
      · split
        · refine Keeps.performs
            (.of_goesOn ⟨.refl provider, fun effect member => ?_⟩)
          obtain ⟨_, _, rfl⟩ := List.mem_map.mp member
          exact trivial
        · exact Keeps.performs
            (.of_goesOn
              ⟨.of_core_eq rfl rfl rfl rfl rfl rfl rfl isActive.symm rfl rfl
                rfl id, by simp⟩)
  | none =>
      simp only
      split
      · exact provider.finishFailedConfiguration_performs rfl _ _
      · rename_i core configurationPlan loaded
        unfold installLoaded
        dsimp only
        split
        · rename_i isProtected
          let waiting : Provider device snow :=
            startMaintenanceTimer
              { provider.install configuration core with
                pendingProtectedActivation :=
                  some
                    ⟨firstSettings device core configurationPlan,
                      completionHandler⟩
                protectedHandshakeTimeout := true }
          have waits :
              ((provider.install configuration core).withPending
                (firstSettings device core configurationPlan)
                completionHandler).GoesOn waiting :=
            .of_core_eq rfl rfl rfl rfl rfl rfl rfl rfl rfl rfl rfl id
          obtain ⟨goesOn, quiet⟩ := waiting.startInitialHandshakes_quiet moment
          exact Keeps.performs
            (.single
              (.installs isActive loaded isProtected (waits.trans goesOn)
                quiet))
        · rename_i isUnprotected
          exact Keeps.performs
            (.single
              (.installsUnprotected isActive loaded
                (Bool.eq_false_of_not_eq_true isUnprotected)))

theorem startTunnel_performs
    (options protocolConfiguration : Option ProviderConfiguration) :
    Performs moment (.startTunnel options protocolConfiguration) provider
      (provider.startTunnel moment options protocolConfiguration) := by
  have failed (error : ProviderError) :
      Performs moment (.startTunnel options protocolConfiguration) provider
        (provider.finishFailedStart error) :=
    provider.tearDown_performs rfl
      (List.forall_mem_singleton.mpr (rfl : (some error).isSome = true))
  unfold startTunnel
  split
  · exact failed _
  · rename_i notRunning
    rw [not_or, Bool.not_eq_true, Bool.not_eq_true,
      Option.isSome_eq_false_iff, Option.isNone_iff_eq_none] at notRunning
    split
    · exact failed _
    · rename_i networkPolicy accepted
      refine Keeps.performs
        (.single (.starts rfl notRunning.2 notRunning.1 accepted ?_))
      exact .of_core_eq rfl rfl rfl rfl rfl rfl rfl rfl rfl rfl rfl id
    · rename_i networkPolicy configuration accepted
      have started :
          Keeps moment (.startTunnel options protocolConfiguration)
            provider (provider.awaiting networkPolicy, [.completeStart none]) :=
        .single
          (.starts rfl notRunning.2 notRunning.1 accepted (.refl _))
      exact started.andPerforms (List.forall_mem_singleton.mpr id)
        (installConfiguration_performs _ configuration none)

theorem hasCore_iff
    {provider : Provider device snow}
    {runtime : Nat} :
    provider.hasCore runtime = true ↔
      ∃ core, provider.core = some core ∧ core.id = runtime := by
  unfold hasCore
  cases provider.core with
  | none => simp
  | some core => simp

theorem activatePending_keeps
    {handshake : CompletedHandshake}
    (isCurrent : provider.hasCore handshake.runtime = true) :
    Keeps moment (.handshakeCompleted handshake) provider
      (provider.activatePendingProtectedConfigurationIfNeeded
        handshake.peerName) := by
  obtain ⟨core, isCore, sameRuntime⟩ := hasCore_iff.mp isCurrent
  unfold activatePendingProtectedConfigurationIfNeeded
  split
  · rename_i configured
    cases isPending : provider.pendingProtectedActivation with
    | none => exact .of_goesOn ⟨.refl provider, by simp⟩
    | some pending =>
        refine .single
          (.releases rfl isCore sameRuntime (List.any_eq_true.mp configured)
            isPending ?_)
        exact .of_core_eq rfl rfl rfl rfl rfl rfl rfl rfl rfl rfl rfl id
  · exact .of_goesOn ⟨.refl provider, by simp⟩

theorem finishTransition_keeps
    {handshake : CompletedHandshake}
    (isCurrent : provider.hasCore handshake.runtime = true) :
    Keeps moment (.handshakeCompleted handshake) provider
      (provider.finishEndpointRouteTransitionIfNeeded handshake.peerName
        handshake.endpoint) := by
  obtain ⟨core, isCore, sameRuntime⟩ := hasCore_iff.mp isCurrent
  unfold finishEndpointRouteTransitionIfNeeded
  cases isPending : provider.pendingEndpointRouteCleanup with
  | none => exact .of_goesOn ⟨.refl provider, by simp⟩
  | some pending =>
      simp only
      split
      · exact .single (.cleansUp rfl isCore sameRuntime isPending)
      · exact .of_goesOn ⟨.refl provider, by simp⟩

theorem handshakeCompleted_keeps
    (handshake : CompletedHandshake) :
    Keeps moment (.handshakeCompleted handshake) provider
      (provider.handshakeCompleted handshake.runtime handshake.peerName
        handshake.endpoint) := by
  unfold handshakeCompleted
  split
  · rename_i isCurrent
    have stillCurrent :
        (provider.activatePendingProtectedConfigurationIfNeeded
          handshake.peerName).1.hasCore handshake.runtime = true := by
      rw [← isCurrent]
      unfold activatePendingProtectedConfigurationIfNeeded
      split
      · split <;> rfl
      · rfl
    exact (provider.activatePending_keeps isCurrent).andThen
      (finishTransition_keeps _ stillCurrent)
  · exact .of_goesOn ⟨.refl provider, by simp⟩

theorem protectedHandshakeExpired_performs :
    Performs moment job provider provider.protectedHandshakeExpired := by
  unfold protectedHandshakeExpired
  split
  · exact Keeps.performs
      (.of_goesOn
        ⟨.of_core_eq rfl rfl rfl rfl rfl rfl rfl rfl rfl rfl rfl
            (fun due => nomatch due),
          by simp⟩)
  · refine finishFailedConfiguration_performs _ ?_ _ _
    rfl

theorem configurationDeliveryExpired_performs :
    Performs moment job provider provider.configurationDeliveryExpired := by
  unfold configurationDeliveryExpired
  dsimp only
  split
  · refine finishFailedConfiguration_performs _ ?_ _ _
    rfl
  · exact Keeps.performs
      (.of_goesOn
        ⟨.of_core_eq rfl rfl rfl rfl rfl rfl rfl rfl rfl rfl rfl id, by simp⟩)

theorem activationFinished_performs
    {call : SettingsCall}
    {completionHandler : Option Completion}
    {handshakeAlreadyStarted : Bool}
    (isActivation :
      call.callback =
        .activation completionHandler handshakeAlreadyStarted)
    (error : Option ProviderError) :
    Performs moment (.settingsInstalled call error) provider
      (provider.activationFinished moment error completionHandler
        handshakeAlreadyStarted) := by
  cases error with
  | some error =>
      exact provider.finishFailedConfiguration_performs rfl _ _
  | none =>
      let active : Provider device snow :=
        startMaintenanceTimer
          { provider with awaitingConfiguration := false, running := true }
      have activates : provider.activated.GoesOn active :=
        .of_core_eq rfl rfl rfl rfl rfl rfl rfl rfl rfl rfl rfl id
      have handshakes :
          active.GoesOn
              (if handshakeAlreadyStarted then (active, [])
                else active.startInitialHandshakes moment).1 ∧
            ∀ effect ∈
                (if handshakeAlreadyStarted then (active, [])
                  else active.startInitialHandshakes moment).2,
              effect.IsQuiet := by
        cases handshakeAlreadyStarted with
        | true => exact ⟨.refl active, by simp⟩
        | false => exact active.startInitialHandshakes_quiet moment
      refine Keeps.performs
        (.single (.runs rfl isActivation
          ((activates.trans handshakes.1).trans ?_) ?_))
      · exact .of_core_eq rfl rfl rfl rfl rfl rfl rfl rfl rfl rfl rfl id
      · refine List.forall_mem_append.mpr ⟨handshakes.2, ?_⟩
        intro effect member
        obtain ⟨_, _, rfl⟩ := List.mem_map.mp member
        exact trivial

/-- A name that is resolved again is that of the first route of a peer. -/
theorem refreshRoutes_keeps
    {core : CoreRuntime snow}
    (transport : TransportKind)
    {scheduledPeers : List String}
    {visited routes : List RouteMetadata}
    (isCore : provider.core = some core)
    (isRunning : provider.running = true)
    (isWhole : provider.routeMetadata = visited ++ routes)
    (scheduled :
      ∀ route ∈ visited,
        ∃ name ∈ scheduledPeers,
          device.foundation.equal route.peerName name = true) :
    Keeps moment job provider
      (refreshRoutes core transport moment scheduledPeers provider
        routes) := by
  induction routes generalizing provider scheduledPeers visited with
  | nil => exact .of_goesOn ⟨.refl provider, by simp [refreshRoutes]⟩
  | cons route rest inductionHypothesis =>
      have isWhole' :
          provider.routeMetadata = (visited ++ [route]) ++ rest := by
        rw [isWhole, List.append_assoc, List.singleton_append]
      unfold refreshRoutes
      by_cases repeated :
          scheduledPeers.any (device.foundation.equal route.peerName) = true
      · rw [if_pos repeated]
        obtain ⟨name, member, same⟩ := List.any_eq_true.mp repeated
        refine inductionHypothesis provider isCore isRunning isWhole' ?_
        exact List.forall_mem_append.mpr
          ⟨scheduled, List.forall_mem_singleton.mpr ⟨name, member, same⟩⟩
      · rw [if_neg repeated]
        have scheduled' :
            ∀ visitedRoute ∈ visited ++ [route],
              ∃ name ∈ route.peerName :: scheduledPeers,
                device.foundation.equal visitedRoute.peerName name =
                  true := by
          refine List.forall_mem_append.mpr ⟨fun other member => ?_, ?_⟩
          · obtain ⟨name, isScheduled, same⟩ := scheduled other member
            exact ⟨name, List.mem_cons_of_mem _ isScheduled, same⟩
          · exact List.forall_mem_singleton.mpr
              ⟨route.peerName, List.mem_cons_self, decide_eq_true rfl⟩
        have isFirst :
            (provider.routeMetadata.find? fun other =>
              device.foundation.equal other.peerName route.peerName) =
                some route := by
          rw [isWhole, List.find?_append]
          have none :
              (visited.find? fun other =>
                device.foundation.equal other.peerName route.peerName) =
                  none := by
            refine List.find?_eq_none.mpr fun other member same => repeated ?_
            obtain ⟨name, isScheduled, sameName⟩ := scheduled other member
            refine List.any_eq_true.mpr ⟨name, isScheduled, ?_⟩
            exact Foundation.equal_trans (Foundation.equal_symm same) sameName
          rw [none, Option.none_or, List.find?_cons_of_pos]
          exact decide_eq_true rfl
        dsimp only
        split
        · have resolved :
              Keeps moment job provider
                ({ provider with
                  endpointRefreshInFlight :=
                    device.foundation.canonicalForm route.peerName ::
                      provider.endpointRefreshInFlight
                  lastEndpointRefreshAttempt :=
                    provider.lastEndpointRefreshAttempt.insert
                      (device.foundation.canonicalForm route.peerName)
                      moment.now },
                  [.resolveEndpoint route.peerName core.id]) :=
            .single (.resolves isCore isRunning isFirst
              (.of_core_eq rfl rfl rfl rfl rfl rfl rfl rfl rfl rfl rfl id))
          exact resolved.andThen
            (inductionHypothesis _ isCore isRunning isWhole' scheduled')
        · exact inductionHypothesis provider isCore isRunning isWhole'
            scheduled'

theorem refreshDynamicEndpointsIfNeeded_keeps :
    Keeps moment job provider
      (provider.refreshDynamicEndpointsIfNeeded moment) := by
  unfold refreshDynamicEndpointsIfNeeded
  split
  · rename_i core interface isCore _
    split
    · rename_i isRunning
      exact refreshRoutes_keeps _ interface.transport isCore isRunning
        (List.nil_append _).symm (by simp)
    · exact .of_goesOn ⟨.refl provider, by simp⟩
  · exact .of_goesOn ⟨.refl provider, by simp⟩

theorem maintain_keeps
    (tick : List (ScheduledCall snow))
    (failed : Bool) :
    Keeps moment job provider (provider.maintain moment tick failed) := by
  unfold maintain
  split
  · obtain ⟨goesOn, quiet⟩ :=
      provider.callCoreAll_quiet fun call
          (member : call ∈ tick.map ScheduledCall.engineCall) => by
        obtain ⟨scheduled, _, rfl⟩ := List.mem_map.mp member
        cases scheduled <;> exact trivial
    have ticked :
        Keeps moment job provider
          (provider.callCoreAll (tick.map ScheduledCall.engineCall)) :=
      .of_goesOn ⟨goesOn, quiet⟩
    cases failed with
    | true => exact ticked
    | false =>
        exact ticked.andThen
          (refreshDynamicEndpointsIfNeeded_keeps _)
  · exact .of_goesOn ⟨.refl provider, by simp⟩

/-- Only a change of the endpoint has consequences. -/
theorem activateResolvedEndpoint_cases
    (moment : Moment device snow)
    (endpoint : Endpoint)
    (peerName : String)
    (routes : List RouteMetadata)
    (finalSettings : Option NetworkSettings)
    {core : CoreRuntime snow}
    (isCore : provider.core = some core) :
    provider.activateResolvedEndpoint moment endpoint peerName routes
        finalSettings = (provider, []) ∨
      ∃ core',
        core.updatePeerEndpoint peerName endpoint = (some true, core') ∧
          (provider.refreshed core' routes
            ((finalSettings.map
              (PendingEndpointRouteCleanup.mk peerName endpoint)).or
                provider.pendingEndpointRouteCleanup)).GoesOn
            (provider.activateResolvedEndpoint moment endpoint peerName
              routes finalSettings).1 ∧
          ∀ effect ∈
              (provider.activateResolvedEndpoint moment endpoint peerName
                routes finalSettings).2,
            effect.IsQuiet := by
  unfold activateResolvedEndpoint
  rw [isCore]
  simp only
  split
  · rename_i core' updated
    refine .inr ⟨core', updated, ?_⟩
    split
    · exact callCore_quiet _ trivial
    · exact ⟨.refl _, by simp⟩
  · exact .inl rfl

theorem transitionFinished_keeps
    {call : SettingsCall}
    {endpoint : Endpoint}
    {peerName : String}
    {runtime : Nat}
    {routes : List RouteMetadata}
    {finalSettings : NetworkSettings}
    (isTransition :
      call.callback =
        .transition endpoint peerName runtime routes finalSettings)
    (error : Option ProviderError) :
    Keeps moment (.settingsInstalled call error) provider
      (provider.transitionFinished moment error endpoint peerName runtime
        routes finalSettings) := by
  unfold transitionFinished
  split
  · rename_i isCurrent
    obtain ⟨core, isCore, rfl⟩ := hasCore_iff.mp isCurrent.1
    cases error with
    | some error => exact .of_goesOn ⟨.refl provider, by simp⟩
    | none =>
        rcases provider.activateResolvedEndpoint_cases moment endpoint
            peerName routes (some finalSettings) isCore with
          unchanged | ⟨core', updated, goesOn, quiet⟩
        · simp only [unchanged]
          exact .of_goesOn ⟨.refl provider, by simp⟩
        · exact .single
            (.refreshes rfl isTransition isCore isCurrent.2 updated goesOn
              quiet)
  · exact .of_goesOn ⟨.refl provider, by simp⟩

/-- A peer that is stale has been seen. -/
theorem seen_of_peerIsStale
    {core : CoreRuntime snow}
    {clock : Instant}
    {peerName : String}
    (stale : provider.peerIsStale core clock peerName = true) :
    ∃ seenName,
      device.foundation.equal seenName peerName = true ∧
        core.engine.Seen seenName := by
  unfold peerIsStale at stale
  split at stale
  · rename_i route interface age _ _ isAge
    obtain ⟨statistics, found, isSeen⟩ := Option.bind_eq_some_iff.mp isAge
    have sameName :
        device.foundation.equal statistics.peerName peerName = true := by
      simpa using List.find?_some found
    exact ⟨statistics.peerName, sameName,
      CoreRuntime.seen_of_peerStatistics (List.mem_of_find?_eq_some found)
        (isSeen ▸ rfl)⟩
  · cases stale

theorem refreshTarget_eq_some
    {clock : Instant}
    {endpoint : Endpoint}
    {peerName : String}
    {runtime : Nat}
    {interface : InterfaceMetadata}
    {currentRoute : RouteMetadata}
    (found :
      provider.refreshTarget clock endpoint peerName runtime =
        some (interface, currentRoute)) :
    ∃ core,
      provider.core = some core ∧
        core.id = runtime ∧
        provider.running = true ∧
        provider.interfaceMetadata = some interface ∧
        (provider.routeMetadata.find? fun route =>
          device.foundation.equal route.peerName peerName) =
            some currentRoute ∧
        provider.peerIsStale core clock peerName = true := by
  simp only [refreshTarget, Option.bind_eq_bind, Option.bind_eq_some_iff,
    Option.ite_none_right_eq_some, Option.some.injEq, Prod.mk.injEq] at found
  obtain ⟨core, isCore, _, isInterface, _, isRoute,
    ⟨sameRuntime, isRunning, _, stale⟩, rfl, rfl⟩ := found
  exact ⟨core, isCore, sameRuntime, isRunning, isInterface, isRoute, stale⟩

theorem applyResolvedEndpoint_keeps
    (endpoint : Endpoint)
    (peerName : String)
    (runtime : Nat) :
    Keeps moment
      (.applyResolved ⟨⟨peerName, runtime⟩, some endpoint⟩) provider
      (provider.applyResolvedEndpoint moment endpoint peerName runtime) := by
  let arrived : Provider device snow :=
    { provider with
      endpointRefreshInFlight :=
        provider.endpointRefreshInFlight.erase
          (device.foundation.canonicalForm peerName) }
  have arrives : provider.GoesOn arrived :=
    .of_core_eq rfl rfl rfl rfl rfl rfl rfl rfl rfl rfl rfl id
  have ignored :
      Keeps moment
        (.applyResolved ⟨⟨peerName, runtime⟩, some endpoint⟩) provider
        (arrived, []) :=
    .of_goesOn ⟨arrives, by simp⟩
  unfold applyResolvedEndpoint
  dsimp only
  cases isTarget :
      arrived.refreshTarget moment.clock endpoint peerName runtime with
  | none => exact ignored
  | some target =>
      obtain ⟨interface, currentRoute⟩ := target
      obtain ⟨core, isCore, rfl, isRunning, isInterface, isRoute, stale⟩ :=
        arrived.refreshTarget_eq_some isTarget
      dsimp only
      cases planned :
          plan device.foundation interface
            (arrived.updatedRoutes endpoint peerName)
            arrived.networkPolicy with
      | error error => exact ignored
      | ok updatedPlan =>
          dsimp only
          split
          · rename_i isProtected
            exact .single
              (.transitions rfl isCore isRunning isInterface isRoute
                (arrived.seen_of_peerIsStale stale) planned isProtected
                arrives)
          · rename_i isUnprotected
            rcases arrived.activateResolvedEndpoint_cases moment endpoint
                peerName (arrived.updatedRoutes endpoint peerName) none
                isCore with
              unchanged | ⟨core', updated, goesOn, quiet⟩
            · rw [unchanged]
              exact ignored
            · have arrives' :
                  (provider.refreshed core'
                    (arrived.updatedRoutes endpoint peerName)
                    provider.pendingEndpointRouteCleanup).GoesOn
                    (arrived.refreshed core'
                      (arrived.updatedRoutes endpoint peerName)
                      arrived.pendingEndpointRouteCleanup) :=
                .of_core_eq rfl rfl rfl rfl rfl rfl rfl rfl rfl rfl rfl id
              exact .single
                (.refreshesUnprotected isCore
                  (Bool.eq_false_of_not_eq_true isUnprotected) updated
                  (arrives'.trans goesOn) quiet)

/-- A frame takes one step. -/
theorem receiveTransport_does
    (moment : Moment device snow)
    (frame : Bytes)
    (source : SocketAddr) :
    Does moment (.receiveTransport frame source) provider
      (provider.receiveTransport moment frame source).2
      (provider.receiveTransport moment frame source).1 := by
  unfold receiveTransport callCore
  cases isCore : provider.core with
  | none => exact .goesOn (.refl provider) (by simp)
  | some core =>
      let call : EngineCall snow :=
        .processInboundTransport frame source moment.draws moment.now
          moment.clock
      have hears := core.engine.perform_hears call
      refine .receives rfl isCore
        { id := rfl
          config := rfl
          router := rfl
          resolvedEndpoints :=
            core.engine.perform_keepsEndpoints
              (by rintro _ _ ⟨⟩)
          seen := hears.seen } ?_
      cases performed : (core.perform call).1 with
      | error error => simp [call, performed]
      | ok output =>
          simp only [call, performed]
          intro effect member
          rcases List.mem_append.mp member with isEvent | isAction
          · obtain ⟨event, announced, rfl⟩ := List.mem_map.mp isEvent
            obtain ⟨peerName, endpoint, role, rfl, isHeard⟩ :=
              hears.announced output performed event announced
            exact .inr ⟨peerName, _, rfl, isHeard⟩
          · obtain ⟨action, _, isEffect⟩ := List.mem_filterMap.mp isAction
            refine .inl ?_
            cases action <;>
            · simp only [Option.ite_none_right_eq_some, Option.some.injEq]
                at isEffect
              obtain ⟨_, rfl⟩ := isEffect
              exact trivial

/-- The core does not pass settings. -/
theorem callCore_passes_none
    (call : EngineCall snow) :
    ∀ effect ∈ (provider.callCore call).2,
      ¬ Effect.PassesSettings effect := by
  unfold callCore
  cases provider.core with
  | none => simp
  | some core =>
      dsimp only
      cases (core.perform call).1 with
      | error error => simp
      | ok output =>
          intro effect member
          rcases List.mem_append.mp member with isEvent | isAction
          · obtain ⟨event, _, rfl⟩ := List.mem_map.mp isEvent
            exact id
          · obtain ⟨action, _, isEffect⟩ := List.mem_filterMap.mp isAction
            cases action <;>
            · simp only [Option.ite_none_right_eq_some, Option.some.injEq]
                at isEffect
              obtain ⟨_, rfl⟩ := isEffect
              exact id

/-- A job takes steps, and its effects are theirs. -/
theorem handle_performs (job : Job snow) :
    Performs moment job provider (provider.handle moment job) := by
  cases job with
  | startTunnel options protocolConfiguration =>
      exact provider.startTunnel_performs options protocolConfiguration
  | stopTunnel =>
      exact provider.tearDown_performs rfl
        (List.forall_mem_singleton.mpr trivial)
  | handleAppMessage messageData completionHandler =>
      have answered (response : Response) :
          Keeps moment (.handleAppMessage messageData completionHandler)
            provider
            (provider,
              completionHandler.toList.map fun completion =>
                .respond completion response) := by
        refine .of_goesOn ⟨.refl provider, fun effect member => ?_⟩
        obtain ⟨_, _, rfl⟩ := List.mem_map.mp member
        exact trivial
      unfold handle handleAppMessage
      dsimp only
      split
      · exact (answered _).performs
      · split
        · exact (answered _).performs
        · split
          · exact provider.installConfiguration_performs _ _
          · exact (answered _).performs
  | handshakeCompleted handshake =>
      exact (provider.handshakeCompleted_keeps handshake).performs
  | protectedHandshakeExpired =>
      exact provider.protectedHandshakeExpired_performs
  | configurationDeliveryExpired =>
      exact provider.configurationDeliveryExpired_performs
  | settingsInstalled call error =>
      unfold handle settingsInstalled
      dsimp only
      cases isCallback : call.callback with
      | activation completionHandler handshakeAlreadyStarted =>
          exact provider.activationFinished_performs isCallback error
      | transition endpoint peerName runtime routes finalSettings =>
          exact (provider.transitionFinished_keeps isCallback error).performs
      | cleanup =>
          exact Keeps.performs (.of_goesOn ⟨.refl provider, by simp⟩)
  | maintain tick failed => exact (provider.maintain_keeps tick failed).performs
  | resolve resolution =>
      exact Keeps.performs (.of_goesOn ⟨.refl provider, by simp [handle]⟩)
  | applyResolved resolved =>
      obtain ⟨⟨peerName, runtime⟩, endpoint⟩ := resolved
      cases endpoint with
      | none =>
          exact Keeps.performs
            (.of_goesOn
              ⟨.of_core_eq rfl rfl rfl rfl rfl rfl rfl rfl rfl rfl rfl id,
                by simp [handle]⟩)
      | some endpoint =>
          exact (provider.applyResolvedEndpoint_keeps endpoint peerName
            runtime).performs
  | receiveTransport frame source =>
      exact Keeps.performs
        (.single (provider.receiveTransport_does moment frame source))
  | readPackets packets =>
      refine Keeps.performs ?_
      unfold handle readPackets
      dsimp only
      split
      · refine .of_goesOn (provider.callCoreAll_quiet fun call member => ?_)
        obtain ⟨_, _, rfl⟩ := List.mem_map.mp member
        exact trivial
      · exact .of_goesOn ⟨.refl provider, by simp⟩
  | transportSent runtime peerName bytes =>
      refine Keeps.performs ?_
      unfold handle transportSent
      dsimp only
      split
      · exact .of_goesOn (provider.callCore_quiet trivial)
      · exact .of_goesOn ⟨.refl provider, by simp⟩

end Functions

end Provider

end HushWire.PacketTunnel

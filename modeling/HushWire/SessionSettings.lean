import HushWire.ProviderLifecycle

namespace HushWire.PacketTunnel

/-!
# The settings of a session

Whatever settings a session passes to the system follow from a plan of its
routes, with the endpoints that were known at the time.  After a step, the
surroundings hold what was there before and what the step has added.
-/

open Noise

variable {device : Device} {snow : Snow}

/-- A route without the endpoint of its peer. -/
def RouteMetadata.withoutEndpoint (route : RouteMetadata) : RouteMetadata :=
  route.replacingEndpoint
    { family := 0, addressBytes := .replicate 16 0, port := 0, scopeID := 0 }

@[simp] theorem RouteMetadata.withoutEndpoint_replacingEndpoint
    (route : RouteMetadata)
    (endpoint : Endpoint) :
    (route.replacingEndpoint endpoint).withoutEndpoint =
      route.withoutEndpoint :=
  rfl

namespace CoreRuntime

/-- The routes of the runtime, whatever the endpoints. -/
def RoutesAgree
    (core : CoreRuntime snow)
    (routes : List RouteMetadata) :
    Prop :=
  routes.map RouteMetadata.withoutEndpoint =
    core.routes.map RouteMetadata.withoutEndpoint

/-- Settings that a plan of the routes leads to. -/
structure Plans
    (device : Device)
    (core : CoreRuntime snow)
    (networkPolicy : NetworkPolicy device.foundation)
    (routes : List RouteMetadata)
    (additionalExcludedRoutes : List IPv4RouteSpec)
    (settings : NetworkSettings) :
    Prop where
  routesAgree : core.RoutesAgree routes
  planned :
    ∃ configurationPlan,
      plan device.foundation core.interfaceMetadata routes networkPolicy =
          .ok configurationPlan ∧
        settings =
          makeNetworkSettings device.foundation core.interfaceMetadata routes
            configurationPlan additionalExcludedRoutes

/-- Settings of the session of the runtime. -/
def HasSettings
    (device : Device)
    (core : CoreRuntime snow)
    (networkPolicy : NetworkPolicy device.foundation)
    (settings : NetworkSettings) :
    Prop :=
  ∃ routes additionalExcludedRoutes,
    core.Plans device networkPolicy routes additionalExcludedRoutes settings

namespace Same

variable
  {before after : CoreRuntime snow}
  {networkPolicy : NetworkPolicy device.foundation}

theorem routes (same : before.Same after) : after.routes = before.routes :=
  congrArg visitRoutes same.router

theorem interfaceMetadata (same : before.Same after) :
    after.interfaceMetadata = before.interfaceMetadata :=
  congrArg getInterfaceConfig same.config

theorem routesAgree
    (same : before.Same after)
    {routes : List RouteMetadata}
    (agree : before.RoutesAgree routes) :
    after.RoutesAgree routes := by
  rw [RoutesAgree, same.routes]
  exact agree

theorem plans
    (same : before.Same after)
    {routes : List RouteMetadata}
    {additionalExcludedRoutes : List IPv4RouteSpec}
    {settings : NetworkSettings}
    (plans :
      before.Plans device networkPolicy routes additionalExcludedRoutes
        settings) :
    after.Plans device networkPolicy routes additionalExcludedRoutes
      settings where
  routesAgree := same.routesAgree plans.routesAgree
  planned := by
    rw [same.interfaceMetadata]
    exact plans.planned

theorem hasSettings
    (same : before.Same after)
    {settings : NetworkSettings}
    (has : before.HasSettings device networkPolicy settings) :
    after.HasSettings device networkPolicy settings := by
  obtain ⟨routes, additionalExcludedRoutes, plans⟩ := has
  exact ⟨routes, additionalExcludedRoutes, same.plans plans⟩

end Same

/-- The first settings follow from the routes as they were configured. -/
theorem plans_firstSettings
    {core : CoreRuntime snow}
    {networkPolicy : NetworkPolicy device.foundation}
    {configurationPlan : ConfigurationPlan}
    (planned :
      plan device.foundation core.interfaceMetadata core.routes
          networkPolicy =
        .ok configurationPlan) :
    core.Plans device networkPolicy core.routes []
      (Provider.firstSettings device core configurationPlan) where
  routesAgree := rfl
  planned := ⟨configurationPlan, planned, rfl⟩

end CoreRuntime

namespace Provider

/-- Replacing endpoints leads to the same routes. -/
theorem updatedRoutes_agree
    {provider : Provider device snow}
    {core : CoreRuntime snow}
    (agree : core.RoutesAgree provider.routeMetadata)
    (endpoint : Endpoint)
    (peerName : String) :
    core.RoutesAgree (provider.updatedRoutes endpoint peerName) := by
  refine Eq.trans ?_ agree
  rw [updatedRoutes, List.map_map]
  refine List.map_congr_left fun route _ => ?_
  rw [Function.comp_apply]
  split <;> rfl

namespace Does

variable
  {moment : Moment device snow}
  {job : Job snow}
  {before after : Provider device snow}
  {effects : List Effect}

/-- The policy only changes where there is no core. -/
theorem networkPolicy_eq
    (does : Does moment job before effects after)
    (hasCore : before.core.isSome) :
    after.networkPolicy = before.networkPolicy := by
  cases does with
  | goesOn goesOn => exact goesOn.networkPolicy
  | receives => rfl
  | starts _ noCore =>
      rw [noCore] at hasCore
      cases hasCore
  | installs _ _ _ goesOn => exact goesOn.networkPolicy
  | installsUnprotected => rfl
  | releases _ _ _ _ _ goesOn => exact goesOn.networkPolicy
  | cleansUp => rfl
  | runs _ _ goesOn => exact goesOn.networkPolicy
  | resolves _ _ _ goesOn => exact goesOn.networkPolicy
  | transitions _ _ _ _ _ _ _ _ goesOn => exact goesOn.networkPolicy
  | refreshes _ _ _ _ _ goesOn => exact goesOn.networkPolicy
  | refreshesUnprotected _ _ _ goesOn => exact goesOn.networkPolicy

/-- A core stays, or goes with the session. -/
theorem core_same
    (does : Does moment job before effects after)
    {core : CoreRuntime snow}
    (isCore : before.core = some core) :
    ∃ later, after.core = some later ∧ core.Same later := by
  rcases does.session_cases with same | isInstalled
  · exact (isCore ▸ same.core).of_some_left
  · exact nomatch isCore.symm.trans isInstalled.noCore

end Does

end Provider

namespace System

/-- Effects add calls for the core of the provider. -/
theorem mem_calls_absorb
    {effects : List Effect}
    {system : System device snow}
    {call : SettingsCall}
    (member : call ∈ (effects.foldl absorb system).calls) :
    call ∈ system.calls ∨
      ∃ settings callback,
        .setTunnelNetworkSettings settings callback ∈ effects ∧
          call =
            ⟨settings, callback, system.provider.core.map CoreRuntime.id⟩ := by
  induction effects generalizing system with
  | nil => exact .inl member
  | cons effect rest inductionHypothesis =>
      have later := inductionHypothesis member
      cases effect with
      | setTunnelNetworkSettings settings callback =>
          rcases later with earlier | ⟨settings', callback', passed, isCall⟩
          · rcases List.mem_append.mp earlier with earlier | isNew
            · exact .inl earlier
            · exact .inr ⟨settings, callback, List.mem_cons_self,
                List.mem_singleton.mp isNew⟩
          · exact .inr ⟨settings', callback',
              List.mem_cons_of_mem _ passed, isCall⟩
      | _ =>
          refine later.imp id ?_
          rintro ⟨settings', callback', passed, isCall⟩
          exact ⟨settings', callback', List.mem_cons_of_mem _ passed, isCall⟩

theorem mem_handshakes_absorb
    {effects : List Effect}
    {system : System device snow}
    {handshake : CompletedHandshake}
    (member : handshake ∈ (effects.foldl absorb system).handshakes) :
    handshake ∈ system.handshakes ∨
      .handshakeCompleted handshake.runtime handshake.peerName
          handshake.endpoint ∈ effects := by
  induction effects generalizing system with
  | nil => exact .inl member
  | cons effect rest inductionHypothesis =>
      have later := inductionHypothesis member
      cases effect with
      | handshakeCompleted runtime peerName endpoint =>
          rcases later with earlier | announced
          · rcases List.mem_append.mp earlier with earlier | isNew
            · exact .inl earlier
            · cases List.mem_singleton.mp isNew
              exact .inr List.mem_cons_self
          · exact .inr (List.mem_cons_of_mem _ announced)
      | _ => exact later.imp id (List.mem_cons_of_mem _)

namespace Step

variable
  {before after : System device snow}
  {occurrence : Occurrence device snow}

/-- The effects of a step are absorbed once its job is done. -/
theorem absorbs (step : Step before occurrence after) :
    after =
      occurrence.effects.foldl absorb
        { before.take occurrence.moment occurrence.job with
          provider := after.provider } := by
  have handled := step.handled
  have done := congrArg Prod.fst step.done
  simp only [System.next, handled] at done
  exact done.symm

/-- A call was outstanding before, or was made in the step. -/
theorem mem_calls
    (step : Step before occurrence after)
    {call : SettingsCall}
    (member : call ∈ after.calls) :
    call ∈ before.calls ∨
      ∃ settings callback,
        .setTunnelNetworkSettings settings callback ∈ occurrence.effects ∧
          call =
            ⟨settings, callback, after.provider.core.map CoreRuntime.id⟩ := by
  rw [step.absorbs] at member
  refine (mem_calls_absorb member).imp (fun earlier => ?_) id
  unfold take at earlier
  split at earlier
  all_goals first
    | exact earlier
    | exact List.mem_of_mem_erase earlier

/-- A handshake was on its way before, or was completed in the step. -/
theorem mem_handshakes
    (step : Step before occurrence after)
    {handshake : CompletedHandshake}
    (member : handshake ∈ after.handshakes) :
    handshake ∈ before.handshakes ∨
      .handshakeCompleted handshake.runtime handshake.peerName
          handshake.endpoint ∈ occurrence.effects := by
  rw [step.absorbs] at member
  refine (mem_handshakes_absorb member).imp (fun earlier => ?_) id
  unfold take at earlier
  split at earlier
  all_goals first
    | exact earlier
    | exact List.mem_of_mem_erase earlier

end Step

end System

end HushWire.PacketTunnel

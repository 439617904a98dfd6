import HushWire.Library.OptionRel
import HushWire.ProviderSystem

namespace HushWire.PacketTunnel

/-!
# What a job of the provider does

A job takes a few of the steps of `Provider.Does`, each with the effects that
it contributes.  Between them the provider goes on with its session: its core
hears nobody and keeps its endpoints, and what the session was set up with
stays.
-/

open Noise

variable {device : Device} {snow : Snow}

/-- A call that hears nobody and leaves the endpoints as they are. -/
def EngineCall.IsQuiet : EngineCall snow → Prop
  | .processInboundTransport .. => False
  | .updateResolvedEndpoint .. => False
  | _ => True

/-- An effect that the surroundings need not remember. -/
def Effect.IsQuiet : Effect → Prop
  | .setTunnelNetworkSettings _ _ => False
  | .completeStart error => error.isSome
  | .tearDown => False
  | .resolveEndpoint _ _ => False
  | .handshakeCompleted _ _ _ => False
  | _ => True

/-- An effect that passes settings to the system. -/
def Effect.PassesSettings : Effect → Prop
  | .setTunnelNetworkSettings _ _ => True
  | _ => False

/-- The same runtime, which has seen nobody else in between. -/
structure CoreRuntime.Continues (before after : CoreRuntime snow) : Prop where
  id : after.id = before.id
  config : after.config = before.config
  router : after.router = before.router
  resolvedEndpoints :
    after.engine.resolvedEndpoints = before.engine.resolvedEndpoints
  seen :
    ∀ peerName, after.engine.Seen peerName → before.engine.Seen peerName

/-- The same runtime, which has seen only those who were heard. -/
structure CoreRuntime.Hears
    (before : CoreRuntime snow)
    (heard : PeerName → Prop)
    (after : CoreRuntime snow) :
    Prop where
  id : after.id = before.id
  config : after.config = before.config
  router : after.router = before.router
  resolvedEndpoints :
    after.engine.resolvedEndpoints = before.engine.resolvedEndpoints
  seen :
    ∀ peerName, after.engine.Seen peerName →
      before.engine.Seen peerName ∨ heard peerName

namespace CoreRuntime

namespace Continues

theorem refl (core : CoreRuntime snow) : core.Continues core where
  id := rfl
  config := rfl
  router := rfl
  resolvedEndpoints := rfl
  seen := fun _ seen => seen

theorem trans
    {before middle after : CoreRuntime snow}
    (first : before.Continues middle)
    (later : middle.Continues after) :
    before.Continues after where
  id := later.id.trans first.id
  config := later.config.trans first.config
  router := later.router.trans first.router
  resolvedEndpoints := later.resolvedEndpoints.trans first.resolvedEndpoints
  seen := fun peerName seen =>
    first.seen peerName (later.seen peerName seen)

end Continues

/-- A quiet call goes on and completes no handshake. -/
theorem perform_quiet
    (core : CoreRuntime snow)
    {call : EngineCall snow}
    (quiet : EngineCall.IsQuiet call) :
    core.Continues (core.perform call).2 ∧
      ∀ output, (core.perform call).1 = .ok output → output.events = [] := by
  have hears := core.engine.perform_hears call
  have nobody (peerName : PeerName) :
      ¬ core.engine.Authenticates peerName call := by
    cases call <;> first | exact not_false | exact quiet.elim
  refine
    ⟨{ id := rfl
       config := rfl
       router := rfl
       resolvedEndpoints := ?_
       seen := fun peerName seen =>
         (hears.seen peerName seen).resolve_right (nobody peerName) }, ?_⟩
  · refine core.engine.perform_keepsEndpoints ?_
    rintro peerName endpoint rfl
    exact quiet
  · intro output isOutput
    refine List.eq_nil_iff_forall_not_mem.mpr fun event member => ?_
    obtain ⟨peerName, _, _, _, isHeard⟩ :=
      hears.announced output isOutput event member
    exact nobody peerName isHeard

end CoreRuntime

namespace Provider

/-- What the session was set up with stays. -/
structure GoesOn (before after : Provider device snow) : Prop where
  core : Option.Rel CoreRuntime.Continues before.core after.core
  runtimes : after.runtimes = before.runtimes
  pendingProtectedActivation :
    after.pendingProtectedActivation = before.pendingProtectedActivation
  peerNames : after.peerNames = before.peerNames
  interfaceMetadata : after.interfaceMetadata = before.interfaceMetadata
  routeMetadata : after.routeMetadata = before.routeMetadata
  networkPolicy : after.networkPolicy = before.networkPolicy
  activeConfiguration :
    after.activeConfiguration = before.activeConfiguration
  pendingEndpointRouteCleanup :
    after.pendingEndpointRouteCleanup = before.pendingEndpointRouteCleanup
  awaitingConfiguration :
    after.awaitingConfiguration = before.awaitingConfiguration
  running : after.running = before.running
  protectedHandshakeTimeout :
    after.protectedHandshakeTimeout = true →
      before.protectedHandshakeTimeout = true

namespace GoesOn

/-- Nothing happens to the core. -/
theorem of_core_eq
    {before after : Provider device snow}
    (core : after.core = before.core)
    (runtimes : after.runtimes = before.runtimes)
    (pendingProtectedActivation :
      after.pendingProtectedActivation = before.pendingProtectedActivation)
    (peerNames : after.peerNames = before.peerNames)
    (interfaceMetadata : after.interfaceMetadata = before.interfaceMetadata)
    (routeMetadata : after.routeMetadata = before.routeMetadata)
    (networkPolicy : after.networkPolicy = before.networkPolicy)
    (activeConfiguration :
      after.activeConfiguration = before.activeConfiguration)
    (pendingEndpointRouteCleanup :
      after.pendingEndpointRouteCleanup =
        before.pendingEndpointRouteCleanup)
    (awaitingConfiguration :
      after.awaitingConfiguration = before.awaitingConfiguration)
    (running : after.running = before.running)
    (protectedHandshakeTimeout :
      after.protectedHandshakeTimeout = true →
        before.protectedHandshakeTimeout = true) :
    before.GoesOn after where
  core := core ▸ .refl CoreRuntime.Continues.refl _
  runtimes := runtimes
  pendingProtectedActivation := pendingProtectedActivation
  peerNames := peerNames
  interfaceMetadata := interfaceMetadata
  routeMetadata := routeMetadata
  networkPolicy := networkPolicy
  activeConfiguration := activeConfiguration
  pendingEndpointRouteCleanup := pendingEndpointRouteCleanup
  awaitingConfiguration := awaitingConfiguration
  running := running
  protectedHandshakeTimeout := protectedHandshakeTimeout

theorem refl (provider : Provider device snow) : provider.GoesOn provider :=
  of_core_eq rfl rfl rfl rfl rfl rfl rfl rfl rfl rfl rfl id

theorem trans
    {before middle after : Provider device snow}
    (first : before.GoesOn middle)
    (later : middle.GoesOn after) :
    before.GoesOn after where
  core :=
    first.core.trans (fun earlier further => earlier.trans further) later.core
  runtimes := later.runtimes.trans first.runtimes
  pendingProtectedActivation :=
    later.pendingProtectedActivation.trans first.pendingProtectedActivation
  peerNames := later.peerNames.trans first.peerNames
  interfaceMetadata := later.interfaceMetadata.trans first.interfaceMetadata
  routeMetadata := later.routeMetadata.trans first.routeMetadata
  networkPolicy := later.networkPolicy.trans first.networkPolicy
  activeConfiguration :=
    later.activeConfiguration.trans first.activeConfiguration
  pendingEndpointRouteCleanup :=
    later.pendingEndpointRouteCleanup.trans first.pendingEndpointRouteCleanup
  awaitingConfiguration :=
    later.awaitingConfiguration.trans first.awaitingConfiguration
  running := later.running.trans first.running
  protectedHandshakeTimeout := fun due =>
    first.protectedHandshakeTimeout (later.protectedHandshakeTimeout due)

end GoesOn

/-- Only actions follow from a call that completes no handshake. -/
theorem dispatch_quiet
    (provider : Provider device snow)
    (runtime : Nat)
    {output : EngineOutput}
    (silent : output.events = []) :
    ∀ effect ∈ provider.dispatch runtime output, effect.IsQuiet := by
  intro effect member
  simp only [dispatch, silent, List.map_nil, List.nil_append,
    List.mem_filterMap] at member
  obtain ⟨action, _, isEffect⟩ := member
  cases action <;>
  · simp only [Option.ite_none_right_eq_some, Option.some.injEq] at isEffect
    obtain ⟨_, rfl⟩ := isEffect
    exact trivial

theorem callCore_quiet
    (provider : Provider device snow)
    {call : EngineCall snow}
    (quiet : EngineCall.IsQuiet call) :
    provider.GoesOn (provider.callCore call).1 ∧
      ∀ effect ∈ (provider.callCore call).2, effect.IsQuiet := by
  unfold callCore
  cases isCore : provider.core with
  | none => exact ⟨.refl provider, by simp⟩
  | some core =>
      obtain ⟨continues, silent⟩ := core.perform_quiet quiet
      refine
        ⟨{ core := by rw [isCore]; exact .some continues
           runtimes := rfl
           pendingProtectedActivation := rfl
           peerNames := rfl
           interfaceMetadata := rfl
           routeMetadata := rfl
           networkPolicy := rfl
           activeConfiguration := rfl
           pendingEndpointRouteCleanup := rfl
           awaitingConfiguration := rfl
           running := rfl
           protectedHandshakeTimeout := id }, ?_⟩
      cases performed : (core.perform call).1 with
      | error error => simp [performed]
      | ok output =>
          simp only [performed]
          exact provider.dispatch_quiet core.id (silent output performed)

theorem callCoreAll_quiet
    (provider : Provider device snow)
    {calls : List (EngineCall snow)}
    (quiet : ∀ call ∈ calls, EngineCall.IsQuiet call) :
    provider.GoesOn (provider.callCoreAll calls).1 ∧
      ∀ effect ∈ (provider.callCoreAll calls).2, effect.IsQuiet := by
  induction calls generalizing provider with
  | nil => exact ⟨.refl provider, by simp [callCoreAll]⟩
  | cons call rest inductionHypothesis =>
      obtain ⟨first, firstQuiet⟩ :=
        provider.callCore_quiet (quiet call List.mem_cons_self)
      obtain ⟨later, laterQuiet⟩ :=
        inductionHypothesis (provider.callCore call).1
          fun call member => quiet call (List.mem_cons_of_mem _ member)
      exact ⟨first.trans later,
        List.forall_mem_append.mpr ⟨firstQuiet, laterQuiet⟩⟩

theorem startInitialHandshakes_quiet
    (provider : Provider device snow)
    (moment : Moment device snow) :
    provider.GoesOn (provider.startInitialHandshakes moment).1 ∧
      ∀ effect ∈ (provider.startInitialHandshakes moment).2,
        effect.IsQuiet := by
  refine provider.callCoreAll_quiet ?_
  intro call member
  obtain ⟨peerName, _, rfl⟩ := List.mem_map.mp member
  exact trivial

/-- The settings of a runtime that was just created. -/
def firstSettings
    (device : Device)
    (core : CoreRuntime snow)
    (configurationPlan : ConfigurationPlan) :
    NetworkSettings :=
  makeNetworkSettings device.foundation core.interfaceMetadata core.routes
    configurationPlan []

/-- The provider keeps first settings back until a peer is authenticated. -/
def withPending
    (provider : Provider device snow)
    (settings : NetworkSettings)
    (completionHandler : Option Completion) :
    Provider device snow :=
  { provider with
    pendingProtectedActivation := some { settings, completionHandler }
    protectedHandshakeTimeout := true }

/-- The settings that were kept back are passed. -/
def released (provider : Provider device snow) : Provider device snow :=
  { provider with
    pendingProtectedActivation := none
    protectedHandshakeTimeout := false }

/-- The provider waits for a configuration under a policy. -/
def awaiting
    (provider : Provider device snow)
    (networkPolicy : NetworkPolicy device.foundation) :
    Provider device snow :=
  { provider with networkPolicy, awaitingConfiguration := true }

/-- The settings of a session are in force. -/
def activated (provider : Provider device snow) : Provider device snow :=
  { provider with awaitingConfiguration := false, running := true }

/-- The core has another endpoint for a peer. -/
def refreshed
    (provider : Provider device snow)
    (core : CoreRuntime snow)
    (routes : List RouteMetadata)
    (cleanup : Option PendingEndpointRouteCleanup) :
    Provider device snow :=
  { provider with
    core := some core
    routeMetadata := routes
    pendingEndpointRouteCleanup := cleanup }

/-- One step of a job, with the effects that it contributes. -/
inductive Does
    (moment : Moment device snow)
    (job : Job snow) :
    Provider device snow → List Effect → Provider device snow → Prop where
  | goesOn
      {before after : Provider device snow}
      {effects : List Effect} :
      before.GoesOn after →
      (∀ effect ∈ effects, effect.IsQuiet) →
      Does moment job before effects after
  /-- The core works on a frame and hears whom it authenticates. -/
  | receives
      {before : Provider device snow}
      {core core' : CoreRuntime snow}
      {frame : Bytes}
      {source : SocketAddr}
      {effects : List Effect} :
      job = .receiveTransport frame source →
      before.core = some core →
      core.Hears
        (core.engine.AuthenticatesAs frame moment.draws moment.now
          moment.clock) core' →
      (∀ effect ∈ effects,
        effect.IsQuiet ∨
          ∃ peerName endpoint,
            effect = .handshakeCompleted core.id peerName endpoint ∧
              core.engine.AuthenticatesAs frame moment.draws moment.now
                moment.clock peerName) →
      Does moment job before effects { before with core := some core' }
  | starts
      {before after : Provider device snow}
      {options protocolConfiguration : Option ProviderConfiguration}
      {decision : StartDecision device.foundation} :
      job = .startTunnel options protocolConfiguration →
      before.core = none →
      before.running = false →
      validateStart device.foundation device.ids moment.load device.platform
          options protocolConfiguration =
        .ok decision →
      (before.awaiting decision.networkPolicy).GoesOn after →
      Does moment job before [.completeStart none] after
  /-- A protected configuration is installed but its settings are not passed. -/
  | installs
      {before after : Provider device snow}
      {configuration : Bytes}
      {core : CoreRuntime snow}
      {configurationPlan : ConfigurationPlan}
      {completionHandler : Option Completion}
      {effects : List Effect} :
      before.activeConfiguration = none →
      before.loadConfiguration moment configuration =
        .ok (core, configurationPlan) →
      before.networkPolicy.routePolicy.requiresAuthenticatedPreflight = true →
      ((before.install configuration core).withPending
        (firstSettings device core configurationPlan)
        completionHandler).GoesOn after →
      (∀ effect ∈ effects, effect.IsQuiet) →
      Does moment job before effects after
  /-- A configuration without protection is installed, and its settings are. -/
  | installsUnprotected
      {before : Provider device snow}
      {configuration : Bytes}
      {core : CoreRuntime snow}
      {configurationPlan : ConfigurationPlan}
      {completionHandler : Option Completion} :
      before.activeConfiguration = none →
      before.loadConfiguration moment configuration =
        .ok (core, configurationPlan) →
      before.networkPolicy.routePolicy.requiresAuthenticatedPreflight =
        false →
      Does moment job before
        [.setTunnelNetworkSettings
          (firstSettings device core configurationPlan)
          (.activation completionHandler false)]
        (before.install configuration core)
  /-- A completed handshake releases the settings that were kept back. -/
  | releases
      {before after : Provider device snow}
      {handshake : CompletedHandshake}
      {core : CoreRuntime snow}
      {pending : PendingProtectedActivation} :
      job = .handshakeCompleted handshake →
      before.core = some core →
      core.id = handshake.runtime →
      (∃ name ∈ before.peerNames,
        device.foundation.equal name handshake.peerName = true) →
      before.pendingProtectedActivation = some pending →
      before.released.GoesOn after →
      Does moment job before
        [.setTunnelNetworkSettings pending.settings
          (.activation pending.completionHandler true)]
        after
  /-- A completed handshake with a new endpoint ends its transition. -/
  | cleansUp
      {before : Provider device snow}
      {handshake : CompletedHandshake}
      {core : CoreRuntime snow}
      {pending : PendingEndpointRouteCleanup} :
      job = .handshakeCompleted handshake →
      before.core = some core →
      core.id = handshake.runtime →
      before.pendingEndpointRouteCleanup = some pending →
      Does moment job before
        [.setTunnelNetworkSettings pending.settings .cleanup]
        { before with pendingEndpointRouteCleanup := none }
  /-- First settings were installed. -/
  | runs
      {before after : Provider device snow}
      {call : SettingsCall}
      {completionHandler : Option Completion}
      {handshakeAlreadyStarted : Bool}
      {effects : List Effect} :
      job = .settingsInstalled call none →
      call.callback =
        .activation completionHandler handshakeAlreadyStarted →
      before.activated.GoesOn after →
      (∀ effect ∈ effects, effect.IsQuiet) →
      Does moment job before effects after
  /-- The endpoint of the first route of a peer is resolved again. -/
  | resolves
      {before after : Provider device snow}
      {core : CoreRuntime snow}
      {route : RouteMetadata} :
      before.core = some core →
      before.running = true →
      (before.routeMetadata.find? fun other =>
        device.foundation.equal other.peerName route.peerName) =
          some route →
      before.GoesOn after →
      Does moment job before [.resolveEndpoint route.peerName core.id] after
  /-- A resolved endpoint is protected. -/
  | transitions
      {before after : Provider device snow}
      {core : CoreRuntime snow}
      {interface : InterfaceMetadata}
      {currentRoute : RouteMetadata}
      {peerName : String}
      {endpoint : Endpoint}
      {updatedPlan : ConfigurationPlan} :
      job = .applyResolved ⟨⟨peerName, core.id⟩, some endpoint⟩ →
      before.core = some core →
      before.running = true →
      before.interfaceMetadata = some interface →
      (before.routeMetadata.find? fun route =>
        device.foundation.equal route.peerName peerName) =
          some currentRoute →
      (∃ seenName,
        device.foundation.equal seenName peerName = true ∧
          core.engine.Seen seenName) →
      plan device.foundation interface
          (before.updatedRoutes endpoint peerName) before.networkPolicy =
        .ok updatedPlan →
      before.networkPolicy.routePolicy.requiresAuthenticatedPreflight =
        true →
      before.GoesOn after →
      Does moment job before
        [.setTunnelNetworkSettings
          (makeNetworkSettings device.foundation interface
            (before.updatedRoutes endpoint peerName) updatedPlan
            [⟨currentRoute.endpoint.host device.foundation, 32⟩])
          (.transition endpoint peerName core.id
            (before.updatedRoutes endpoint peerName)
            (makeNetworkSettings device.foundation interface
              (before.updatedRoutes endpoint peerName) updatedPlan []))]
        after
  /-- The core uses a protected endpoint. -/
  | refreshes
      {before after : Provider device snow}
      {call : SettingsCall}
      {core core' : CoreRuntime snow}
      {endpoint : Endpoint}
      {peerName : String}
      {routes : List RouteMetadata}
      {finalSettings : NetworkSettings}
      {effects : List Effect} :
      job = .settingsInstalled call none →
      call.callback =
        .transition endpoint peerName core.id routes finalSettings →
      before.core = some core →
      before.running = true →
      core.updatePeerEndpoint peerName endpoint = (some true, core') →
      (before.refreshed core' routes
        (some ⟨peerName, endpoint, finalSettings⟩)).GoesOn after →
      (∀ effect ∈ effects, effect.IsQuiet) →
      Does moment job before effects after
  /-- The core uses an endpoint that needs no protection. -/
  | refreshesUnprotected
      {before after : Provider device snow}
      {core core' : CoreRuntime snow}
      {endpoint : Endpoint}
      {peerName : String}
      {effects : List Effect} :
      before.core = some core →
      before.networkPolicy.routePolicy.requiresAuthenticatedPreflight =
        false →
      core.updatePeerEndpoint peerName endpoint = (some true, core') →
      (before.refreshed core' (before.updatedRoutes endpoint peerName)
        before.pendingEndpointRouteCleanup).GoesOn after →
      (∀ effect ∈ effects, effect.IsQuiet) →
      Does moment job before effects after

/-- The effects of a teardown and of what reports it. -/
structure EndsWith (effects : List Effect) : Prop where
  tearDown : .tearDown ∈ effects
  quiet : ∀ effect ∈ effects, effect = .tearDown ∨ effect.IsQuiet

/-- A job takes steps, and a teardown may end it that passed no settings. -/
def Performs
    (moment : Moment device snow)
    (job : Job snow)
    (before : Provider device snow)
    (outcome : Provider device snow × List Effect) :
    Prop :=
  ∃ steps middle,
    Execution (Does moment job) before steps middle ∧
      (outcome = (middle, steps.flatten) ∨
        ∃ effects,
          EndsWith effects ∧
            (∀ effect ∈ steps.flatten, ¬ Effect.PassesSettings effect) ∧
            outcome = (middle.tornDown, steps.flatten ++ effects))

/-- A job that takes steps and does not end with a teardown. -/
def Keeps
    (moment : Moment device snow)
    (job : Job snow)
    (before : Provider device snow)
    (outcome : Provider device snow × List Effect) :
    Prop :=
  ∃ steps,
    Execution (Does moment job) before steps outcome.1 ∧
      steps.flatten = outcome.2

namespace Keeps

variable
  {moment : Moment device snow}
  {job : Job snow}
  {before : Provider device snow}
  {outcome : Provider device snow × List Effect}

theorem performs
    (keeps : Keeps moment job before outcome) :
    Performs moment job before outcome := by
  obtain ⟨steps, execution, isEffects⟩ := keeps
  exact ⟨steps, outcome.1, execution, .inl (by rw [isEffects])⟩

theorem single
    (does : Does moment job before outcome.2 outcome.1) :
    Keeps moment job before outcome :=
  ⟨[outcome.2], .single does, List.flatten_singleton⟩

/-- Steps of a job follow each other. -/
theorem andThen
    {middle after : Provider device snow}
    {first later : List Effect}
    (keeps : Keeps moment job before (middle, first))
    (continued : Keeps moment job middle (after, later)) :
    Keeps moment job before (after, first ++ later) := by
  obtain ⟨firstSteps, firstRun, rfl⟩ := keeps
  obtain ⟨laterSteps, laterRun, rfl⟩ := continued
  exact ⟨firstSteps ++ laterSteps, firstRun.append laterRun,
    List.flatten_append⟩

/-- Steps that pass no settings may be followed by anything. -/
theorem andPerforms
    {middle : Provider device snow}
    {first : List Effect}
    (keeps : Keeps moment job before (middle, first))
    (passesNone : ∀ effect ∈ first, ¬ Effect.PassesSettings effect)
    (continued : Performs moment job middle outcome) :
    Performs moment job before (outcome.1, first ++ outcome.2) := by
  obtain ⟨firstSteps, firstRun, rfl⟩ := keeps
  obtain ⟨laterSteps, last, laterRun,
    rfl | ⟨effects, ends, laterPassesNone, rfl⟩⟩ := continued
  · exact ⟨firstSteps ++ laterSteps, last, firstRun.append laterRun,
      .inl (by rw [List.flatten_append])⟩
  · refine ⟨firstSteps ++ laterSteps, last, firstRun.append laterRun,
      .inr ⟨effects, ends, ?_, ?_⟩⟩
    · rw [List.flatten_append]
      exact List.forall_mem_append.mpr ⟨passesNone, laterPassesNone⟩
    · rw [List.flatten_append, List.append_assoc]

/-- A job that only goes on. -/
theorem of_goesOn
    (goesOn :
      before.GoesOn outcome.1 ∧
        ∀ effect ∈ outcome.2, effect.IsQuiet) :
    Keeps moment job before outcome :=
  .single (.goesOn goesOn.1 goesOn.2)

end Keeps

end Provider

end HushWire.PacketTunnel

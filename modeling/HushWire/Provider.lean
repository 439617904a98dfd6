import HushWire.CoreRuntime

namespace HushWire.PacketTunnel

/-!
# The provider of the packet tunnel

The provider works through jobs on one serial queue: a start, a stop, messages
of the app, completed handshakes, timers, and the callbacks of what it asked
the system to do.  Every job is a function from the provider to the next
provider and the effects of the job, in order.

A work item that was cancelled does not run, so a timer is modelled by whether
its item is still due.  Log messages are not modelled, and neither is the
redaction of an error's text.
-/

open Checked (ensure)
open Noise

/-- A completion handler that was handed to the provider. -/
abbrev Completion := Nat

/-- The settings of a tunnel that the system is asked to install. -/
structure NetworkSettings where
  tunnelRemoteAddress : String
  addresses : List String
  subnetMasks : List String
  includedRoutes : List IPv4RouteSpec
  excludedRoutes : List IPv4RouteSpec
  dnsServers : List String
  mtu : UInt16
  deriving DecidableEq

/-- What is left to do when the system has installed settings. -/
inductive SettingsCallback where
  | activation
      (completionHandler : Option Completion)
      (handshakeAlreadyStarted : Bool)
  | transition
      (endpoint : Endpoint)
      (peerName : String)
      (runtime : Nat)
      (routes : List RouteMetadata)
      (finalSettings : NetworkSettings)
  | cleanup
  deriving DecidableEq

/-- The answer to a message of the app. -/
inductive Response where
  | success
  | failure (error : ProviderError)
  | rejected (text : String)
  | status
  deriving DecidableEq

/-- What a job does besides changing the provider. -/
inductive Effect where
  | setTunnelNetworkSettings
      (settings : NetworkSettings)
      (callback : SettingsCallback)
  | completeStart (error : Option ProviderError)
  | completeStop
  | respond (completion : Completion) (response : Response)
  | cancelTunnel (error : ProviderError)
  /-- The runtime, the transport and the timers are stopped. -/
  | tearDown
  | resolveEndpoint (peerName : String) (runtime : Nat)
  /-- A completed handshake is put on the queue. -/
  | handshakeCompleted (runtime : Nat) (peerName : String) (endpoint : Endpoint)
  | perform (action : EngineAction)
  deriving DecidableEq

structure PendingProtectedActivation where
  settings : NetworkSettings
  completionHandler : Option Completion

structure PendingEndpointRouteCleanup where
  peerName : String
  endpoint : Endpoint
  settings : NetworkSettings

structure Provider (device : Device) (snow : Snow) where
  core : Option (CoreRuntime snow)
  /-- How many runtimes there were, which tells them apart. -/
  runtimes : Nat
  transport : Bool
  maintenanceTimer : Bool
  configurationDeliveryTimeout : Bool
  protectedHandshakeTimeout : Bool
  pendingProtectedActivation : Option PendingProtectedActivation
  peerNames : List String
  interfaceMetadata : Option InterfaceMetadata
  routeMetadata : List RouteMetadata
  networkPolicy : NetworkPolicy device.foundation
  activeConfiguration : Option Bytes
  duplicateConfigurationCompletionHandlers : List Completion
  /-- The names are canonical, as are those of the attempts. -/
  endpointRefreshInFlight : List String
  lastEndpointRefreshAttempt : AssociationMap String Instant
  pendingEndpointRouteCleanup : Option PendingEndpointRouteCleanup
  awaitingConfiguration : Bool
  running : Bool

section Settings

variable (foundation : Foundation)

/-- Prefixes are equal when they have equal networks and lengths. -/
def IPv4RouteSpec.equal (first second : IPv4RouteSpec) : Bool :=
  foundation.equal first.network second.network &&
    first.prefixLength = second.prefixLength

/-- The settings of a plan, with exclusions that the plan does not have. -/
def makeNetworkSettings
    (interface : InterfaceMetadata)
    (routes : List RouteMetadata)
    (plan : ConfigurationPlan)
    (additionalExcludedRoutes : List IPv4RouteSpec) :
    NetworkSettings where
  tunnelRemoteAddress :=
    (((routes.find? fun route => route.routeKind = .included).or
        routes.head?).map fun route =>
      route.endpoint.host foundation).getD ""
  addresses := [interface.address]
  subnetMasks := ["255.255.255.255"]
  includedRoutes := plan.packetTunnelIncludedRoutes foundation
  excludedRoutes :=
    sortedExclusions foundation
      ((plan.excludedRoutes ++ additionalExcludedRoutes).eraseDupsBy
        (IPv4RouteSpec.equal foundation))
  dnsServers := plan.dnsServers
  mtu := interface.mtu

end Settings

/-- The silence after which the endpoint of a peer is resolved again. -/
def endpointRecoveryTimeoutMilliseconds
    (route : RouteMetadata)
    (transport : TransportKind) :
    Nat :=
  match transport with
  | .udp => route.udpRebindAfter.toNat * 1000
  | .tcp => route.sessionTimeout.toNat * 1000

namespace Provider

variable {device : Device} {snow : Snow}

/-- The provider before it was started. -/
def idle : Provider device snow where
  core := none
  runtimes := 0
  transport := false
  maintenanceTimer := false
  configurationDeliveryTimeout := false
  protectedHandshakeTimeout := false
  pendingProtectedActivation := none
  peerNames := []
  interfaceMetadata := none
  routeMetadata := []
  networkPolicy := .hostRoutesOnly device.foundation
  activeConfiguration := none
  duplicateConfigurationCompletionHandlers := []
  endpointRefreshInFlight := []
  lastEndpointRefreshAttempt := ∅
  pendingEndpointRouteCleanup := none
  awaitingConfiguration := false
  running := false

/-- The runtime is the one with the given identity. -/
def hasCore (provider : Provider device snow) (runtime : Nat) : Bool :=
  provider.core.any fun core => core.id = runtime

section Failures

/-- The provider without a runtime. -/
def tornDown (provider : Provider device snow) : Provider device snow :=
  { (idle : Provider device snow) with runtimes := provider.runtimes }

def tearDownRuntime
    (provider : Provider device snow) :
    Provider device snow × List Effect :=
  let stopped (completion : Completion) :=
    Effect.respond completion (.rejected "隧道在认证预握手期间停止。")
  let pendingCompletion :=
    provider.pendingProtectedActivation.bind
      PendingProtectedActivation.completionHandler
  (provider.tornDown,
    .tearDown ::
      (pendingCompletion.toList.map stopped ++
        provider.duplicateConfigurationCompletionHandlers.map stopped))

def finishFailedStart
    (provider : Provider device snow)
    (error : ProviderError) :
    Provider device snow × List Effect :=
  let (provider, effects) := provider.tearDownRuntime
  (provider, effects ++ [.completeStart (some error)])

def finishFailedConfiguration
    (provider : Provider device snow)
    (error : ProviderError)
    (completionHandler : Option Completion) :
    Provider device snow × List Effect :=
  let (provider, effects) := provider.tearDownRuntime
  (provider,
    effects ++
      completionHandler.toList.map (fun completion =>
        .respond completion (.failure error)) ++
      [.cancelTunnel error])

end Failures

section Core

/-- The callbacks of the core for the work that a call has produced. -/
def dispatch
    (provider : Provider device snow)
    (runtime : Nat)
    (output : EngineOutput) :
    List Effect :=
  output.events.map (fun
    | .handshakeCompleted peerName endpoint _ =>
        .handshakeCompleted runtime peerName (endpointToFfi endpoint)) ++
  output.actions.filterMap fun action =>
    match action with
    | .sendTransport _ _ _ =>
        if provider.transport then some (.perform action) else none
    | .writeIpPacket _ _ _ =>
        if provider.running then some (.perform action) else none

/-- A call of the core, if there is one. -/
def callCore
    (provider : Provider device snow)
    (call : EngineCall snow) :
    Provider device snow × List Effect :=
  match provider.core with
  | none => (provider, [])
  | some core =>
      let (result, core') := core.perform call
      ({ provider with core := some core' },
        match result with
        | .error _ => []
        | .ok output => provider.dispatch core.id output)

/-- Calls of the core, one after the other. -/
def callCoreAll
    (provider : Provider device snow) :
    List (EngineCall snow) →
    Provider device snow × List Effect
  | [] => (provider, [])
  | call :: rest =>
      let (provider, first) := provider.callCore call
      let (provider, later) := provider.callCoreAll rest
      (provider, first ++ later)

def startInitialHandshakes
    (provider : Provider device snow)
    (moment : Moment device snow) :
    Provider device snow × List Effect :=
  provider.callCoreAll
    (provider.peerNames.map fun peerName =>
      .initiateHandshake peerName (moment.draws peerName) moment.now)

def startMaintenanceTimer
    (provider : Provider device snow) :
    Provider device snow :=
  { provider with maintenanceTimer := true }

end Core

section Configuration

/-- The runtime and the plan of a configuration that may be installed. -/
def loadConfiguration
    (provider : Provider device snow)
    (moment : Moment device snow)
    (configuration : Bytes) :
    Except ProviderError (CoreRuntime snow × ConfigurationPlan) := do
  ensure
    (provider.awaitingConfiguration = true ∧ provider.running = false ∧
      provider.core.isNone = true)
    (.failure 9 "隧道配置已经安装。")
  ensure (configuration ≠ [] ∧ configuration.length ≤ 1048576)
    (.failure 10 "临时配置为空或超过 1 MiB。")
  let (config, router, localStatic) ←
    (createRuntime device moment.toSocketAddrs configuration).mapError .core
  let core : CoreRuntime snow :=
    .start provider.runtimes config router localStatic
  let configurationPlan ←
    (plan device.foundation core.interfaceMetadata core.routes
      provider.networkPolicy).mapError .core
  .ok (core, configurationPlan)

/-- The provider with the runtime of a configuration. -/
def install
    (provider : Provider device snow)
    (configuration : Bytes)
    (core : CoreRuntime snow) :
    Provider device snow :=
  { provider with
    configurationDeliveryTimeout := false
    activeConfiguration := some configuration
    core := some core
    runtimes := provider.runtimes + 1
    transport := true
    interfaceMetadata := some core.interfaceMetadata
    routeMetadata := core.routes
    peerNames :=
      device.foundation.sortedSet (core.routes.map RouteMetadata.peerName) }

/-- Settings that need no preflight are passed at once. -/
def installLoaded
    (provider : Provider device snow)
    (moment : Moment device snow)
    (configuration : Bytes)
    (core : CoreRuntime snow)
    (configurationPlan : ConfigurationPlan)
    (completionHandler : Option Completion) :
    Provider device snow × List Effect :=
  let provider := provider.install configuration core
  let settings :=
    makeNetworkSettings device.foundation core.interfaceMetadata core.routes
      configurationPlan []
  if provider.networkPolicy.routePolicy.requiresAuthenticatedPreflight then
    let provider :=
      { provider with
        pendingProtectedActivation := some { settings, completionHandler }
        protectedHandshakeTimeout := true }
    provider.startMaintenanceTimer.startInitialHandshakes moment
  else
    (provider,
      [.setTunnelNetworkSettings settings
        (.activation completionHandler false)])

def installConfiguration
    (provider : Provider device snow)
    (moment : Moment device snow)
    (configuration : Bytes)
    (completionHandler : Option Completion) :
    Provider device snow × List Effect :=
  match provider.activeConfiguration with
  | some activeConfiguration =>
      if activeConfiguration ≠ configuration then
        provider.finishFailedConfiguration
          (.failure 9
            "收到与当前会话不一致的配置；隧道已安全停止，请重新连接。")
          completionHandler
      else if provider.running then
        (provider,
          completionHandler.toList.map fun completion =>
            .respond completion .success)
      else
        ({ provider with
          duplicateConfigurationCompletionHandlers :=
            provider.duplicateConfigurationCompletionHandlers ++
              completionHandler.toList },
          [])
  | none =>
      match provider.loadConfiguration moment configuration with
      | .error error =>
          provider.finishFailedConfiguration error completionHandler
      | .ok (core, configurationPlan) =>
          provider.installLoaded moment configuration core configurationPlan
            completionHandler

def startTunnel
    (provider : Provider device snow)
    (moment : Moment device snow)
    (options protocolConfiguration : Option ProviderConfiguration) :
    Provider device snow × List Effect :=
  if provider.running ∨ provider.core.isSome then
    provider.finishFailedStart
      (.failure 1 "HushWire Packet Tunnel 已经在运行。")
  else
    match validateStart device.foundation device.ids moment.load
        device.platform options protocolConfiguration with
    | .error error => provider.finishFailedStart error
    | .ok (.awaitDelivery networkPolicy) =>
        ({ provider with
          networkPolicy
          awaitingConfiguration := true
          configurationDeliveryTimeout := true },
          [.completeStart none])
    | .ok (.install networkPolicy configuration) =>
        let (provider, effects) :=
          installConfiguration
            { provider with networkPolicy, awaitingConfiguration := true }
            moment configuration none
        (provider, .completeStart none :: effects)

def stopTunnel
    (provider : Provider device snow) :
    Provider device snow × List Effect :=
  let (provider, effects) := provider.tearDownRuntime
  (provider, effects ++ [.completeStop])

def handleAppMessage
    (provider : Provider device snow)
    (moment : Moment device snow)
    (messageData : Bytes)
    (completionHandler : Option Completion) :
    Provider device snow × List Effect :=
  let respond (response : Response) :=
    completionHandler.toList.map fun completion =>
      Effect.respond completion response
  match messageData with
  | [] => (provider, respond (.rejected "空的 provider message。"))
  | command :: configuration =>
      if command = 0x01 then
        (provider, respond .status)
      else if command = 0x02 then
        provider.installConfiguration moment configuration completionHandler
      else
        (provider, respond (.rejected "未知的 provider message。"))

end Configuration

section Activation

/-- The first authenticated peer releases the settings. -/
def activatePendingProtectedConfigurationIfNeeded
    (provider : Provider device snow)
    (peerName : String) :
    Provider device snow × List Effect :=
  if provider.peerNames.any fun name =>
      device.foundation.equal name peerName then
    match provider.pendingProtectedActivation with
    | none => (provider, [])
    | some pending =>
        ({ provider with
          pendingProtectedActivation := none
          protectedHandshakeTimeout := false },
          [.setTunnelNetworkSettings pending.settings
            (.activation pending.completionHandler true)])
  else
    (provider, [])

/-- The settings after a refresh, once its endpoint has answered. -/
def finishEndpointRouteTransitionIfNeeded
    (provider : Provider device snow)
    (peerName : String)
    (endpoint : Endpoint) :
    Provider device snow × List Effect :=
  match provider.pendingEndpointRouteCleanup with
  | none => (provider, [])
  | some pending =>
      if device.foundation.equal pending.peerName peerName ∧
          pending.endpoint = endpoint then
        ({ provider with pendingEndpointRouteCleanup := none },
          [.setTunnelNetworkSettings pending.settings .cleanup])
      else
        (provider, [])

/-- The work that a completed handshake puts on the queue. -/
def handshakeCompleted
    (provider : Provider device snow)
    (runtime : Nat)
    (peerName : String)
    (endpoint : Endpoint) :
    Provider device snow × List Effect :=
  if provider.hasCore runtime then
    let (provider, activated) :=
      provider.activatePendingProtectedConfigurationIfNeeded peerName
    let (provider, cleaned) :=
      provider.finishEndpointRouteTransitionIfNeeded peerName endpoint
    (provider, activated ++ cleaned)
  else
    (provider, [])

/-- The callback of the first settings. -/
def activationFinished
    (provider : Provider device snow)
    (moment : Moment device snow)
    (error : Option ProviderError)
    (completionHandler : Option Completion)
    (handshakeAlreadyStarted : Bool) :
    Provider device snow × List Effect :=
  match error with
  | some error => provider.finishFailedConfiguration error completionHandler
  | none =>
      let provider :=
        startMaintenanceTimer
          { provider with awaitingConfiguration := false, running := true }
      let (provider, handshakes) :=
        if handshakeAlreadyStarted then
          (provider, [])
        else
          provider.startInitialHandshakes moment
      ({ provider with duplicateConfigurationCompletionHandlers := [] },
        handshakes ++
          (completionHandler.toList ++
            provider.duplicateConfigurationCompletionHandlers).map
              fun completion => .respond completion .success)

/-- The preflight took longer than 15 seconds. -/
def protectedHandshakeExpired
    (provider : Provider device snow) :
    Provider device snow × List Effect :=
  match provider.pendingProtectedActivation with
  | none => ({ provider with protectedHandshakeTimeout := false }, [])
  | some pending =>
      finishFailedConfiguration
        { provider with
          pendingProtectedActivation := none
          protectedHandshakeTimeout := false }
        (.failure 11 "认证预握手在 15 秒内未完成；隧道路由和 DNS 均未修改。")
        pending.completionHandler

/-- No configuration was delivered in 15 seconds. -/
def configurationDeliveryExpired
    (provider : Provider device snow) :
    Provider device snow × List Effect :=
  let provider := { provider with configurationDeliveryTimeout := false }
  if provider.awaitingConfiguration ∧
      provider.activeConfiguration.isNone then
    provider.finishFailedConfiguration
      (.failure 12
        "15 秒内未收到安全隧道配置；Packet Tunnel 已自动停止。")
      none
  else
    (provider, [])

end Activation

section Endpoints

/-- How long ago a peer was last seen. -/
def lastSeen
    (core : CoreRuntime snow)
    (foundation : Foundation)
    (peerName : String)
    (clock : Instant) :
    Option Nat :=
  ((core.peerStatistics clock).find? fun statistics =>
    foundation.equal statistics.peerName peerName).bind
      PeerStatistics.lastSeenMillisecondsAgo

/-- The endpoint of a route is looked up again. -/
def refreshIsDue
    (provider : Provider device snow)
    (core : CoreRuntime snow)
    (transport : TransportKind)
    (moment : Moment device snow)
    (route : RouteMetadata) :
    Bool :=
  let peerName := device.foundation.canonicalForm route.peerName
  let timeout := endpointRecoveryTimeoutMilliseconds route transport
  !device.foundation.equal route.configuredEndpoint
      (route.endpoint.displayString device.foundation) &&
    ((lastSeen core device.foundation route.peerName moment.clock).any
      fun lastSeen => decide (0 < timeout ∧ timeout ≤ lastSeen)) &&
    !provider.endpointRefreshInFlight.contains peerName &&
    !((provider.lastEndpointRefreshAttempt.lookup peerName).any
      fun lastAttempt =>
        decide (moment.now - lastAttempt < fromSecs 15))

/-- The loop over the routes, whose first of a peer decides. -/
def refreshRoutes
    (core : CoreRuntime snow)
    (transport : TransportKind)
    (moment : Moment device snow)
    (scheduledPeers : List String)
    (provider : Provider device snow) :
    List RouteMetadata →
    Provider device snow × List Effect
  | [] => (provider, [])
  | route :: rest =>
      if scheduledPeers.any (device.foundation.equal route.peerName) then
        refreshRoutes core transport moment scheduledPeers provider rest
      else
        let scheduledPeers := route.peerName :: scheduledPeers
        if provider.refreshIsDue core transport moment route then
          let peerName := device.foundation.canonicalForm route.peerName
          let (provider, effects) :=
            refreshRoutes core transport moment scheduledPeers
              { provider with
                endpointRefreshInFlight :=
                  peerName :: provider.endpointRefreshInFlight
                lastEndpointRefreshAttempt :=
                  provider.lastEndpointRefreshAttempt.insert peerName
                    moment.now }
              rest
          (provider, .resolveEndpoint route.peerName core.id :: effects)
        else
          refreshRoutes core transport moment scheduledPeers provider rest

def refreshDynamicEndpointsIfNeeded
    (provider : Provider device snow)
    (moment : Moment device snow) :
    Provider device snow × List Effect :=
  match provider.core, provider.interfaceMetadata with
  | some core, some interface =>
      if provider.running then
        refreshRoutes core interface.transport moment [] provider
          provider.routeMetadata
      else
        (provider, [])
  | _, _ => (provider, [])

def peerIsStale
    (provider : Provider device snow)
    (core : CoreRuntime snow)
    (clock : Instant)
    (peerName : String) :
    Bool :=
  match
    provider.routeMetadata.find? fun route =>
      device.foundation.equal route.peerName peerName,
    provider.interfaceMetadata,
    lastSeen core device.foundation peerName clock with
  | some route, some interface, some lastSeen =>
      let timeout :=
        endpointRecoveryTimeoutMilliseconds route interface.transport
      decide (0 < timeout ∧ timeout ≤ lastSeen)
  | _, _, _ => false

/-- The core uses another endpoint, and starts a handshake with it. -/
def activateResolvedEndpoint
    (provider : Provider device snow)
    (moment : Moment device snow)
    (endpoint : Endpoint)
    (peerName : String)
    (routes : List RouteMetadata)
    (finalSettings : Option NetworkSettings) :
    Provider device snow × List Effect :=
  match provider.core with
  | none => (provider, [])
  | some core =>
      match core.updatePeerEndpoint peerName endpoint with
      | (some true, core') =>
          let provider :=
            { provider with
              core := some core'
              routeMetadata := routes
              pendingEndpointRouteCleanup :=
                (finalSettings.map
                  (PendingEndpointRouteCleanup.mk peerName endpoint)).or
                  provider.pendingEndpointRouteCleanup }
          if provider.transport then
            provider.callCore
              (.initiateHandshake peerName (moment.draws peerName)
                moment.now)
          else
            (provider, [])
      | (_, _) => (provider, [])

/-- The callback of the settings that protect both endpoints. -/
def transitionFinished
    (provider : Provider device snow)
    (moment : Moment device snow)
    (error : Option ProviderError)
    (endpoint : Endpoint)
    (peerName : String)
    (runtime : Nat)
    (routes : List RouteMetadata)
    (finalSettings : NetworkSettings) :
    Provider device snow × List Effect :=
  if provider.hasCore runtime ∧ provider.running then
    match error with
    | some _ => (provider, [])
    | none =>
        provider.activateResolvedEndpoint moment endpoint peerName routes
          (some finalSettings)
  else
    (provider, [])

/-- The routes with another endpoint for a peer. -/
def updatedRoutes
    (provider : Provider device snow)
    (endpoint : Endpoint)
    (peerName : String) :
    List RouteMetadata :=
  provider.routeMetadata.map fun route =>
    if device.foundation.equal route.peerName peerName then
      route.replacingEndpoint endpoint
    else
      route

/-- The checks of a resolved endpoint that does not come too late. -/
def refreshTarget
    (provider : Provider device snow)
    (clock : Instant)
    (endpoint : Endpoint)
    (peerName : String)
    (runtime : Nat) :
    Option (InterfaceMetadata × RouteMetadata) := do
  let core ← provider.core
  let interface ← provider.interfaceMetadata
  let currentRoute ←
    provider.routeMetadata.find? fun route =>
      device.foundation.equal route.peerName peerName
  if core.id = runtime ∧ provider.running = true ∧
      currentRoute.endpoint ≠ endpoint ∧
      provider.peerIsStale core clock peerName = true then
    some (interface, currentRoute)
  else
    none

/-- A resolved endpoint is protected before it is used. -/
def applyResolvedEndpoint
    (provider : Provider device snow)
    (moment : Moment device snow)
    (endpoint : Endpoint)
    (peerName : String)
    (runtime : Nat) :
    Provider device snow × List Effect :=
  let provider :=
    { provider with
      endpointRefreshInFlight :=
        provider.endpointRefreshInFlight.erase
          (device.foundation.canonicalForm peerName) }
  match provider.refreshTarget moment.clock endpoint peerName runtime with
  | none => (provider, [])
  | some (interface, currentRoute) =>
      let routes := provider.updatedRoutes endpoint peerName
      match plan device.foundation interface routes
          provider.networkPolicy with
      | .error _ => (provider, [])
      | .ok updatedPlan =>
          let settings :=
            makeNetworkSettings device.foundation interface routes
              updatedPlan
          if provider.networkPolicy.routePolicy.requiresAuthenticatedPreflight
          then
            let oldEndpointException : IPv4RouteSpec :=
              { network := currentRoute.endpoint.host device.foundation
                prefixLength := 32 }
            (provider,
              [.setTunnelNetworkSettings (settings [oldEndpointException])
                (.transition endpoint peerName runtime routes
                  (settings []))])
          else
            provider.activateResolvedEndpoint moment endpoint peerName
              routes none

/-- The name could not be resolved. -/
def resolutionFailed
    (provider : Provider device snow)
    (peerName : String) :
    Provider device snow :=
  { provider with
    endpointRefreshInFlight :=
      provider.endpointRefreshInFlight.erase
        (device.foundation.canonicalForm peerName) }

end Endpoints

section Work

/-- A call that one tick of the core's scheduler makes. -/
inductive ScheduledCall (snow : Snow) where
  | initiateHandshake
      (peerName : PeerName)
      (draw : Draw snow)
      (now : Instant)
  | invalidatePeer (peerName : PeerName)
  | createKeepalive
      (peerName : PeerName)
      (payload : Bytes)
      (draw : Draw snow)
      (now : Instant)

def ScheduledCall.engineCall : ScheduledCall snow → EngineCall snow
  | .initiateHandshake peerName draw now =>
      .initiateHandshake peerName draw now
  | .invalidatePeer peerName => .invalidatePeer peerName
  | .createKeepalive peerName payload draw now =>
      .createKeepalive peerName payload draw now

/-- The timer of every second; a tick that fails skips the refresh. -/
def maintain
    (provider : Provider device snow)
    (moment : Moment device snow)
    (tick : List (ScheduledCall snow))
    (failed : Bool) :
    Provider device snow × List Effect :=
  if (provider.running ∨ provider.pendingProtectedActivation.isSome) ∧
      provider.core.isSome then
    let (provider, scheduled) :=
      provider.callCoreAll (tick.map ScheduledCall.engineCall)
    if failed then
      (provider, scheduled)
    else
      let (provider, refreshes) :=
        provider.refreshDynamicEndpointsIfNeeded moment
      (provider, scheduled ++ refreshes)
  else
    (provider, [])

/-- A frame from the transport. -/
def receiveTransport
    (provider : Provider device snow)
    (moment : Moment device snow)
    (frame : Bytes)
    (source : SocketAddr) :
    Provider device snow × List Effect :=
  provider.callCore
    (.processInboundTransport frame source moment.draws moment.now
      moment.clock)

/-- Packets that the tunnel has read. -/
def readPackets
    (provider : Provider device snow)
    (moment : Moment device snow)
    (packets : List (Bytes × Draw snow)) :
    Provider device snow × List Effect :=
  if provider.running then
    provider.callCoreAll
      (packets.map fun (packet, draw) =>
        .processOutboundIp packet draw moment.now)
  else
    (provider, [])

/-- The transport has sent a frame; a runtime that was stopped fails. -/
def transportSent
    (provider : Provider device snow)
    (runtime : Nat)
    (peerName : String)
    (bytes : Nat) :
    Provider device snow × List Effect :=
  if provider.hasCore runtime then
    provider.callCore (.recordTransportSent peerName bytes)
  else
    (provider, [])

end Work

end Provider

end HushWire.PacketTunnel

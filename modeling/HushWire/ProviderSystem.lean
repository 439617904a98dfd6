import HushWire.Library.Execution
import HushWire.Provider

namespace HushWire.PacketTunnel

/-!
# The provider in its surroundings

Around the provider are the calls that it made and that will be answered at
some time: settings that the system installs, names that are being resolved,
and work that is still on its queue.  A step takes one of them, or a job that
may come at any time, in any order.
-/

open Noise

/-- A call of `setTunnelNetworkSettings` that was not answered yet. -/
structure SettingsCall where
  settings : NetworkSettings
  callback : SettingsCallback
  /-- The runtime when the call was made, which the callback does not know. -/
  runtime : Option Nat
  deriving DecidableEq

/-- A name that is being resolved. -/
structure Resolution where
  peerName : String
  runtime : Nat
  deriving DecidableEq

/-- The result of a resolution, on its way to the provider. -/
structure Resolved where
  resolution : Resolution
  endpoint : Option Endpoint
  deriving DecidableEq

/-- A completed handshake, on its way to the provider. -/
structure CompletedHandshake where
  runtime : Nat
  peerName : String
  endpoint : Endpoint
  deriving DecidableEq

inductive Job (snow : Snow) where
  | startTunnel (options protocolConfiguration : Option ProviderConfiguration)
  | stopTunnel
  | handleAppMessage
      (messageData : Bytes)
      (completionHandler : Option Completion)
  | handshakeCompleted (handshake : CompletedHandshake)
  | protectedHandshakeExpired
  | configurationDeliveryExpired
  | settingsInstalled (call : SettingsCall) (error : Option ProviderError)
  | maintain (tick : List (Provider.ScheduledCall snow)) (failed : Bool)
  | resolve (resolution : Resolution)
  | applyResolved (resolved : Resolved)
  | receiveTransport (frame : Bytes) (source : SocketAddr)
  | readPackets (packets : List (Bytes × Draw snow))
  | transportSent (runtime : Nat) (peerName : String) (bytes : Nat)

structure System (device : Device) (snow : Snow) where
  provider : Provider device snow
  calls : List SettingsCall
  resolutions : List Resolution
  resolved : List Resolved
  handshakes : List CompletedHandshake
  /-- The settings that were passed last, and for which runtime. -/
  settings : Option (NetworkSettings × Option Nat)

/-- A job, when it was done, and what it did. -/
structure Occurrence (device : Device) (snow : Snow) where
  job : Job snow
  moment : Moment device snow
  effects : List Effect

variable {device : Device} {snow : Snow}

/-- What the callback of a call does. -/
def Provider.settingsInstalled
    (provider : Provider device snow)
    (moment : Moment device snow)
    (callback : SettingsCallback)
    (error : Option ProviderError) :
    Provider device snow × List Effect :=
  match callback with
  | .activation completionHandler handshakeAlreadyStarted =>
      provider.activationFinished moment error completionHandler
        handshakeAlreadyStarted
  | .transition endpoint peerName runtime routes finalSettings =>
      provider.transitionFinished moment error endpoint peerName runtime
        routes finalSettings
  | .cleanup => (provider, [])

/-- Do a job; resolving a name does not concern the provider. -/
def Provider.handle
    (provider : Provider device snow)
    (moment : Moment device snow) :
    Job snow → Provider device snow × List Effect
  | .startTunnel options protocolConfiguration =>
      provider.startTunnel moment options protocolConfiguration
  | .stopTunnel => provider.stopTunnel
  | .handleAppMessage messageData completionHandler =>
      provider.handleAppMessage moment messageData completionHandler
  | .handshakeCompleted handshake =>
      provider.handshakeCompleted handshake.runtime handshake.peerName
        handshake.endpoint
  | .protectedHandshakeExpired => provider.protectedHandshakeExpired
  | .configurationDeliveryExpired => provider.configurationDeliveryExpired
  | .settingsInstalled call error =>
      provider.settingsInstalled moment call.callback error
  | .maintain tick failed => provider.maintain moment tick failed
  | .resolve _ => (provider, [])
  | .applyResolved resolved =>
      match resolved.endpoint with
      | none =>
          (provider.resolutionFailed resolved.resolution.peerName, [])
      | some endpoint =>
          provider.applyResolvedEndpoint moment endpoint
            resolved.resolution.peerName resolved.resolution.runtime
  | .receiveTransport frame source =>
      provider.receiveTransport moment frame source
  | .readPackets packets => provider.readPackets moment packets
  | .transportSent runtime peerName bytes =>
      provider.transportSent runtime peerName bytes

namespace System

/-- Nothing was started yet. -/
def initial : System device snow where
  provider := .idle
  calls := []
  resolutions := []
  resolved := []
  handshakes := []
  settings := none

/-- A runtime that is not the core was stopped and resolves nothing. -/
def resolve
    (system : System device snow)
    (moment : Moment device snow)
    (resolution : Resolution) :
    Option Endpoint :=
  (system.provider.core.filter fun core =>
    core.id = resolution.runtime).bind fun core =>
      core.resolvePeerEndpoint moment.toSocketAddrs resolution.peerName

/-- Whether a job may be done now. -/
def Enabled (system : System device snow) : Job snow → Prop
  | .handshakeCompleted handshake => handshake ∈ system.handshakes
  | .protectedHandshakeExpired =>
      system.provider.protectedHandshakeTimeout = true
  | .configurationDeliveryExpired =>
      system.provider.configurationDeliveryTimeout = true
  | .settingsInstalled call _ => call ∈ system.calls
  | .maintain _ _ => system.provider.maintenanceTimer = true
  | .resolve resolution => resolution ∈ system.resolutions
  | .applyResolved resolved => resolved ∈ system.resolved
  | _ => True

instance (system : System device snow) (job : Job snow) :
    Decidable (system.Enabled job) := by
  cases job <;> unfold Enabled <;> infer_instance

/-- What was waiting for a job does not wait any more. -/
def take
    (system : System device snow)
    (moment : Moment device snow) :
    Job snow → System device snow
  | .handshakeCompleted handshake =>
      { system with handshakes := system.handshakes.erase handshake }
  | .settingsInstalled call _ =>
      { system with calls := system.calls.erase call }
  | .resolve resolution =>
      { system with
        resolutions := system.resolutions.erase resolution
        resolved :=
          system.resolved ++
            [⟨resolution, system.resolve moment resolution⟩] }
  | .applyResolved resolved =>
      { system with resolved := system.resolved.erase resolved }
  | _ => system

/-- What an effect leaves behind in the surroundings. -/
def absorb (system : System device snow) : Effect → System device snow
  | .setTunnelNetworkSettings settings callback =>
      let runtime := system.provider.core.map CoreRuntime.id
      { system with
        calls := system.calls ++ [⟨settings, callback, runtime⟩]
        settings := some (settings, runtime) }
  | .resolveEndpoint peerName runtime =>
      { system with
        resolutions := system.resolutions ++ [⟨peerName, runtime⟩] }
  | .handshakeCompleted runtime peerName endpoint =>
      { system with
        handshakes := system.handshakes ++ [⟨runtime, peerName, endpoint⟩] }
  | _ => system

/-- The system after a job, and the effects of the job. -/
def next
    (system : System device snow)
    (moment : Moment device snow)
    (job : Job snow) :
    System device snow × List Effect :=
  let (provider, effects) := system.provider.handle moment job
  (effects.foldl absorb { system.take moment job with provider }, effects)

/-- One job is done, at some moment. -/
structure Step
    (before : System device snow)
    (occurrence : Occurrence device snow)
    (after : System device snow) :
    Prop where
  enabled : before.Enabled occurrence.job
  done :
    before.next occurrence.moment occurrence.job =
      (after, occurrence.effects)

/-- A job at a moment leads to one state. -/
theorem Step.functional
    {before first second : System device snow}
    {occurrence : Occurrence device snow}
    (step : Step before occurrence first)
    (other : Step before occurrence second) :
    first = second :=
  (Prod.mk.inj (step.done.symm.trans other.done)).1

/-- A job that may be done is a step. -/
theorem Step.of_next
    {system : System device snow}
    {moment : Moment device snow}
    {job : Job snow}
    (enabled : system.Enabled job) :
    Step system ⟨job, moment, (system.next moment job).2⟩
      (system.next moment job).1 :=
  ⟨enabled, rfl⟩

end System

end HushWire.PacketTunnel

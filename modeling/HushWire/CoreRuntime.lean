import HushWire.Authentication
import HushWire.PolicyAgreement
import HushWire.ProviderConfiguration

namespace HushWire.PacketTunnel

/-!
# The core as the packet tunnel sees it

A `CoreRuntime` is created from the text of a configuration and started; the
packet tunnel reads its interface, its routes and its statistics, and calls
its engine.  A call that fails is only logged, so the text of its error is not
kept.

Reading TOML and decoding base64 belong to the `Device`, and what a moment
brings, such as the answers of the name service, to the `Moment`.
-/

open Checked (require bind_eq_ok require_eq_ok)
open Noise

/-- What the packet tunnel runs on. -/
structure Device where
  foundation : Foundation
  ids : ProfileIds
  platform : Platform
  decodeBase64 : String → Option Bytes
  parseToml : Bytes → Except String Config

/-- What the surroundings give while one piece of work is done. -/
structure Moment (device : Device) (snow : Snow) where
  draws : PeerName → Draw snow
  now : Instant
  clock : Instant
  toSocketAddrs : String → UInt16 → Except String (List SocketAddr)
  load : device.ids.Id → Except String Bytes

/-- `endpoint_from_ffi`, where the family is supported. -/
def endpointFromFfi (endpoint : Endpoint) : Option SocketAddr :=
  if endpoint.family = 4 then
    some { ip := .v4 endpoint.ipv4, port := endpoint.port }
  else if endpoint.family = 6 then
    some
      { ip :=
          .v6
            (endpoint.addressBytes.toList.foldl
              (fun bits byte => bits <<< 8 ||| byte.toBitVec.setWidth 128) 0)
        port := endpoint.port }
  else
    none

/-- An IPv4 endpoint that was handed over comes back. -/
theorem endpointFromFfi_endpointToFfi
    {endpoint : SocketAddr}
    (isIpv4 : (endpointToFfi endpoint).family = 4) :
    endpointFromFfi (endpointToFfi endpoint) = some endpoint := by
  rw [endpointFromFfi, if_pos isIpv4, ← ip_of_endpointToFfi isIpv4]
  obtain ⟨_ | _, port⟩ := endpoint <;> rfl

/-- A runtime that was started, with its identity as an object. -/
structure CoreRuntime (snow : Snow) where
  id : Nat
  config : Config
  router : Router
  engine : Engine snow
  sameRouter : engine.router = router

/-- What is known of a peer. -/
structure PeerStatistics where
  peerName : String
  txBytes : UInt64
  rxBytes : UInt64
  lastSeenMillisecondsAgo : Option Nat
  endpoint : Option Endpoint

/-- `hw_runtime_get_interface_config`. -/
def getInterfaceConfig (config : Config) : InterfaceMetadata where
  addressBytes := config.interface.address.address.octets
  prefixLength := .ofNat config.interface.address.prefixLen.val
  transport :=
    match config.interface.transport with
    | .udp => .udp
    | .tcp => .tcp
  mtu := config.interface.mtu
  listen := endpointToFfi config.interface.listen

section Loading

variable (device : Device)

/-- The configuration, the router and the private key of a new runtime. -/
def createRuntime
    (toSocketAddrs : String → UInt16 → Except String (List SocketAddr))
    (configuration : Bytes) :
    Except CoreError (Config × Router × Key) := do
  let config ← (device.parseToml configuration).mapError .operation
  (config.validate device.decodeBase64).mapError fun error =>
    .operation error.message
  let router ←
    (Router.new device.decodeBase64 toSocketAddrs config).mapError
      fun error => .operation error.message
  let localStatic ←
    require (decodeKey device.decodeBase64 config.interface.privateKey)
      (.operation "interface has an invalid private key")
  .ok (config, router, localStatic)

end Loading

namespace CoreRuntime

variable {snow : Snow}

/-- `hw_runtime_start`: the engine has seen no traffic yet. -/
def start
    (id : Nat)
    (config : Config)
    (router : Router)
    (localStatic : Key) :
    CoreRuntime snow where
  id
  config
  router
  engine := .withRouter localStatic router
  sameRouter := rfl

def interfaceMetadata (runtime : CoreRuntime snow) : InterfaceMetadata :=
  getInterfaceConfig runtime.config

def routes (runtime : CoreRuntime snow) : List RouteMetadata :=
  visitRoutes runtime.router

/-- `hw_runtime_visit_peer_stats`, in the order of the names. -/
def peerStatistics
    (runtime : CoreRuntime snow)
    (clock : Instant) :
    List PeerStatistics :=
  (runtime.engine.peers.entries.insertionSort fun first second =>
      !decide (second.1 < first.1)).map fun entry =>
    { peerName := entry.1
      txBytes := entry.2.txBytes
      rxBytes := entry.2.rxBytes
      lastSeenMillisecondsAgo :=
        entry.2.lastSeen.map fun seen =>
          min ((clock - seen) / 1000000) u64Max.toNat
      endpoint := entry.2.currentEndpoint.map endpointToFfi }

/-- Resolve the configured endpoint of a peer, which changes nothing. -/
def resolvePeerEndpoint
    (runtime : CoreRuntime snow)
    (toSocketAddrs : String → UInt16 → Except String (List SocketAddr))
    (peerName : String) :
    Option Endpoint := do
  let peer ←
    runtime.config.peer.find? fun peer => peer.name = peerName
  let endpoint ← (peer.endpoint.resolve toSocketAddrs).toOption
  some (endpointToFfi endpoint)

/-- A call of the engine. -/
def perform
    (runtime : CoreRuntime snow)
    (call : EngineCall snow) :
    Except (EngineError snow) EngineOutput × CoreRuntime snow :=
  ((runtime.engine.perform call).1,
    { runtime with
      engine := (runtime.engine.perform call).2
      sameRouter :=
        (runtime.engine.perform_hears call).router.trans
          runtime.sameRouter })

/-- Whether the endpoint changed, or nothing where the call fails. -/
def updatePeerEndpoint
    (runtime : CoreRuntime snow)
    (peerName : String)
    (endpoint : Endpoint) :
    Option Bool × CoreRuntime snow :=
  match endpointFromFfi endpoint with
  | none => (none, runtime)
  | some address =>
      ((runtime.engine.updateResolvedEndpoint peerName address).1.toOption,
        (runtime.perform (.updateResolvedEndpoint peerName address)).2)

@[simp] theorem perform_id
    (runtime : CoreRuntime snow)
    (call : EngineCall snow) :
    (runtime.perform call).2.id = runtime.id :=
  rfl

@[simp] theorem perform_config
    (runtime : CoreRuntime snow)
    (call : EngineCall snow) :
    (runtime.perform call).2.config = runtime.config :=
  rfl

@[simp] theorem perform_router
    (runtime : CoreRuntime snow)
    (call : EngineCall snow) :
    (runtime.perform call).2.router = runtime.router :=
  rfl

/-- Whoever is seen when was seen at all. -/
theorem seen_of_peerStatistics
    {runtime : CoreRuntime snow}
    {clock : Instant}
    {statistics : PeerStatistics}
    (listed : statistics ∈ runtime.peerStatistics clock)
    (seen : statistics.lastSeenMillisecondsAgo.isSome) :
    runtime.engine.Seen statistics.peerName := by
  obtain ⟨entry, member, rfl⟩ := List.mem_map.mp listed
  rw [List.mem_insertionSort] at member
  exact ⟨entry.2, AssociationMap.mem_entries_iff_lookup.mp member,
    by simpa using seen⟩

end CoreRuntime

end HushWire.PacketTunnel

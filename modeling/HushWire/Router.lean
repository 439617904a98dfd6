import Mathlib.Data.List.Sort
import HushWire.Config
import HushWire.Library.LongestMatch

namespace HushWire

/-!
# Building a router

A router is made from a configuration: the endpoint of every peer is resolved,
its prefixes are collected, and the routes are sorted by their length.
`Router.Of` says which routes and exclusions the result has.

Decoding base64 and resolving names are parameters.
-/

open Checked (require bind_eq_ok require_eq_ok)

inductive RouterError where
  | duplicatePrefix (net : Ipv4Net) (firstPeer secondPeer : String)
  | endpointResolution (peer : String) (endpoint : PeerEndpoint)
      (source : String)
  /-- An `expect` that fails. -/
  | panicked (text : String)
  deriving DecidableEq

namespace PeerEndpoint

/-- The endpoint as it is written. -/
def text (endpoint : PeerEndpoint) : String :=
  match endpoint.literal with
  | some ⟨.v4 address, port⟩ => s!"{Ipv4Addr.text address}:{port}"
  | some ⟨.v6 _, port⟩ => s!"[{endpoint.host}]:{port}"
  | none => s!"{endpoint.host}:{endpoint.port}"

def isDnsName (endpoint : PeerEndpoint) : Bool :=
  endpoint.literal.isNone

/-- The literal address, or the first address of the name, IPv4 preferred. -/
def resolve
    (toSocketAddrs : String → UInt16 → Except String (List SocketAddr))
    (endpoint : PeerEndpoint) :
    Except String SocketAddr :=
  match endpoint.literal with
  | some literal => .ok literal
  | none => do
      let addresses ← toSocketAddrs endpoint.host endpoint.port
      require
        ((addresses.find? fun address => address.ip.isIpv4).or
          addresses.head?)
        s!"DNS returned no addresses for {endpoint.host}"

end PeerEndpoint

/-- The text of an error. -/
def RouterError.message : RouterError → String
  | .duplicatePrefix net firstPeer secondPeer =>
      s!"route {net.text} is configured for both {firstPeer} and {secondPeer}"
  | .endpointResolution peer endpoint source =>
      s!"could not resolve endpoint {endpoint.text} for peer {peer}: {source}"
  | .panicked text => text

section Building

variable
  (decodeBase64 : String → Option Bytes)
  (toSocketAddrs : String → UInt16 → Except String (List SocketAddr))

def peerFromConfig
    (config : PeerConfig)
    (transport : TransportConfig) :
    Except RouterError Peer := do
  let publicKey ←
    require (decodeKey decodeBase64 config.publicKey)
      (.panicked "public_key validated by Config::load")
  let endpoint ←
    (config.endpoint.resolve toSocketAddrs).mapError fun source =>
      .endpointResolution config.name config.endpoint source
  let psk ←
    require (decodePsk decodeBase64 config.psk)
      (.panicked "psk validated by Config::load")
  .ok
    { name := config.name
      endpoint
      configuredEndpoint := config.endpoint
      excludedIps := config.excludedIps
      psk
      publicKey
      persistentKeepalive := config.persistentKeepalive
      udpRebindAfter := config.udpRebindAfter
      sessionTimeout := config.effectiveSessionTimeout transport }

/-- Append the prefixes that a peer is allowed to the routes. -/
def addRoutes
    (peer : Peer)
    (routes : List Route) :
    List Ipv4Net → Except RouterError (List Route)
  | [] => .ok routes
  | net :: rest =>
      match routes.find? fun route => route.net = net with
      | some existing =>
          .error (.duplicatePrefix net existing.peer.name peer.name)
      | none => addRoutes peer (routes ++ [⟨net, peer⟩]) rest

/-- Collect the routes and the exclusions of the peers, in their order. -/
def addPeers
    (transport : TransportConfig)
    (routes : List Route)
    (excludedRoutes : List ExcludedRoute) :
    List PeerConfig →
    Except RouterError (List Route × List ExcludedRoute)
  | [] => .ok (routes, excludedRoutes)
  | peerConfig :: rest => do
      let peer ←
        peerFromConfig decodeBase64 toSocketAddrs peerConfig transport
      let routes ← addRoutes peer routes peerConfig.allowedIps
      addPeers transport routes
        (excludedRoutes ++
          peerConfig.excludedIps.map fun net => ⟨net, peer⟩)
        rest

namespace Router

/-- Both lists are sorted by length, longest first; the sort is stable. -/
def new (config : Config) : Except RouterError Router := do
  let (routes, excludedRoutes) ←
    addPeers decodeBase64 toSocketAddrs config.interface.transport [] []
      config.peer
  .ok
    { routes :=
        routes.insertionSort fun first second =>
          second.net.prefixLen ≤ first.net.prefixLen
      excludedRoutes :=
        excludedRoutes.insertionSort fun first second =>
          second.net.prefixLen ≤ first.net.prefixLen }

/-- The peers whose endpoint is itself routed, one for each address. -/
def endpointExceptionPeersFrom
    (router : Router)
    (seen : List IpAddr) :
    List Route → List Peer
  | [] => []
  | route :: rest =>
      match route.peer.endpoint.ip with
      | .v6 _ => router.endpointExceptionPeersFrom seen rest
      | .v4 endpointIp =>
          if route.peer.endpoint.port = 0 ∨ endpointIp = 0 then
            router.endpointExceptionPeersFrom seen rest
          else if (router.lookup endpointIp).isSome ∧
              .v4 endpointIp ∉ seen then
            route.peer ::
              router.endpointExceptionPeersFrom
                (.v4 endpointIp :: seen) rest
          else
            router.endpointExceptionPeersFrom seen rest

def endpointExceptionPeers (router : Router) : List Peer :=
  router.endpointExceptionPeersFrom [] router.routes

end Router

end Building

section Built

variable
  {decodeBase64 : String → Option Bytes}
  {toSocketAddrs : String → UInt16 → Except String (List SocketAddr)}

/-- What a peer takes over from its configuration. -/
theorem peerFromConfig_ok
    {config : PeerConfig}
    {transport : TransportConfig}
    {peer : Peer}
    (made :
      peerFromConfig decodeBase64 toSocketAddrs config transport =
        .ok peer) :
    config.endpoint.resolve toSocketAddrs = .ok peer.endpoint ∧
      ∃ psk publicKey,
        decodePsk decodeBase64 config.psk = some psk ∧
        decodeKey decodeBase64 config.publicKey = some publicKey ∧
        peer =
          { name := config.name
            endpoint := peer.endpoint
            configuredEndpoint := config.endpoint
            excludedIps := config.excludedIps
            psk
            publicKey
            persistentKeepalive := config.persistentKeepalive
            udpRebindAfter := config.udpRebindAfter
            sessionTimeout := config.effectiveSessionTimeout transport } := by
  simp only [peerFromConfig, bind_eq_ok, require_eq_ok] at made
  obtain ⟨publicKey, keyDecoded, endpoint, resolved, psk, pskDecoded,
    isPeer⟩ := made
  have isEndpoint : config.endpoint.resolve toSocketAddrs = .ok endpoint := by
    cases found : config.endpoint.resolve toSocketAddrs with
    | error source =>
        rw [found] at resolved
        cases resolved
    | ok address =>
        rw [found] at resolved
        exact congrArg _ (Except.ok.inj resolved)
  cases isPeer
  exact ⟨isEndpoint, psk, publicKey, pskDecoded, keyDecoded, rfl⟩

/-- No `expect` fails where the configuration was accepted. -/
theorem peerFromConfig_not_panicked
    {config : PeerConfig}
    {transport : TransportConfig}
    (valid : config.Valid decodeBase64 transport)
    (text : String) :
    peerFromConfig decodeBase64 toSocketAddrs config transport ≠
      .error (.panicked text) := by
  obtain ⟨publicKey, keyDecoded⟩ := Option.isSome_iff_exists.mp valid.publicKey
  obtain ⟨psk, pskDecoded⟩ := Option.isSome_iff_exists.mp valid.psk
  unfold peerFromConfig
  rw [keyDecoded, pskDecoded]
  cases config.endpoint.resolve toSocketAddrs <;>
    simp [require, bind, Except.bind, Except.mapError]

/-- The prefixes of a peer follow the routes, and none is repeated. -/
theorem addRoutes_ok
    {peer : Peer}
    {routes routes' : List Route}
    {nets : List Ipv4Net}
    (added : addRoutes peer routes nets = .ok routes')
    (distinct : (routes.map Route.net).Nodup) :
    routes' = routes ++ nets.map (fun net => ⟨net, peer⟩) ∧
      (routes'.map Route.net).Nodup := by
  induction nets generalizing routes with
  | nil =>
      cases added
      exact ⟨(List.append_nil _).symm, distinct⟩
  | cons net rest inductionHypothesis =>
      unfold addRoutes at added
      cases found : routes.find? fun route => route.net = net with
      | some existing =>
          rw [found] at added
          cases added
      | none =>
          rw [found] at added
          have fresh : net ∉ routes.map Route.net := by
            intro repeated
            obtain ⟨route, member, isNet⟩ := List.mem_map.mp repeated
            exact absurd (List.find?_eq_none.mp found route member)
              (by simpa using isNet)
          have extended :
              ((routes ++ [Route.mk net peer]).map Route.net).Nodup := by
            rw [List.map_append]
            exact distinct.append (List.nodup_singleton net)
              (List.disjoint_singleton.mpr fresh)
          obtain ⟨isRoutes, stillDistinct⟩ :=
            inductionHypothesis added extended
          refine ⟨?_, stillDistinct⟩
          rw [isRoutes, List.append_assoc, List.map_cons,
            List.singleton_append]

/-- The routes and the exclusions of the configured peers. -/
structure Router.Of
    (decodeBase64 : String → Option Bytes)
    (toSocketAddrs : String → UInt16 → Except String (List SocketAddr))
    (config : Config)
    (router : Router) :
    Prop where
  peers :
    ∀ peerConfig ∈ config.peer, ∃ peer,
      peerFromConfig decodeBase64 toSocketAddrs peerConfig
        config.interface.transport = .ok peer
  routes :
    ∀ route : Route, route ∈ router.routes ↔
      ∃ peerConfig ∈ config.peer,
        peerFromConfig decodeBase64 toSocketAddrs peerConfig
          config.interface.transport = .ok route.peer ∧
        route.net ∈ peerConfig.allowedIps
  excludedRoutes :
    ∀ route : ExcludedRoute, route ∈ router.excludedRoutes ↔
      ∃ peerConfig ∈ config.peer,
        peerFromConfig decodeBase64 toSocketAddrs peerConfig
          config.interface.transport = .ok route.peer ∧
        route.net ∈ peerConfig.excludedIps
  distinct : (router.routes.map Route.net).Nodup

/-- The prefixes of the peers follow those that were collected. -/
theorem addPeers_ok
    {transport : TransportConfig}
    {routes routes' : List Route}
    {excludedRoutes excludedRoutes' : List ExcludedRoute}
    {peers : List PeerConfig}
    (added :
      addPeers decodeBase64 toSocketAddrs transport routes excludedRoutes
        peers = .ok (routes', excludedRoutes'))
    (distinct : (routes.map Route.net).Nodup) :
    (∀ peerConfig ∈ peers, ∃ peer,
      peerFromConfig decodeBase64 toSocketAddrs peerConfig transport =
        .ok peer) ∧
      (∀ route : Route, route ∈ routes' ↔
        route ∈ routes ∨ ∃ peerConfig ∈ peers,
          peerFromConfig decodeBase64 toSocketAddrs peerConfig transport =
            .ok route.peer ∧
          route.net ∈ peerConfig.allowedIps) ∧
      (∀ route : ExcludedRoute, route ∈ excludedRoutes' ↔
        route ∈ excludedRoutes ∨ ∃ peerConfig ∈ peers,
          peerFromConfig decodeBase64 toSocketAddrs peerConfig transport =
            .ok route.peer ∧
          route.net ∈ peerConfig.excludedIps) ∧
      (routes'.map Route.net).Nodup := by
  induction peers generalizing routes excludedRoutes with
  | nil =>
      cases added
      simpa using distinct
  | cons first rest inductionHypothesis =>
      simp only [addPeers, bind_eq_ok] at added
      obtain ⟨peer, made, extended, addedRoutes, addedRest⟩ := added
      obtain ⟨rfl, stillDistinct⟩ := addRoutes_ok addedRoutes distinct
      obtain ⟨allMade, isRoute, isExcluded, allDistinct⟩ :=
        inductionHypothesis addedRest stillDistinct
      refine ⟨List.forall_mem_cons.mpr ⟨⟨peer, made⟩, allMade⟩, ?_, ?_,
        allDistinct⟩
      · intro route
        have ofFirst :
            route ∈ first.allowedIps.map (fun net => Route.mk net peer) ↔
              peerFromConfig decodeBase64 toSocketAddrs first transport =
                  .ok route.peer ∧
                route.net ∈ first.allowedIps := by
          rw [made, List.mem_map]
          constructor
          · rintro ⟨net, member, rfl⟩
            exact ⟨rfl, member⟩
          · rintro ⟨isPeer, member⟩
            exact ⟨route.net, member, by rw [Except.ok.inj isPeer]⟩
        rw [isRoute, List.mem_append, ofFirst, List.exists_mem_cons_iff,
          or_assoc]
      · intro route
        have ofFirst :
            route ∈
                first.excludedIps.map (fun net => ExcludedRoute.mk net peer) ↔
              peerFromConfig decodeBase64 toSocketAddrs first transport =
                  .ok route.peer ∧
                route.net ∈ first.excludedIps := by
          rw [made, List.mem_map]
          constructor
          · rintro ⟨net, member, rfl⟩
            exact ⟨rfl, member⟩
          · rintro ⟨isPeer, member⟩
            exact ⟨route.net, member, by rw [Except.ok.inj isPeer]⟩
        rw [isExcluded, List.mem_append, ofFirst, List.exists_mem_cons_iff,
          or_assoc]

/-- A route covers a destination that its peer does not exclude. -/
def Route.Eligible (route : Route) (destination : Ipv4Addr) : Prop :=
  route.net.contains destination = true ∧
    ∀ net ∈ route.peer.excludedIps,
      net.contains destination = true →
      net.prefixLen.val < route.net.prefixLen.val

namespace Router

theorem new_ok
    {config : Config}
    {router : Router}
    (built : Router.new decodeBase64 toSocketAddrs config = .ok router) :
    router.Of decodeBase64 toSocketAddrs config := by
  simp only [Router.new, bind_eq_ok] at built
  obtain ⟨⟨routes, excludedRoutes⟩, added, isRouter⟩ := built
  obtain ⟨peers, isRoute, isExcluded, distinct⟩ :=
    addPeers_ok added List.nodup_nil
  cases isRouter
  refine
    { peers
      routes := fun route => ?_
      excludedRoutes := fun route => ?_
      distinct := ?_ }
  · rw [List.mem_insertionSort, isRoute]
    simp
  · rw [List.mem_insertionSort, isExcluded]
    simp
  · exact
      ((List.perm_insertionSort _ routes).map Route.net).nodup_iff.mpr
        distinct

/-- The search of a lookup stops at the eligible routes. -/
theorem lookup_predicate_iff
    (route : Route)
    (destination : Ipv4Addr) :
    (if route.net.contains destination then
        match
          ((route.peer.excludedIps.filter fun net =>
            net.contains destination).map fun net =>
              net.prefixLen.val).max? with
        | none => true
        | some excludedPrefixLength =>
            decide (excludedPrefixLength < route.net.prefixLen.val)
      else
        false) = true ↔
      route.Eligible destination := by
  unfold Route.Eligible
  by_cases covered : route.net.contains destination = true
  · rw [if_pos covered]
    have below :
        (∀ greatest,
          LongestMatch.longest Ipv4Net.contains
              (fun net => net.prefixLen.val)
              route.peer.excludedIps destination =
            some greatest →
          greatest < route.net.prefixLen.val) ↔ _ :=
      LongestMatch.longest_lt
    rw [← below, LongestMatch.longest]
    cases
      ((route.peer.excludedIps.filter fun net =>
        net.contains destination).map fun net => net.prefixLen.val).max? with
    | none => simp [covered]
    | some excludedPrefixLength => simp [covered]
  · rw [if_neg covered]
    simp [covered]

/-- A destination has a route that is longer than its peer's exclusions. -/
theorem lookup_isSome
    {router : Router}
    {destination : Ipv4Addr} :
    (router.lookup destination).isSome ↔
      ∃ route ∈ router.routes,
        route.net.contains destination = true ∧
          ∀ net ∈ route.peer.excludedIps,
            net.contains destination = true →
            net.prefixLen.val < route.net.prefixLen.val := by
  rw [Router.lookup, List.find?_isSome]
  exact exists_congr fun route =>
    and_congr_right fun _ => lookup_predicate_iff route destination

end Router

end Built

end HushWire

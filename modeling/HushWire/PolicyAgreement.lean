import HushWire.PlanRouting
import HushWire.RouteAgreement

namespace HushWire.PacketTunnel

/-!
# The router and the packet tunnel

`visitRoutes` is the metadata that the core hands over for its routes.  A plan
made from it decides over all prefixes together, whereas the router compares a
route with the exclusions of its own peer only.  A policy with exclusions is
meant to be planned for a single peer; what it checks is that the names of the
peers are canonically equivalent.
-/

/-- `endpoint_to_ffi`; a scope identifier is not modelled. -/
def endpointToFfi (endpoint : SocketAddr) : Endpoint :=
  match endpoint.ip with
  | .v4 address =>
      { family := 4
        addressBytes := address.octets ++ Vector.replicate 12 (0 : UInt8)
        port := endpoint.port
        scopeID := 0 }
  | .v6 address =>
      { family := 6
        addressBytes :=
          Vector.ofFn fun index : Fin 16 =>
            .ofBitVec (address.extractLsb' (120 - 8 * index) 8)
        port := endpoint.port
        scopeID := 0 }

/-- The metadata of one prefix of a peer. -/
def visitRoute
    (routeKind : MetadataKind)
    (net : Ipv4Net)
    (peer : Peer) :
    RouteMetadata where
  peerName := peer.name
  networkBytes := net.network.octets
  prefixLength := .ofNat net.prefixLen.val
  routeKind
  configuredEndpoint := peer.configuredEndpoint.text
  endpoint := endpointToFfi peer.endpoint
  persistentKeepalive := peer.persistentKeepalive
  udpRebindAfter := peer.udpRebindAfter
  sessionTimeout := peer.sessionTimeout

/-- The routes of the router, then its exclusions. -/
def visitRoutes (router : Router) : List RouteMetadata :=
  router.routes.map (fun route => visitRoute .included route.net route.peer) ++
    router.excludedRoutes.map fun route =>
      visitRoute .excluded route.net route.peer

/-- A prefix as the packet tunnel writes it. -/
def netSpec (net : Ipv4Net) : IPv4RouteSpec where
  network := net.network.text
  prefixLength := .ofNat net.prefixLen.val

section Metadata

variable {foundation : Foundation}

theorem netSpec_prefixLength (net : Ipv4Net) :
    (netSpec net).prefixLength.toNat = net.prefixLen.val := by
  have small : net.prefixLen.val < 256 :=
    Nat.lt_of_lt_of_le net.prefixLen.isLt (by decide)
  exact UInt8.toNat_ofNat_of_lt' small

theorem visitRoute_spec
    (routeKind : MetadataKind)
    (net : Ipv4Net)
    (peer : Peer) :
    (visitRoute routeKind net peer).spec = netSpec net := by
  have allBytes :
      net.network.octets.toList.take 4 = net.network.octets.toList :=
    List.take_of_length_le (by simp)
  simp [RouteMetadata.spec, RouteMetadata.network, visitRoute, netSpec,
    Ipv4Addr.text, allBytes]

/-- A network has the leading bits of its prefix. -/
theorem network_ushiftRight (net : Ipv4Net) :
    net.network >>> (32 - net.prefixLen.val) =
      net.address >>> (32 - net.prefixLen.val) := by
  unfold Ipv4Net.network
  apply BitVec.eq_of_getLsbD_eq
  intro index bound
  simp only [BitVec.getLsbD_ushiftRight, BitVec.getLsbD_shiftLeft]
  by_cases inside : 32 - net.prefixLen.val + index < 32
  · simp [inside]
  · rw [BitVec.getLsbD_of_ge _ (32 - net.prefixLen.val + index)
      (Nat.le_of_not_lt inside)]
    simp [inside]

/-- The written prefix contains what the prefix contains. -/
theorem contains_netSpec
    (lawful : foundation.Lawful)
    (net : Ipv4Net)
    (address : Ipv4Addr) :
    (netSpec net).contains foundation address.text =
      net.contains address := by
  have valid : (netSpec net).prefixLength ≤ 32 := by
    rw [UInt8.le_iff_toNat_le, netSpec_prefixLength]
    exact Nat.le_of_lt_succ net.prefixLen.isLt
  have parsedNetwork :
      foundation.ipv4Address (netSpec net).network = some net.network :=
    lawful.ipv4Address_text net.network
  rw [Bool.eq_iff_iff,
    IPv4RouteSpec.contains_iff parsedNetwork
      (lawful.ipv4Address_text address),
    netSpec_prefixLength, network_ushiftRight]
  simp [Ipv4Net.contains, valid, eq_comm]

/-- Written prefixes decide as the prefixes do. -/
theorem admits_netSpec
    (lawful : foundation.Lawful)
    {permitted forbidden : List Ipv4Net}
    {address : Ipv4Addr} :
    Admits foundation (permitted.map netSpec) (forbidden.map netSpec)
        address.text ↔
      Ipv4Net.Admits permitted forbidden address := by
  simp [LongestMatch.Admits, contains_netSpec lawful, netSpec_prefixLength]

end Metadata

/-- An endpoint of the IPv4 family has the address that was handed over. -/
theorem ip_of_endpointToFfi
    {endpoint : SocketAddr}
    (isIpv4 : (endpointToFfi endpoint).family = 4) :
    endpoint.ip = .v4 (endpointToFfi endpoint).ipv4 := by
  unfold endpointToFfi at isIpv4 ⊢
  cases address : endpoint.ip with
  | v4 bits =>
      simp only [Endpoint.ipv4]
      exact congrArg IpAddr.v4 (Ipv4Addr.ofOctets_octets bits).symm
  | v6 bits =>
      rw [address] at isIpv4
      exact absurd isIpv4 (by decide : ¬ (6 : UInt8) = 4)

section Agreement

variable
  {foundation : Foundation}
  {decodeBase64 : String → Option Bytes}
  {toSocketAddrs : String → UInt16 → Except String (List SocketAddr)}
  {config : Config}
  {router : Router}
  {interface : InterfaceMetadata}
  {networkPolicy : NetworkPolicy foundation}
  {result : ConfigurationPlan}

theorem filter_included_visitRoutes :
    (visitRoutes router).filter
        (fun route => route.routeKind = .included) =
      router.routes.map fun route =>
        visitRoute .included route.net route.peer := by
  simp [visitRoutes, visitRoute, List.filter_map, Function.comp_def]

theorem filter_excluded_visitRoutes :
    (visitRoutes router).filter
        (fun route => route.routeKind = .excluded) =
      router.excludedRoutes.map fun route =>
        visitRoute .excluded route.net route.peer := by
  simp [visitRoutes, visitRoute, List.filter_map, Function.comp_def]

theorem map_spec_included :
    ((visitRoutes router).filter
        fun route => route.routeKind = .included).map RouteMetadata.spec =
      router.allowedNets.map netSpec := by
  rw [filter_included_visitRoutes, Router.allowedNets, List.map_map,
    List.map_map]
  exact List.map_congr_left fun route _ => visitRoute_spec _ _ _

theorem map_spec_excluded :
    ((visitRoutes router).filter
        fun route => route.routeKind = .excluded).map RouteMetadata.spec =
      router.excludedNets.map netSpec := by
  rw [filter_excluded_visitRoutes, Router.excludedNets, List.map_map,
    List.map_map]
  exact List.map_congr_left fun route _ => visitRoute_spec _ _ _

/-- The exclusions that the core hands over are specific. -/
theorem visitRoutes_specific
    (valid : config.Valid decodeBase64)
    (ofConfig : router.Of decodeBase64 toSocketAddrs config) :
    ∀ route ∈ visitRoutes router, route.routeKind = .excluded →
      route.prefixLength ≠ 0 := by
  intro route member isExcluded isDefault
  have filtered :
      route.spec ∈
        ((visitRoutes router).filter
          fun route => route.routeKind = .excluded).map RouteMetadata.spec :=
    List.mem_map_of_mem
      (List.mem_filter.mpr ⟨member, decide_eq_true isExcluded⟩)
  rw [map_spec_excluded] at filtered
  obtain ⟨net, netMember, same⟩ := List.mem_map.mp filtered
  obtain ⟨peerConfig, configured, excluded⟩ :=
    ofConfig.mem_excludedNets.mp netMember
  have zeroLength : net.prefixLen.val = 0 := by
    rw [← netSpec_prefixLength, same]
    exact congrArg UInt8.toNat isDefault
  exact (valid.peers peerConfig configured).notDefault net excluded
    (Fin.ext zeroLength)

/-- A plan decides over the prefixes of all peers together. -/
theorem plan_admits_iff
    (lawful : foundation.Lawful)
    (planned :
      plan foundation interface (visitRoutes router) networkPolicy =
        .ok result)
    {destination : Ipv4Addr}
    (notEndpoint :
      ∀ route ∈ router.routes, route.peer.endpoint.ip ≠ .v4 destination) :
    Admits foundation result.includedRoutes result.excludedRoutes
        destination.text ↔
      Ipv4Net.Admits router.allowedNets router.excludedNets destination := by
  rw [← admits_netSpec lawful]
  rcases planRoutes_ok (plan_ok planned) with
    ⟨_, hostsOnly⟩ | ⟨_, _, endpoint, isIpv4, sameEndpoint, protects⟩
  · have allIncluded :
        (visitRoutes router).filter
            (fun route => route.routeKind = .included) =
          visitRoutes router :=
      List.filter_eq_self.mpr fun route member =>
        decide_eq_true (hostsOnly.allIncluded route member)
    have noneExcluded :
        (visitRoutes router).filter
            (fun route => route.routeKind = .excluded) = [] := by
      refine List.filter_eq_nil_iff.mpr fun route member => ?_
      rw [hostsOnly.allIncluded route member]
      decide
    rw [hostsOnly.included, hostsOnly.excluded, ← map_spec_included,
      ← map_spec_excluded, allIncluded, noneExcluded, List.map_nil]
  · have included := protects.included.trans map_spec_included
    have excluded := protects.excluded
    rw [map_spec_excluded] at excluded
    rw [included] at excluded ⊢
    by_cases captured :
        Admits foundation (router.allowedNets.map netSpec)
          (router.excludedNets.map netSpec) (endpoint.host foundation)
    · have sameExclusions (route : IPv4RouteSpec) :
          route ∈ result.excludedRoutes ↔
            route ∈ router.excludedNets.map netSpec ++
              [⟨endpoint.host foundation, 32⟩] := by
        simp only [excluded, captured, true_and, List.mem_append,
          List.mem_singleton]
      refine (LongestMatch.admits_congr (fun _ => Iff.rfl)
        sameExclusions).trans
          (LongestMatch.admits_append_of_not_covered ?_)
      intro route isException
      rw [List.mem_singleton.mp isException, ← Bool.not_eq_true,
        IPv4RouteSpec.contains_iff (lawful.ipv4Address_host isIpv4)
          (lawful.ipv4Address_text destination)]
      rintro ⟨_, sameBits⟩
      have isDestination : endpoint.ipv4 = destination := by
        simpa using sameBits
      -- a captured endpoint is the endpoint of some route
      obtain ⟨_, isSpec, _, _⟩ := captured
      obtain ⟨net, isAllowed, rfl⟩ := List.mem_map.mp isSpec
      obtain ⟨route, isRoute, rfl⟩ := List.mem_map.mp isAllowed
      have handedOver : endpointToFfi route.peer.endpoint = endpoint :=
        sameEndpoint (visitRoute .included route.net route.peer)
          (List.mem_append_left _ (List.mem_map_of_mem isRoute))
      refine notEndpoint route isRoute ?_
      rw [ip_of_endpointToFfi (handedOver ▸ isIpv4), handedOver,
        isDestination]
    · have sameExclusions (route : IPv4RouteSpec) :
          route ∈ result.excludedRoutes ↔
            route ∈ router.excludedNets.map netSpec := by
        simp only [excluded, captured, false_and, or_false]
      exact LongestMatch.admits_congr (fun _ => Iff.rfl) sameExclusions

/-- The decision over the routes that a plan renders. -/
theorem isRoutedToTunnel_rendered
    (lawful : foundation.Lawful)
    (valid : config.Valid decodeBase64)
    (ofConfig : router.Of decodeBase64 toSocketAddrs config)
    (planned :
      plan foundation interface (visitRoutes router) networkPolicy =
        .ok result)
    (destination : Ipv4Addr) :
    isRoutedToTunnel foundation destination.text
        (result.packetTunnelIncludedRoutes foundation)
        result.excludedRoutes =
      isRoutedToTunnel foundation destination.text result.includedRoutes
        result.excludedRoutes := by
  have specific := visitRoutes_specific valid ofConfig
  have parsed := lawful.ipv4Address_text destination
  rw [Bool.eq_iff_iff, isRoutedToTunnel_iff, isRoutedToTunnel_iff,
    ConfigurationPlan.packetTunnelIncludedRoutes]
  rcases planRoutes_ok (plan_ok planned) with
    ⟨_, hostsOnly⟩ | ⟨_, _, endpoint, _, _, protects⟩
  · exact admits_rendered lawful parsed
      (includedRoutes_parsed lawful hostsOnly.included)
      (by simp [hostsOnly.excluded])
  · exact admits_rendered lawful parsed
      (includedRoutes_parsed lawful protects.included)
      (protects.specific fun route member =>
        specific route (List.mem_filter.mp member).1
          (of_decide_eq_true (List.mem_filter.mp member).2))

/-- Names that were counted as one are canonically equivalent. -/
theorem equal_of_length_eraseDupsBy
    {names : List String}
    (single : (names.eraseDupsBy foundation.equal).length = 1)
    {first second : String}
    (firstMember : first ∈ names)
    (secondMember : second ∈ names) :
    foundation.equal first second = true := by
  cases names with
  | nil =>
      cases firstMember
  | cons name rest =>
      rw [List.eraseDupsBy_cons, List.length_cons] at single
      have noOther :
          (rest.filter fun other => foundation.equal other name = false) =
            [] := by
        cases others :
            rest.filter fun other => foundation.equal other name = false with
        | nil => rfl
        | cons other _ =>
            rw [others, List.eraseDupsBy_cons] at single
            cases single
      have sameForm {other : String} (member : other ∈ name :: rest) :
          foundation.canonicalForm other = foundation.canonicalForm name := by
        rcases List.mem_cons.mp member with rfl | later
        · rfl
        · by_contra differs
          exact List.filter_eq_nil_iff.mp noOther other later
            (decide_eq_true (decide_eq_false differs))
      exact decide_eq_true
        ((sameForm firstMember).trans (sameForm secondMember).symm)

/--
Exclusions stay local in an accepted plan unless two peers have different
names that are canonically equivalent.
-/
theorem exclusionsStayLocal_of_names
    (ofConfig : router.Of decodeBase64 toSocketAddrs config)
    (planned :
      plan foundation interface (visitRoutes router) networkPolicy =
        .ok result)
    (names :
      ∀ first ∈ config.peer, ∀ second ∈ config.peer,
        foundation.equal first.name second.name = true →
        first.name = second.name)
    (destination : Ipv4Addr) :
    config.ExclusionsStayLocal destination := by
  intro excluding configured exclusion isExclusion _ _ other
    otherConfigured otherName allowed isAllowed _
  obtain ⟨peer, made⟩ := ofConfig.peers excluding configured
  obtain ⟨otherPeer, otherMade⟩ := ofConfig.peers other otherConfigured
  have excludedRoute :
      visitRoute .excluded exclusion peer ∈ visitRoutes router :=
    List.mem_append_right _ (List.mem_map.mpr
      ⟨⟨exclusion, peer⟩,
        (ofConfig.excludedRoutes _).mpr
          ⟨excluding, configured, made, isExclusion⟩, rfl⟩)
  have allowedRoute :
      visitRoute .included allowed otherPeer ∈ visitRoutes router :=
    List.mem_append_left _ (List.mem_map.mpr
      ⟨⟨allowed, otherPeer⟩,
        (ofConfig.routes _).mpr
          ⟨other, otherConfigured, otherMade, isAllowed⟩, rfl⟩)
  rcases planRoutes_ok (plan_ok planned) with
    ⟨_, hostsOnly⟩ | ⟨_, single, _⟩
  · cases hostsOnly.allIncluded _ excludedRoute
  · have sameName : foundation.equal otherPeer.name peer.name = true :=
      equal_of_length_eraseDupsBy single
        (List.mem_map.mpr ⟨_, allowedRoute, rfl⟩)
        (List.mem_map.mpr ⟨_, excludedRoute, rfl⟩)
    obtain ⟨_, _, _, _, _, isPeer⟩ := peerFromConfig_ok made
    obtain ⟨_, _, _, _, _, isOtherPeer⟩ := peerFromConfig_ok otherMade
    rw [isPeer, isOtherPeer] at sameName
    exact absurd (names other otherConfigured excluding configured sameName)
      otherName

/--
For a destination that is no endpoint, the rendered routes of an accepted plan
select the tunnel exactly when the router has a route, where exclusions stay
local, and only there; splitting the default route changes no decision.
-/
theorem plan_agrees_with_router_iff
    (lawful : foundation.Lawful)
    (accepted : config.validate decodeBase64 = .ok ())
    (built : Router.new decodeBase64 toSocketAddrs config = .ok router)
    (planned :
      plan foundation interface (visitRoutes router) networkPolicy =
        .ok result)
    (destination : Ipv4Addr)
    (notEndpoint :
      ∀ route ∈ router.routes, route.peer.endpoint.ip ≠ .v4 destination) :
    (((router.lookup destination).isSome ↔
        isRoutedToTunnel foundation destination.text
            (result.packetTunnelIncludedRoutes foundation)
            result.excludedRoutes = true) ∧
      ∀ address : Ipv4Addr,
        isRoutedToTunnel foundation address.text
            (result.packetTunnelIncludedRoutes foundation)
            result.excludedRoutes =
          isRoutedToTunnel foundation address.text result.includedRoutes
            result.excludedRoutes) ↔
      config.ExclusionsStayLocal destination := by
  have valid := Config.validate_ok accepted
  have ofConfig := Router.new_ok built
  have rendered :=
    isRoutedToTunnel_rendered lawful valid ofConfig planned
  rw [and_iff_left rendered, rendered, isRoutedToTunnel_iff,
    plan_admits_iff lawful planned notEndpoint]
  exact Iff.trans ⟨Iff.symm, Iff.symm⟩
    (valid.admits_iff_lookup_iff ofConfig destination)

end Agreement

namespace TwoNamesExample

open PlainFoundation (foundation)

/-- The name is one composed character. -/
def lan : PeerConfig where
  __ := RouteExample.lan
  name := "\u00e9"

/-- The name is the same character, decomposed. -/
def exit : PeerConfig where
  __ := RouteExample.exit
  name := "e\u0301"
  endpoint := RouteExample.lan.endpoint

def config : Config where
  __ := RouteExample.config
  peer := [lan, exit]

def router : Router :=
  (Router.new RouteExample.decodeBase64 RouteExample.toSocketAddrs
    config).toOption.getD ⟨[], []⟩

def networkPolicy : NetworkPolicy foundation where
  routePolicy := .fullTunnel
  dnsServers := []
  normalized := rfl
  count := by decide
  hostRoutes := fun _ => rfl
  checked := rfl

def result : ConfigurationPlan :=
  (plan foundation PlanExample.interface (visitRoutes router)
    networkPolicy).toOption.getD PlanExample.result

theorem accepted :
    config.validate RouteExample.decodeBase64 = .ok () ∧
      Router.new RouteExample.decodeBase64 RouteExample.toSocketAddrs config =
        .ok router ∧
      plan foundation PlanExample.interface (visitRoutes router)
          networkPolicy =
        .ok result :=
  ⟨by decide +kernel, by decide +kernel, by decide +kernel⟩

end TwoNamesExample

/-- Where the two agree although there are two peers: 8.8.8.8. -/
theorem plan_agrees_with_router_iff_example :
    (((TwoNamesExample.router.lookup 0x08080808).isSome ↔
        isRoutedToTunnel PlainFoundation.foundation
            (Ipv4Addr.text 0x08080808)
            (TwoNamesExample.result.packetTunnelIncludedRoutes
              PlainFoundation.foundation)
            TwoNamesExample.result.excludedRoutes = true) ∧
      ∀ address : Ipv4Addr,
        isRoutedToTunnel PlainFoundation.foundation address.text
            (TwoNamesExample.result.packetTunnelIncludedRoutes
              PlainFoundation.foundation)
            TwoNamesExample.result.excludedRoutes =
          isRoutedToTunnel PlainFoundation.foundation address.text
            TwoNamesExample.result.includedRoutes
            TwoNamesExample.result.excludedRoutes) ↔
      TwoNamesExample.config.ExclusionsStayLocal 0x08080808 :=
  plan_agrees_with_router_iff PlainFoundation.foundation_lawful
    TwoNamesExample.accepted.1 TwoNamesExample.accepted.2.1
    TwoNamesExample.accepted.2.2 0x08080808 (by decide +kernel)

/--
Two peers whose names are canonically equivalent pass for one: the router
sends 10.1.2.3 to the second, and the packet tunnel keeps it out for the
first.
-/
theorem plan_agrees_with_router_counterexample :
    TwoNamesExample.config.validate RouteExample.decodeBase64 = .ok () ∧
      Router.new RouteExample.decodeBase64 RouteExample.toSocketAddrs
          TwoNamesExample.config = .ok TwoNamesExample.router ∧
      plan PlainFoundation.foundation PlanExample.interface
          (visitRoutes TwoNamesExample.router)
          TwoNamesExample.networkPolicy = .ok TwoNamesExample.result ∧
      (∀ route ∈ TwoNamesExample.router.routes,
        route.peer.endpoint.ip ≠ .v4 0x0a010203) ∧
      (TwoNamesExample.router.lookup 0x0a010203).isSome ∧
      isRoutedToTunnel PlainFoundation.foundation (Ipv4Addr.text 0x0a010203)
          (TwoNamesExample.result.packetTunnelIncludedRoutes
            PlainFoundation.foundation)
          TwoNamesExample.result.excludedRoutes = false :=
  ⟨TwoNamesExample.accepted.1, TwoNamesExample.accepted.2.1,
    TwoNamesExample.accepted.2.2, by decide +kernel, by decide +kernel,
    by decide +kernel⟩

end HushWire.PacketTunnel

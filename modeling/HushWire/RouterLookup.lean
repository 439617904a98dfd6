import HushWire.RouteAgreement

namespace HushWire

/-!
# What a lookup finds

The routes are searched from the longest prefix on, and a route is passed over
when its own peer excludes the destination by a prefix that is not shorter.
So the first route that is not passed over is one of the longest of all such
routes.  The peers of endpoint exceptions are one for each address that is
routed and is the endpoint of a peer.
-/

/-- A peer that is made from the configuration of one. -/
def Config.HasPeer
    (decodeBase64 : String → Option Bytes)
    (toSocketAddrs : String → UInt16 → Except String (List SocketAddr))
    (config : Config)
    (peer : Peer) :
    Prop :=
  ∃ peerConfig ∈ config.peer,
    peerFromConfig decodeBase64 toSocketAddrs peerConfig
      config.interface.transport = .ok peer

/-- A prefix that the configuration of a peer allows it. -/
def Config.Allows
    (decodeBase64 : String → Option Bytes)
    (toSocketAddrs : String → UInt16 → Except String (List SocketAddr))
    (config : Config)
    (net : Ipv4Net)
    (peer : Peer) :
    Prop :=
  ∃ peerConfig ∈ config.peer,
    peerFromConfig decodeBase64 toSocketAddrs peerConfig
        config.interface.transport = .ok peer ∧
      net ∈ peerConfig.allowedIps

/-- A prefix that the configuration of a peer excludes from it. -/
def Config.Excludes
    (decodeBase64 : String → Option Bytes)
    (toSocketAddrs : String → UInt16 → Except String (List SocketAddr))
    (config : Config)
    (net : Ipv4Net)
    (peer : Peer) :
    Prop :=
  ∃ peerConfig ∈ config.peer,
    peerFromConfig decodeBase64 toSocketAddrs peerConfig
        config.interface.transport = .ok peer ∧
      net ∈ peerConfig.excludedIps

/--
A configuration routes a destination by a prefix to a peer: it allows the peer
this prefix, which covers the destination and is longer than every prefix that
the same peer excludes and that covers it too.
-/
def Config.Routes
    (decodeBase64 : String → Option Bytes)
    (toSocketAddrs : String → UInt16 → Except String (List SocketAddr))
    (config : Config)
    (destination : Ipv4Addr)
    (net : Ipv4Net)
    (peer : Peer) :
    Prop :=
  ∃ peerConfig ∈ config.peer,
    peerFromConfig decodeBase64 toSocketAddrs peerConfig
        config.interface.transport = .ok peer ∧
      net ∈ peerConfig.allowedIps ∧
      net.contains destination = true ∧
      ∀ excluded ∈ peerConfig.excludedIps,
        excluded.contains destination = true →
        excluded.prefixLen.val < net.prefixLen.val

namespace Router

variable
  {decodeBase64 : String → Option Bytes}
  {toSocketAddrs : String → UInt16 → Except String (List SocketAddr)}
  {config : Config}
  {router : Router}

/-- The eligible routes of a router are those of its configuration. -/
theorem routes_iff
    (built : Router.new decodeBase64 toSocketAddrs config = .ok router)
    (destination : Ipv4Addr)
    (route : Route) :
    route ∈ router.routes ∧ route.Eligible destination ↔
      config.Routes decodeBase64 toSocketAddrs destination route.net
        route.peer := by
  rw [(new_ok built).routes route]
  constructor
  · rintro ⟨⟨peerConfig, configured, made, isAllowed⟩, covers, longer⟩
    obtain ⟨_, _, _, _, _, isPeer⟩ := peerFromConfig_ok made
    rw [isPeer] at longer
    exact ⟨peerConfig, configured, made, isAllowed, covers, longer⟩
  · rintro ⟨peerConfig, configured, made, isAllowed, covers, longer⟩
    refine ⟨⟨peerConfig, configured, made, isAllowed⟩, covers, ?_⟩
    obtain ⟨_, _, _, _, _, isPeer⟩ := peerFromConfig_ok made
    rw [isPeer]
    exact longer

/-- The routes of a router are sorted, the longest first. -/
theorem new_sorted
    (built : Router.new decodeBase64 toSocketAddrs config = .ok router) :
    router.routes.Pairwise fun first second =>
      second.net.prefixLen ≤ first.net.prefixLen := by
  simp only [Router.new, Checked.bind_eq_ok] at built
  obtain ⟨⟨routes, excludedRoutes⟩, _, isRouter⟩ := built
  cases isRouter
  let longerFirst : Route → Route → Prop := fun first second =>
    second.net.prefixLen ≤ first.net.prefixLen
  have total : Std.Total longerFirst :=
    ⟨fun first second => le_total second.net.prefixLen first.net.prefixLen⟩
  have transitive : IsTrans Route longerFirst :=
    ⟨fun _ _ _ first second => second.trans first⟩
  exact List.pairwise_insertionSort longerFirst routes

/-- Nothing is found exactly where no route is eligible. -/
theorem lookup_eq_none_iff (destination : Ipv4Addr) :
    router.lookup destination = none ↔
      ∀ route ∈ router.routes, ¬ route.Eligible destination := by
  rw [Router.lookup, List.find?_eq_none]
  refine forall₂_congr fun route _ => not_congr ?_
  exact lookup_predicate_iff route destination

/-- What is found is eligible, and no eligible route is longer. -/
theorem eligible_of_lookup
    (built : Router.new decodeBase64 toSocketAddrs config = .ok router)
    {destination : Ipv4Addr}
    {route : Route}
    (found : router.lookup destination = some route) :
    route ∈ router.routes ∧
      route.Eligible destination ∧
      ∀ other ∈ router.routes,
        other.Eligible destination →
        other.net.prefixLen ≤ route.net.prefixLen := by
  obtain ⟨chosen, shorter, longer, isRoutes, passedOver⟩ :=
    List.find?_eq_some_iff_append.mp found
  have sorted := new_sorted built
  rw [isRoutes] at sorted ⊢
  refine ⟨by simp, (lookup_predicate_iff route destination).mp chosen, ?_⟩
  intro other member eligible
  rcases List.mem_append.mp member with before | after
  · have skipped := passedOver other before
    rw [Bool.not_eq_true'] at skipped
    exact absurd ((lookup_predicate_iff other destination).mpr eligible)
      (Bool.eq_false_iff.mp skipped)
  · rcases List.mem_cons.mp after with rfl | later
    · exact le_refl _
    · exact (List.pairwise_cons.mp (List.pairwise_append.mp sorted).2.1).1
        other later

/-- An endpoint that is routed itself. -/
structure CapturedEndpoint
    (router : Router)
    (peer : Peer)
    (address : Ipv4Addr) :
    Prop where
  endpoint : peer.endpoint.ip = .v4 address
  hasPort : peer.endpoint.port ≠ 0
  specified : address ≠ 0
  routed : (router.lookup address).isSome

/-- The peers that are listed have captured endpoints that were not seen. -/
theorem capturedEndpoint_of_mem
    {peer : Peer}
    {routes : List Route}
    {seen : List IpAddr}
    (member : peer ∈ router.endpointExceptionPeersFrom seen routes) :
    peer.endpoint.ip ∉ seen ∧
      (∃ route ∈ routes, route.peer = peer) ∧
      ∃ address, router.CapturedEndpoint peer address := by
  induction routes generalizing seen with
  | nil =>
      cases member
  | cons first rest inductionHypothesis =>
      have weaken
          {earlier : List IpAddr}
          (notEarlier : ∀ ip ∈ seen, ip ∈ earlier)
          (later : peer ∈ router.endpointExceptionPeersFrom earlier rest) :
          peer.endpoint.ip ∉ seen ∧
            (∃ route ∈ first :: rest, route.peer = peer) ∧
            ∃ address, router.CapturedEndpoint peer address := by
        obtain ⟨unseen, ⟨route, isRoute, isPeer⟩, captured⟩ :=
          inductionHypothesis later
        exact ⟨fun inSeen => unseen (notEarlier _ inSeen),
          ⟨route, List.mem_cons_of_mem _ isRoute, isPeer⟩, captured⟩
      unfold endpointExceptionPeersFrom at member
      split at member
      · exact weaken (fun _ same => same) member
      · rename_i endpointIp isV4
        split at member
        · exact weaken (fun _ same => same) member
        · rename_i usable
          rw [not_or] at usable
          split at member
          · rename_i captured
            rcases List.mem_cons.mp member with rfl | later
            · rw [isV4]
              exact ⟨captured.2, ⟨first, List.mem_cons_self, rfl⟩,
                endpointIp, isV4, usable.1, usable.2, captured.1⟩
            · exact weaken (fun _ => List.mem_cons_of_mem _) later
          · exact weaken (fun _ same => same) member

/-- No address is listed twice. -/
theorem endpointExceptionPeersFrom_nodup
    (router : Router)
    (seen : List IpAddr)
    (routes : List Route) :
    ((router.endpointExceptionPeersFrom seen routes).map
      fun peer => peer.endpoint.ip).Nodup := by
  induction routes generalizing seen with
  | nil =>
      exact List.nodup_nil
  | cons first rest inductionHypothesis =>
      unfold endpointExceptionPeersFrom
      split
      · exact inductionHypothesis seen
      · rename_i endpointIp isV4
        split
        · exact inductionHypothesis seen
        · split
          · refine List.nodup_cons.mpr ⟨?_, inductionHypothesis _⟩
            intro again
            obtain ⟨peer, member, same⟩ := List.mem_map.mp again
            have isAddress : peer.endpoint.ip = .v4 endpointIp :=
              same.trans isV4
            refine (capturedEndpoint_of_mem member).1 ?_
            rw [isAddress]
            exact List.mem_cons_self
          · exact inductionHypothesis seen

/--
The routes and exclusions of a router are those of its configuration; a lookup
is a longest-prefix match over the configuration, in which every peer has
exclusions of its own; and the exception peers are one for each captured
endpoint address.
-/
theorem lookup_is_longest_prefix_match
    (accepted : config.validate decodeBase64 = .ok ())
    (built : Router.new decodeBase64 toSocketAddrs config = .ok router) :
    (∀ net peer,
      (⟨net, peer⟩ ∈ router.routes ↔
          config.Allows decodeBase64 toSocketAddrs net peer) ∧
        (⟨net, peer⟩ ∈ router.excludedRoutes ↔
          config.Excludes decodeBase64 toSocketAddrs net peer)) ∧
      (∀ destination,
        (router.lookup destination = none ↔
            ∀ net peer,
              ¬ config.Routes decodeBase64 toSocketAddrs destination net
                peer) ∧
          ∀ route,
            router.lookup destination = some route →
            route ∈ router.routes ∧
              config.Routes decodeBase64 toSocketAddrs destination route.net
                route.peer ∧
              ∀ net peer,
                config.Routes decodeBase64 toSocketAddrs destination net
                  peer →
                net.prefixLen ≤ route.net.prefixLen) ∧
      (router.endpointExceptionPeers.map
        fun peer => peer.endpoint.ip).Nodup ∧
      (∀ address,
        (∃ peer ∈ router.endpointExceptionPeers,
            peer.endpoint.ip = .v4 address) ↔
          ∃ peer,
            config.HasPeer decodeBase64 toSocketAddrs peer ∧
              router.CapturedEndpoint peer address) ∧
      ∀ peer ∈ router.endpointExceptionPeers,
        config.HasPeer decodeBase64 toSocketAddrs peer ∧
          ∃ address, router.CapturedEndpoint peer address := by
  have ofConfig := new_ok built
  have listed (peer : Peer) (member : peer ∈ router.endpointExceptionPeers) :
      config.HasPeer decodeBase64 toSocketAddrs peer ∧
        ∃ address, router.CapturedEndpoint peer address := by
    obtain ⟨_, ⟨route, isRoute, rfl⟩, captured⟩ :=
      capturedEndpoint_of_mem member
    obtain ⟨peerConfig, configured, made, _⟩ :=
      (ofConfig.routes route).mp isRoute
    exact ⟨⟨peerConfig, configured, made⟩, captured⟩
  refine ⟨fun net peer =>
      ⟨ofConfig.routes ⟨net, peer⟩, ofConfig.excludedRoutes ⟨net, peer⟩⟩,
    fun destination => ⟨?_, ?_⟩,
    router.endpointExceptionPeersFrom_nodup [] router.routes, ?_, listed⟩
  · rw [lookup_eq_none_iff]
    constructor
    · intro noneEligible net peer routes
      obtain ⟨member, eligible⟩ :=
        (routes_iff built destination ⟨net, peer⟩).mpr routes
      exact noneEligible _ member eligible
    · intro noneRoutes route member eligible
      exact
        noneRoutes _ _
          ((routes_iff built destination route).mp ⟨member, eligible⟩)
  · intro route found
    obtain ⟨member, eligible, longest⟩ := eligible_of_lookup built found
    refine ⟨member,
      (routes_iff built destination route).mp ⟨member, eligible⟩, ?_⟩
    intro net peer routes
    obtain ⟨otherMember, otherEligible⟩ :=
      (routes_iff built destination ⟨net, peer⟩).mpr routes
    exact longest ⟨net, peer⟩ otherMember otherEligible
  · intro address
    constructor
    · rintro ⟨peer, member, isAddress⟩
      obtain ⟨configured, found, captured⟩ := listed peer member
      obtain rfl : found = address :=
        IpAddr.v4.inj (captured.endpoint.symm.trans isAddress)
      exact ⟨peer, configured, captured⟩
    · rintro ⟨peer, ⟨peerConfig, configured, made⟩, captured⟩
      have valid := (Config.validate_ok accepted).peers peerConfig configured
      obtain ⟨net, isAllowed⟩ := List.exists_mem_of_ne_nil _ valid.allowedIps
      have isRoute : Route.mk net peer ∈ router.routes :=
        (ofConfig.routes ⟨net, peer⟩).mpr
          ⟨peerConfig, configured, made, isAllowed⟩
      have isEndpoint :
          peer.endpoint = ⟨.v4 address, peer.endpoint.port⟩ := by
        rw [← captured.endpoint]
      obtain ⟨listedPeer, member, isAddress⟩ :=
        List.mem_filterMap.mp
          (mem_endpointExceptions isRoute isEndpoint captured.hasPort
            captured.specified captured.routed)
      refine ⟨listedPeer, member, ?_⟩
      cases isIp : listedPeer.endpoint.ip with
      | v4 found =>
          rw [isIp] at isAddress
          cases isAddress
          rfl
      | v6 found =>
          rw [isIp] at isAddress
          cases isAddress

/-- A router with an exclusion and an endpoint that is itself routed. -/
theorem lookup_is_longest_prefix_match_example :
    ((RouteExample.router.lookup 0x0a010203).map fun route =>
          route.net.prefixLen) = some 0 ∧
      ∀ route,
        RouteExample.router.lookup 0x0a010203 = some route →
        ∀ other ∈ RouteExample.router.routes,
          other.Eligible 0x0a010203 →
          other.net.prefixLen ≤ route.net.prefixLen := by
  have found := lookup_is_longest_prefix_match RouteExample.installed.1
    RouteExample.installed.2.1
  refine ⟨by decide +kernel, ?_⟩
  intro route isRoute other member eligible
  have routes :=
    (routes_iff RouteExample.installed.2.1 0x0a010203 other).mp
      ⟨member, eligible⟩
  exact ((found.2.1 0x0a010203).2 route isRoute).2.2 _ _ routes

end Router

end HushWire

import HushWire.ConfigurationOrder
import HushWire.RouterLookup

namespace HushWire

/-!
# Routing and the order of a configuration

Which prefixes a router has, and which of them carry a destination, does not
depend on the order of a configuration.  The order decides between prefixes of
one length that carry the same destination.  Two peers may have such prefixes,
because the check for repeated prefixes compares host bits that the search
ignores.
-/

open Checked (bind_eq_ok)

/-- What is before the first chosen entry is not chosen. -/
theorem not_chosen_of_before
    {Entry : Type}
    {table : List Entry}
    {chosen : Entry → Bool}
    {earlier found : Entry}
    (distinct : table.Nodup)
    (before : [earlier, found].Sublist table)
    (isFound : table.find? chosen = some found) :
    chosen earlier = false := by
  induction table with
  | nil =>
      cases isFound
  | cons first rest inductionHypothesis =>
      obtain ⟨fresh, restDistinct⟩ := List.nodup_cons.mp distinct
      have inRest : found ∈ rest := by
        cases before with
        | cons _ later => exact later.subset (by simp)
        | cons_cons _ later => exact later.subset (by simp)
      cases isChosen : chosen first with
      | true =>
          rw [List.find?_cons_of_pos isChosen] at isFound
          cases isFound
          exact absurd inRest fresh
      | false =>
          rw [List.find?_cons_of_neg (by simp [isChosen])] at isFound
          cases before with
          | cons _ later => exact inductionHypothesis restDistinct later isFound
          | cons_cons _ _ => exact isChosen

section Building

variable
  (decodeBase64 : String → Option Bytes)
  (toSocketAddrs : String → UInt16 → Except String (List SocketAddr))

/-- The routes of one peer, none where the peer cannot be made. -/
def routesOf
    (transport : TransportConfig)
    (peerConfig : PeerConfig) :
    List Route :=
  match peerFromConfig decodeBase64 toSocketAddrs peerConfig transport with
  | .ok peer => peerConfig.allowedIps.map fun net => ⟨net, peer⟩
  | .error _ => []

/-- Every endpoint is resolved, and no prefix is given twice. -/
structure Config.Installable (config : Config) : Prop where
  resolved :
    ∀ peer ∈ config.peer, ∃ address,
      peer.endpoint.resolve toSocketAddrs = .ok address
  distinct : (config.peer.flatMap PeerConfig.allowedIps).Nodup

end Building

section Built

variable
  {decodeBase64 : String → Option Bytes}
  {toSocketAddrs : String → UInt16 → Except String (List SocketAddr)}
  {transport : TransportConfig}

/-- A valid peer is made where its endpoint is resolved. -/
theorem exists_peerFromConfig_iff
    {peerConfig : PeerConfig}
    (valid : peerConfig.Valid decodeBase64 transport) :
    (∃ peer,
        peerFromConfig decodeBase64 toSocketAddrs peerConfig transport =
          .ok peer) ↔
      ∃ address,
        peerConfig.endpoint.resolve toSocketAddrs = .ok address := by
  constructor
  · rintro ⟨peer, made⟩
    exact ⟨peer.endpoint, (peerFromConfig_ok made).1⟩
  · rintro ⟨address, resolved⟩
    obtain ⟨publicKey, keyDecoded⟩ :=
      Option.isSome_iff_exists.mp valid.publicKey
    obtain ⟨psk, pskDecoded⟩ := Option.isSome_iff_exists.mp valid.psk
    have isEndpoint :
        ((peerConfig.endpoint.resolve toSocketAddrs).mapError fun source =>
            RouterError.endpointResolution peerConfig.name
              peerConfig.endpoint source) =
          .ok address := by
      rw [resolved]
      rfl
    simp only [peerFromConfig, bind_eq_ok, Checked.require_eq_ok]
    exact ⟨_, publicKey, keyDecoded, address, isEndpoint, psk, pskDecoded,
      rfl⟩

theorem routesOf_eq
    {peerConfig : PeerConfig}
    {peer : Peer}
    (made :
      peerFromConfig decodeBase64 toSocketAddrs peerConfig transport =
        .ok peer) :
    routesOf decodeBase64 toSocketAddrs transport peerConfig =
      peerConfig.allowedIps.map fun net => ⟨net, peer⟩ := by
  rw [routesOf, made]

/-- The prefixes of the routes of a peer are its allowed prefixes. -/
theorem routesOf_nets
    {peerConfig : PeerConfig}
    {peer : Peer}
    (made :
      peerFromConfig decodeBase64 toSocketAddrs peerConfig transport =
        .ok peer) :
    (routesOf decodeBase64 toSocketAddrs transport peerConfig).map
        Route.net =
      peerConfig.allowedIps := by
  rw [routesOf_eq made, List.map_map]
  exact List.map_id _

/-- The prefixes of all routes are the allowed prefixes. -/
theorem flatMap_routesOf_nets
    {peers : List PeerConfig}
    (made :
      ∀ peerConfig ∈ peers, ∃ peer,
        peerFromConfig decodeBase64 toSocketAddrs peerConfig transport =
          .ok peer) :
    (peers.flatMap (routesOf decodeBase64 toSocketAddrs transport)).map
        Route.net =
      peers.flatMap PeerConfig.allowedIps := by
  induction peers with
  | nil =>
      rfl
  | cons first rest inductionHypothesis =>
      obtain ⟨⟨peer, isPeer⟩, madeRest⟩ := List.forall_mem_cons.mp made
      rw [List.flatMap_cons, List.map_append, routesOf_nets isPeer,
        inductionHypothesis madeRest, List.flatMap_cons]

/-- New prefixes are added in their order. -/
theorem addRoutes_eq_ok
    {peer : Peer}
    {routes : List Route}
    {nets : List Ipv4Net}
    (distinct : (routes.map Route.net ++ nets).Nodup) :
    addRoutes peer routes nets =
      .ok (routes ++ nets.map fun net => ⟨net, peer⟩) := by
  induction nets generalizing routes with
  | nil =>
      rw [addRoutes, List.map_nil, List.append_nil]
  | cons net rest inductionHypothesis =>
      have fresh : (routes.find? fun route => route.net = net) = none := by
        rw [List.find?_eq_none]
        intro route member isNet
        exact List.disjoint_of_nodup_append distinct
          (List.mem_map.mpr ⟨route, member, of_decide_eq_true isNet⟩)
          List.mem_cons_self
      have extended :
          ((routes ++ [Route.mk net peer]).map Route.net ++ rest).Nodup := by
        rw [List.map_append, List.append_assoc]
        exact distinct
      rw [addRoutes, fresh]
      dsimp only
      rw [inductionHypothesis extended, List.append_assoc, List.map_cons,
        List.singleton_append]

/-- The prefixes of the peers are added in their order. -/
theorem addPeers_eq_ok
    {routes : List Route}
    {excludedRoutes : List ExcludedRoute}
    {peers : List PeerConfig}
    (made :
      ∀ peerConfig ∈ peers, ∃ peer,
        peerFromConfig decodeBase64 toSocketAddrs peerConfig transport =
          .ok peer)
    (distinct :
      (routes.map Route.net ++
        peers.flatMap PeerConfig.allowedIps).Nodup) :
    ∃ excludedRoutes',
      addPeers decodeBase64 toSocketAddrs transport routes excludedRoutes
          peers =
        .ok
          (routes ++
            peers.flatMap (routesOf decodeBase64 toSocketAddrs transport),
            excludedRoutes') := by
  induction peers generalizing routes excludedRoutes with
  | nil =>
      exact ⟨excludedRoutes, by rw [List.flatMap_nil, List.append_nil]; rfl⟩
  | cons first rest inductionHypothesis =>
      obtain ⟨⟨peer, isPeer⟩, madeRest⟩ := List.forall_mem_cons.mp made
      rw [List.flatMap_cons, ← List.append_assoc] at distinct
      have added :
          addRoutes peer routes first.allowedIps =
            .ok
              (routes ++
                routesOf decodeBase64 toSocketAddrs transport first) := by
        rw [routesOf_eq isPeer]
        exact addRoutes_eq_ok distinct.of_append_left
      have extended :
          ((routes ++
                routesOf decodeBase64 toSocketAddrs transport first).map
              Route.net ++
            rest.flatMap PeerConfig.allowedIps).Nodup := by
        rw [List.map_append, routesOf_nets isPeer]
        exact distinct
      obtain ⟨excludedRoutes', addedRest⟩ :=
        inductionHypothesis madeRest extended
      refine ⟨excludedRoutes', ?_⟩
      simp only [addPeers, bind_eq_ok]
      refine ⟨peer, isPeer, _, added, ?_⟩
      rw [List.flatMap_cons, ← List.append_assoc]
      exact addedRest

/-- The routes that were collected are those of the peers, in their order. -/
theorem addPeers_routes
    {routes routes' : List Route}
    {excludedRoutes excludedRoutes' : List ExcludedRoute}
    {peers : List PeerConfig}
    (added :
      addPeers decodeBase64 toSocketAddrs transport routes excludedRoutes
        peers = .ok (routes', excludedRoutes'))
    (distinct : (routes.map Route.net).Nodup) :
    routes' =
      routes ++
        peers.flatMap (routesOf decodeBase64 toSocketAddrs transport) := by
  induction peers generalizing routes excludedRoutes with
  | nil =>
      cases added
      exact (List.append_nil _).symm
  | cons first rest inductionHypothesis =>
      simp only [addPeers, bind_eq_ok] at added
      obtain ⟨peer, isPeer, extended, addedRoutes, addedRest⟩ := added
      obtain ⟨rfl, stillDistinct⟩ := addRoutes_ok addedRoutes distinct
      rw [inductionHypothesis addedRest stillDistinct, List.flatMap_cons,
        routesOf_eq isPeer, List.append_assoc]

namespace Router

variable {config : Config} {router : Router}

/-- The routes are those of the peers, sorted. -/
theorem new_routes
    (built : Router.new decodeBase64 toSocketAddrs config = .ok router) :
    router.routes =
      (config.peer.flatMap
          (routesOf decodeBase64 toSocketAddrs
            config.interface.transport)).insertionSort fun first second =>
        second.net.prefixLen ≤ first.net.prefixLen := by
  simp only [Router.new, bind_eq_ok] at built
  obtain ⟨⟨routes, excludedRoutes⟩, added, isRouter⟩ := built
  cases isRouter
  rw [addPeers_routes added List.nodup_nil, List.nil_append]

/-- A router is made where the endpoints are resolved and no prefix repeated. -/
theorem exists_new_iff (valid : config.Valid decodeBase64) :
    (∃ router,
        Router.new decodeBase64 toSocketAddrs config = .ok router) ↔
      config.Installable toSocketAddrs := by
  constructor
  · rintro ⟨router, built⟩
    have ofConfig := Router.new_ok built
    refine ⟨fun peerConfig member => ?_, ?_⟩
    · obtain ⟨peer, made⟩ := ofConfig.peers peerConfig member
      exact ⟨peer.endpoint, (peerFromConfig_ok made).1⟩
    · rw [← flatMap_routesOf_nets ofConfig.peers]
      have distinct := ofConfig.distinct
      rw [new_routes built] at distinct
      exact
        ((List.perm_insertionSort _ _).map Route.net).nodup_iff.mp distinct
  · intro installable
    have made :
        ∀ peerConfig ∈ config.peer, ∃ peer,
          peerFromConfig decodeBase64 toSocketAddrs peerConfig
            config.interface.transport = .ok peer :=
      fun peerConfig member =>
        (exists_peerFromConfig_iff (valid.peers peerConfig member)).mpr
          (installable.resolved peerConfig member)
    obtain ⟨excludedRoutes, added⟩ :=
      @addPeers_eq_ok _ _ _ [] [] _ made installable.distinct
    simp only [Router.new, bind_eq_ok]
    exact ⟨_, _, added, rfl⟩

end Router

/-- Resolving endpoints and repeating prefixes do not depend on the order. -/
theorem Config.Installable.reordered
    {first second : Config}
    (installable : first.Installable toSocketAddrs)
    (reordered : first.Reordered second) :
    second.Installable toSocketAddrs where
  resolved := fun peer member => by
    obtain ⟨other, isOther, same⟩ := reordered.symm.exists_peer member
    obtain ⟨address, resolved⟩ := installable.resolved other isOther
    exact ⟨address, same.endpoint_eq ▸ resolved⟩
  distinct := reordered.allowedIps_perm.nodup_iff.mp installable.distinct

end Built

/--
An allowed prefix of a peer contains a destination and is longer than every
excluded prefix of the peer that does.
-/
structure PeerConfig.Carries
    (peer : PeerConfig)
    (net : Ipv4Net)
    (destination : Ipv4Addr) :
    Prop where
  allowed : net ∈ peer.allowedIps
  contains : net.contains destination = true
  longer :
    ∀ exclusion ∈ peer.excludedIps,
      exclusion.contains destination = true →
      exclusion.prefixLen.val < net.prefixLen.val

theorem PeerConfig.Carries.reordered
    {first second : PeerConfig}
    {net : Ipv4Net}
    {destination : Ipv4Addr}
    (carries : first.Carries net destination)
    (reordered : first.Reordered second) :
    second.Carries net destination where
  allowed := reordered.allowedIps.mem_iff.mp carries.allowed
  contains := carries.contains
  longer := fun exclusion member =>
    carries.longer exclusion (reordered.excludedIps.mem_iff.mpr member)

/-- A prefix that carries a destination, and none that does is longer. -/
structure Config.LongestCarries
    (config : Config)
    (peer : PeerConfig)
    (net : Ipv4Net)
    (destination : Ipv4Addr) :
    Prop where
  configured : peer ∈ config.peer
  carries : peer.Carries net destination
  longest :
    ∀ other ∈ config.peer, ∀ otherNet,
      other.Carries otherNet destination →
      otherNet.prefixLen ≤ net.prefixLen

/-- Two peers have a longest prefix that carries the destination. -/
def Config.Contested (config : Config) (destination : Ipv4Addr) : Prop :=
  ∃ first second firstNet secondNet,
    config.LongestCarries first firstNet destination ∧
      config.LongestCarries second secondNet destination ∧
      first.name ≠ second.name

theorem Config.LongestCarries.reordered
    {first second : Config}
    {peer : PeerConfig}
    {net : Ipv4Net}
    {destination : Ipv4Addr}
    (longest : first.LongestCarries peer net destination)
    (reordered : first.Reordered second) :
    ∃ other, other.name = peer.name ∧
      second.LongestCarries other net destination := by
  obtain ⟨other, isOther, same⟩ := reordered.exists_peer longest.configured
  refine ⟨other, same.name_eq, isOther, longest.carries.reordered same, ?_⟩
  intro rival isRival rivalNet rivalCarries
  obtain ⟨original, isOriginal, sameRival⟩ :=
    reordered.symm.exists_peer isRival
  exact longest.longest original isOriginal rivalNet
    (rivalCarries.reordered sameRival)

/-- The prefixes of a contested destination are one network. -/
theorem Config.LongestCarries.same_network
    {config : Config}
    {first second : PeerConfig}
    {firstNet secondNet : Ipv4Net}
    {destination : Ipv4Addr}
    (longestFirst : config.LongestCarries first firstNet destination)
    (longestSecond : config.LongestCarries second secondNet destination) :
    firstNet.prefixLen = secondNet.prefixLen ∧
      firstNet.network = secondNet.network := by
  have sameLength : firstNet.prefixLen = secondNet.prefixLen :=
    le_antisymm
      (longestSecond.longest first longestFirst.configured firstNet
        longestFirst.carries)
      (longestFirst.longest second longestSecond.configured secondNet
        longestSecond.carries)
  refine ⟨sameLength, ?_⟩
  have inFirst := of_decide_eq_true longestFirst.carries.contains
  have inSecond := of_decide_eq_true longestSecond.carries.contains
  rw [← sameLength] at inSecond
  rw [Ipv4Net.network, Ipv4Net.network, ← sameLength, ← inFirst, ← inSecond]

/-- Where different peers have different networks, nothing is contested. -/
theorem Config.not_contested
    {config : Config}
    (distinct :
      ∀ first ∈ config.peer, ∀ second ∈ config.peer,
        ∀ firstNet ∈ first.allowedIps, ∀ secondNet ∈ second.allowedIps,
          firstNet.prefixLen = secondNet.prefixLen →
          firstNet.network = secondNet.network →
          first.name = second.name)
    (destination : Ipv4Addr) :
    ¬ config.Contested destination := by
  rintro ⟨first, second, firstNet, secondNet, longestFirst, longestSecond,
    differ⟩
  obtain ⟨sameLength, sameNetwork⟩ := longestFirst.same_network longestSecond
  exact differ
    (distinct first longestFirst.configured second longestSecond.configured
      firstNet longestFirst.carries.allowed secondNet
      longestSecond.carries.allowed sameLength sameNetwork)

section Selection

variable
  {decodeBase64 : String → Option Bytes}
  {toSocketAddrs : String → UInt16 → Except String (List SocketAddr)}
  {config : Config}
  {router : Router}

/-- A route carries what its peer's configuration says. -/
theorem eligible_iff_carries
    {transport : TransportConfig}
    {peerConfig : PeerConfig}
    {route : Route}
    {destination : Ipv4Addr}
    (made :
      peerFromConfig decodeBase64 toSocketAddrs peerConfig transport =
        .ok route.peer)
    (allowed : route.net ∈ peerConfig.allowedIps) :
    route.Eligible destination ↔
      peerConfig.Carries route.net destination := by
  obtain ⟨_, _, _, _, _, isPeer⟩ := peerFromConfig_ok made
  have excluded : route.peer.excludedIps = peerConfig.excludedIps := by
    rw [isPeer]
  rw [Route.Eligible, excluded]
  exact ⟨fun eligible => ⟨allowed, eligible.1, eligible.2⟩,
    fun carries => ⟨carries.contains, carries.longer⟩⟩

/-- A prefix that carries a destination is that of an eligible route. -/
theorem PeerConfig.Carries.exists_route
    {peerConfig : PeerConfig}
    {net : Ipv4Net}
    {destination : Ipv4Addr}
    (built : Router.new decodeBase64 toSocketAddrs config = .ok router)
    (configured : peerConfig ∈ config.peer)
    (carries : peerConfig.Carries net destination) :
    ∃ peer,
      peerFromConfig decodeBase64 toSocketAddrs peerConfig
          config.interface.transport = .ok peer ∧
        ⟨net, peer⟩ ∈ router.routes ∧
        (Route.mk net peer).Eligible destination := by
  have ofConfig := Router.new_ok built
  obtain ⟨peer, made⟩ := ofConfig.peers peerConfig configured
  exact ⟨peer, made,
    (ofConfig.routes ⟨net, peer⟩).mpr
      ⟨peerConfig, configured, made, carries.allowed⟩,
    (eligible_iff_carries made carries.allowed).mpr carries⟩

/-- What is found is a longest prefix that carries the destination. -/
theorem longestCarries_of_lookup
    {destination : Ipv4Addr}
    {route : Route}
    (built : Router.new decodeBase64 toSocketAddrs config = .ok router)
    (found : router.lookup destination = some route) :
    ∃ peerConfig,
      peerConfig.name = route.peer.name ∧
        config.LongestCarries peerConfig route.net destination := by
  obtain ⟨isRoute, eligible, longest⟩ :=
    Router.eligible_of_lookup built found
  obtain ⟨peerConfig, configured, made, allowed⟩ :=
    ((Router.new_ok built).routes route).mp isRoute
  obtain ⟨_, _, _, _, _, isPeer⟩ := peerFromConfig_ok made
  refine ⟨peerConfig, by rw [isPeer], configured,
    (eligible_iff_carries made allowed).mp eligible, ?_⟩
  intro other isOther otherNet otherCarries
  obtain ⟨peer, _, isOtherRoute, otherEligible⟩ :=
    otherCarries.exists_route built isOther
  exact longest _ isOtherRoute otherEligible

/-- Where a prefix carries the destination, something is found. -/
theorem lookup_isSome_of_longestCarries
    {peerConfig : PeerConfig}
    {net : Ipv4Net}
    {destination : Ipv4Addr}
    (built : Router.new decodeBase64 toSocketAddrs config = .ok router)
    (longest : config.LongestCarries peerConfig net destination) :
    ∃ route, router.lookup destination = some route := by
  rw [← Option.ne_none_iff_exists', ne_eq, Router.lookup_eq_none_iff]
  intro noRoute
  obtain ⟨peer, _, isRoute, eligible⟩ :=
    longest.carries.exists_route built longest.configured
  exact noRoute _ isRoute eligible

/-- Of the longest prefixes, one of the first peer's is found. -/
theorem lookup_first_peer
    {first : PeerConfig}
    {rest : List PeerConfig}
    {net : Ipv4Net}
    {destination : Ipv4Addr}
    (built : Router.new decodeBase64 toSocketAddrs config = .ok router)
    (isFirst : config.peer = first :: rest)
    (longest : config.LongestCarries first net destination) :
    (router.lookup destination).map (fun route => route.peer.name) =
      some first.name := by
  obtain ⟨route, found⟩ := lookup_isSome_of_longestCarries built longest
  rw [found, Option.map_some]
  obtain ⟨isRoute, eligible, longestRoute⟩ :=
    Router.eligible_of_lookup built found
  obtain ⟨peer, made, isLeading, leadingEligible⟩ :=
    longest.carries.exists_route built longest.configured
  obtain ⟨_, _, _, _, _, isPeer⟩ := peerFromConfig_ok made
  have routes := Router.new_routes built
  have ofFirst := routesOf_eq made
  rw [isFirst, List.flatMap_cons] at routes
  rw [routes, List.mem_insertionSort, List.mem_append] at isRoute
  rcases isRoute with atFirst | later
  · rw [ofFirst] at atFirst
    obtain ⟨_, _, rfl⟩ := List.mem_map.mp atFirst
    rw [isPeer]
  · -- The leading route is as long, and the sort keeps it before the other.
    exfalso
    let longerFirst : Route → Route → Prop := fun one other =>
      other.net.prefixLen ≤ one.net.prefixLen
    have total : Std.Total longerFirst :=
      ⟨fun one other => le_total other.net.prefixLen one.net.prefixLen⟩
    have transitive : IsTrans Route longerFirst :=
      ⟨fun _ _ _ one other => other.trans one⟩
    obtain ⟨peerConfig, _, longestFound⟩ :=
      longestCarries_of_lookup built found
    have sameLength :=
      (longest.same_network longestFound).1
    have inFirst :
        Route.mk net peer ∈
          routesOf decodeBase64 toSocketAddrs config.interface.transport
            first := by
      rw [ofFirst]
      exact List.mem_map.mpr ⟨net, longest.carries.allowed, rfl⟩
    have before :
        [Route.mk net peer, route].Sublist router.routes := by
      have atLeast : longerFirst ⟨net, peer⟩ route := sameLength.ge
      rw [routes]
      exact List.pair_sublist_insertionSort atLeast
        ((List.singleton_sublist.mpr inFirst).append
          (List.singleton_sublist.mpr later))
    have notChosen :=
      not_chosen_of_before (Router.new_ok built).distinct.of_map before found
    exact absurd
      ((Router.lookup_predicate_iff _ destination).mpr leadingEligible)
      (Bool.eq_false_iff.mp notChosen)

end Selection

section Order

variable
  (decodeBase64 : String → Option Bytes)
  (toSocketAddrs : String → UInt16 → Except String (List SocketAddr))

/--
A router is made from both configurations or from neither, and then both send
every destination to the same peer.
-/
structure Config.SameRouting (first second : Config) : Prop where
  accepted :
    (∃ router, Router.new decodeBase64 toSocketAddrs first = .ok router) ↔
      ∃ router, Router.new decodeBase64 toSocketAddrs second = .ok router
  selected :
    ∀ router router',
      Router.new decodeBase64 toSocketAddrs first = .ok router →
      Router.new decodeBase64 toSocketAddrs second = .ok router' →
      ∀ destination,
        (router.lookup destination).map (fun route => route.peer.name) =
          (router'.lookup destination).map fun route => route.peer.name

end Order

section Independence

variable
  {decodeBase64 : String → Option Bytes}
  {toSocketAddrs : String → UInt16 → Except String (List SocketAddr)}
  {first second : Config}

/-- Both configurations have a router, or neither has one. -/
theorem exists_new_reordered
    (valid : first.Valid decodeBase64)
    (validReordered : second.Valid decodeBase64)
    (reordered : first.Reordered second) :
    (∃ router, Router.new decodeBase64 toSocketAddrs first = .ok router) ↔
      ∃ router,
        Router.new decodeBase64 toSocketAddrs second = .ok router := by
  rw [Router.exists_new_iff valid, Router.exists_new_iff validReordered]
  exact ⟨fun installable => installable.reordered reordered,
    fun installable => installable.reordered reordered.symm⟩

/-- What one router finds has the peer that the other finds. -/
theorem lookup_reordered
    {router router' : Router}
    {destination : Ipv4Addr}
    {route : Route}
    (reordered : first.Reordered second)
    (uncontested : ¬ first.Contested destination)
    (built : Router.new decodeBase64 toSocketAddrs first = .ok router)
    (built' : Router.new decodeBase64 toSocketAddrs second = .ok router')
    (found : router.lookup destination = some route) :
    (router'.lookup destination).map (fun route => route.peer.name) =
      some route.peer.name := by
  obtain ⟨peer, isName, longest⟩ := longestCarries_of_lookup built found
  obtain ⟨other, isOther, longestOther⟩ := longest.reordered reordered
  obtain ⟨route', found'⟩ :=
    lookup_isSome_of_longestCarries built' longestOther
  obtain ⟨peer', isName', longest'⟩ := longestCarries_of_lookup built' found'
  obtain ⟨original, isOriginal, longestOriginal⟩ :=
    longest'.reordered reordered.symm
  rw [found', Option.map_some, ← isName', ← isOriginal, ← isName]
  by_contra differs
  exact uncontested ⟨original, peer, route'.net, route.net, longestOriginal,
    longest, fun same => differs (congrArg some same)⟩

/-- Without contested destinations, the order does not matter. -/
theorem sameRouting_of_uncontested
    (valid : first.Valid decodeBase64)
    (validReordered : second.Valid decodeBase64)
    (reordered : first.Reordered second)
    (uncontested :
      first.Installable toSocketAddrs →
      ∀ destination, ¬ first.Contested destination) :
    first.SameRouting decodeBase64 toSocketAddrs second where
  accepted := exists_new_reordered valid validReordered reordered
  selected := by
    intro router router' built built' destination
    have decided :=
      uncontested ((Router.exists_new_iff valid).mp ⟨router, built⟩)
        destination
    cases found : router.lookup destination with
    | some route =>
        exact (lookup_reordered reordered decided built built' found).symm
    | none =>
        cases found' : router'.lookup destination with
        | none =>
            rfl
        | some route' =>
            obtain ⟨peer, _, longest⟩ :=
              longestCarries_of_lookup built' found'
            obtain ⟨other, _, longestOther⟩ :=
              longest.reordered reordered.symm
            obtain ⟨route, isFound⟩ :=
              lookup_isSome_of_longestCarries built longestOther
            rw [found] at isFound
            cases isFound

/-- Some order of the peers gives a longest prefix's peer the destination. -/
theorem exists_reordered_lookup
    {peer : PeerConfig}
    {net : Ipv4Net}
    {destination : Ipv4Addr}
    (accepted : first.validate decodeBase64 = .ok ())
    (installable : first.Installable toSocketAddrs)
    (longest : first.LongestCarries peer net destination) :
    ∃ second router,
      first.Reordered second ∧
        second.validate decodeBase64 = .ok () ∧
        Router.new decodeBase64 toSocketAddrs second = .ok router ∧
        (router.lookup destination).map (fun route => route.peer.name) =
          some peer.name := by
  obtain ⟨before, after, isPeer⟩ :=
    List.append_of_mem longest.configured
  have reordered := Config.Reordered.moveFront first isPeer
  have acceptedMoved := Config.validate_reordered reordered accepted
  obtain ⟨router, built⟩ :=
    (Router.exists_new_iff (Config.validate_ok acceptedMoved)).mpr
      (installable.reordered reordered)
  have longestMoved :
      Config.LongestCarries
        { first with peer := peer :: (before ++ after) } peer net
        destination := by
    refine ⟨List.mem_cons_self, longest.carries, ?_⟩
    intro other isOther
    refine longest.longest other ?_
    rw [isPeer]
    exact List.perm_middle.mem_iff.mpr isOther
  exact ⟨_, router, reordered, acceptedMoved, built,
    lookup_first_peer built rfl longestMoved⟩

/--
Routing does not depend on the order of an accepted configuration if and only
if no destination is contested, where a router is made from it at all.
-/
theorem routing_order_independent_iff
    {config : Config}
    (accepted : config.validate decodeBase64 = .ok ()) :
    (∀ config', config.Reordered config' →
        config'.validate decodeBase64 = .ok () →
        config.SameRouting decodeBase64 toSocketAddrs config') ↔
      (config.Installable toSocketAddrs →
        ∀ destination, ¬ config.Contested destination) := by
  have valid := Config.validate_ok accepted
  constructor
  · rintro sameRouting installable destination
      ⟨first, second, _, _, longestFirst, longestSecond, differ⟩
    obtain ⟨router, built⟩ := (Router.exists_new_iff valid).mpr installable
    have wins
        {peer : PeerConfig}
        {net : Ipv4Net}
        (longest : config.LongestCarries peer net destination) :
        (router.lookup destination).map (fun route => route.peer.name) =
          some peer.name := by
      obtain ⟨config', router', reordered, accepted', built', isPeer⟩ :=
        exists_reordered_lookup accepted installable longest
      exact ((sameRouting config' reordered accepted').selected router router'
        built built' destination).trans isPeer
    exact differ
      (Option.some.inj ((wins longestFirst).symm.trans (wins longestSecond)))
  · intro uncontested config' reordered accepted'
    exact sameRouting_of_uncontested valid (Config.validate_ok accepted')
      reordered uncontested

end Independence

namespace RouteOrderExample

/-- It carries `10.0.0.1/8`. -/
def first : PeerConfig :=
  { RouteExample.lan with
    allowedIps := [⟨0x0a000001, 8⟩]
    excludedIps := [] }

/-- It carries `10.0.0.2/8`, which is the same network. -/
def second : PeerConfig :=
  { RouteExample.exit with allowedIps := [⟨0x0a000002, 8⟩] }

def config : Config :=
  { RouteExample.config with peer := [first, second] }

def swapped : Config :=
  { RouteExample.config with peer := [second, first] }

/-- The name of the peer that a destination is sent to. -/
def selected (config : Config) (destination : Ipv4Addr) : Option String :=
  (Router.new RouteExample.decodeBase64 RouteExample.toSocketAddrs
      config).toOption.bind fun router =>
    (router.lookup destination).map fun route => route.peer.name

end RouteOrderExample

/-- Peers with different networks may be listed in either order. -/
theorem routing_order_independent_example :
    RouteExample.config.SameRouting RouteExample.decodeBase64
      RouteExample.toSocketAddrs
      { RouteExample.config with
        peer := [RouteExample.exit, RouteExample.lan] } := by
  have isPeer :
      RouteExample.config.peer =
        [RouteExample.lan] ++ RouteExample.exit :: [] :=
    rfl
  have reordered := Config.Reordered.moveFront RouteExample.config isPeer
  have distinct :
      ∀ first ∈ RouteExample.config.peer,
        ∀ second ∈ RouteExample.config.peer,
        ∀ firstNet ∈ first.allowedIps, ∀ secondNet ∈ second.allowedIps,
          firstNet.prefixLen = secondNet.prefixLen →
          firstNet.network = secondNet.network →
          first.name = second.name := by
    decide +kernel
  exact
    (routing_order_independent_iff RouteExample.installed.1).mpr
      (fun _ => Config.not_contested distinct) _ reordered
      (Config.validate_reordered reordered RouteExample.installed.1)

/--
`10.0.0.1/8` and `10.0.0.2/8` are not the same prefix, so both orders are
accepted, and 10.1.2.3 is sent to the peer that is listed first.
-/
theorem routing_order_independent_counterexample :
    RouteOrderExample.config.Reordered RouteOrderExample.swapped ∧
      RouteOrderExample.config.validate RouteExample.decodeBase64 =
        .ok () ∧
      RouteOrderExample.swapped.validate RouteExample.decodeBase64 =
        .ok () ∧
      RouteOrderExample.selected RouteOrderExample.config 0x0a010203 =
        some "lan" ∧
      RouteOrderExample.selected RouteOrderExample.swapped 0x0a010203 =
        some "exit" := by
  have isPeer :
      RouteOrderExample.config.peer =
        [RouteOrderExample.first] ++ RouteOrderExample.second :: [] :=
    rfl
  have reordered :
      RouteOrderExample.config.Reordered RouteOrderExample.swapped :=
    Config.Reordered.moveFront RouteOrderExample.config isPeer
  have accepted :
      RouteOrderExample.config.validate RouteExample.decodeBase64 =
        .ok () := by
    decide +kernel
  exact ⟨reordered, accepted, Config.validate_reordered reordered accepted,
    by decide +kernel, by decide +kernel⟩

end HushWire

import Mathlib.Data.List.Pairwise
import HushWire.HostRoutes

namespace HushWire

/-!
# The router and the host's routes

`Installation.tunnels_iff_admits` reads the routes that a setup installs as
one longest-match decision over all peers, whereas `Router.lookup` compares a
route with the exclusions of its own peer only.  The two agree at a
destination exactly when `Config.ExclusionsStayLocal` holds there.  Whether
they agree or not, no endpoint is routed into the tunnel.
-/

namespace Ipv4Net

/-- Prefixes of one length that share an address are the same. -/
theorem same_of_contains
    {first second : Ipv4Net}
    {address : Ipv4Addr}
    (inFirst : first.contains address = true)
    (inSecond : second.contains address = true)
    (sameLength : first.prefixLen.val = second.prefixLen.val) :
    first.Same second := by
  have firstBits := of_decide_eq_true inFirst
  have secondBits := of_decide_eq_true inSecond
  refine ⟨Fin.ext sameLength, ?_⟩
  rw [network, network, ← firstBits, ← secondBits, sameLength]

@[simp] theorem contains_ofAddr
    (host address : Ipv4Addr) :
    (ofAddr host).contains address = true ↔ address = host := by
  simp [contains, ofAddr]

/-- A default route covers everything. -/
theorem contains_of_prefixLen_zero
    {net : Ipv4Net}
    (isDefault : net.prefixLen = 0)
    (address : Ipv4Addr) :
    net.contains address = true := by
  simp [contains, isDefault, BitVec.ushiftRight_eq_zero]

/-- The routes of a prefix cover what the prefix covers. -/
theorem tunRoutes_coverage
    (net : Ipv4Net)
    (address : Ipv4Addr) :
    (∃ part ∈ net.tunRoutes, part.contains address = true) ↔
      net.contains address = true := by
  unfold tunRoutes
  by_cases isDefault : net.prefixLen = 0
  · have halves :
        (Ipv4Net.mk 0x00000000 1).contains address = true ∨
          (Ipv4Net.mk 0x80000000 1).contains address = true := by
      simp [contains]
      bv_omega
    simp only [isDefault, ↓reduceIte, List.mem_cons, List.not_mem_nil,
      or_false, exists_eq_or_imp, exists_eq_left]
    exact iff_of_true halves (contains_of_prefixLen_zero isDefault address)
  · simp [isDefault]

/-- The routes of a prefix compare with a specific one as the prefix does. -/
theorem tunRoutes_comparison
    {net part exclusion : Ipv4Net}
    (member : part ∈ net.tunRoutes)
    (specific : exclusion.prefixLen ≠ 0) :
    exclusion.prefixLen.val < part.prefixLen.val ↔
      exclusion.prefixLen.val < net.prefixLen.val := by
  have positive : 0 < exclusion.prefixLen.val :=
    Fin.pos_iff_ne_zero.mpr specific
  unfold tunRoutes at member
  by_cases isDefault : net.prefixLen = 0
  · rw [if_pos isDefault] at member
    have halfLength : part.prefixLen = 1 := by
      rcases List.mem_pair.mp member with rfl | rfl <;> rfl
    rw [halfLength, isDefault]
    exact iff_of_false (Nat.not_lt.mpr positive) (Nat.not_lt_zero _)
  · rw [if_neg isDefault] at member
    rw [List.mem_singleton.mp member]

end Ipv4Net

/-- Longest match over prefixes, where a forbidden prefix wins a tie. -/
abbrev Ipv4Net.Admits
    (permitted forbidden : List Ipv4Net)
    (address : Ipv4Addr) :
    Prop :=
  LongestMatch.Admits Ipv4Net.contains (fun net => net.prefixLen.val)
    permitted forbidden address

/-- The host sends a destination into the tunnel. -/
def HostRoute.Tunnels
    (table : List HostRoute)
    (tunName : String)
    (destination : Ipv4Addr) :
    Prop :=
  ∃ entry,
    HostRoute.select table destination = some entry ∧
      entry.device = tunName

namespace Router

/-- The prefixes of the routes. -/
def allowedNets (router : Router) : List Ipv4Net :=
  router.routes.map Route.net

/-- The excluded prefixes of all peers. -/
def excludedNets (router : Router) : List Ipv4Net :=
  router.excludedRoutes.map ExcludedRoute.net

end Router

section Setup

variable {host : Host}

/-- The entries of a kind have the prefixes of the additions of that kind. -/
theorem map_net_filter_of_forall₂
    {entries : List HostRoute}
    {additions : List Addition}
    {tunName : String}
    (each :
      List.Forall₂
        (fun entry addition =>
          entry.net = addition.net ∧
            (entry.device = tunName ↔ addition.isTun = true))
        entries additions)
    (isTun : Bool) :
    (entries.filter fun entry =>
        decide (entry.device = tunName) == isTun).map HostRoute.net =
      (additions.filter fun addition =>
        addition.isTun == isTun).map Addition.net := by
  induction each with
  | nil =>
      rfl
  | @cons entry addition _ _ first _ inductionHypothesis =>
      have sameKind : decide (entry.device = tunName) = addition.isTun := by
        rw [Bool.eq_iff_iff, decide_eq_true_iff, first.2]
      rw [List.filter_cons, List.filter_cons, sameKind]
      by_cases kept : (addition.isTun == isTun) = true
      · rw [if_pos kept, if_pos kept, List.map_cons, List.map_cons, first.1,
          inductionHypothesis]
      · rw [if_neg kept, if_neg kept, inductionHypothesis]

/-- Distinct entries decide as the additions they come from. -/
theorem tunnels_iff_admits_additions
    {table : List HostRoute}
    {additions : List Addition}
    {tunName : String}
    {destination : Ipv4Addr}
    (distinct : HostRoute.Distinct table)
    (each :
      List.Forall₂
        (fun entry addition =>
          entry.net = addition.net ∧
            (entry.device = tunName ↔ addition.isTun = true))
        table additions) :
    HostRoute.Tunnels table tunName destination ↔
      Ipv4Net.Admits
        ((additions.filter fun addition => addition.isTun == true).map
          Addition.net)
        ((additions.filter fun addition => addition.isTun == false).map
          Addition.net)
        destination := by
  have sameEntry
      (first : HostRoute) (firstMember : first ∈ table)
      (second : HostRoute) (secondMember : second ∈ table)
      (inFirst : first.net.contains destination = true)
      (inSecond : second.net.contains destination = true)
      (sameLength :
        first.net.prefixLen.val = second.net.prefixLen.val) :
      decide (first.device = tunName) = decide (second.device = tunName) := by
    by_contra differ
    have apart : first ≠ second := fun same => differ (same ▸ rfl)
    have symmetric :
        Std.Symm fun first second : HostRoute =>
          ¬ first.net.Same second.net :=
      ⟨fun _ _ separate same => separate ⟨same.1.symm, same.2.symm⟩⟩
    exact distinct.forall firstMember secondMember apart
      (Ipv4Net.same_of_contains inFirst inSecond sameLength)
  rw [← map_net_filter_of_forall₂ each, ← map_net_filter_of_forall₂ each,
    Ipv4Net.Admits, LongestMatch.admits_map]
  have decided :
      (∃ entry, HostRoute.select table destination = some entry ∧
        decide (entry.device = tunName) = true) ↔ _ :=
    LongestMatch.select_kind_iff_admits sameEntry
  simpa [HostRoute.Tunnels] using decided

/-- What a setup installs decides over all prefixes together. -/
theorem Installation.tunnels_iff_admits
    {tunName : String}
    {router : Router}
    {state : Installation}
    (lawful : host.Lawful tunName)
    (installed :
      RouteManager.setup host (.new tunName) router = (.ok (), state))
    (destination : Ipv4Addr) :
    HostRoute.Tunnels state.table tunName destination ↔
      Ipv4Net.Admits
        (router.routes.flatMap fun route => route.net.tunRoutes)
        (router.prefixExceptions ++
          router.endpointExceptions.map Ipv4Net.ofAddr)
        destination := by
  have done :
      RouteManager.setupInner host (.new tunName) router.additions =
        (.ok (), state) := by
    unfold RouteManager.setup at installed
    split at installed
    · rename_i done
      exact done.trans (congrArg _ (Prod.ext_iff.mp installed).2)
    · cases (Prod.ext_iff.mp installed).1
  obtain ⟨distinct, entries, table, each⟩ :=
    RouteManager.setupInner_ok lawful done List.Pairwise.nil
  rw [show state.table = entries from table] at distinct ⊢
  refine (tunnels_iff_admits_additions distinct each).trans ?_
  simp [Router.additions, List.filter_map, Function.comp_def,
    Addition.isTun, Addition.net]

end Setup

namespace Router

/-- A routed endpoint was seen or is listed. -/
theorem mem_endpointExceptionPeersFrom
    {router : Router}
    {route : Route}
    {address : Ipv4Addr}
    {port : UInt16}
    {routes : List Route}
    (endpoint : route.peer.endpoint = ⟨.v4 address, port⟩)
    (hasPort : port ≠ 0)
    (specified : address ≠ 0)
    (routed : (router.lookup address).isSome)
    (seen : List IpAddr)
    (member : route ∈ routes) :
    .v4 address ∈ seen ∨
      address ∈
        (router.endpointExceptionPeersFrom seen routes).filterMap
          fun peer => peer.endpoint.ip.toIpv4? := by
  induction routes generalizing seen with
  | nil =>
      cases member
  | cons first rest inductionHypothesis =>
      unfold Router.endpointExceptionPeersFrom
      rcases List.mem_cons.mp member with rfl | later
      · simp only [endpoint, hasPort, specified, or_self, ↓reduceIte, routed,
          true_and]
        by_cases already : IpAddr.v4 address ∈ seen
        · exact .inl already
        · rw [if_pos already]
          exact .inr (by simp [endpoint, IpAddr.toIpv4?])
      · split
        · exact inductionHypothesis seen later
        · rename_i endpointIp isV4
          split
          · exact inductionHypothesis seen later
          · split
            · rcases inductionHypothesis (.v4 endpointIp :: seen) later with
                earlier | found
              · rcases List.mem_cons.mp earlier with same | inSeen
                · right
                  simp [isV4, IpAddr.toIpv4?, IpAddr.v4.inj same]
                · exact .inl inSeen
              · right
                simp only [List.filterMap_cons]
                split
                · exact found
                · exact List.mem_cons_of_mem _ found
            · exact inductionHypothesis seen later

/-- An endpoint that is routed gets an exception. -/
theorem mem_endpointExceptions
    {router : Router}
    {route : Route}
    {address : Ipv4Addr}
    {port : UInt16}
    (member : route ∈ router.routes)
    (endpoint : route.peer.endpoint = ⟨.v4 address, port⟩)
    (hasPort : port ≠ 0)
    (specified : address ≠ 0)
    (routed : (router.lookup address).isSome) :
    address ∈ router.endpointExceptions := by
  rcases mem_endpointExceptionPeersFrom endpoint hasPort specified routed []
    member with earlier | found
  · cases earlier
  · exact found

/-- One decision over all prefixes is stricter than the router. -/
theorem lookup_isSome_of_admits
    {decodeBase64 : String → Option Bytes}
    {toSocketAddrs : String → UInt16 → Except String (List SocketAddr)}
    {config : Config}
    {router : Router}
    {destination : Ipv4Addr}
    (ofConfig : router.Of decodeBase64 toSocketAddrs config)
    (admitted :
      Ipv4Net.Admits router.allowedNets router.excludedNets destination) :
    (router.lookup destination).isSome := by
  obtain ⟨net, member, covered, above⟩ := admitted
  obtain ⟨route, routeMember, rfl⟩ := List.mem_map.mp member
  refine lookup_isSome.mpr ⟨route, routeMember, covered, ?_⟩
  intro exclusion isExcluded excludes
  obtain ⟨peerConfig, configured, made, _⟩ :=
    (ofConfig.routes route).mp routeMember
  have ownExclusions : route.peer.excludedIps = peerConfig.excludedIps := by
    obtain ⟨_, _, _, _, _, isPeer⟩ := peerFromConfig_ok made
    rw [isPeer]
  refine above exclusion (List.mem_map.mpr ⟨⟨exclusion, route.peer⟩, ?_, rfl⟩)
    excludes
  exact (ofConfig.excludedRoutes _).mpr
    ⟨peerConfig, configured, made, ownExclusions ▸ isExcluded⟩

end Router

section Installed

variable
  {decodeBase64 : String → Option Bytes}
  {toSocketAddrs : String → UInt16 → Except String (List SocketAddr)}
  {config : Config}
  {router : Router}

theorem Router.Of.mem_allowedNets
    (ofConfig : router.Of decodeBase64 toSocketAddrs config)
    {net : Ipv4Net} :
    net ∈ router.allowedNets ↔
      ∃ peerConfig ∈ config.peer, net ∈ peerConfig.allowedIps := by
  unfold Router.allowedNets
  rw [List.mem_map]
  constructor
  · rintro ⟨route, member, rfl⟩
    obtain ⟨peerConfig, configured, _, allowed⟩ :=
      (ofConfig.routes route).mp member
    exact ⟨peerConfig, configured, allowed⟩
  · rintro ⟨peerConfig, configured, allowed⟩
    obtain ⟨peer, made⟩ := ofConfig.peers peerConfig configured
    exact ⟨⟨net, peer⟩,
      (ofConfig.routes _).mpr ⟨peerConfig, configured, made, allowed⟩, rfl⟩

theorem Router.Of.mem_excludedNets
    (ofConfig : router.Of decodeBase64 toSocketAddrs config)
    {net : Ipv4Net} :
    net ∈ router.excludedNets ↔
      ∃ peerConfig ∈ config.peer, net ∈ peerConfig.excludedIps := by
  unfold Router.excludedNets
  rw [List.mem_map]
  constructor
  · rintro ⟨route, member, rfl⟩
    obtain ⟨peerConfig, configured, _, excluded⟩ :=
      (ofConfig.excludedRoutes route).mp member
    exact ⟨peerConfig, configured, excluded⟩
  · rintro ⟨peerConfig, configured, excluded⟩
    obtain ⟨peer, made⟩ := ofConfig.peers peerConfig configured
    exact ⟨⟨net, peer⟩,
      (ofConfig.excludedRoutes _).mpr
        ⟨peerConfig, configured, made, excluded⟩, rfl⟩

/-- Splitting the default route changes no decision. -/
theorem Config.Valid.admits_tunRoutes
    (valid : config.Valid decodeBase64)
    (ofConfig : router.Of decodeBase64 toSocketAddrs config)
    (destination : Ipv4Addr) :
    Ipv4Net.Admits
        (router.routes.flatMap fun route => route.net.tunRoutes)
        router.prefixExceptions destination ↔
      Ipv4Net.Admits router.allowedNets router.excludedNets destination := by
  have sameExclusions (net : Ipv4Net) :
      net ∈ router.prefixExceptions ↔ net ∈ router.excludedNets :=
    List.mem_eraseDups
  have split :
      router.routes.flatMap (fun route => route.net.tunRoutes) =
        router.allowedNets.flatMap Ipv4Net.tunRoutes := by
    rw [Router.allowedNets, List.flatMap_map]
  rw [split]
  refine (LongestMatch.admits_congr (fun _ => Iff.rfl) sameExclusions).trans ?_
  refine LongestMatch.admits_flatMap Ipv4Net.tunRoutes ?_ ?_
  · intro net _
    exact net.tunRoutes_coverage destination
  · intro net _ part isPart exclusion isExcluded
    obtain ⟨peerConfig, configured, excluded⟩ :=
      ofConfig.mem_excludedNets.mp isExcluded
    exact Ipv4Net.tunRoutes_comparison isPart
      ((valid.peers peerConfig configured).notDefault exclusion excluded)

/--
An exclusion that wins at the destination is one that every other peer whose
allowed prefixes cover the destination has its own winning exclusion for.
-/
def Config.ExclusionsStayLocal
    (config : Config)
    (destination : Ipv4Addr) :
    Prop :=
  ∀ excluding ∈ config.peer, ∀ exclusion ∈ excluding.excludedIps,
    exclusion.contains destination = true →
    (∀ peer ∈ config.peer, ∀ allowed ∈ peer.allowedIps,
      allowed.contains destination = true →
      allowed.prefixLen.val ≤ exclusion.prefixLen.val) →
    ∀ other ∈ config.peer, other.name ≠ excluding.name →
      ∀ allowed ∈ other.allowedIps,
        allowed.contains destination = true →
        ∃ own ∈ other.excludedIps,
          own.contains destination = true ∧
            allowed.prefixLen.val ≤ own.prefixLen.val

/-- The router's decision, read off the configuration. -/
theorem Router.Of.lookup_isSome
    (ofConfig : router.Of decodeBase64 toSocketAddrs config)
    (destination : Ipv4Addr) :
    (router.lookup destination).isSome ↔
      ∃ peer ∈ config.peer, ∃ allowed ∈ peer.allowedIps,
        allowed.contains destination = true ∧
          ∀ own ∈ peer.excludedIps, own.contains destination = true →
            own.prefixLen.val < allowed.prefixLen.val := by
  have ownExclusions {peerConfig : PeerConfig} {peer : Peer}
      (made :
        peerFromConfig decodeBase64 toSocketAddrs peerConfig
          config.interface.transport = .ok peer) :
      peer.excludedIps = peerConfig.excludedIps := by
    obtain ⟨_, _, _, _, _, isPeer⟩ := peerFromConfig_ok made
    rw [isPeer]
  rw [Router.lookup_isSome]
  constructor
  · rintro ⟨route, member, covered, above⟩
    obtain ⟨peerConfig, configured, made, allowed⟩ :=
      (ofConfig.routes route).mp member
    rw [ownExclusions made] at above
    exact ⟨peerConfig, configured, route.net, allowed, covered, above⟩
  · rintro ⟨peerConfig, configured, net, allowed, covered, above⟩
    obtain ⟨peer, made⟩ := ofConfig.peers peerConfig configured
    rw [← ownExclusions made] at above
    exact ⟨⟨net, peer⟩,
      (ofConfig.routes _).mpr ⟨peerConfig, configured, made, allowed⟩,
      covered, above⟩

/--
The router and one decision over all prefixes agree where exclusions stay
local.
-/
theorem Config.Valid.admits_iff_lookup_iff
    (valid : config.Valid decodeBase64)
    (ofConfig : router.Of decodeBase64 toSocketAddrs config)
    (destination : Ipv4Addr) :
    (Ipv4Net.Admits router.allowedNets router.excludedNets destination ↔
        (router.lookup destination).isSome) ↔
      config.ExclusionsStayLocal destination := by
  constructor
  · intro agree excluding configured exclusion isExclusion excludes wins
      other otherConfigured otherName allowed isAllowed covered
    have notAdmitted :
        ¬ Ipv4Net.Admits router.allowedNets router.excludedNets
            destination := by
      rintro ⟨rule, isRule, ruleCovers, above⟩
      obtain ⟨peer, peerConfigured, ruleAllowed⟩ :=
        ofConfig.mem_allowedNets.mp isRule
      have shorter :=
        above exclusion
          (ofConfig.mem_excludedNets.mpr ⟨excluding, configured, isExclusion⟩)
          excludes
      exact absurd shorter
        (Nat.not_lt.mpr (wins peer peerConfigured rule ruleAllowed ruleCovers))
    by_contra bypassed
    push Not at bypassed
    exact notAdmitted (agree.mpr ((ofConfig.lookup_isSome destination).mpr
      ⟨other, otherConfigured, allowed, isAllowed, covered, bypassed⟩))
  · intro isLocal
    refine ⟨Router.lookup_isSome_of_admits ofConfig, fun routed => ?_⟩
    obtain ⟨peer, configured, allowed, isAllowed, covered, above⟩ :=
      (ofConfig.lookup_isSome destination).mp routed
    rw [Ipv4Net.Admits, LongestMatch.admits_iff_longest]
    cases found :
        LongestMatch.longest Ipv4Net.contains
          (fun net => net.prefixLen.val) router.allowedNets destination with
    | none =>
        have uncovered :=
          LongestMatch.longest_eq_none.mp found allowed
            (ofConfig.mem_allowedNets.mpr ⟨peer, configured, isAllowed⟩)
        exact absurd (covered.symm.trans uncovered) (by simp)
    | some included =>
        obtain ⟨_, greatest⟩ := LongestMatch.longest_eq_some.mp found
        refine ⟨included, rfl, LongestMatch.longest_lt.mpr ?_⟩
        intro exclusion isExclusion excludes
        by_contra wins
        obtain ⟨excluding, excludingConfigured, excluded⟩ :=
          ofConfig.mem_excludedNets.mp isExclusion
        -- a winning exclusion of the peer itself leaves it no route
        have notOwn : peer.name ≠ excluding.name := by
          intro sameName
          have samePeer : peer = excluding :=
            List.inj_on_of_nodup_map valid.names configured
              excludingConfigured sameName
          have shorter := above exclusion (samePeer ▸ excluded) excludes
          have atMost :=
            greatest allowed
              (ofConfig.mem_allowedNets.mpr ⟨peer, configured, isAllowed⟩)
              covered
          exact wins (Nat.lt_of_lt_of_le shorter atMost)
        have winsAll (other : PeerConfig) (isPeer : other ∈ config.peer)
            (net : Ipv4Net) (isNet : net ∈ other.allowedIps)
            (netCovers : net.contains destination = true) :
            net.prefixLen.val ≤ exclusion.prefixLen.val :=
          Nat.le_trans
            (greatest net (ofConfig.mem_allowedNets.mpr ⟨other, isPeer, isNet⟩)
              netCovers)
            (Nat.le_of_not_lt wins)
        obtain ⟨own, isOwn, ownCovers, ownWins⟩ :=
          isLocal excluding excludingConfigured exclusion excluded excludes
            winsAll peer configured notOwn allowed isAllowed covered
        exact absurd (above own isOwn ownCovers) (Nat.not_lt.mpr ownWins)

variable {host : Host}

/--
The installed routes send a destination that is no endpoint exception into
the tunnel exactly when the router has a route for it, where exclusions stay
local, and only there.
-/
theorem host_routes_agree_iff
    {tunName : String}
    {state : Installation}
    (accepted : config.validate decodeBase64 = .ok ())
    (built : Router.new decodeBase64 toSocketAddrs config = .ok router)
    (lawful : host.Lawful tunName)
    (installed :
      RouteManager.setup host (.new tunName) router = (.ok (), state))
    (destination : Ipv4Addr)
    (notException : destination ∉ router.endpointExceptions) :
    (HostRoute.Tunnels state.table tunName destination ↔
        (router.lookup destination).isSome) ↔
      config.ExclusionsStayLocal destination := by
  have valid := Config.validate_ok accepted
  have ofConfig := Router.new_ok built
  have uncovered :
      ∀ net ∈ router.endpointExceptions.map Ipv4Net.ofAddr,
        net.contains destination = false := by
    intro net member
    obtain ⟨address, isException, rfl⟩ := List.mem_map.mp member
    rw [← Bool.not_eq_true, Ipv4Net.contains_ofAddr]
    rintro rfl
    exact notException isException
  rw [Installation.tunnels_iff_admits lawful installed, Ipv4Net.Admits,
    LongestMatch.admits_append_of_not_covered uncovered,
    ← Ipv4Net.Admits, valid.admits_tunRoutes ofConfig]
  exact valid.admits_iff_lookup_iff ofConfig destination

end Installed

namespace RouteExample

/-- Two keys, each the same byte repeated. -/
def decodeBase64 (text : String) : Option Bytes :=
  if text = "QUFBQUFBQUFBQUFBQUFBQUFBQUFBQUFBQUFBQUFBQUE=" then
    some (List.replicate 32 0x41)
  else if text = "QkJCQkJCQkJCQkJCQkJCQkJCQkJCQkJCQkJCQkJCQkI=" then
    some (List.replicate 32 0x42)
  else
    none

/-- No name is resolved. -/
def toSocketAddrs (_ : String) (_ : UInt16) :
    Except String (List SocketAddr) :=
  .error "no such host"

def interface : InterfaceConfig where
  name := "utun10"
  address := ⟨0x0a4d0001, 24⟩
  listen := ⟨.v4 0, 0⟩
  transport := .udp
  mtu := 1280
  privateKey := "QkJCQkJCQkJCQkJCQkJCQkJCQkJCQkJCQkJCQkJCQkI="

/-- It carries `10.0.0.0/8` except for `10.1.0.0/16`. -/
def lan : PeerConfig where
  name := "lan"
  endpoint := .ofSocketAddr "192.0.2.10" ⟨.v4 0xc000020a, 11063⟩
  allowedIps := [⟨0x0a000000, 8⟩]
  excludedIps := [⟨0x0a010000, 16⟩]
  psk := "QkJCQkJCQkJCQkJCQkJCQkJCQkJCQkJCQkJCQkJCQkI="
  publicKey := "QkJCQkJCQkJCQkJCQkJCQkJCQkJCQkJCQkJCQkJCQkI="
  persistentKeepalive := 5
  udpRebindAfter := 30
  sessionTimeout := none

/-- It carries everything. -/
def exit : PeerConfig where
  name := "exit"
  endpoint := .ofSocketAddr "203.0.113.9" ⟨.v4 0xcb007109, 11063⟩
  allowedIps := [⟨0x00000000, 0⟩]
  excludedIps := []
  psk := "QUFBQUFBQUFBQUFBQUFBQUFBQUFBQUFBQUFBQUFBQUE="
  publicKey := "QUFBQUFBQUFBQUFBQUFBQUFBQUFBQUFBQUFBQUFBQUE="
  persistentKeepalive := 5
  udpRebindAfter := 30
  sessionTimeout := none

def config : Config where
  interface := interface
  gateway := none
  peer := [lan, exit]

/-- A host on which every prefix can be added once. -/
def host : Host where
  add := fun table route =>
    if table.any fun entry => decide (entry.net.Same route.net) then
      .error "ip route add failed"
    else
      .ok ()
  delete := fun _ _ => .ok ()
  getRouteInfo := fun _ _ => .ok (some "192.0.2.1", "en0")

theorem host_lawful : host.Lawful "utun10" where
  present := by
    rintro table route ⟨entry, member, same⟩
    have present :
        (table.any fun entry => decide (entry.net.Same route.net)) = true :=
      List.any_eq_true.mpr ⟨entry, member, decide_eq_true same⟩
    have refused : host.add table route = .error "ip route add failed" :=
      if_pos present
    rw [refused]
    exact fun added => nomatch added
  physical := by
    rintro _ _ _ _ ⟨⟩
    decide

def router : Router :=
  (Router.new decodeBase64 toSocketAddrs config).toOption.getD ⟨[], []⟩

def state : Installation :=
  (RouteManager.setup host (.new "utun10") router).2

theorem installed :
    config.validate decodeBase64 = .ok () ∧
      Router.new decodeBase64 toSocketAddrs config = .ok router ∧
      RouteManager.setup host (.new "utun10") router = (.ok (), state) :=
  ⟨by decide +kernel, by decide +kernel, by decide +kernel⟩

end RouteExample

/-- Where the two agree: 8.8.8.8 is routed by both. -/
theorem host_routes_agree_iff_example :
    (HostRoute.Tunnels RouteExample.state.table "utun10" 0x08080808 ↔
        (RouteExample.router.lookup 0x08080808).isSome) ↔
      RouteExample.config.ExclusionsStayLocal 0x08080808 :=
  host_routes_agree_iff RouteExample.installed.1
    RouteExample.installed.2.1 RouteExample.host_lawful
    RouteExample.installed.2.2 0x08080808 (by decide +kernel)

/--
The router sends 10.1.2.3 to the peer that carries everything, but the
exclusion of the other peer keeps it out of the tunnel on the host.
-/
theorem host_routes_agree_counterexample :
    RouteExample.config.validate RouteExample.decodeBase64 = .ok () ∧
      Router.new RouteExample.decodeBase64 RouteExample.toSocketAddrs
          RouteExample.config = .ok RouteExample.router ∧
      RouteExample.host.Lawful "utun10" ∧
      RouteManager.setup RouteExample.host (.new "utun10")
          RouteExample.router = (.ok (), RouteExample.state) ∧
      0x0a010203 ∉ RouteExample.router.endpointExceptions ∧
      (RouteExample.router.lookup 0x0a010203).map
          (fun route => route.peer.name) = some "exit" ∧
      ¬ HostRoute.Tunnels RouteExample.state.table "utun10" 0x0a010203 := by
  refine ⟨RouteExample.installed.1, RouteExample.installed.2.1,
    RouteExample.host_lawful, RouteExample.installed.2.2,
    by decide +kernel, by decide +kernel, ?_⟩
  rintro ⟨entry, selected, intoTunnel⟩
  have device :
      (HostRoute.select RouteExample.state.table 0x0a010203).map
        HostRoute.device = some "en0" := by
    decide +kernel
  rw [selected] at device
  exact absurd (intoTunnel.symm.trans (Option.some.inj device)) (by decide)

section Endpoints

variable
  {decodeBase64 : String → Option Bytes}
  {toSocketAddrs : String → UInt16 → Except String (List SocketAddr)}
  {config : Config}
  {router : Router}
  {host : Host}

/-- The installed routes send no peer's IPv4 endpoint into the tunnel. -/
theorem host_routes_bypass_endpoints
    {tunName : String}
    {state : Installation}
    {peerConfig : PeerConfig}
    {address : Ipv4Addr}
    {port : UInt16}
    (accepted : config.validate decodeBase64 = .ok ())
    (built : Router.new decodeBase64 toSocketAddrs config = .ok router)
    (lawful : host.Lawful tunName)
    (installed :
      RouteManager.setup host (.new tunName) router = (.ok (), state))
    (configured : peerConfig ∈ config.peer)
    (resolved :
      peerConfig.endpoint.resolve toSocketAddrs = .ok ⟨.v4 address, port⟩)
    (hasPort : port ≠ 0)
    (specified : address ≠ 0) :
    ¬ HostRoute.Tunnels state.table tunName address := by
  have valid := Config.validate_ok accepted
  have ofConfig := Router.new_ok built
  rw [Installation.tunnels_iff_admits lawful installed]
  obtain ⟨peer, made⟩ := ofConfig.peers peerConfig configured
  obtain ⟨net, allowed⟩ :=
    List.exists_mem_of_ne_nil _ (valid.peers peerConfig configured).allowedIps
  have endpoint : peer.endpoint = ⟨.v4 address, port⟩ :=
    Except.ok.inj ((peerFromConfig_ok made).1.symm.trans resolved)
  by_cases routed : (router.lookup address).isSome
  · have isException : address ∈ router.endpointExceptions :=
      Router.mem_endpointExceptions
        ((ofConfig.routes ⟨net, peer⟩).mpr
          ⟨peerConfig, configured, made, allowed⟩)
        endpoint hasPort specified routed
    have member :
        Ipv4Net.ofAddr address ∈
          router.prefixExceptions ++
            router.endpointExceptions.map Ipv4Net.ofAddr :=
      List.mem_append_right _ (List.mem_map_of_mem isException)
    refine LongestMatch.not_admits_of_longest_forbidden member
      (by simp) fun part _ _ => ?_
    exact Nat.le_of_lt_succ part.prefixLen.isLt
  · rintro ⟨part, isPart, covered, above⟩
    refine routed (Router.lookup_isSome_of_admits ofConfig ?_)
    refine (valid.admits_tunRoutes ofConfig address).mp
      ⟨part, isPart, covered, fun exclusion isExclusion => ?_⟩
    exact above exclusion (List.mem_append_left _ isExclusion)

end Endpoints

/-- The endpoint of the first peer, which is captured by the second's route. -/
theorem host_routes_bypass_endpoints_example :
    ¬ HostRoute.Tunnels RouteExample.state.table "utun10" 0xc000020a :=
  host_routes_bypass_endpoints RouteExample.installed.1
    RouteExample.installed.2.1 RouteExample.host_lawful
    RouteExample.installed.2.2
    (List.mem_cons_self : RouteExample.lan ∈ RouteExample.config.peer)
    (rfl :
      RouteExample.lan.endpoint.resolve RouteExample.toSocketAddrs =
        .ok ⟨.v4 0xc000020a, 11063⟩)
    (by decide) (by decide)

end HushWire

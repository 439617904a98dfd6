import HushWire.PlainFoundation

namespace HushWire.PacketTunnel

/-!
# What an accepted plan routes

`isRoutedToTunnel` is a longest-match decision over parsed prefixes, and
rendering the default route as two halves changes no decision against
specific exclusions.  From the checks of `plan` it follows that an accepted
plan keeps the endpoints out of the tunnel and the DNS servers in it.
-/

open Checked (bind_eq_ok ensure_eq_ok ensureAll_eq_ok require_eq_ok)

section Bits

/-- Masked values are equal when their leading bits are. -/
theorem and_shiftLeft_eq_iff
    {width : Nat}
    (first second : BitVec width)
    (hostBits : Nat) :
    first &&& (BitVec.allOnes width <<< hostBits) =
        second &&& (BitVec.allOnes width <<< hostBits) ↔
      first >>> hostBits = second >>> hostBits := by
  constructor
  · intro same
    apply BitVec.eq_of_getLsbD_eq
    intro index bound
    have sameBit :=
      congrArg (fun value => value.getLsbD (hostBits + index)) same
    simp only [BitVec.getLsbD_and, BitVec.getLsbD_shiftLeft,
      BitVec.getLsbD_allOnes, BitVec.getLsbD_ushiftRight] at sameBit ⊢
    by_cases inside : hostBits + index < width
    · have notLow : ¬ hostBits + index < hostBits :=
        Nat.not_lt.mpr (Nat.le_add_right _ _)
      simpa [inside, bound, notLow] using sameBit
    · rw [BitVec.getLsbD_of_ge _ _ (Nat.le_of_not_lt inside),
        BitVec.getLsbD_of_ge _ _ (Nat.le_of_not_lt inside)]
  · intro same
    apply BitVec.eq_of_getLsbD_eq
    intro index bound
    have sameBit :=
      congrArg (fun value => value.getLsbD (index - hostBits)) same
    simp only [BitVec.getLsbD_and, BitVec.getLsbD_shiftLeft,
      BitVec.getLsbD_allOnes, BitVec.getLsbD_ushiftRight] at sameBit ⊢
    by_cases above : hostBits ≤ index
    · rw [Nat.add_sub_cancel' above] at sameBit
      rw [sameBit]
    · simp [Nat.lt_of_not_le above]

/-- The first bytes of an array of at least four. -/
theorem take_four_toList
    {length : Nat}
    (bytes : Vector UInt8 length)
    (enough : 4 ≤ length) :
    bytes.toList.take 4 = [bytes[0], bytes[1], bytes[2], bytes[3]] := by
  apply List.ext_getElem
  · simp [enough]
  · intro index inTake inLiteral
    have small : index < 4 := inLiteral
    match index, small with
    | 0, _ => simp
    | 1, _ => simp
    | 2, _ => simp
    | 3, _ => simp

end Bits

/-- The four bytes of a network as an address. -/
def RouteMetadata.ipv4Network (route : RouteMetadata) : Ipv4Addr :=
  let byte (index : Nat) : UInt8 := route.networkBytes.getD index 0
  Ipv4Addr.ofOctets (byte 0) (byte 1) (byte 2) (byte 3)

/-- The first four bytes of an endpoint as an address. -/
def Endpoint.ipv4 (endpoint : Endpoint) : Ipv4Addr :=
  Ipv4Addr.ofOctets endpoint.addressBytes[0] endpoint.addressBytes[1]
    endpoint.addressBytes[2] endpoint.addressBytes[3]

section Routing

variable {foundation : Foundation}

theorem RouteMetadata.network_eq_text (route : RouteMetadata) :
    route.network = Ipv4Addr.text route.ipv4Network := by
  rw [RouteMetadata.network, take_four_toList _ (by decide), Ipv4Addr.text,
    RouteMetadata.ipv4Network, Ipv4Addr.octets_ofOctets]
  simp [Vector.getD]

theorem Endpoint.host_eq_text
    {endpoint : Endpoint}
    (isIpv4 : endpoint.family = 4) :
    endpoint.host foundation = Ipv4Addr.text endpoint.ipv4 := by
  rw [Endpoint.host, if_pos isIpv4, take_four_toList _ (by decide),
    Ipv4Addr.text, Endpoint.ipv4, Ipv4Addr.octets_ofOctets]
  rfl

namespace Foundation.Lawful

theorem ipv4Address_text
    (lawful : foundation.Lawful)
    (address : Ipv4Addr) :
    foundation.ipv4Address address.text = some address := by
  unfold Ipv4Addr.text
  have bytes :=
    lawful.ipv4Address_dotted address.octets[0] address.octets[1]
      address.octets[2] address.octets[3]
  rw [Ipv4Addr.ofOctets_octets] at bytes
  exact bytes

theorem ipv4Address_network
    (lawful : foundation.Lawful)
    (route : RouteMetadata) :
    foundation.ipv4Address route.network = some route.ipv4Network := by
  rw [route.network_eq_text]
  exact lawful.ipv4Address_text _

theorem ipv4Address_host
    (lawful : foundation.Lawful)
    {endpoint : Endpoint}
    (isIpv4 : endpoint.family = 4) :
    foundation.ipv4Address (endpoint.host foundation) =
      some endpoint.ipv4 := by
  rw [Endpoint.host_eq_text isIpv4]
  exact lawful.ipv4Address_text _

end Foundation.Lawful

namespace IPv4RouteSpec

/-- A prefix contains the addresses that share its leading bits. -/
theorem contains_iff
    {route : IPv4RouteSpec}
    {network address : Ipv4Addr}
    {text : String}
    (parsedNetwork : foundation.ipv4Address route.network = some network)
    (parsedAddress : foundation.ipv4Address text = some address) :
    route.contains foundation text = true ↔
      route.prefixLength ≤ 32 ∧
        network >>> (32 - route.prefixLength.toNat) =
          address >>> (32 - route.prefixLength.toNat) := by
  unfold contains
  by_cases valid : route.prefixLength ≤ 32
  · rw [if_pos valid, parsedNetwork, parsedAddress]
    simp only [decide_eq_true_eq, valid, true_and]
    unfold mask
    by_cases isDefault : route.prefixLength = 0
    · simp [isDefault, BitVec.ushiftRight_eq_zero]
    · rw [if_neg isDefault, and_shiftLeft_eq_iff]
  · simp [valid]

/-- What is contained is an address, and the length is valid. -/
theorem parsed_of_contains
    {route : IPv4RouteSpec}
    {text : String}
    (contained : route.contains foundation text = true) :
    route.prefixLength ≤ 32 ∧
      ∃ address, foundation.ipv4Address text = some address := by
  unfold contains at contained
  split at contained
  · rename_i valid
    split at contained
    · rename_i targetValue _ parsed
      exact ⟨valid, targetValue, parsed⟩
    · cases contained
  · cases contained

/-- A default route contains everything. -/
theorem contains_of_prefixLength_zero
    {route : IPv4RouteSpec}
    {network address : Ipv4Addr}
    {text : String}
    (parsedNetwork : foundation.ipv4Address route.network = some network)
    (parsedAddress : foundation.ipv4Address text = some address)
    (isDefault : route.prefixLength = 0) :
    route.contains foundation text = true := by
  rw [contains_iff parsedNetwork parsedAddress]
  simp [isDefault, BitVec.ushiftRight_eq_zero]

/-- One of the two halves contains an address. -/
theorem halves_contain
    (lawful : foundation.Lawful)
    {text : String}
    {address : Ipv4Addr}
    (parsed : foundation.ipv4Address text = some address) :
    contains foundation ⟨"0.0.0.0", 1⟩ text = true ∨
      contains foundation ⟨"128.0.0.0", 1⟩ text = true := by
  have parsedLower :
      foundation.ipv4Address (IPv4RouteSpec.mk "0.0.0.0" 1).network =
        some 0x00000000 :=
    lawful.ipv4Address_text 0x00000000
  have parsedUpper :
      foundation.ipv4Address (IPv4RouteSpec.mk "128.0.0.0" 1).network =
        some 0x80000000 :=
    lawful.ipv4Address_text 0x80000000
  rw [contains_iff parsedLower parsed, contains_iff parsedUpper parsed]
  have topBit :
      (0x00000000 : Ipv4Addr) >>> 31 = address >>> 31 ∨
        (0x80000000 : Ipv4Addr) >>> 31 = address >>> 31 := by
    bv_omega
  rcases topBit with isLower | isUpper
  · exact .inl ⟨by decide, isLower⟩
  · exact .inr ⟨by decide, isUpper⟩

end IPv4RouteSpec

/-- The decision over parsed prefixes. -/
abbrev Admits
    (foundation : Foundation)
    (includedRoutes excludedRoutes : List IPv4RouteSpec)
    (address : String) :
    Prop :=
  LongestMatch.Admits
    (fun route : IPv4RouteSpec => route.contains foundation)
    (fun route => route.prefixLength.toNat)
    includedRoutes excludedRoutes address

/-- The comparison of greatest lengths is that decision. -/
theorem isRoutedToTunnel_iff
    {address : String}
    {includedRoutes excludedRoutes : List IPv4RouteSpec} :
    isRoutedToTunnel foundation address includedRoutes excludedRoutes =
        true ↔
      Admits foundation includedRoutes excludedRoutes address := by
  rw [Admits, LongestMatch.admits_iff_longest, LongestMatch.longest,
    LongestMatch.longest]
  unfold isRoutedToTunnel
  cases
    ((includedRoutes.filter fun route =>
      route.contains foundation address).map fun route =>
        route.prefixLength.toNat).max? with
  | none => simp
  | some included =>
      cases
        ((excludedRoutes.filter fun route =>
          route.contains foundation address).map fun route =>
            route.prefixLength.toNat).max? with
      | none => simp
      | some excluded => simp

/-- Rendering changes no decision against specific exclusions. -/
theorem admits_rendered
    (lawful : foundation.Lawful)
    {includedRoutes excludedRoutes : List IPv4RouteSpec}
    {text : String}
    {address : Ipv4Addr}
    (parsed : foundation.ipv4Address text = some address)
    (networks :
      ∀ route ∈ includedRoutes,
        ∃ network, foundation.ipv4Address route.network = some network)
    (specific : ∀ route ∈ excludedRoutes, route.prefixLength ≠ 0) :
    Admits foundation
        (includedRoutes.flatMap fun route => route.rendered foundation)
        excludedRoutes text ↔
      Admits foundation includedRoutes excludedRoutes text := by
  refine LongestMatch.admits_flatMap _ ?_ ?_
  · intro route member
    obtain ⟨network, parsedNetwork⟩ := networks route member
    unfold IPv4RouteSpec.rendered
    split
    · rename_i isDefault
      refine iff_of_true ?_
        (IPv4RouteSpec.contains_of_prefixLength_zero parsedNetwork parsed
          isDefault.2)
      simpa using IPv4RouteSpec.halves_contain lawful parsed
    · simp
  · intro route member part isPart exclusion isExclusion
    have positive : 0 < exclusion.prefixLength.toNat :=
      Nat.pos_of_ne_zero fun isZero =>
        specific exclusion isExclusion (UInt8.toNat_inj.mp isZero)
    unfold IPv4RouteSpec.rendered at isPart
    split at isPart
    · rename_i isDefault
      have halfLength : part.prefixLength = 1 := by
        rcases List.mem_pair.mp isPart with rfl | rfl <;> rfl
      rw [halfLength, isDefault.2]
      exact iff_of_false (Nat.not_lt.mpr positive) (Nat.not_lt_zero _)
    · rw [List.mem_singleton.mp isPart]

section Checks

/-- A protected policy has one name and one IPv4 endpoint. -/
theorem validateProtectedPolicy_ok
    {interface : InterfaceMetadata}
    {routes : List RouteMetadata}
    {policyName : String}
    {route : RouteMetadata}
    (accepted :
      validateProtectedPolicy foundation interface routes policyName =
        .ok route) :
    ((routes.map RouteMetadata.peerName).eraseDupsBy
        foundation.equal).length = 1 ∧
      route ∈ routes ∧
      (∀ other ∈ routes, other.endpoint = route.endpoint) ∧
      route.endpoint.family = 4 := by
  simp only [validateProtectedPolicy, bind_eq_ok, ensure_eq_ok,
    require_eq_ok, exists_const] at accepted
  obtain ⟨single, first, isHead, ⟨sameEndpoint, isIpv4, _, _⟩, _,
    timers⟩ := accepted
  have isRoute : first = route := by
    cases transport : interface.transport <;>
      simp only [transport, bind_eq_ok, ensure_eq_ok, exists_const]
        at timers <;>
      exact Except.ok.inj timers.2
  cases isRoute
  exact ⟨single, List.mem_of_mem_head? isHead,
    fun other member => (sameEndpoint other member).1, isIpv4⟩

/-- What a policy that protects its endpoint includes and excludes. -/
structure Protects
    (foundation : Foundation)
    (tunnelRouteMetadata configuredExclusionMetadata : List RouteMetadata)
    (endpoint : String)
    (dnsServers : List String)
    (includedRoutes excludedRoutes : List IPv4RouteSpec) :
    Prop where
  included : includedRoutes = tunnelRouteMetadata.map RouteMetadata.spec
  covered :
    ∀ route ∈ configuredExclusionMetadata,
      ∃ other ∈ includedRoutes,
        other.containsRoute foundation route.spec = true
  excluded :
    ∀ route, route ∈ excludedRoutes ↔
      route ∈ configuredExclusionMetadata.map RouteMetadata.spec ∨
        Admits foundation includedRoutes
            (configuredExclusionMetadata.map RouteMetadata.spec) endpoint ∧
          route = ⟨endpoint, 32⟩
  servers :
    ∀ server ∈ dnsServers,
      Admits foundation includedRoutes excludedRoutes server

theorem planProtected_ok
    {tunnelRouteMetadata configuredExclusionMetadata : List RouteMetadata}
    {endpoint : String}
    {dnsServers : List String}
    {includedRoutes excludedRoutes : List IPv4RouteSpec}
    (planned :
      planProtected foundation tunnelRouteMetadata
          configuredExclusionMetadata endpoint dnsServers =
        .ok (includedRoutes, excludedRoutes)) :
    Protects foundation tunnelRouteMetadata configuredExclusionMetadata
      endpoint dnsServers includedRoutes excludedRoutes := by
  simp only [planProtected, protectedExclusions, validateDNS, bind_eq_ok,
    ensure_eq_ok, ensureAll_eq_ok, exists_const] at planned
  obtain ⟨_, ⟨covered, isExcluded⟩, ⟨_, _, servers⟩, isPlan⟩ := planned
  cases isPlan
  cases isExcluded
  refine
    { included := rfl
      covered := fun route member => ?_
      excluded := fun route => ?_
      servers := fun server member =>
        isRoutedToTunnel_iff.mp (servers server member) }
  · exact List.any_eq_true.mp
      (covered route.spec (List.mem_map_of_mem member))
  · rw [sortedExclusions, List.mem_insertionSort]
    by_cases captured :
        isRoutedToTunnel foundation endpoint
          (tunnelRouteMetadata.map RouteMetadata.spec)
          (configuredExclusionMetadata.map RouteMetadata.spec) = true
    · simp only [captured, ↓reduceIte, List.mem_append, List.mem_singleton,
        isRoutedToTunnel_iff.mp captured, true_and]
    · have escapes :
          ¬ Admits foundation
            (tunnelRouteMetadata.map RouteMetadata.spec)
            (configuredExclusionMetadata.map RouteMetadata.spec)
            endpoint :=
        mt isRoutedToTunnel_iff.mpr captured
      rw [if_neg captured]
      exact (or_iff_left fun added => escapes added.1).symm

/-- What a policy of single hosts includes. -/
structure HostsOnly
    (foundation : Foundation)
    (routes : List RouteMetadata)
    (includedRoutes excludedRoutes : List IPv4RouteSpec) :
    Prop where
  allIncluded : ∀ route ∈ routes, route.routeKind = .included
  included : includedRoutes = routes.map RouteMetadata.spec
  excluded : excludedRoutes = []
  hosts : ∀ route ∈ routes, route.prefixLength = 32
  endpoints :
    ∀ route ∈ routes, ∀ other ∈ routes, other.endpoint.family = 4 →
      other.endpoint.host foundation ≠ route.network

theorem planHostRoutes_ok
    {routes : List RouteMetadata}
    {includedRoutes excludedRoutes : List IPv4RouteSpec}
    (planned :
      planHostRoutes foundation
          (routes.filter fun route => route.routeKind = .included)
          (routes.filter fun route => route.routeKind = .excluded) =
        .ok (includedRoutes, excludedRoutes)) :
    HostsOnly foundation routes includedRoutes excludedRoutes := by
  simp only [planHostRoutes, bind_eq_ok, ensure_eq_ok, exists_const]
    at planned
  obtain ⟨noExclusions, hosts, apart, isPlan⟩ := planned
  have allIncluded : ∀ route ∈ routes, route.routeKind = .included := by
    intro route member
    cases kind : route.routeKind with
    | included => rfl
    | excluded =>
        have isExcluded :
            route ∈ routes.filter fun route => route.routeKind = .excluded :=
          List.mem_filter.mpr ⟨member, decide_eq_true kind⟩
        rw [noExclusions] at isExcluded
        cases isExcluded
  have keepsAll :
      routes.filter (fun route => route.routeKind = .included) = routes :=
    List.filter_eq_self.mpr fun route member =>
      decide_eq_true (allIncluded route member)
  rw [keepsAll] at hosts apart isPlan
  cases isPlan
  refine
    { allIncluded
      included := rfl
      excluded := rfl
      hosts
      endpoints := fun route member other otherMember isIpv4 same => ?_ }
  refine apart (List.any_eq_true.mpr ⟨route, member, ?_⟩)
  refine List.any_eq_true.mpr
    ⟨other.endpoint.host foundation, List.mem_map_of_mem ?_, ?_⟩
  · exact List.mem_filter.mpr ⟨otherMember, decide_eq_true isIpv4⟩
  · rw [same, Foundation.equal]
    exact decide_eq_true rfl

/-- Single hosts, or the prefixes of one protected endpoint. -/
theorem planRoutes_ok
    {interface : InterfaceMetadata}
    {routes : List RouteMetadata}
    {networkPolicy : NetworkPolicy foundation}
    {includedRoutes excludedRoutes : List IPv4RouteSpec}
    (planned :
      planRoutes foundation interface routes networkPolicy =
        .ok (includedRoutes, excludedRoutes)) :
    networkPolicy.routePolicy = .hostRoutesOnly ∧
        HostsOnly foundation routes includedRoutes excludedRoutes ∨
      networkPolicy.routePolicy ≠ .hostRoutesOnly ∧
        ((routes.map RouteMetadata.peerName).eraseDupsBy
          foundation.equal).length = 1 ∧
        ∃ endpoint : Endpoint,
          endpoint.family = 4 ∧
          (∀ route ∈ routes, route.endpoint = endpoint) ∧
          Protects foundation
            (routes.filter fun route => route.routeKind = .included)
            (routes.filter fun route => route.routeKind = .excluded)
            (endpoint.host foundation) networkPolicy.dnsServers
            includedRoutes excludedRoutes := by
  unfold planRoutes at planned
  cases policy : networkPolicy.routePolicy with
  | hostRoutesOnly =>
      simp only [policy] at planned
      exact .inl ⟨rfl, planHostRoutes_ok planned⟩
  | splitRoutes =>
      simp only [policy, planSplitRoutes, bind_eq_ok, ensure_eq_ok,
        exists_const] at planned
      obtain ⟨_, _, route, validated, planned⟩ := planned
      obtain ⟨single, _, sameEndpoint, isIpv4⟩ :=
        validateProtectedPolicy_ok validated
      exact .inr ⟨by decide, single, route.endpoint, isIpv4, sameEndpoint,
        planProtected_ok planned⟩
  | fullTunnel =>
      simp only [policy, planFullTunnel, bind_eq_ok, ensure_eq_ok,
        exists_const] at planned
      obtain ⟨_, planned⟩ := planned
      split at planned
      · rename_i defaultRoute isDefault
        simp only [bind_eq_ok] at planned
        obtain ⟨route, validated, planned⟩ := planned
        obtain ⟨single, _, sameEndpoint, isIpv4⟩ :=
          validateProtectedPolicy_ok validated
        have isRoute : defaultRoute ∈ routes := by
          have filtered :
              defaultRoute ∈
                (routes.filter fun route =>
                  route.routeKind = .included).filter fun route =>
                    foundation.equal route.network "0.0.0.0" ∧
                      route.prefixLength = 0 := by
            rw [isDefault]
            exact List.mem_singleton_self _
          exact (List.mem_filter.mp (List.mem_filter.mp filtered).1).1
        rw [sameEndpoint defaultRoute isRoute] at planned
        exact .inr ⟨by decide, single, route.endpoint, isIpv4, sameEndpoint,
          planProtected_ok planned⟩
      · cases planned

end Checks

section Plan

variable
  {interface : InterfaceMetadata}
  {routes : List RouteMetadata}
  {networkPolicy : NetworkPolicy foundation}
  {result : ConfigurationPlan}

/-- A plan has the routes of its policy. -/
theorem plan_ok
    (planned :
      plan foundation interface routes networkPolicy = .ok result) :
    planRoutes foundation interface routes networkPolicy =
      .ok (result.includedRoutes, result.excludedRoutes) := by
  simp only [plan, bind_eq_ok, ensure_eq_ok, exists_const] at planned
  obtain ⟨_, _, _, _, ⟨includedRoutes, excludedRoutes⟩, planned, isResult⟩ :=
    planned
  cases isResult
  exact planned

/-- The networks of a plan are dotted addresses. -/
theorem includedRoutes_parsed
    (lawful : foundation.Lawful)
    {metadata : List RouteMetadata}
    {includedRoutes : List IPv4RouteSpec}
    (included : includedRoutes = metadata.map RouteMetadata.spec) :
    ∀ route ∈ includedRoutes,
      ∃ network, foundation.ipv4Address route.network = some network := by
  rintro route member
  rw [included] at member
  obtain ⟨source, _, rfl⟩ := List.mem_map.mp member
  exact ⟨_, lawful.ipv4Address_network source⟩

/-- No exclusion of a protected endpoint is a default route. -/
theorem Protects.specific
    {tunnelRouteMetadata configuredExclusionMetadata : List RouteMetadata}
    {endpoint : String}
    {dnsServers : List String}
    {includedRoutes excludedRoutes : List IPv4RouteSpec}
    (protects :
      Protects foundation tunnelRouteMetadata configuredExclusionMetadata
        endpoint dnsServers includedRoutes excludedRoutes)
    (specific :
      ∀ route ∈ configuredExclusionMetadata, route.prefixLength ≠ 0) :
    ∀ route ∈ excludedRoutes, route.prefixLength ≠ 0 := by
  intro route member
  rcases (protects.excluded route).mp member with configured | ⟨_, rfl⟩
  · obtain ⟨source, sourceMember, rfl⟩ := List.mem_map.mp configured
    exact specific source sourceMember
  · exact (by decide : (32 : UInt8) ≠ 0)

/-- The endpoint is excluded or was not included. -/
theorem Protects.endpoint_not_admitted
    (lawful : foundation.Lawful)
    {tunnelRouteMetadata configuredExclusionMetadata : List RouteMetadata}
    {endpoint : Endpoint}
    {dnsServers : List String}
    {includedRoutes excludedRoutes : List IPv4RouteSpec}
    (isIpv4 : endpoint.family = 4)
    (protects :
      Protects foundation tunnelRouteMetadata configuredExclusionMetadata
        (endpoint.host foundation) dnsServers includedRoutes
        excludedRoutes) :
    ¬ Admits foundation includedRoutes excludedRoutes
      (endpoint.host foundation) := by
  intro admitted
  by_cases captured :
      Admits foundation includedRoutes
        (configuredExclusionMetadata.map RouteMetadata.spec)
        (endpoint.host foundation)
  · have parsed := lawful.ipv4Address_host isIpv4
    have isException :
        IPv4RouteSpec.mk (endpoint.host foundation) 32 ∈ excludedRoutes :=
      (protects.excluded _).mpr (.inr ⟨captured, rfl⟩)
    have excludes :
        (IPv4RouteSpec.mk (endpoint.host foundation) 32).contains foundation
          (endpoint.host foundation) = true :=
      (IPv4RouteSpec.contains_iff parsed parsed).mpr ⟨UInt8.le_refl 32, rfl⟩
    refine LongestMatch.not_admits_of_longest_forbidden isException excludes
      ?_ admitted
    intro route _ covered
    exact UInt8.le_iff_toNat_le.mp
      (IPv4RouteSpec.parsed_of_contains covered).1
  · obtain ⟨route, member, covered, above⟩ := admitted
    exact captured ⟨route, member, covered, fun exclusion configured =>
      above exclusion ((protects.excluded exclusion).mpr (.inl configured))⟩

/-- What contains a specific prefix still does when it is rendered. -/
theorem containsRoute_rendered
    (lawful : foundation.Lawful)
    {includedRoutes : List IPv4RouteSpec}
    {route : RouteMetadata}
    (specific : route.prefixLength ≠ 0)
    (contained :
      ∃ other ∈ includedRoutes,
        other.containsRoute foundation route.spec = true) :
    ∃ other ∈
        includedRoutes.flatMap fun route => route.rendered foundation,
      other.containsRoute foundation route.spec = true := by
  obtain ⟨other, member, contains⟩ := contained
  by_cases isDefault :
      foundation.equal other.network "0.0.0.0" ∧ other.prefixLength = 0
  · have rendered :
        other.rendered foundation = [⟨"0.0.0.0", 1⟩, ⟨"128.0.0.0", 1⟩] :=
      if_pos isDefault
    have longer : (1 : UInt8) ≤ route.prefixLength := by
      rw [UInt8.le_iff_toNat_le]
      exact Nat.pos_of_ne_zero fun isZero =>
        specific (UInt8.toNat_inj.mp isZero)
    rcases IPv4RouteSpec.halves_contain lawful
        (lawful.ipv4Address_network route) with lower | upper
    · refine ⟨⟨"0.0.0.0", 1⟩,
        List.mem_flatMap.mpr ⟨other, member, by simp [rendered]⟩, ?_⟩
      exact Bool.and_eq_true_iff.mpr ⟨decide_eq_true longer, lower⟩
    · refine ⟨⟨"128.0.0.0", 1⟩,
        List.mem_flatMap.mpr ⟨other, member, by simp [rendered]⟩, ?_⟩
      exact Bool.and_eq_true_iff.mpr ⟨decide_eq_true longer, upper⟩
  · have rendered : other.rendered foundation = [other] := if_neg isDefault
    exact ⟨other,
      List.mem_flatMap.mpr ⟨other, member, by simp [rendered]⟩, contains⟩

/--
Under the routes that a plan renders, no IPv4 endpoint is routed into the
tunnel, every DNS server is, and every specific exclusion lies in an included
route.
-/
theorem plan_loop_free_and_dns_safe
    (lawful : foundation.Lawful)
    (planned :
      plan foundation interface routes networkPolicy = .ok result)
    (specific :
      ∀ route ∈ routes, route.routeKind = .excluded →
        route.prefixLength ≠ 0) :
    (∀ route ∈ routes, route.endpoint.family = 4 →
      isRoutedToTunnel foundation (route.endpoint.host foundation)
        (result.packetTunnelIncludedRoutes foundation)
        result.excludedRoutes = false) ∧
      (∀ server ∈ networkPolicy.dnsServers,
        isRoutedToTunnel foundation server
          (result.packetTunnelIncludedRoutes foundation)
          result.excludedRoutes = true) ∧
      ∀ route ∈ routes, route.routeKind = .excluded →
        ∃ other ∈ result.packetTunnelIncludedRoutes foundation,
          other.containsRoute foundation route.spec = true := by
  unfold ConfigurationPlan.packetTunnelIncludedRoutes
  rcases planRoutes_ok (plan_ok planned) with
    ⟨policy, hostsOnly⟩ | ⟨_, _, endpoint, isIpv4, sameEndpoint, protects⟩
  · have noExclusions :
        ∀ route ∈ result.excludedRoutes, route.prefixLength ≠ 0 := by
      simp [hostsOnly.excluded]
    refine ⟨fun route member routeIpv4 => ?_, ?_, ?_⟩
    · rw [← Bool.not_eq_true, isRoutedToTunnel_iff,
        admits_rendered lawful (lawful.ipv4Address_host routeIpv4)
          (includedRoutes_parsed lawful hostsOnly.included) noExclusions]
      rintro ⟨spec, isSpec, covered, _⟩
      rw [hostsOnly.included] at isSpec
      obtain ⟨source, sourceMember, rfl⟩ := List.mem_map.mp isSpec
      obtain ⟨_, sameBits⟩ :=
        (IPv4RouteSpec.contains_iff (lawful.ipv4Address_network source)
          (lawful.ipv4Address_host routeIpv4)).mp covered
      have isHost : source.spec.prefixLength = 32 :=
        hostsOnly.hosts source sourceMember
      rw [isHost] at sameBits
      have sameAddress : source.ipv4Network = route.endpoint.ipv4 := by
        simpa using sameBits
      refine hostsOnly.endpoints source sourceMember route member routeIpv4 ?_
      rw [Endpoint.host_eq_text routeIpv4, source.network_eq_text,
        sameAddress]
    · simp [networkPolicy.hostRoutes policy]
    · intro route member isExcluded
      rw [hostsOnly.allIncluded route member] at isExcluded
      cases isExcluded
  · have specificExclusions :=
      protects.specific fun route member =>
        specific route (List.mem_filter.mp member).1
          (of_decide_eq_true (List.mem_filter.mp member).2)
    have parsed := includedRoutes_parsed lawful protects.included
    refine ⟨fun route member _ => ?_, fun server member => ?_,
      fun route member isExcluded => ?_⟩
    · rw [sameEndpoint route member, ← Bool.not_eq_true,
        isRoutedToTunnel_iff,
        admits_rendered lawful (lawful.ipv4Address_host isIpv4) parsed
          specificExclusions]
      exact protects.endpoint_not_admitted lawful isIpv4
    · have admitted := protects.servers server member
      obtain ⟨_, _, covered, _⟩ := admitted
      obtain ⟨_, address, serverParsed⟩ :=
        IPv4RouteSpec.parsed_of_contains covered
      rw [isRoutedToTunnel_iff,
        admits_rendered lawful serverParsed parsed specificExclusions]
      exact protects.servers server member
    · exact containsRoute_rendered lawful (specific route member isExcluded)
        (protects.covered route
          (List.mem_filter.mpr ⟨member, decide_eq_true isExcluded⟩))

end Plan

end Routing

namespace PlanExample

open PlainFoundation (foundation)

def endpoint : Endpoint where
  family := 4
  addressBytes := #v[192, 0, 2, 10, 0, 0, 0, 0, 0, 0, 0, 0, 0, 0, 0, 0]
  port := 11063
  scopeID := 0

def interface : InterfaceMetadata where
  addressBytes := #v[10, 77, 0, 2]
  prefixLength := 30
  transport := .udp
  mtu := 1280
  listen := { endpoint with port := 0 }

/-- A prefix of the peer "home". -/
def route
    (networkBytes : Vector UInt8 4)
    (prefixLength : UInt8)
    (routeKind : MetadataKind) :
    RouteMetadata where
  peerName := "home"
  networkBytes
  prefixLength
  routeKind
  configuredEndpoint := "192.0.2.10:11063"
  endpoint
  persistentKeepalive := 5
  udpRebindAfter := 30
  sessionTimeout := 0

/-- Everything but `10.0.0.0/8`, of which one host is included. -/
def routes : List RouteMetadata :=
  [route #v[10, 0, 0, 1] 32 .included, route #v[0, 0, 0, 0] 0 .included,
    route #v[10, 0, 0, 0] 8 .excluded]

def networkPolicy : NetworkPolicy foundation where
  routePolicy := .fullTunnel
  dnsServers := ["10.0.0.1", "1.1.1.1"]
  normalized := by decide +kernel
  count := by decide
  hostRoutes := by decide
  checked := by decide +kernel

def result : ConfigurationPlan where
  summary :=
    { interface := "10.77.0.2/30"
      transport := "UDP"
      mtu := 1280
      peerCount := 1
      routes := ["10.0.0.1/32", "0.0.0.0/0"]
      directRoutes := ["192.0.2.10/32", "10.0.0.0/8"]
      endpoints := ["192.0.2.10:11063"]
      resolvedEndpoints := ["192.0.2.10:11063"]
      routePolicy := .fullTunnel
      dnsServers := ["10.0.0.1", "1.1.1.1"] }
  includedRoutes := [⟨"10.0.0.1", 32⟩, ⟨"0.0.0.0", 0⟩]
  excludedRoutes := [⟨"192.0.2.10", 32⟩, ⟨"10.0.0.0", 8⟩]
  dnsServers := ["10.0.0.1", "1.1.1.1"]

end PlanExample

/-- A full tunnel with a server inside a wider exclusion. -/
theorem plan_loop_free_and_dns_safe_example :
    (∀ route ∈ PlanExample.routes, route.endpoint.family = 4 →
      isRoutedToTunnel PlainFoundation.foundation
        (route.endpoint.host PlainFoundation.foundation)
        (PlanExample.result.packetTunnelIncludedRoutes
          PlainFoundation.foundation)
        PlanExample.result.excludedRoutes = false) ∧
      (∀ server ∈ PlanExample.networkPolicy.dnsServers,
        isRoutedToTunnel PlainFoundation.foundation server
          (PlanExample.result.packetTunnelIncludedRoutes
            PlainFoundation.foundation)
          PlanExample.result.excludedRoutes = true) ∧
      ∀ route ∈ PlanExample.routes, route.routeKind = .excluded →
        ∃ other ∈
            PlanExample.result.packetTunnelIncludedRoutes
              PlainFoundation.foundation,
          other.containsRoute PlainFoundation.foundation route.spec = true :=
  plan_loop_free_and_dns_safe PlainFoundation.foundation_lawful
    (by decide +kernel :
      plan PlainFoundation.foundation PlanExample.interface
          PlanExample.routes PlanExample.networkPolicy =
        .ok PlanExample.result)
    (by decide)

end HushWire.PacketTunnel

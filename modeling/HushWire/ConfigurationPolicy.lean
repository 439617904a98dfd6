import HushWire.Packet
import HushWire.Library.Checked
import HushWire.Library.LongestMatch
import HushWire.Library.Text
import Mathlib.Data.List.Sort

namespace HushWire.PacketTunnel

/-!
# The policy of the packet tunnel

The Swift side of a packet tunnel: the metadata that the core hands over, the
stored network policy, and the plan of routes and DNS servers that the two
lead to.  `plan` rejects what a policy does not allow, check by check.

Strings of Swift are equal when they are canonically equivalent.  That
relation, the order of strings and the parsers of addresses are taken from
`Foundation`.
-/

open Checked (ensure ensureAll)
open Text (trim)

/-- What is used of the platform's libraries. -/
structure Foundation where
  /-- Strings are equal when their canonical forms are. -/
  canonicalForm : String → String
  /-- The order in which strings are sorted. -/
  sortsBefore : String → String → Bool
  /-- `IPv4Address` of a text. -/
  ipv4Address : String → Option Ipv4Addr
  /-- The description of the `IPv6Address` with the given bytes. -/
  ipv6Description : List UInt8 → Option String

/-- Dotted decimal is parsed. -/
structure Foundation.Lawful (foundation : Foundation) : Prop where
  ipv4Address_dotted :
    ∀ first second third fourth : UInt8,
      foundation.ipv4Address (Ipv4Addr.dotted [first, second, third, fourth]) =
        some (Ipv4Addr.ofOctets first second third fourth)

/-- Equality of strings. -/
def Foundation.equal
    (foundation : Foundation)
    (first second : String) :
    Bool :=
  foundation.canonicalForm first = foundation.canonicalForm second

namespace Foundation

variable {foundation : Foundation} {first second third : String}

theorem equal_symm (same : foundation.equal first second = true) :
    foundation.equal second first = true :=
  decide_eq_true (of_decide_eq_true same).symm

theorem equal_trans
    (same : foundation.equal first second = true)
    (further : foundation.equal second third = true) :
    foundation.equal first third = true :=
  decide_eq_true
    ((of_decide_eq_true same).trans (of_decide_eq_true further))

end Foundation

/-- A list of strings without repetitions, in order. -/
def Foundation.sortedSet
    (foundation : Foundation)
    (strings : List String) :
    List String :=
  (strings.eraseDupsBy foundation.equal).insertionSort fun first second =>
    !foundation.sortsBefore second first

/-- Nothing is added when repetitions are dropped. -/
theorem mem_of_mem_eraseDupsBy
    {α : Type}
    {same : α → α → Bool}
    {value : α} :
    ∀ {values : List α}, value ∈ values.eraseDupsBy same → value ∈ values
  | [], member => member
  | first :: rest, member => by
      rw [List.eraseDupsBy_cons, List.mem_cons] at member
      rcases member with rfl | later
      · exact List.mem_cons_self
      · exact List.mem_cons_of_mem _
          (List.mem_of_mem_filter (mem_of_mem_eraseDupsBy later))
termination_by values => values.length
decreasing_by exact Nat.lt_succ_of_le (List.length_filter_le _ _)

theorem Foundation.mem_of_mem_sortedSet
    {foundation : Foundation}
    {strings : List String}
    {text : String}
    (member : text ∈ foundation.sortedSet strings) :
    text ∈ strings := by
  rw [sortedSet, List.mem_insertionSort] at member
  exact mem_of_mem_eraseDupsBy member

inductive CoreError where
  | abiMismatch (expected actual : UInt32)
  | operation (message : String)
  deriving DecidableEq

inductive TransportKind where
  | udp
  | tcp
  deriving DecidableEq

def TransportKind.title : TransportKind → String
  | .udp => "UDP"
  | .tcp => "TCP"

/-- Whether a route is an allowed or an excluded prefix. -/
inductive MetadataKind where
  | included
  | excluded
  deriving DecidableEq

structure Endpoint where
  family : UInt8
  addressBytes : Vector UInt8 16
  port : UInt16
  scopeID : UInt32
  deriving DecidableEq

structure InterfaceMetadata where
  addressBytes : Vector UInt8 4
  prefixLength : UInt8
  transport : TransportKind
  mtu : UInt16
  listen : Endpoint
  deriving DecidableEq

structure RouteMetadata where
  peerName : String
  networkBytes : Vector UInt8 4
  prefixLength : UInt8
  routeKind : MetadataKind
  configuredEndpoint : String
  endpoint : Endpoint
  persistentKeepalive : UInt16
  udpRebindAfter : UInt16
  sessionTimeout : UInt64
  deriving DecidableEq

namespace InterfaceMetadata

def address (interface : InterfaceMetadata) : String :=
  Ipv4Addr.dotted (interface.addressBytes.toList.take 4)

def cidr (interface : InterfaceMetadata) : String :=
  s!"{interface.address}/{interface.prefixLength}"

end InterfaceMetadata

structure IPv4RouteSpec where
  network : String
  prefixLength : UInt8
  deriving DecidableEq

def IPv4RouteSpec.cidr (route : IPv4RouteSpec) : String :=
  s!"{route.network}/{route.prefixLength}"

namespace RouteMetadata

def network (route : RouteMetadata) : String :=
  Ipv4Addr.dotted (route.networkBytes.toList.take 4)

def cidr (route : RouteMetadata) : String :=
  s!"{route.network}/{route.prefixLength}"

/-- The prefix of the route. -/
def spec (route : RouteMetadata) : IPv4RouteSpec where
  network := route.network
  prefixLength := route.prefixLength

def replacingEndpoint
    (route : RouteMetadata)
    (endpoint : Endpoint) :
    RouteMetadata :=
  { route with endpoint }

end RouteMetadata

inductive RoutePolicy where
  | hostRoutesOnly
  | splitRoutes
  | fullTunnel
  deriving DecidableEq

namespace RoutePolicy

def rawValue : RoutePolicy → String
  | .hostRoutesOnly => "host-routes-only"
  | .splitRoutes => "split-routes-v1"
  | .fullTunnel => "full-tunnel-v1"

def requiresAuthenticatedPreflight (policy : RoutePolicy) : Bool :=
  policy ≠ .hostRoutesOnly

end RoutePolicy

section Foundation

variable (foundation : Foundation)

namespace Endpoint

def host (endpoint : Endpoint) : String :=
  if endpoint.family = 4 then
    Ipv4Addr.dotted (endpoint.addressBytes.toList.take 4)
  else if endpoint.family = 6 then
    (foundation.ipv6Description (endpoint.addressBytes.toList.take 16)).getD
      "::"
  else
    ""

def displayString (endpoint : Endpoint) : String :=
  if endpoint.family = 6 then
    s!"[{endpoint.host foundation}]:{endpoint.port}"
  else
    s!"{endpoint.host foundation}:{endpoint.port}"

end Endpoint

def RouteMetadata.endpointDescription (route : RouteMetadata) : String :=
  let displayString := route.endpoint.displayString foundation
  if foundation.equal route.configuredEndpoint displayString then
    displayString
  else
    s!"{route.configuredEndpoint} → {displayString}"

namespace IPv4RouteSpec

/-- The mask of a prefix length that is at most 32. -/
def mask (prefixLength : UInt8) : Ipv4Addr :=
  if prefixLength = 0 then
    0
  else
    BitVec.allOnes 32 <<< (32 - prefixLength.toNat)

def contains (route : IPv4RouteSpec) (address : String) : Bool :=
  if route.prefixLength ≤ 32 then
    match foundation.ipv4Address route.network,
        foundation.ipv4Address address with
    | some routeValue, some targetValue =>
        routeValue &&& mask route.prefixLength =
          targetValue &&& mask route.prefixLength
    | _, _ => false
  else
    false

def containsRoute (route other : IPv4RouteSpec) : Bool :=
  route.prefixLength ≤ other.prefixLength &&
    route.contains foundation other.network

end IPv4RouteSpec

/-- The longest prefix decides, and an exclusion wins a tie. -/
def isRoutedToTunnel
    (address : String)
    (includedRoutes excludedRoutes : List IPv4RouteSpec) :
    Bool :=
  match
    ((includedRoutes.filter fun route =>
      route.contains foundation address).map fun route =>
        route.prefixLength.toNat).max? with
  | none => false
  | some includedPrefixLength =>
      match
        ((excludedRoutes.filter fun route =>
          route.contains foundation address).map fun route =>
            route.prefixLength.toNat).max? with
      | none => true
      | some excludedPrefixLength =>
          decide (excludedPrefixLength < includedPrefixLength)

/-- The servers after those that were seen, trimmed and without repetitions. -/
def normalizedServers (seen : List String) : List String → List String
  | [] => []
  | rawServer :: rest =>
      let server := trim rawServer
      if server = "" then
        normalizedServers seen rest
      else if seen.any (foundation.equal server) then
        normalizedServers seen rest
      else
        server :: normalizedServers (server :: seen) rest

/-- Normalizing twice is normalizing once. -/
theorem normalizedServers_normalizedServers (seen servers : List String) :
    normalizedServers foundation seen
        (normalizedServers foundation seen servers) =
      normalizedServers foundation seen servers := by
  induction servers generalizing seen with
  | nil =>
      rfl
  | cons rawServer rest inductionHypothesis =>
      by_cases blank : trim rawServer = ""
      · simp only [normalizedServers, blank, ↓reduceIte]
        exact inductionHypothesis seen
      · by_cases repeated : seen.any (foundation.equal (trim rawServer))
        · simp only [normalizedServers, blank, repeated, ↓reduceIte]
          exact inductionHypothesis seen
        · have kept (servers : List String) :
              normalizedServers foundation seen (trim rawServer :: servers) =
                trim rawServer ::
                  normalizedServers foundation (trim rawServer :: seen)
                    servers := by
            simp [normalizedServers, blank, repeated]
          have first :
              normalizedServers foundation seen (rawServer :: rest) =
                trim rawServer ::
                  normalizedServers foundation (trim rawServer :: seen)
                    rest := by
            simp [normalizedServers, blank, repeated]
          rw [first, kept, inductionHypothesis]

/-- A server is the address of a host. -/
def checkServers : List String → Except CoreError Unit
  | [] => .ok ()
  | server :: rest =>
      match foundation.ipv4Address server with
      | none => .error (.operation s!"DNS 服务器必须是 IPv4 地址：{server}")
      | some address =>
          if address.octets[0] ≠ 0 ∧ address.octets[0] < 224 ∧
              address ≠ BitVec.allOnes 32 then
            checkServers rest
          else
            .error (.operation s!"DNS 服务器地址不可用：{server}")

/-- A policy whose servers were normalized and checked. -/
structure NetworkPolicy where
  routePolicy : RoutePolicy
  dnsServers : List String
  normalized : normalizedServers foundation [] dnsServers = dnsServers
  count : dnsServers.length ≤ 4
  hostRoutes : routePolicy = .hostRoutesOnly → dnsServers = []
  checked : checkServers foundation dnsServers = .ok ()
  deriving DecidableEq

namespace NetworkPolicy

def make
    (routePolicy : RoutePolicy)
    (dnsServers : List String) :
    Except CoreError (NetworkPolicy foundation) :=
  let normalized := normalizedServers foundation [] dnsServers
  if count : normalized.length ≤ 4 then
    if hostRoutes : routePolicy = .hostRoutesOnly → normalized = [] then
      match checked : checkServers foundation normalized with
      | .error error => .error error
      | .ok () =>
          .ok
            { routePolicy
              dnsServers := normalized
              normalized := normalizedServers_normalizedServers _ _ _
              count
              hostRoutes
              checked }
    else
      .error (.operation "/32 主机路由模式不会修改 DNS；请清空 DNS 服务器。")
  else
    .error (.operation "DNS 服务器最多允许 4 个。")

/-- The policy that is in force without a configuration. -/
def hostRoutesOnly : NetworkPolicy foundation where
  routePolicy := .hostRoutesOnly
  dnsServers := []
  normalized := rfl
  count := Nat.zero_le 4
  hostRoutes := fun _ => rfl
  checked := rfl

/-- A policy is made from any servers that normalize to its own. -/
theorem make_eq_ok
    {policy : NetworkPolicy foundation}
    {servers : List String}
    (normalizes :
      normalizedServers foundation [] servers = policy.dnsServers) :
    make foundation policy.routePolicy servers = .ok policy := by
  obtain ⟨routePolicy, dnsServers, normalized, count, hostRoutes, checked⟩ :=
    policy
  cases normalizes
  unfold make
  rw [dif_pos count, dif_pos hostRoutes]
  split
  · rename_i error failed
    exact nomatch failed.symm.trans checked
  · rfl

/-- What is made is a policy with the given routes. -/
theorem make_ok
    {routePolicy : RoutePolicy}
    {servers : List String}
    {policy : NetworkPolicy foundation}
    (made : make foundation routePolicy servers = .ok policy) :
    policy.routePolicy = routePolicy ∧
      policy.dnsServers = normalizedServers foundation [] servers := by
  unfold make at made
  dsimp only at made
  split at made
  · split at made
    · split at made
      · cases made
      · cases made
        exact ⟨rfl, rfl⟩
    · cases made
  · cases made

end NetworkPolicy

structure ConfigurationSummary where
  interface : String
  transport : String
  mtu : UInt16
  peerCount : Nat
  routes : List String
  directRoutes : List String
  endpoints : List String
  resolvedEndpoints : List String
  routePolicy : RoutePolicy
  dnsServers : List String
  deriving DecidableEq

structure ConfigurationPlan where
  summary : ConfigurationSummary
  includedRoutes : List IPv4RouteSpec
  excludedRoutes : List IPv4RouteSpec
  dnsServers : List String
  deriving DecidableEq

/-- The routes as they are rendered: the default route is split. -/
def IPv4RouteSpec.rendered (route : IPv4RouteSpec) : List IPv4RouteSpec :=
  if foundation.equal route.network "0.0.0.0" ∧ route.prefixLength = 0 then
    [⟨"0.0.0.0", 1⟩, ⟨"128.0.0.0", 1⟩]
  else
    [route]

def ConfigurationPlan.packetTunnelIncludedRoutes
    (plan : ConfigurationPlan) :
    List IPv4RouteSpec :=
  plan.includedRoutes.flatMap fun route => route.rendered foundation

def maximumSplitRouteCount : Nat := 256

def maximumExcludedRouteCount : Nat := 256

/-- The checks that protect the one endpoint of a configuration. -/
def validateProtectedPolicy
    (interface : InterfaceMetadata)
    (routes : List RouteMetadata)
    (policyName : String) :
    Except CoreError RouteMetadata := do
  ensure
    (((routes.map RouteMetadata.peerName).eraseDupsBy
      foundation.equal).length = 1)
    (.operation s!"{policyName} v1 只接受单 Peer 配置。")
  let route ←
    Checked.require routes.head?
      (.operation s!"{policyName} v1 只接受单 Peer 配置。")
  ensure
    ((∀ other ∈ routes,
        other.endpoint = route.endpoint ∧
          foundation.equal other.configuredEndpoint
            route.configuredEndpoint) ∧
      route.endpoint.family = 4 ∧
      ¬ foundation.equal (route.endpoint.host foundation) "0.0.0.0" ∧
      route.endpoint.port ≠ 0)
    (.operation s!"{policyName} v1 要求单个有效的 IPv4 Peer endpoint。")
  ensure (0 < route.persistentKeepalive)
    (.operation s!"{policyName}必须启用 persistent_keepalive。")
  match interface.transport with
  | .udp =>
      ensure (route.persistentKeepalive < route.udpRebindAfter)
        (.operation
          s!"UDP {policyName}必须设置大于 persistent_keepalive 的 udp_rebind_after。")
  | .tcp =>
      ensure (route.persistentKeepalive.toUInt64 < route.sessionTimeout)
        (.operation
          s!"TCP {policyName}必须启用大于 persistent_keepalive 的 session_timeout。")
  .ok route

/-- Every server is reached through the tunnel. -/
def validateDNS
    (dnsServers : List String)
    (endpoint : String)
    (includedRoutes excludedRoutes : List IPv4RouteSpec) :
    Except CoreError Unit := do
  ensure (¬ dnsServers.any fun server => foundation.equal server endpoint)
    (.operation "DNS 服务器不能与被排除的 Peer endpoint 相同。")
  ensureAll
    (fun server =>
      (includedRoutes.any fun route => route.contains foundation server) =
        true)
    (fun server =>
      .operation
        s!"DNS 服务器 {server} 不在 allowed_ips 内；为避免 DNS 中断，已拒绝配置。")
    dnsServers
  ensureAll
    (fun server =>
      isRoutedToTunnel foundation server includedRoutes excludedRoutes = true)
    (fun server =>
      .operation
        s!"DNS 服务器 {server} 位于 excluded_ips 直连例外内；为避免 DNS 走错路径，已拒绝配置。")
    dnsServers

/-- Longer prefixes come first. -/
def sortedExclusions (routes : List IPv4RouteSpec) : List IPv4RouteSpec :=
  routes.insertionSort fun left right =>
    if left.prefixLength ≠ right.prefixLength then
      right.prefixLength < left.prefixLength
    else
      !foundation.sortsBefore right.network left.network

/-- The exclusions, with the endpoint where it would be captured. -/
def protectedExclusions
    (configuredExclusions : List IPv4RouteSpec)
    (endpoint : String)
    (includedRoutes : List IPv4RouteSpec) :
    Except CoreError (List IPv4RouteSpec) := do
  ensureAll
    (fun exclusion =>
      (includedRoutes.any fun route =>
        route.containsRoute foundation exclusion) = true)
    (fun exclusion =>
      .operation s!"直连例外 {exclusion.cidr} 不在 allowed_ips 内。")
    configuredExclusions
  let exclusions :=
    if isRoutedToTunnel foundation endpoint includedRoutes
        configuredExclusions then
      configuredExclusions ++ [⟨endpoint, 32⟩]
    else
      configuredExclusions
  .ok (sortedExclusions foundation exclusions)

/-- Only single hosts, none of which is an endpoint. -/
def planHostRoutes
    (tunnelRouteMetadata configuredExclusionMetadata : List RouteMetadata) :
    Except CoreError (List IPv4RouteSpec × List IPv4RouteSpec) := do
  ensure (configuredExclusionMetadata = [])
    (.operation "主机路由模式不接受 excluded_ips。")
  ensure (∀ route ∈ tunnelRouteMetadata, route.prefixLength = 32)
    (.operation "主机路由模式只接受 /32，不接受子网或默认路由。")
  let endpointHosts :=
    (tunnelRouteMetadata.filter fun route =>
      route.endpoint.family = 4).map fun route =>
        route.endpoint.host foundation
  ensure
    (¬ tunnelRouteMetadata.any fun route =>
      endpointHosts.any (foundation.equal route.network))
    (.operation "主机路由不能与 Peer endpoint 相同，否则会形成路由环路。")
  .ok (tunnelRouteMetadata.map RouteMetadata.spec, [])

/-- The exclusions and the servers of a policy that protects its endpoint. -/
def planProtected
    (tunnelRouteMetadata configuredExclusionMetadata : List RouteMetadata)
    (endpoint : String)
    (dnsServers : List String) :
    Except CoreError (List IPv4RouteSpec × List IPv4RouteSpec) := do
  let includedRoutes := tunnelRouteMetadata.map RouteMetadata.spec
  let excludedRoutes ←
    protectedExclusions foundation
      (configuredExclusionMetadata.map RouteMetadata.spec) endpoint
      includedRoutes
  validateDNS foundation dnsServers endpoint includedRoutes excludedRoutes
  .ok (includedRoutes, excludedRoutes)

/-- Any prefixes but the default route. -/
def planSplitRoutes
    (interface : InterfaceMetadata)
    (routes tunnelRouteMetadata configuredExclusionMetadata :
      List RouteMetadata)
    (dnsServers : List String) :
    Except CoreError (List IPv4RouteSpec × List IPv4RouteSpec) := do
  ensure (tunnelRouteMetadata.length ≤ maximumSplitRouteCount)
    (.operation
      s!"自定义分流最多接受 {maximumSplitRouteCount} 条 allowed_ips。")
  ensure (∀ route ∈ tunnelRouteMetadata, 0 < route.prefixLength)
    (.operation
      "自定义分流不接受 0.0.0.0/0；如需默认路由请选择默认走隧道。")
  let route ←
    validateProtectedPolicy foundation interface routes "自定义分流"
  planProtected foundation tunnelRouteMetadata configuredExclusionMetadata
    (route.endpoint.host foundation) dnsServers

/-- Exactly one default route, and any other prefixes. -/
def planFullTunnel
    (interface : InterfaceMetadata)
    (routes tunnelRouteMetadata configuredExclusionMetadata :
      List RouteMetadata)
    (dnsServers : List String) :
    Except CoreError (List IPv4RouteSpec × List IPv4RouteSpec) := do
  ensure (tunnelRouteMetadata.length ≤ maximumSplitRouteCount)
    (.operation
      s!"默认隧道最多接受 {maximumSplitRouteCount} 条 allowed_ips。")
  let defaultRoutes :=
    tunnelRouteMetadata.filter fun route =>
      foundation.equal route.network "0.0.0.0" ∧ route.prefixLength = 0
  match defaultRoutes with
  | [route] => do
      let _ ←
        validateProtectedPolicy foundation interface routes "默认隧道"
      planProtected foundation tunnelRouteMetadata
        configuredExclusionMetadata (route.endpoint.host foundation)
        dnsServers
  | _ =>
      .error (.operation
        "默认隧道 v1 要求恰好一条 0.0.0.0/0；更具体的 allowed_ips 可覆盖较宽的 excluded_ips。")

/-- The routes that a policy includes and excludes. -/
def planRoutes
    (interface : InterfaceMetadata)
    (routes : List RouteMetadata)
    (networkPolicy : NetworkPolicy foundation) :
    Except CoreError (List IPv4RouteSpec × List IPv4RouteSpec) :=
  let tunnelRouteMetadata :=
    routes.filter fun route => route.routeKind = .included
  let configuredExclusionMetadata :=
    routes.filter fun route => route.routeKind = .excluded
  match networkPolicy.routePolicy with
  | .hostRoutesOnly =>
      planHostRoutes foundation tunnelRouteMetadata
        configuredExclusionMetadata
  | .splitRoutes =>
      planSplitRoutes foundation interface routes tunnelRouteMetadata
        configuredExclusionMetadata networkPolicy.dnsServers
  | .fullTunnel =>
      planFullTunnel foundation interface routes tunnelRouteMetadata
        configuredExclusionMetadata networkPolicy.dnsServers

/-- The plan of a configuration under a policy. -/
def plan
    (interface : InterfaceMetadata)
    (routes : List RouteMetadata)
    (networkPolicy : NetworkPolicy foundation) :
    Except CoreError ConfigurationPlan := do
  let tunnelRouteMetadata :=
    routes.filter fun route => route.routeKind = .included
  let configuredExclusionMetadata :=
    routes.filter fun route => route.routeKind = .excluded
  ensure (tunnelRouteMetadata ≠ []) (.operation "配置没有 Peer 路由。")
  ensure (interface.listen.port = 0)
    (.operation
      "当前 Packet Tunnel 客户端要求 interface.listen 使用端口 0。")
  ensure
    (∀ route ∈ routes,
      route.endpoint.port ≠ 0 ∧ route.endpoint.host foundation ≠ "")
    (.operation "Peer endpoint 无效。")
  ensure
    (configuredExclusionMetadata.length ≤ maximumExcludedRouteCount)
    (.operation
      s!"直连例外最多接受 {maximumExcludedRouteCount} 条 excluded_ips。")
  let (includedRoutes, excludedRoutes) ←
    planRoutes foundation interface routes networkPolicy
  .ok
    { summary :=
        { interface := interface.cidr
          transport := interface.transport.title
          mtu := interface.mtu
          peerCount :=
            ((routes.map RouteMetadata.peerName).eraseDupsBy
              foundation.equal).length
          routes := tunnelRouteMetadata.map RouteMetadata.cidr
          directRoutes := excludedRoutes.map IPv4RouteSpec.cidr
          endpoints :=
            foundation.sortedSet
              (routes.map fun route => route.endpointDescription foundation)
          resolvedEndpoints :=
            foundation.sortedSet
              (routes.map fun route =>
                route.endpoint.displayString foundation)
          routePolicy := networkPolicy.routePolicy
          dnsServers := networkPolicy.dnsServers }
      includedRoutes
      excludedRoutes
      dnsServers := networkPolicy.dnsServers }

end Foundation

end HushWire.PacketTunnel

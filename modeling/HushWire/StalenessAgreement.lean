import HushWire.Provider
import HushWire.Scheduler

namespace HushWire.PacketTunnel

/-!
# When a peer is stale

The scheduler of the core and the packet tunnel decide on their own after how
much silence a peer is stale.  Over TCP both take the session timeout.  Over
UDP both take `udp_rebind_after`, but where that is zero the scheduler falls
back to the session timeout, and the packet tunnel never calls the peer stale.
-/

open Noise

/-- A session timeout has 16 bits, or is three keepalive intervals. -/
theorem effectiveSessionTimeout_le
    (peer : PeerConfig)
    (transport : TransportConfig) :
    (peer.effectiveSessionTimeout transport).toNat ≤ 3 * 65535 := by
  unfold PeerConfig.effectiveSessionTimeout
  cases peer.sessionTimeout with
  | some timeout =>
      have bound := timeout.toNat_lt
      simp only [UInt16.toNat_toUInt64]
      omega
  | none =>
      have bound := peer.persistentKeepalive.toNat_lt
      have tripled :
          (peer.persistentKeepalive.toUInt64 * 3).toNat ≤ 3 * 65535 := by
        rw [UInt64.toNat_mul, UInt16.toNat_toUInt64]
        refine (Nat.mod_le _ _).trans ?_
        rw [Nat.mul_comm]
        exact Nat.mul_le_mul_left 3 (Nat.le_of_lt_succ bound)
      have isMax :
          max (peer.persistentKeepalive.toUInt64 * 3) 15 =
            if peer.persistentKeepalive.toUInt64 * 3 ≤ 15 then 15
            else peer.persistentKeepalive.toUInt64 * 3 :=
        rfl
      dsimp only
      rw [isMax]
      split
      · split
        · decide
        · exact tripled
      · exact Nat.zero_le _

/-- What the metadata of a route takes over from its peer. -/
structure RouteOf
    (config : Config)
    (peer : PeerConfig)
    (route : RouteMetadata) :
    Prop where
  peerName : route.peerName = peer.name
  udpRebindAfter : route.udpRebindAfter = peer.udpRebindAfter
  sessionTimeout :
    route.sessionTimeout =
      peer.effectiveSessionTimeout config.interface.transport

section Agreement

variable
  {decodeBase64 : String → Option Bytes}
  {toSocketAddrs : String → UInt16 → Except String (List SocketAddr)}
  {config : Config}
  {router : Router}
  {peer : PeerConfig}
  {route : RouteMetadata}

/-- Every route that the core hands over is of a configured peer. -/
theorem exists_routeOf
    (built : Router.new decodeBase64 toSocketAddrs config = .ok router)
    (member : route ∈ visitRoutes router) :
    ∃ peer ∈ config.peer, RouteOf config peer route := by
  have isRouter := Router.new_ok built
  have ofPeer
      {routeKind : MetadataKind}
      {net : Ipv4Net}
      {routed : Peer}
      {peerConfig : PeerConfig}
      (made :
        peerFromConfig decodeBase64 toSocketAddrs peerConfig
          config.interface.transport = .ok routed) :
      RouteOf config peerConfig (visitRoute routeKind net routed) := by
    obtain ⟨_, psk, publicKey, _, _, isPeer⟩ := peerFromConfig_ok made
    rw [isPeer]
    exact ⟨rfl, rfl, rfl⟩
  rcases List.mem_append.mp member with included | excluded
  · obtain ⟨entry, isEntry, rfl⟩ := List.mem_map.mp included
    obtain ⟨peerConfig, configured, made, _⟩ :=
      (isRouter.routes entry).mp isEntry
    exact ⟨peerConfig, configured, ofPeer made⟩
  · obtain ⟨entry, isEntry, rfl⟩ := List.mem_map.mp excluded
    obtain ⟨peerConfig, configured, made, _⟩ :=
      (isRouter.excludedRoutes entry).mp isEntry
    exact ⟨peerConfig, configured, ofPeer made⟩

/-- The metadata under the name of a peer is of that peer. -/
theorem routeOf_of_peerName
    (accepted : config.validate decodeBase64 = .ok ())
    (built : Router.new decodeBase64 toSocketAddrs config = .ok router)
    (configured : peer ∈ config.peer)
    (member : route ∈ visitRoutes router)
    (sameName : route.peerName = peer.name) :
    RouteOf config peer route := by
  obtain ⟨other, otherConfigured, isRoute⟩ := exists_routeOf built member
  have samePeer : other = peer :=
    List.inj_on_of_nodup_map (Config.validate_ok accepted).names
      otherConfigured configured (isRoute.peerName.symm.trans sameName)
  exact samePeer ▸ isRoute

/-- The recovery timeout fits into 64 bits. -/
theorem RouteOf.timeout_le
    (isRoute : RouteOf config peer route)
    (transport : TransportKind) :
    endpointRecoveryTimeoutMilliseconds route transport ≤ u64Max.toNat := by
  have isMax : u64Max.toNat = 18446744073709551615 := rfl
  cases transport with
  | udp =>
      have bound := route.udpRebindAfter.toNat_lt
      simp only [endpointRecoveryTimeoutMilliseconds]
      omega
  | tcp =>
      have bound := effectiveSessionTimeout_le peer config.interface.transport
      simp only [endpointRecoveryTimeoutMilliseconds, isRoute.sessionTimeout]
      omega

end Agreement

/-- The packet tunnel and the scheduler agree on when a peer is stale. -/
structure StalenessAgrees
    (config : Config)
    (peer : PeerConfig)
    (route : RouteMetadata) :
    Prop where
  disabled :
    endpointRecoveryTimeoutMilliseconds route
          (getInterfaceConfig config).transport = 0 ↔
      (ScheduledPeer.ofConfig config.interface.transport peer).recovery = none
  timeout :
    ∀ policy,
      (ScheduledPeer.ofConfig config.interface.transport peer).recovery =
          some policy →
        policy.timeout =
          endpointRecoveryTimeoutMilliseconds route
              (getInterfaceConfig config).transport *
            1000000
  /-- The age that the packet tunnel is given is in milliseconds. -/
  classified :
    ∀ (device : Device) (snow : Snow) (provider : Provider device snow)
      (core : CoreRuntime snow) (clock seen : Instant),
      provider.routeMetadata.find? (fun other =>
          device.foundation.equal other.peerName peer.name) = some route →
      provider.interfaceMetadata = some (getInterfaceConfig config) →
      Provider.lastSeen core device.foundation peer.name clock =
          some (min ((clock - seen) / 1000000) u64Max.toNat) →
      provider.peerIsStale core clock peer.name =
        (ScheduledPeer.ofConfig config.interface.transport peer).recovery.any
          fun policy => recoveryDue clock seen none policy.timeout

/-- A timeout in milliseconds is over when it is in nanoseconds. -/
theorem le_age_iff
    {timeout elapsed : Nat}
    (small : timeout ≤ u64Max.toNat) :
    timeout ≤ min (elapsed / 1000000) u64Max.toNat ↔
      timeout * 1000000 ≤ elapsed := by
  rw [Nat.le_min, and_iff_left small]
  exact Nat.le_div_iff_mul_le (by decide)

/-- Without earlier attempts, the silence is counted from the last packet. -/
theorem recoveryDue_none
    (now lastSeen : Instant)
    (timeout : Nat) :
    recoveryDue now lastSeen none timeout =
      decide (timeout ≤ now - lastSeen) :=
  rfl

/-- The policies agree where both are off, or have the same timeout. -/
theorem StalenessAgrees.of_recovery
    {config : Config}
    {peer : PeerConfig}
    {route : RouteMetadata}
    (isRoute : RouteOf config peer route)
    (rebindUdp : Bool)
    (same :
      (ScheduledPeer.ofConfig config.interface.transport peer).recovery =
        if endpointRecoveryTimeoutMilliseconds route
              (getInterfaceConfig config).transport = 0 then
          none
        else
          some
            { timeout :=
                endpointRecoveryTimeoutMilliseconds route
                    (getInterfaceConfig config).transport *
                  1000000
              rebindUdp }) :
    StalenessAgrees config peer route := by
  generalize isTransport : (getInterfaceConfig config).transport = transport
    at same
  generalize isTimeout :
    endpointRecoveryTimeoutMilliseconds route transport = timeout at same
  have small : timeout ≤ u64Max.toNat := by
    rw [← isTimeout]
    exact isRoute.timeout_le transport
  refine ⟨?_, ?_, ?_⟩
  · rw [isTransport, isTimeout, same]
    split <;> simp_all
  · intro policy isPolicy
    rw [same] at isPolicy
    split at isPolicy
    · cases isPolicy
    · cases isPolicy
      rw [isTransport, isTimeout]
  · intro device snow provider core clock seen found isInterface isAge
    unfold Provider.peerIsStale
    rw [found, isInterface, isAge]
    dsimp only
    rw [isTransport, isTimeout, same]
    by_cases off : timeout = 0
    · simp [off]
    · rw [if_neg off, Option.any_some, recoveryDue_none, decide_eq_decide,
        and_iff_right (Nat.pos_of_ne_zero off)]
      exact le_age_iff small

section Exactly

variable
  {decodeBase64 : String → Option Bytes}
  {toSocketAddrs : String → UInt16 → Except String (List SocketAddr)}
  {config : Config}
  {router : Router}
  {peer : PeerConfig}
  {route : RouteMetadata}

/-- A timeout in seconds, in the units of both sides. -/
theorem fromSecs_eq (seconds : Nat) :
    fromSecs seconds = seconds * 1000 * 1000000 := by
  unfold fromSecs
  omega

/-- Over TCP both sides take the session timeout. -/
theorem stalenessAgrees_of_tcp
    (isRoute : RouteOf config peer route)
    (isTcp : config.interface.transport = .tcp) :
    StalenessAgrees config peer route := by
  refine .of_recovery isRoute false ?_
  have sessionTimeout := isRoute.sessionTimeout
  rw [isTcp] at sessionTimeout
  simp only [ScheduledPeer.ofConfig, recoveryPolicy, getInterfaceConfig, isTcp,
    endpointRecoveryTimeoutMilliseconds, sessionTimeout, reduceCtorEq,
    false_and, ↓reduceIte]
  by_cases positive : 0 < peer.effectiveSessionTimeout .tcp
  · have nonzero : (peer.effectiveSessionTimeout .tcp).toNat * 1000 ≠ 0 :=
      Nat.mul_ne_zero
        (Nat.pos_iff_ne_zero.mp (UInt64.lt_iff_toNat_lt.mp positive))
        (by decide)
    rw [if_pos positive, if_neg nonzero, fromSecs_eq]
  · have isZero : (peer.effectiveSessionTimeout .tcp).toNat = 0 :=
      Nat.eq_zero_of_not_pos fun isPositive =>
        positive (UInt64.lt_iff_toNat_lt.mpr isPositive)
    rw [if_neg positive, isZero, if_pos rfl]

/-- Over UDP both sides take the time after which the socket is rebound. -/
theorem stalenessAgrees_of_rebind
    (isRoute : RouteOf config peer route)
    (isUdp : config.interface.transport = .udp)
    (rebinds : peer.udpRebindAfter ≠ 0) :
    StalenessAgrees config peer route := by
  refine .of_recovery isRoute true ?_
  have nonzero : peer.udpRebindAfter.toNat ≠ 0 := fun isZero =>
    rebinds (UInt16.toNat_inj.mp isZero)
  have positive : 0 < peer.udpRebindAfter :=
    UInt16.lt_iff_toNat_lt.mpr (Nat.pos_of_ne_zero nonzero)
  simp only [ScheduledPeer.ofConfig, recoveryPolicy, getInterfaceConfig, isUdp,
    endpointRecoveryTimeoutMilliseconds, isRoute.udpRebindAfter, positive,
    and_self, ↓reduceIte]
  rw [if_neg (Nat.mul_ne_zero nonzero (by decide)), fromSecs_eq]

/-- A peer that does not rebind over UDP recovers by its session timeout. -/
theorem recovery_of_udp
    (isUdp : config.interface.transport = .udp)
    (noRebind : peer.udpRebindAfter = 0) :
    (ScheduledPeer.ofConfig config.interface.transport peer).recovery =
      (peer.sessionTimeout.filter (0 < ·)).map fun timeout =>
        { timeout := fromSecs timeout.toNat, rebindUdp := false } := by
  have noPolicy : ¬(0 : UInt16) < 0 := UInt16.lt_irrefl 0
  simp only [ScheduledPeer.ofConfig, recoveryPolicy, isUdp, noRebind, noPolicy,
    and_false, ↓reduceIte, PeerConfig.effectiveSessionTimeout, reduceCtorEq,
    false_and]
  cases peer.sessionTimeout with
  | none =>
      rfl
  | some timeout =>
      have widened : 0 < timeout.toUInt64 ↔ 0 < timeout := by
        rw [UInt64.lt_iff_toNat_lt, UInt16.toNat_toUInt64,
          UInt16.lt_iff_toNat_lt]
        rfl
      by_cases positive : 0 < timeout
      · simp [positive, widened.mpr positive]
      · rw [if_neg (mt widened.mp positive), Option.filter_some,
          if_neg (mt of_decide_eq_true positive), Option.map_none]

/--
The packet tunnel and the scheduler agree on when a peer is stale unless the
peer has a session timeout over UDP and does not rebind.
-/
theorem staleness_agrees_iff
    (accepted : config.validate decodeBase64 = .ok ())
    (built : Router.new decodeBase64 toSocketAddrs config = .ok router)
    (configured : peer ∈ config.peer)
    (member : route ∈ visitRoutes router)
    (sameName : route.peerName = peer.name) :
    StalenessAgrees config peer route ↔
      ¬(config.interface.transport = .udp ∧
        peer.udpRebindAfter = 0 ∧
        ∃ timeout, peer.sessionTimeout = some timeout ∧ 0 < timeout) := by
  have isRoute :=
    routeOf_of_peerName accepted built configured member sameName
  constructor
  · rintro agrees ⟨isUdp, noRebind, timeout, isTimeout, positive⟩
    have recovers := recovery_of_udp isUdp noRebind
    rw [isTimeout, Option.filter_some, if_pos (decide_eq_true positive)]
      at recovers
    have noTimeout :
        endpointRecoveryTimeoutMilliseconds route
            (getInterfaceConfig config).transport = 0 := by
      simp [endpointRecoveryTimeoutMilliseconds, getInterfaceConfig, isUdp,
        isRoute.udpRebindAfter, noRebind]
    rw [agrees.disabled.mp noTimeout] at recovers
    cases recovers
  · intro noGap
    cases isTransport : config.interface.transport with
    | tcp => exact stalenessAgrees_of_tcp isRoute isTransport
    | udp =>
        by_cases noRebind : peer.udpRebindAfter = 0
        · have noTimeout : peer.sessionTimeout.filter (0 < ·) = none := by
            rw [Option.filter_eq_none_iff]
            intro timeout isTimeout positive
            exact
              noGap ⟨isTransport, noRebind, timeout, isTimeout,
                of_decide_eq_true positive⟩
          refine .of_recovery isRoute false ?_
          rw [recovery_of_udp isTransport noRebind, noTimeout]
          simp [endpointRecoveryTimeoutMilliseconds, getInterfaceConfig,
            isTransport, isRoute.udpRebindAfter, noRebind]
        · exact stalenessAgrees_of_rebind isRoute isTransport noRebind

end Exactly

namespace SessionOnlyExample

/-- A peer that recovers by a fresh session, and never rebinds. -/
def lan : PeerConfig where
  __ := RouteExample.lan
  udpRebindAfter := 0
  sessionTimeout := some 20

def config : Config where
  __ := RouteExample.config
  peer := [lan, RouteExample.exit]

def router : Router :=
  (Router.new RouteExample.decodeBase64 RouteExample.toSocketAddrs
    config).toOption.getD ⟨[], []⟩

/-- The metadata of the first prefix of a peer called `lan`. -/
def lanRoute (udpRebindAfter : UInt16) (sessionTimeout : UInt64) :
    RouteMetadata where
  peerName := "lan"
  networkBytes := Ipv4Addr.octets 0x0a000000
  prefixLength := 8
  routeKind := .included
  configuredEndpoint := "192.0.2.10:11063"
  endpoint := endpointToFfi ⟨.v4 0xc000020a, 11063⟩
  persistentKeepalive := 5
  udpRebindAfter
  sessionTimeout

theorem accepted :
    config.validate RouteExample.decodeBase64 = .ok () ∧
      Router.new RouteExample.decodeBase64 RouteExample.toSocketAddrs config =
        .ok router ∧
      lanRoute 0 20 ∈ visitRoutes router :=
  ⟨by decide +kernel, by decide +kernel, by decide +kernel⟩

end SessionOnlyExample

/-- A peer that rebinds after 30 seconds. -/
theorem staleness_agrees_iff_example :
    StalenessAgrees RouteExample.config RouteExample.lan
      (SessionOnlyExample.lanRoute 30 0) :=
  (staleness_agrees_iff RouteExample.installed.1 RouteExample.installed.2.1
    List.mem_cons_self (by decide +kernel) rfl).mpr
    fun gap => absurd gap.2.1 (by decide)

/-- The scheduler has a timeout of 20 seconds, and the packet tunnel none. -/
theorem staleness_agrees_counterexample :
    SessionOnlyExample.config.validate RouteExample.decodeBase64 = .ok () ∧
      Router.new RouteExample.decodeBase64 RouteExample.toSocketAddrs
          SessionOnlyExample.config = .ok SessionOnlyExample.router ∧
      SessionOnlyExample.lanRoute 0 20 ∈
        visitRoutes SessionOnlyExample.router ∧
      (ScheduledPeer.ofConfig .udp SessionOnlyExample.lan).recovery =
        some { timeout := fromSecs 20, rebindUdp := false } ∧
      endpointRecoveryTimeoutMilliseconds (SessionOnlyExample.lanRoute 0 20)
        (getInterfaceConfig SessionOnlyExample.config).transport = 0 ∧
      ¬StalenessAgrees SessionOnlyExample.config SessionOnlyExample.lan
        (SessionOnlyExample.lanRoute 0 20) := by
  obtain ⟨validated, built, member⟩ := SessionOnlyExample.accepted
  refine ⟨validated, built, member, rfl, rfl, ?_⟩
  intro agrees
  have off := agrees.disabled.mp rfl
  cases off

end HushWire.PacketTunnel

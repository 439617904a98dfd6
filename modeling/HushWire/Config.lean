import HushWire.Packet
import HushWire.Library.Checked
import HushWire.Library.Text

namespace HushWire

/-!
# Configuration

A configuration and its validation, check by check in the order in which the
checks are made.  `Config.validate_ok` collects what holds of an accepted one.

Decoding base64 is a parameter.
-/

open Checked (ensure require bind_eq_ok ensure_eq_ok require_eq_ok)
open Text (trim)

inductive TransportConfig where
  | udp
  | tcp
  deriving DecidableEq

structure InterfaceConfig where
  name : String
  address : Ipv4Net
  listen : SocketAddr
  transport : TransportConfig
  mtu : UInt16
  privateKey : String

structure GatewayConfig where
  lanInterface : String
  tcpMss : Option UInt16

structure PeerConfig where
  name : String
  endpoint : PeerEndpoint
  allowedIps : List Ipv4Net
  excludedIps : List Ipv4Net
  psk : String
  publicKey : String
  persistentKeepalive : UInt16
  udpRebindAfter : UInt16
  sessionTimeout : Option UInt16

structure Config where
  interface : InterfaceConfig
  gateway : Option GatewayConfig
  peer : List PeerConfig

inductive ConfigError where
  | emptyInterfaceName
  | emptyPeerName
  | duplicatePeerName (peer : String)
  | duplicatePeerPsk (first second : String)
  | duplicatePeerPublicKey (first second : String)
  | peerWithoutAllowedIps (peer : String)
  | duplicateExcludedIp (peer : String) (net : Ipv4Net)
  | excludedIpNotCovered (peer : String) (net : Ipv4Net)
  | excludedDefaultRoute (peer : String)
  | mtuTooSmall (mtu : UInt16)
  | emptyGatewayLanInterface
  | invalidGatewayInterfaceName (interface : String)
  | identicalGatewayInterfaces (interface : String)
  | gatewayMssOutOfRange (mss minimum maximum mtu : UInt16)
  | invalidPsk (peer : String)
  | invalidPublicKey (peer : String)
  | invalidPrivateKey
  | udpRebindRequiresUdp (peer : String)
  | udpRebindRequiresKeepalive (peer : String)
  | udpRebindTooSoon (peer : String) (rebindAfter keepalive : UInt16)
  | sessionTimeoutRequiresKeepalive (peer : String)
  | sessionTimeoutTooSoon (peer : String) (timeout keepalive : UInt16)
  deriving DecidableEq

/-- The text of an error. -/
def ConfigError.message : ConfigError → String
  | .emptyInterfaceName => "interface name cannot be empty"
  | .emptyPeerName => "peer name cannot be empty"
  | .duplicatePeerName peer => s!"duplicate peer name: {peer}"
  | .duplicatePeerPsk first second =>
      s!"peers {first} and {second} use the same psk; " ++
        "every peer must have unique credentials"
  | .duplicatePeerPublicKey first second =>
      s!"peers {first} and {second} use the same public_key; " ++
        "every peer must have a unique static identity"
  | .peerWithoutAllowedIps peer => s!"peer {peer} has no allowed_ips"
  | .duplicateExcludedIp peer net =>
      s!"peer {peer} contains duplicate excluded_ips entry {net.text}"
  | .excludedIpNotCovered peer net =>
      s!"peer {peer} excludes {net.text}, " ++
        "but no allowed_ips entry covers it"
  | .excludedDefaultRoute peer => s!"peer {peer} cannot exclude 0.0.0.0/0"
  | .mtuTooSmall mtu => s!"mtu must be at least 576, got {mtu}"
  | .emptyGatewayLanInterface => "gateway lan_interface cannot be empty"
  | .invalidGatewayInterfaceName interface =>
      "gateway interface name is not a valid Linux interface name: " ++
        interface
  | .identicalGatewayInterfaces interface =>
      "gateway lan_interface and tunnel interface must differ: " ++ interface
  | .gatewayMssOutOfRange mss minimum maximum mtu =>
      s!"gateway tcp_mss {mss} is outside the safe range " ++
        s!"{minimum}..={maximum} for tunnel MTU {mtu}"
  | .invalidPsk peer =>
      s!"peer {peer} has an invalid psk: must be base64-encoded 32 bytes"
  | .invalidPublicKey peer =>
      s!"peer {peer} has an invalid public_key: " ++
        "must be base64-encoded 32 bytes"
  | .invalidPrivateKey =>
      "interface has an invalid private_key: must be base64-encoded 32 bytes"
  | .udpRebindRequiresUdp peer =>
      s!"peer {peer} sets udp_rebind_after, " ++
        "but the interface transport is not UDP"
  | .udpRebindRequiresKeepalive peer =>
      s!"peer {peer} sets udp_rebind_after, " ++
        "but persistent_keepalive is disabled"
  | .udpRebindTooSoon peer rebindAfter keepalive =>
      s!"peer {peer} udp_rebind_after ({rebindAfter}s) must be greater " ++
        s!"than persistent_keepalive ({keepalive}s)"
  | .sessionTimeoutRequiresKeepalive peer =>
      s!"peer {peer} sets session_timeout, " ++
        "but persistent_keepalive is disabled"
  | .sessionTimeoutTooSoon peer timeout keepalive =>
      s!"peer {peer} session_timeout ({timeout}s) must be greater " ++
        s!"than persistent_keepalive ({keepalive}s)"

/--
The session timeout in force: by default, three keepalive intervals over TCP.
-/
def PeerConfig.effectiveSessionTimeout
    (peer : PeerConfig)
    (transport : TransportConfig) :
    UInt64 :=
  match peer.sessionTimeout with
  | some timeout => timeout.toUInt64
  | none =>
      if transport = .tcp ∧ 0 < peer.persistentKeepalive then
        max (peer.persistentKeepalive.toUInt64 * 3) 15
      else
        0

/--
Between one and fifteen bytes, each an ASCII letter, digit or one of `_-.`;
the bytes of any other character are not ASCII.
-/
def isValidLinuxInterfaceName (name : String) : Bool :=
  name ≠ "" && name.utf8ByteSize ≤ 15 &&
    name.toList.all fun character =>
      character.isAlphanum || character = '_' || character = '-' ||
        character = '.'

section Validation

variable (decodeBase64 : String → Option Bytes)

/-- Decode 32 bytes of base64. -/
def decodeKey (key : String) : Option Key :=
  (decodeBase64 key).bind Key.ofBytes?

def decodePsk (psk : String) : Option Key :=
  decodeKey decodeBase64 psk

/-- The checks of a forwarding gateway. -/
def GatewayConfig.validate
    (gateway : GatewayConfig)
    (interface : InterfaceConfig) :
    Except ConfigError Unit := do
  let lanInterface := trim gateway.lanInterface
  ensure (lanInterface ≠ "") .emptyGatewayLanInterface
  ensure (isValidLinuxInterfaceName interface.name)
    (.invalidGatewayInterfaceName interface.name)
  ensure (isValidLinuxInterfaceName lanInterface)
    (.invalidGatewayInterfaceName lanInterface)
  ensure (lanInterface ≠ interface.name)
    (.identicalGatewayInterfaces lanInterface)
  match gateway.tcpMss with
  | none => .ok ()
  | some mss =>
      let maximum := interface.mtu - 40
      let minimum := 536
      ensure (minimum ≤ mss ∧ mss ≤ maximum)
        (.gatewayMssOutOfRange mss minimum maximum interface.mtu)

/-- A gateway is checked where one is configured. -/
def GatewayConfig.validateOptional
    (gateway : Option GatewayConfig)
    (interface : InterfaceConfig) :
    Except ConfigError Unit :=
  match gateway with
  | none => .ok ()
  | some gateway => gateway.validate interface

/-- An allowed prefix contains the whole of another prefix. -/
def PeerConfig.covers (peer : PeerConfig) (net : Ipv4Net) : Bool :=
  peer.allowedIps.any fun allowed =>
    allowed.prefixLen ≤ net.prefixLen && allowed.contains net.network

/-- The checks of the exclusions after those that were seen. -/
def PeerConfig.validateExclusions
    (peer : PeerConfig)
    (seen : List Ipv4Net) :
    List Ipv4Net → Except ConfigError Unit
  | [] => .ok ()
  | net :: rest => do
      ensure (net.prefixLen ≠ 0) (.excludedDefaultRoute peer.name)
      ensure (net ∉ seen) (.duplicateExcludedIp peer.name net)
      ensure (peer.covers net) (.excludedIpNotCovered peer.name net)
      peer.validateExclusions (net :: seen) rest

/-- The checks of `udp_rebind_after`. -/
def PeerConfig.validateUdpRebind
    (peer : PeerConfig)
    (transport : TransportConfig) :
    Except ConfigError Unit :=
  if 0 < peer.udpRebindAfter then do
    ensure (transport = .udp) (.udpRebindRequiresUdp peer.name)
    ensure (peer.persistentKeepalive ≠ 0)
      (.udpRebindRequiresKeepalive peer.name)
    ensure (peer.persistentKeepalive < peer.udpRebindAfter)
      (.udpRebindTooSoon peer.name peer.udpRebindAfter
        peer.persistentKeepalive)
  else
    .ok ()

/-- The checks of `session_timeout`. -/
def PeerConfig.validateSessionTimeout
    (peer : PeerConfig) :
    Except ConfigError Unit :=
  match peer.sessionTimeout.filter (0 < ·) with
  | none => .ok ()
  | some timeout => do
      ensure (peer.persistentKeepalive ≠ 0)
        (.sessionTimeoutRequiresKeepalive peer.name)
      ensure (peer.persistentKeepalive < timeout)
        (.sessionTimeoutTooSoon peer.name timeout peer.persistentKeepalive)

/-- The names and the credentials of the peers seen so far. -/
structure SeenPeers where
  names : List String
  psks : List (Key × String)
  publicKeys : List (Key × String)

/-- Fail with the owner of a credential that was seen. -/
def ensureUnseen
    (seen : List (Key × String))
    (key : Key)
    (error : String → ConfigError) :
    Except ConfigError Unit :=
  match seen.lookup key with
  | none => .ok ()
  | some first => .error (error first)

/-- The checks of a peer after those that were seen. -/
def SeenPeers.validatePeer
    (seen : SeenPeers)
    (transport : TransportConfig)
    (peer : PeerConfig) :
    Except ConfigError SeenPeers := do
  ensure (trim peer.name ≠ "") .emptyPeerName
  ensure (peer.name ∉ seen.names) (.duplicatePeerName peer.name)
  ensure (peer.allowedIps ≠ []) (.peerWithoutAllowedIps peer.name)
  peer.validateExclusions [] peer.excludedIps
  let psk ← require (decodePsk decodeBase64 peer.psk) (.invalidPsk peer.name)
  ensureUnseen seen.psks psk fun first =>
    .duplicatePeerPsk first peer.name
  let publicKey ←
    require (decodeKey decodeBase64 peer.publicKey)
      (.invalidPublicKey peer.name)
  ensureUnseen seen.publicKeys publicKey fun first =>
    .duplicatePeerPublicKey first peer.name
  peer.validateUdpRebind transport
  peer.validateSessionTimeout
  .ok
    { names := peer.name :: seen.names
      psks := (psk, peer.name) :: seen.psks
      publicKeys := (publicKey, peer.name) :: seen.publicKeys }

/-- The checks of the peers, in their order. -/
def SeenPeers.validatePeers
    (seen : SeenPeers)
    (transport : TransportConfig) :
    List PeerConfig → Except ConfigError Unit
  | [] => .ok ()
  | peer :: rest => do
      let seen ← seen.validatePeer decodeBase64 transport peer
      seen.validatePeers transport rest

def Config.validate (config : Config) : Except ConfigError Unit := do
  ensure (trim config.interface.name ≠ "") .emptyInterfaceName
  ensure (576 ≤ config.interface.mtu) (.mtuTooSmall config.interface.mtu)
  GatewayConfig.validateOptional config.gateway config.interface
  let _ ←
    require (decodeKey decodeBase64 config.interface.privateKey)
      .invalidPrivateKey
  SeenPeers.validatePeers decodeBase64 ⟨[], [], []⟩
    config.interface.transport config.peer

end Validation

section Accepted

/-- What the checks of one peer establish. -/
structure PeerConfig.Valid
    (decodeBase64 : String → Option Bytes)
    (transport : TransportConfig)
    (peer : PeerConfig) :
    Prop where
  name : trim peer.name ≠ ""
  allowedIps : peer.allowedIps ≠ []
  excludedIps : peer.excludedIps.Nodup
  notDefault : ∀ net ∈ peer.excludedIps, net.prefixLen ≠ 0
  covered : ∀ net ∈ peer.excludedIps, peer.covers net = true
  psk : (decodePsk decodeBase64 peer.psk).isSome
  publicKey : (decodeKey decodeBase64 peer.publicKey).isSome
  udpRebind :
    0 < peer.udpRebindAfter →
      transport = .udp ∧ peer.persistentKeepalive ≠ 0 ∧
        peer.persistentKeepalive < peer.udpRebindAfter
  sessionTimeout :
    ∀ timeout, peer.sessionTimeout = some timeout →
      0 < timeout →
      peer.persistentKeepalive ≠ 0 ∧ peer.persistentKeepalive < timeout

/-- What the checks of a configuration establish of its peers. -/
structure Config.Valid
    (decodeBase64 : String → Option Bytes)
    (config : Config) :
    Prop where
  peers :
    ∀ peer ∈ config.peer,
      peer.Valid decodeBase64 config.interface.transport
  names : (config.peer.map PeerConfig.name).Nodup
  psks :
    (config.peer.map fun peer => decodePsk decodeBase64 peer.psk).Nodup
  publicKeys :
    (config.peer.map fun peer =>
      decodeKey decodeBase64 peer.publicKey).Nodup

variable {decodeBase64 : String → Option Bytes}

/-- The exclusions are distinct, specific and covered. -/
theorem PeerConfig.validateExclusions_eq_ok
    {peer : PeerConfig}
    {seen nets : List Ipv4Net}
    {result : Unit} :
    peer.validateExclusions seen nets = .ok result ↔
      (∀ net ∈ nets,
        net.prefixLen ≠ 0 ∧ net ∉ seen ∧ peer.covers net = true) ∧
      nets.Nodup := by
  induction nets generalizing seen with
  | nil =>
      simp [PeerConfig.validateExclusions]
  | cons net rest inductionHypothesis =>
      simp only [PeerConfig.validateExclusions, bind_eq_ok, ensure_eq_ok,
        exists_const, inductionHypothesis, List.nodup_cons]
      constructor
      · rintro ⟨notDefault, unseen, covered, others, distinct⟩
        refine ⟨List.forall_mem_cons.mpr ⟨⟨notDefault, unseen, covered⟩, ?_⟩,
          ?_, distinct⟩
        · intro other member
          obtain ⟨otherNotDefault, otherUnseen, otherCovered⟩ :=
            others other member
          exact ⟨otherNotDefault,
            fun earlier => otherUnseen (List.mem_cons_of_mem _ earlier),
            otherCovered⟩
        · intro repeated
          exact (others net repeated).2.1 List.mem_cons_self
      · rintro ⟨each, fresh, distinct⟩
        obtain ⟨⟨notDefault, unseen, covered⟩, others⟩ :=
          List.forall_mem_cons.mp each
        refine ⟨notDefault, unseen, covered, ?_, distinct⟩
        intro other member
        obtain ⟨otherNotDefault, otherUnseen, otherCovered⟩ :=
          others other member
        refine ⟨otherNotDefault, ?_, otherCovered⟩
        intro earlier
        rcases List.mem_cons.mp earlier with rfl | beforeNet
        · exact fresh member
        · exact otherUnseen beforeNet

theorem PeerConfig.validateUdpRebind_ok
    {peer : PeerConfig}
    {transport : TransportConfig}
    {result : Unit}
    (accepted : peer.validateUdpRebind transport = .ok result)
    (set : 0 < peer.udpRebindAfter) :
    transport = .udp ∧ peer.persistentKeepalive ≠ 0 ∧
      peer.persistentKeepalive < peer.udpRebindAfter := by
  simpa only [PeerConfig.validateUdpRebind, set, ↓reduceIte, bind_eq_ok,
    ensure_eq_ok, exists_const] using accepted

theorem PeerConfig.validateSessionTimeout_ok
    {peer : PeerConfig}
    {timeout : UInt16}
    {result : Unit}
    (accepted : peer.validateSessionTimeout = .ok result)
    (set : peer.sessionTimeout = some timeout)
    (positive : 0 < timeout) :
    peer.persistentKeepalive ≠ 0 ∧ peer.persistentKeepalive < timeout := by
  simpa only [PeerConfig.validateSessionTimeout, set, Option.filter_some,
    positive, decide_true, ↓reduceIte, bind_eq_ok, ensure_eq_ok,
    exists_const] using accepted

/-- An accepted credential was not seen. -/
theorem ensureUnseen_eq_ok
    {seen : List (Key × String)}
    {key : Key}
    {error : String → ConfigError}
    {result : Unit} :
    ensureUnseen seen key error = .ok result ↔ key ∉ seen.map Prod.fst := by
  unfold ensureUnseen
  cases found : seen.lookup key with
  | none =>
      have unseen := List.lookup_eq_none_iff.mp found
      refine iff_of_true rfl fun member => ?_
      obtain ⟨entry, entryMember, rfl⟩ := List.mem_map.mp member
      exact absurd (unseen entry entryMember) (by simp)
  | some owner =>
      obtain ⟨before, after, rfl, _⟩ := List.lookup_eq_some_iff.mp found
      exact iff_of_false (by simp) fun unseen => unseen (by simp)

/-- What an accepted peer adds to the peers seen. -/
theorem SeenPeers.validatePeer_ok
    {seen seen' : SeenPeers}
    {transport : TransportConfig}
    {peer : PeerConfig}
    (accepted :
      seen.validatePeer decodeBase64 transport peer = .ok seen') :
    peer.Valid decodeBase64 transport ∧
      ∃ psk publicKey,
        decodePsk decodeBase64 peer.psk = some psk ∧
        decodeKey decodeBase64 peer.publicKey = some publicKey ∧
        peer.name ∉ seen.names ∧
        psk ∉ seen.psks.map Prod.fst ∧
        publicKey ∉ seen.publicKeys.map Prod.fst ∧
        seen' =
          { names := peer.name :: seen.names
            psks := (psk, peer.name) :: seen.psks
            publicKeys := (publicKey, peer.name) :: seen.publicKeys } := by
  simp only [SeenPeers.validatePeer, bind_eq_ok, ensure_eq_ok,
    require_eq_ok, exists_const, ensureUnseen_eq_ok,
    PeerConfig.validateExclusions_eq_ok] at accepted
  obtain ⟨named, newName, allowed, ⟨exclusions, distinct⟩, psk, pskDecoded,
    newPsk, publicKey, keyDecoded, newKey, _, udpRebind, _, sessionTimeout,
    added⟩ := accepted
  constructor
  · exact
      { name := named
        allowedIps := allowed
        excludedIps := distinct
        notDefault := fun net member => (exclusions net member).1
        covered := fun net member => (exclusions net member).2.2
        psk := by simp [pskDecoded]
        publicKey := by simp [keyDecoded]
        udpRebind := PeerConfig.validateUdpRebind_ok udpRebind
        sessionTimeout := fun _ set positive =>
          PeerConfig.validateSessionTimeout_ok sessionTimeout set positive }
  · exact ⟨psk, publicKey, pskDecoded, keyDecoded, newName, newPsk, newKey,
      (Except.ok.inj added).symm⟩

/-- The accepted peers are valid, and new to the peers seen. -/
theorem SeenPeers.validatePeers_ok
    {seen : SeenPeers}
    {transport : TransportConfig}
    {peers : List PeerConfig}
    {result : Unit}
    (accepted :
      seen.validatePeers decodeBase64 transport peers = .ok result) :
    (∀ peer ∈ peers,
      peer.Valid decodeBase64 transport ∧
        peer.name ∉ seen.names ∧
        (∀ psk ∈ seen.psks.map Prod.fst,
          decodePsk decodeBase64 peer.psk ≠ some psk) ∧
        ∀ publicKey ∈ seen.publicKeys.map Prod.fst,
          decodeKey decodeBase64 peer.publicKey ≠ some publicKey) ∧
      (peers.map PeerConfig.name).Nodup ∧
      (peers.map fun peer => decodePsk decodeBase64 peer.psk).Nodup ∧
      (peers.map fun peer => decodeKey decodeBase64 peer.publicKey).Nodup := by
  induction peers generalizing seen with
  | nil =>
      simp
  | cons peer rest inductionHypothesis =>
      rw [SeenPeers.validatePeers, bind_eq_ok] at accepted
      obtain ⟨seen', acceptedPeer, acceptedRest⟩ := accepted
      obtain ⟨valid, psk, publicKey, pskDecoded, keyDecoded, newName, newPsk,
        newKey, rfl⟩ := SeenPeers.validatePeer_ok acceptedPeer
      obtain ⟨others, names, psks, publicKeys⟩ :=
        inductionHypothesis acceptedRest
      simp only [List.map_cons, List.nodup_cons]
      refine ⟨List.forall_mem_cons.mpr ⟨⟨valid, newName, ?_, ?_⟩, ?_⟩,
        ⟨?_, names⟩, ⟨?_, psks⟩, ?_, publicKeys⟩
      · rintro earlier member same
        rw [pskDecoded] at same
        exact newPsk (Option.some.inj same ▸ member)
      · rintro earlier member same
        rw [keyDecoded] at same
        exact newKey (Option.some.inj same ▸ member)
      · intro other member
        obtain ⟨otherValid, otherName, otherPsk, otherKey⟩ :=
          others other member
        exact ⟨otherValid,
          fun earlier => otherName (List.mem_cons_of_mem _ earlier),
          fun earlier found => otherPsk earlier
            (List.mem_cons_of_mem _ found),
          fun earlier found => otherKey earlier
            (List.mem_cons_of_mem _ found)⟩
      · intro repeated
        obtain ⟨other, member, same⟩ := List.mem_map.mp repeated
        exact (others other member).2.1 (same ▸ List.mem_cons_self)
      · intro repeated
        obtain ⟨other, member, same⟩ := List.mem_map.mp repeated
        exact (others other member).2.2.1 psk List.mem_cons_self
          (same.trans pskDecoded)
      · intro repeated
        obtain ⟨other, member, same⟩ := List.mem_map.mp repeated
        exact (others other member).2.2.2 publicKey List.mem_cons_self
          (same.trans keyDecoded)

/-- An accepted configuration is valid. -/
theorem Config.validate_ok
    {config : Config}
    (accepted : config.validate decodeBase64 = .ok ()) :
    config.Valid decodeBase64 := by
  simp only [Config.validate, bind_eq_ok] at accepted
  obtain ⟨_, _, _, _, _, _, _, _, accepted⟩ := accepted
  obtain ⟨peers, names, psks, publicKeys⟩ :=
    SeenPeers.validatePeers_ok accepted
  exact
    { peers := fun peer member => (peers peer member).1
      names
      psks
      publicKeys }

end Accepted

end HushWire

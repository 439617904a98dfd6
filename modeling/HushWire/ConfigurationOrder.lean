import Mathlib.Data.List.Perm.Basic
import HushWire.Config

namespace HushWire

/-!
# Configurations in another order

Two configurations are reorderings of each other if their peers are the same
up to their order and that of their prefixes.  Validation compares every peer
with all others, so it accepts either both configurations or neither.
-/

open Checked (bind_eq_ok ensure_eq_ok require_eq_ok)
open Text (trim)

/-- The same peer, with its prefixes in another order. -/
structure PeerConfig.Reordered (first second : PeerConfig) : Prop where
  same :
    second =
      { first with
        allowedIps := second.allowedIps
        excludedIps := second.excludedIps }
  allowedIps : first.allowedIps.Perm second.allowedIps
  excludedIps : first.excludedIps.Perm second.excludedIps

/-- The same configuration, with its peers and prefixes in another order. -/
structure Config.Reordered (first second : Config) : Prop where
  interface : second.interface = first.interface
  gateway : second.gateway = first.gateway
  peer :
    ∃ peers,
      List.Forall₂ PeerConfig.Reordered first.peer peers ∧
      peers.Perm second.peer

namespace PeerConfig.Reordered

variable {first second : PeerConfig}

theorem refl (peer : PeerConfig) : peer.Reordered peer where
  same := rfl
  allowedIps := List.Perm.refl _
  excludedIps := List.Perm.refl _

theorem symm (reordered : first.Reordered second) :
    second.Reordered first where
  same := by rw [reordered.same]
  allowedIps := reordered.allowedIps.symm
  excludedIps := reordered.excludedIps.symm

theorem name_eq (reordered : first.Reordered second) :
    second.name = first.name := by
  rw [reordered.same]

theorem psk_eq (reordered : first.Reordered second) :
    second.psk = first.psk := by
  rw [reordered.same]

theorem publicKey_eq (reordered : first.Reordered second) :
    second.publicKey = first.publicKey := by
  rw [reordered.same]

theorem endpoint_eq (reordered : first.Reordered second) :
    second.endpoint = first.endpoint := by
  rw [reordered.same]

end PeerConfig.Reordered

/-- Peer by peer, the allowed prefixes are in another order. -/
theorem allowedIps_perm_of_forall₂
    {peers others : List PeerConfig}
    (each : List.Forall₂ PeerConfig.Reordered peers others) :
    (peers.flatMap PeerConfig.allowedIps).Perm
      (others.flatMap PeerConfig.allowedIps) := by
  induction each with
  | nil =>
      exact List.Perm.refl _
  | cons same _ inductionHypothesis =>
      exact same.allowedIps.append inductionHypothesis

/-- Peer by peer, each is one of the others. -/
theorem exists_reordered_of_mem
    {peers others : List PeerConfig}
    (each : List.Forall₂ PeerConfig.Reordered peers others)
    {peer : PeerConfig}
    (member : peer ∈ peers) :
    ∃ other ∈ others, peer.Reordered other := by
  induction each with
  | nil =>
      cases member
  | cons same _ inductionHypothesis =>
      rcases List.mem_cons.mp member with rfl | later
      · exact ⟨_, List.mem_cons_self, same⟩
      · obtain ⟨other, isOther, sameOther⟩ := inductionHypothesis later
        exact ⟨other, List.mem_cons_of_mem _ isOther, sameOther⟩

namespace Config.Reordered

variable {first second : Config}

theorem symm (reordered : first.Reordered second) :
    second.Reordered first where
  interface := reordered.interface.symm
  gateway := reordered.gateway.symm
  peer := by
    obtain ⟨peers, each, permuted⟩ := reordered.peer
    have back : List.Forall₂ PeerConfig.Reordered peers first.peer :=
      (each.imp fun _ _ => PeerConfig.Reordered.symm).flip
    exact List.perm_comp_forall₂ permuted.symm back

/-- Every peer is one of the other configuration. -/
theorem exists_peer
    (reordered : first.Reordered second)
    {peer : PeerConfig}
    (member : peer ∈ first.peer) :
    ∃ other ∈ second.peer, peer.Reordered other := by
  obtain ⟨peers, each, permuted⟩ := reordered.peer
  obtain ⟨other, isOther, same⟩ := exists_reordered_of_mem each member
  exact ⟨other, permuted.mem_iff.mp isOther, same⟩

/-- What is read off the peers is read off them in another order. -/
theorem map_perm
    (reordered : first.Reordered second)
    {Value : Type}
    {field : PeerConfig → Value}
    (same :
      ∀ peer other : PeerConfig,
        peer.Reordered other → field other = field peer) :
    (first.peer.map field).Perm (second.peer.map field) := by
  obtain ⟨peers, each, permuted⟩ := reordered.peer
  have sameFields : first.peer.map field = peers.map field :=
    List.forall₂_eq_eq_eq ▸
      List.forall₂_map_left_iff.mpr
        (List.forall₂_map_right_iff.mpr
          (each.imp fun peer other sameFirst =>
            (same peer other sameFirst).symm))
  exact sameFields ▸ permuted.map field

/-- The allowed prefixes of all peers are in another order. -/
theorem allowedIps_perm (reordered : first.Reordered second) :
    (first.peer.flatMap PeerConfig.allowedIps).Perm
      (second.peer.flatMap PeerConfig.allowedIps) := by
  obtain ⟨peers, each, permuted⟩ := reordered.peer
  exact (allowedIps_perm_of_forall₂ each).trans (permuted.flatMap_right _)

/-- A peer is moved to the front. -/
theorem moveFront
    (config : Config)
    {before after : List PeerConfig}
    {peer : PeerConfig}
    (isPeer : config.peer = before ++ peer :: after) :
    config.Reordered { config with peer := peer :: (before ++ after) } where
  interface := rfl
  gateway := rfl
  peer :=
    ⟨config.peer, List.forall₂_same.mpr fun peer _ => .refl peer,
      isPeer ▸ List.perm_middle⟩

end Config.Reordered

section Acceptance

variable {decodeBase64 : String → Option Bytes}

/-- The checks of a valid peer succeed where its credentials are new. -/
theorem SeenPeers.validatePeer_of_valid
    {seen : SeenPeers}
    {transport : TransportConfig}
    {peer : PeerConfig}
    {psk publicKey : Key}
    (valid : peer.Valid decodeBase64 transport)
    (pskDecoded : decodePsk decodeBase64 peer.psk = some psk)
    (keyDecoded : decodeKey decodeBase64 peer.publicKey = some publicKey)
    (newName : peer.name ∉ seen.names)
    (newPsk : psk ∉ seen.psks.map Prod.fst)
    (newKey : publicKey ∉ seen.publicKeys.map Prod.fst) :
    seen.validatePeer decodeBase64 transport peer =
      .ok
        { names := peer.name :: seen.names
          psks := (psk, peer.name) :: seen.psks
          publicKeys := (publicKey, peer.name) :: seen.publicKeys } := by
  have exclusions :
      ∀ net ∈ peer.excludedIps,
        net.prefixLen ≠ 0 ∧ net ∉ ([] : List Ipv4Net) ∧
          peer.covers net = true :=
    fun net member => ⟨valid.notDefault net member, List.not_mem_nil,
      valid.covered net member⟩
  have udpRebind : peer.validateUdpRebind transport = .ok () := by
    unfold PeerConfig.validateUdpRebind
    split
    next set =>
      obtain ⟨isUdp, keepalive, later⟩ := valid.udpRebind set
      simp only [bind_eq_ok, ensure_eq_ok]
      exact ⟨(), isUdp, (), keepalive, later⟩
    next =>
      rfl
  have sessionTimeout : peer.validateSessionTimeout = .ok () := by
    unfold PeerConfig.validateSessionTimeout
    split
    next =>
      rfl
    next timeout set =>
      obtain ⟨isTimeout, positive⟩ := Option.filter_eq_some_iff.mp set
      obtain ⟨keepalive, later⟩ :=
        valid.sessionTimeout timeout isTimeout (by simpa using positive)
      simp only [bind_eq_ok, ensure_eq_ok]
      exact ⟨(), keepalive, later⟩
  simp only [SeenPeers.validatePeer, bind_eq_ok, ensure_eq_ok,
    require_eq_ok, exists_const, ensureUnseen_eq_ok,
    PeerConfig.validateExclusions_eq_ok]
  exact ⟨valid.name, newName, valid.allowedIps,
    ⟨exclusions, valid.excludedIps⟩, psk, pskDecoded, newPsk, publicKey,
    keyDecoded, newKey, (), udpRebind, (), sessionTimeout, rfl⟩

/-- Valid peers with new and distinct credentials are accepted. -/
theorem SeenPeers.validatePeers_of_valid
    {seen : SeenPeers}
    {transport : TransportConfig}
    {peers : List PeerConfig}
    (valid : ∀ peer ∈ peers, peer.Valid decodeBase64 transport)
    (names : (seen.names ++ peers.map PeerConfig.name).Nodup)
    (psks :
      ((seen.psks.map fun entry => some entry.1) ++
        peers.map fun peer => decodePsk decodeBase64 peer.psk).Nodup)
    (publicKeys :
      ((seen.publicKeys.map fun entry => some entry.1) ++
        peers.map fun peer =>
          decodeKey decodeBase64 peer.publicKey).Nodup) :
    seen.validatePeers decodeBase64 transport peers = .ok () := by
  induction peers generalizing seen with
  | nil =>
      rfl
  | cons peer rest inductionHypothesis =>
      obtain ⟨validPeer, validRest⟩ := List.forall_mem_cons.mp valid
      obtain ⟨psk, pskDecoded⟩ := Option.isSome_iff_exists.mp validPeer.psk
      obtain ⟨publicKey, keyDecoded⟩ :=
        Option.isSome_iff_exists.mp validPeer.publicKey
      rw [List.map_cons] at names psks publicKeys
      rw [pskDecoded] at psks
      rw [keyDecoded] at publicKeys
      have newName : peer.name ∉ seen.names :=
        fun earlier => List.disjoint_of_nodup_append names earlier
          List.mem_cons_self
      have newPsk : psk ∉ seen.psks.map Prod.fst := by
        intro earlier
        obtain ⟨entry, isEntry, rfl⟩ := List.mem_map.mp earlier
        exact List.disjoint_of_nodup_append psks
          (List.mem_map.mpr ⟨entry, isEntry, rfl⟩) List.mem_cons_self
      have newKey : publicKey ∉ seen.publicKeys.map Prod.fst := by
        intro earlier
        obtain ⟨entry, isEntry, rfl⟩ := List.mem_map.mp earlier
        exact List.disjoint_of_nodup_append publicKeys
          (List.mem_map.mpr ⟨entry, isEntry, rfl⟩) List.mem_cons_self
      rw [SeenPeers.validatePeers, bind_eq_ok]
      refine ⟨_, SeenPeers.validatePeer_of_valid validPeer pskDecoded
        keyDecoded newName newPsk newKey, ?_⟩
      exact inductionHypothesis validRest
        (List.perm_middle.nodup_iff.mp names)
        (List.perm_middle.nodup_iff.mp psks)
        (List.perm_middle.nodup_iff.mp publicKeys)

/-- A peer is valid whatever the order of its prefixes. -/
theorem PeerConfig.Valid.reordered
    {transport : TransportConfig}
    {first second : PeerConfig}
    (valid : first.Valid decodeBase64 transport)
    (reordered : first.Reordered second) :
    second.Valid decodeBase64 transport := by
  have excluded (net : Ipv4Net) :
      net ∈ second.excludedIps ↔ net ∈ first.excludedIps :=
    reordered.excludedIps.symm.mem_iff
  exact
    { name := reordered.name_eq ▸ valid.name
      allowedIps := fun isEmpty =>
        valid.allowedIps (reordered.allowedIps.trans (isEmpty ▸ .refl _)).eq_nil
      excludedIps := reordered.excludedIps.nodup_iff.mp valid.excludedIps
      notDefault := fun net member =>
        valid.notDefault net ((excluded net).mp member)
      covered := fun net member => by
        obtain ⟨allowed, isAllowed, covers⟩ :=
          List.any_eq_true.mp (valid.covered net ((excluded net).mp member))
        exact List.any_eq_true.mpr
          ⟨allowed, reordered.allowedIps.mem_iff.mp isAllowed, covers⟩
      psk := reordered.psk_eq ▸ valid.psk
      publicKey := reordered.publicKey_eq ▸ valid.publicKey
      udpRebind := by
        rw [reordered.same]
        exact valid.udpRebind
      sessionTimeout := by
        rw [reordered.same]
        exact valid.sessionTimeout }

/-- Validation does not depend on the order of the peers and prefixes. -/
theorem Config.validate_reordered
    {first second : Config}
    (reordered : first.Reordered second)
    (accepted : first.validate decodeBase64 = .ok ()) :
    second.validate decodeBase64 = .ok () := by
  have valid := Config.validate_ok accepted
  simp only [Config.validate, bind_eq_ok] at accepted ⊢
  rw [reordered.interface, reordered.gateway]
  obtain ⟨named, isNamed, mtu, isMtu, gateway, isGateway, key, isKey, _⟩ :=
    accepted
  refine ⟨named, isNamed, mtu, isMtu, gateway, isGateway, key, isKey, ?_⟩
  refine SeenPeers.validatePeers_of_valid ?_ ?_ ?_ ?_
  · intro peer member
    obtain ⟨other, isOther, same⟩ := reordered.symm.exists_peer member
    exact (valid.peers other isOther).reordered same.symm
  · exact
      (reordered.map_perm fun _ _ same => same.name_eq).nodup_iff.mp
        valid.names
  · exact
      (reordered.map_perm fun _ _ same => congrArg _ same.psk_eq).nodup_iff.mp
        valid.psks
  · exact
      (reordered.map_perm fun _ _ same =>
        congrArg _ same.publicKey_eq).nodup_iff.mp valid.publicKeys

end Acceptance

end HushWire

import HushWire.Library.KnownKeys
import HushWire.SchedulerSteps
import HushWire.TunnelWorkers

namespace HushWire

open Noise

/-!
# State for configured peers only

Whatever arrives, sessions, handshakes, statistics and resolved endpoints are
kept under the names of configured peers, so there is at most one of each kind
for every peer: nothing that is received makes the state grow any further.
-/

variable {snow : Snow} {known : Finset PeerName}

namespace SessionState

/-- State is kept for known peers only. -/
structure Within
    (state : SessionState snow)
    (known : Finset PeerName) :
    Prop where
  sessions : state.sessions.Within known
  previousSessions : state.previousSessions.Within known
  responderCandidates : state.responderCandidates.Within known
  pendingInit : state.pendingInit.Within known
  responderCache : state.responderCache.Within known
  inboundRecoveryPreference : state.inboundRecoveryPreference ⊆ known

namespace Within

variable {state : SessionState snow} {peerName : PeerName}

theorem new : (SessionState.new : SessionState snow).Within known where
  sessions := .empty
  previousSessions := .empty
  responderCandidates := .empty
  pendingInit := .empty
  responderCache := .empty
  inboundRecoveryPreference := Finset.empty_subset known

theorem installActiveSession
    (within : state.Within known)
    (isKnown : peerName ∈ known)
    (session : Session snow) :
    (state.installActiveSession peerName session).Within known := by
  have preference :
      state.inboundRecoveryPreference.erase peerName ⊆ known :=
    (Finset.erase_subset _ _).trans within.inboundRecoveryPreference
  unfold SessionState.installActiveSession
  cases state.sessions.lookup peerName with
  | none =>
      exact
        { within with
          sessions := within.sessions.insert isKnown session
          inboundRecoveryPreference := preference }
  | some previous =>
      exact
        { within with
          sessions := within.sessions.insert isKnown session
          previousSessions := within.previousSessions.insert isKnown previous
          inboundRecoveryPreference := preference }

theorem dropExpiredSession
    (within : state.Within known)
    (peerName : PeerName)
    (now : Instant) :
    (state.dropExpiredSession peerName now).Within known := by
  unfold SessionState.dropExpiredSession
  split
  · exact within
  · split
    · exact { within with sessions := within.sessions.erase peerName }
    · exact within

theorem dropExpiredPending
    (within : state.Within known)
    (peerName : PeerName)
    (time : Instant) :
    (state.dropExpiredPending peerName time).Within known := by
  unfold SessionState.dropExpiredPending
  split
  · exact within
  · split
    · exact { within with pendingInit := within.pendingInit.erase peerName }
    · exact within

theorem dropExpiredCandidate
    (within : state.Within known)
    (peerName : PeerName)
    (now : Instant) :
    (state.dropExpiredCandidate peerName now).Within known := by
  unfold SessionState.dropExpiredCandidate
  split
  · exact within
  · split
    · exact
        { within with
          responderCandidates := within.responderCandidates.erase peerName
          responderCache := within.responderCache.erase peerName }
    · exact within

theorem dropExpired (within : state.Within known) (now : Instant) :
    (state.dropExpired now).Within known :=
  { within with
    sessions := within.sessions.retain _
    previousSessions := within.previousSessions.retain _
    responderCandidates := within.responderCandidates.retain _ }

/-- Only for a known peer there is a session to encrypt with. -/
theorem encryptForPeer
    (within : state.Within known)
    (peerName : PeerName)
    (msgType : Auth.MsgType)
    (payload : Bytes)
    (now : Instant) :
    (∀ frame,
      (state.encryptForPeer peerName msgType payload now).1 =
          .ok (some frame) →
        peerName ∈ known) ∧
      (state.encryptForPeer peerName msgType payload now).2.Within known := by
  have retained : (state.dropExpiredPrevious now).Within known :=
    { within with previousSessions := within.previousSessions.retain _ }
  have dropped := retained.dropExpiredSession peerName now
  unfold SessionState.encryptForPeer
  dsimp only
  split
  · exact ⟨fun _ isOk => (by cases isOk), dropped⟩
  next session isStored =>
    have isKnown := dropped.sessions.of_lookup isStored
    exact
      ⟨fun _ _ => isKnown,
        { dropped with sessions := dropped.sessions.insert isKnown _ }⟩

/-- A result that was mapped was a result. -/
theorem eq_ok_of_map
    {Error Value Result : Type}
    {source : Except Error Value}
    {continuation : Value → Result}
    {result : Result}
    (isOk : source.map continuation = .ok result) :
    ∃ value, source = .ok value ∧ continuation value = result := by
  cases source with
  | error error => cases isOk
  | ok value => exact ⟨value, rfl, Except.ok.inj isOk⟩

/-- What is opened is from a known peer. -/
theorem decryptTransport
    (within : state.Within known)
    (sessionId : SessionId)
    (counter : UInt64)
    (ciphertext : Bytes)
    (now : Instant) :
    (∀ decrypted,
      (state.decryptTransport sessionId counter ciphertext now).1 =
          .ok (some decrypted) →
        decrypted.peerName ∈ known) ∧
      (state.decryptTransport sessionId counter ciphertext now).2.Within
        known := by
  have dropped := within.dropExpired now
  unfold SessionState.decryptTransport
  dsimp only
  split
  next _ peerName session isFound =>
    have isKnown := dropped.sessions.of_findFirst? isFound
    refine
      ⟨fun decrypted isOk => ?_,
        { dropped with sessions := dropped.sessions.insert isKnown _ }⟩
    obtain ⟨⟨msgType, payload⟩, -, isOpened⟩ := eq_ok_of_map isOk
    cases isOpened
    exact isKnown
  next =>
    split
    next _ peerName session isFound =>
      have isKnown := dropped.previousSessions.of_findFirst? isFound
      refine
        ⟨fun decrypted isOk => ?_,
          { dropped with
            previousSessions := dropped.previousSessions.insert isKnown _ }⟩
      obtain ⟨⟨msgType, payload⟩, -, isOpened⟩ := eq_ok_of_map isOk
      cases isOpened
      exact isKnown
    next =>
      split
      · exact ⟨fun _ isOk => (by cases isOk), dropped⟩
      next _ peerName session isFound =>
        have isKnown := dropped.responderCandidates.of_findFirst? isFound
        split
        · exact
            ⟨fun _ isOk => (by cases isOk),
              { dropped with
                responderCandidates :=
                  dropped.responderCandidates.insert isKnown _ }⟩
        next msgType payload opened _ =>
          have removed :
              ({ state.dropExpired now with
                 responderCandidates :=
                   (state.dropExpired now).responderCandidates.erase
                     peerName } : SessionState snow).Within known :=
            { dropped with
              responderCandidates :=
                dropped.responderCandidates.erase peerName }
          have installed := removed.installActiveSession isKnown opened
          refine ⟨fun decrypted isOk => ?_, ?_⟩
          · cases isOk
            exact isKnown
          · exact
              { installed with
                pendingInit := installed.pendingInit.erase peerName
                responderCache := installed.responderCache.erase peerName }

theorem acceptInboundInitiation
    (within : state.Within known)
    (peerName : PeerName)
    (remoteHandshakeId : SessionId)
    (passivePeer : Bool)
    (clock : Instant) :
    (state.acceptInboundInitiation peerName remoteHandshakeId passivePeer
      clock).2.Within known := by
  have dropped := within.dropExpiredPending peerName clock
  have pendingInit := dropped.pendingInit.erase peerName
  unfold SessionState.acceptInboundInitiation
  dsimp only
  split
  · exact
      { dropped with
        inboundRecoveryPreference :=
          (Finset.erase_subset _ _).trans dropped.inboundRecoveryPreference
        pendingInit }
  · split
    · exact dropped
    · split
      · exact dropped
      · exact { dropped with pendingInit }

theorem cachedResponderResponse
    (within : state.Within known)
    (peerName : PeerName)
    (handshakeId : SessionId)
    (request : Bytes)
    (clock : Instant) :
    (state.cachedResponderResponse peerName handshakeId request
      clock).2.Within known := by
  unfold SessionState.cachedResponderResponse
  split
  · exact within
  · split
    · exact
        { within with
          responderCache := within.responderCache.erase peerName
          responderCandidates := within.responderCandidates.erase peerName }
    · split <;> exact within

theorem storeResponderCandidate
    (within : state.Within known)
    (isKnown : peerName ∈ known)
    (session : Session snow)
    (handshakeId : SessionId)
    (request response : Bytes)
    (clock : Instant) :
    (state.storeResponderCandidate peerName session handshakeId request
      response clock).2.Within known := by
  unfold SessionState.storeResponderCandidate
  split
  · exact within
  · exact
      { within with
        pendingInit := within.pendingInit.erase peerName
        responderCandidates :=
          within.responderCandidates.insert isKnown session
        responderCache := within.responderCache.insert isKnown _ }

theorem answerInitiation
    (within : state.Within known)
    (isKnown : peerName ∈ known)
    (handshake : ResponderHandshake snow)
    (handshakeId : SessionId)
    (message : Bytes)
    (passivePeer : Bool)
    (clock : Instant) :
    (state.answerInitiation peerName handshake handshakeId message passivePeer
      clock).2.Within known := by
  have accepted :=
    within.acceptInboundInitiation peerName handshakeId passivePeer clock
  have looked :=
    accepted.cachedResponderResponse peerName handshakeId message clock
  unfold SessionState.answerInitiation
  dsimp only
  split
  · exact accepted
  · split
    · exact looked
    · exact looked.storeResponderCandidate isKnown _ _ _ _ _

theorem startHandshake
    (within : state.Within known)
    (isKnown : peerName ∈ known)
    (localStatic remoteStaticPub psk : Key)
    (draw : Draw snow)
    (now : Instant) :
    (state.startHandshake peerName localStatic remoteStaticPub psk draw
      now).2.Within known := by
  unfold SessionState.startHandshake
  split
  · exact within
  · exact
      { within with pendingInit := within.pendingInit.insert isKnown _ }

theorem startOrRetryHandshake
    (within : state.Within known)
    (isKnown : peerName ∈ known)
    (localStatic remoteStaticPub psk : Key)
    (draw : Draw snow)
    (now : Instant) :
    (state.startOrRetryHandshake peerName localStatic remoteStaticPub psk draw
      now).2.Within known := by
  have pruned := within.dropExpiredPending peerName now
  have uncached := pruned.dropExpiredCandidate peerName now
  have dropped := uncached.dropExpiredSession peerName now
  have started :=
    dropped.startHandshake isKnown localStatic remoteStaticPub psk draw now
  unfold SessionState.startOrRetryHandshake
  dsimp only
  split
  · split
    · exact pruned
    · exact
        { pruned with pendingInit := pruned.pendingInit.insert isKnown _ }
  · split
    · exact uncached
    · split
      · exact started
      · split
        · exact started
        · exact dropped

/-- Only the handshake of a known peer completes. -/
theorem finalizeInitiator
    (within : state.Within known)
    (handshakeId : SessionId)
    (response : Bytes)
    (clock : Instant) :
    (∀ completed,
      (state.finalizeInitiator handshakeId response clock).1 =
          .ok (some completed) →
        completed.1 ∈ known) ∧
      (state.finalizeInitiator handshakeId response clock).2.Within known := by
  unfold SessionState.finalizeInitiator
  split
  · exact ⟨fun _ isOk => (by cases isOk), within⟩
  next _ peerName pending isFound =>
    have isKnown := within.pendingInit.of_findFirst? isFound
    have removed :
        ({ state with
           pendingInit := state.pendingInit.erase peerName } :
          SessionState snow).Within known :=
      { within with pendingInit := within.pendingInit.erase peerName }
    dsimp only
    split
    · exact ⟨fun _ isOk => (by cases isOk), removed⟩
    · split
      · exact ⟨fun _ isOk => (by cases isOk), removed⟩
      · split
        · exact ⟨fun _ isOk => (by cases isOk), removed⟩
        next confirmation session _ =>
          have installed := removed.installActiveSession isKnown session
          refine ⟨fun completed isOk => ?_, ?_⟩
          · cases isOk
            exact isKnown
          · exact
              { installed with
                responderCandidates :=
                  installed.responderCandidates.erase peerName
                responderCache := installed.responderCache.erase peerName }

theorem invalidatePeer
    (within : state.Within known)
    (isKnown : peerName ∈ known) :
    (state.invalidatePeer peerName).2.Within known where
  sessions := within.sessions.erase peerName
  previousSessions := within.previousSessions.erase peerName
  responderCandidates := within.responderCandidates.erase peerName
  pendingInit := within.pendingInit.erase peerName
  responderCache := within.responderCache.erase peerName
  inboundRecoveryPreference :=
    Finset.insert_subset isKnown within.inboundRecoveryPreference

end Within

/-- The frames of a result are for a known peer. -/
theorem framesFor_known
    {peerName : PeerName}
    {result : Except (NoiseError snow) (Option Bytes)}
    (isKnown : ∀ frame, result = .ok (some frame) → peerName ∈ known) :
    ∀ sent ∈ framesFor peerName result, sent.1 ∈ known := by
  unfold framesFor
  split
  next frame =>
    intro sent member
    cases List.mem_singleton.mp member
    exact isKnown frame rfl
  · exact List.forall_mem_nil _

end SessionState

/-- State is created for known peers only. -/
def Operation.Names (operation : Operation snow) (known : Finset PeerName) :
    Prop :=
  match operation with
  | .start peerName _ _ _ _ _ => peerName ∈ known
  | .answer peerName _ _ _ _ _ => peerName ∈ known
  | .invalidate peerName => peerName ∈ known
  | .encrypt _ _ _ _ | .decrypt _ _ _ _ | .finalize _ _ _ => True

namespace SessionState

variable {state : SessionState snow}

/-- An operation keeps to known peers, also with the frames it produces. -/
theorem Within.operate
    {operation : Operation snow}
    (within : state.Within known)
    (names : operation.Names known) :
    (∀ sent ∈ (state.operate operation).1, sent.1 ∈ known) ∧
      (state.afterOperation operation).Within known := by
  cases operation with
  | encrypt peerName msgType payload now =>
      obtain ⟨sends, after⟩ :=
        within.encryptForPeer peerName msgType payload now
      exact ⟨framesFor_known sends, after⟩
  | decrypt sessionId counter ciphertext now =>
      exact
        ⟨List.forall_mem_nil _,
          (within.decryptTransport sessionId counter ciphertext now).2⟩
  | start peerName localStatic remoteStaticPub psk draw now =>
      exact
        ⟨framesFor_known fun _ _ => names,
          within.startOrRetryHandshake names _ _ _ draw now⟩
  | answer peerName handshake handshakeId message passivePeer clock =>
      exact
        ⟨framesFor_known fun _ _ => names,
          within.answerInitiation names handshake handshakeId message
            passivePeer clock⟩
  | finalize handshakeId response clock =>
      obtain ⟨completes, after⟩ :=
        within.finalizeInitiator handshakeId response clock
      refine ⟨fun sent member => ?_, after⟩
      simp only [SessionState.operate, Prod.map_fst] at member
      split at member
      next completed isCompleted =>
        rw [List.mem_singleton.mp member]
        exact completes completed isCompleted
      · cases member
  | invalidate peerName =>
      exact ⟨List.forall_mem_nil _, within.invalidatePeer names⟩

/-- So do all operations of a call. -/
theorem Within.operations
    {operations : List (Operation snow)}
    (within : state.Within known)
    (names : ∀ operation ∈ operations, operation.Names known) :
    (∀ sent ∈ state.framesOf operations, sent.1 ∈ known) ∧
      (state.afterOperations operations).Within known := by
  induction operations generalizing state with
  | nil =>
      exact ⟨List.forall_mem_nil _, within⟩
  | cons operation rest inductionHypothesis =>
      obtain ⟨sends, after⟩ := within.operate (names operation (.head _))
      obtain ⟨sendsLater, afterAll⟩ :=
        inductionHypothesis after fun later member =>
          names later (.tail _ member)
      refine ⟨fun sent member => ?_, afterAll⟩
      rcases List.mem_append.mp member with isFirst | isLater
      · exact sends sent isFirst
      · exact sendsLater sent isLater

end SessionState

/-- The peers to which there is a route. -/
def Router.peerNames (router : Router) : Finset PeerName :=
  (router.routes.map fun route => route.peer.name).toFinset

theorem Router.mem_peerNames
    {router : Router}
    {route : Route}
    (isRoute : route ∈ router.routes) :
    route.peer.name ∈ router.peerNames :=
  List.mem_toFinset.mpr (List.mem_map_of_mem isRoute)

/-- Who is named to be invalidated or to have been sent to is known. -/
def EngineCall.Names (call : EngineCall snow) (known : Finset PeerName) :
    Prop :=
  match call with
  | .invalidatePeer peerName => peerName ∈ known
  | .recordTransportSent peerName _ => peerName ∈ known
  | _ => True

namespace Engine

/-- An engine that routes to known peers and keeps state for no others. -/
structure Within (engine : Engine snow) (known : Finset PeerName) : Prop where
  routed : engine.router.peerNames ⊆ known
  sessions : engine.sessions.Within known
  peers : engine.peers.Within known
  resolvedEndpoints : engine.resolvedEndpoints.Within known

variable {engine : Engine snow} {call : EngineCall snow}

/-- A peer that is found is routed to. -/
theorem mem_peerNames_of_peer
    {peerName : PeerName}
    {peer : Peer}
    (isPeer : engine.peer peerName = some peer) :
    peer.name ∈ engine.router.peerNames := by
  obtain ⟨route, isRoute, rfl⟩ := Option.map_eq_some_iff.mp isPeer
  exact Router.mem_peerNames (List.mem_of_find?_eq_some isRoute)

/-- Only the endpoint of a known peer is updated. -/
theorem Within.updated
    {peerName : PeerName}
    {endpoint : SocketAddr}
    (within : engine.Within known)
    (isUpdated :
      (engine.updateResolvedEndpoint peerName endpoint).1.toOption =
        some true) :
    peerName ∈ known := by
  unfold updateResolvedEndpoint at isUpdated
  split at isUpdated
  · cases isUpdated
  · split at isUpdated
    · cases isUpdated
    next peer isPeer =>
      rw [← name_of_peer isPeer]
      exact within.routed (mem_peerNames_of_peer isPeer)

theorem initiateOperations_names
    {peer : Peer}
    (isKnown : peer.name ∈ known)
    (draw : Draw snow)
    (now : Instant) :
    ∀ operation ∈ engine.initiateOperations peer draw now,
      operation.Names known := by
  unfold initiateOperations
  split
  · exact List.forall_mem_singleton.mpr isKnown
  · exact List.forall_mem_nil _

theorem outboundOperations_names
    {peer : Peer}
    (isKnown : peer.name ∈ known)
    (msgType : Auth.MsgType)
    (payload : Bytes)
    (draw : Draw snow)
    (now : Instant) :
    ∀ operation ∈
        engine.outboundOperations peer msgType payload draw now,
      operation.Names known := by
  intro operation member
  rcases List.mem_append.mp member with first | isInitiate
  · rcases List.mem_append.mp first with isEncrypt | isInvalidate
    · cases List.mem_singleton.mp isEncrypt
      trivial
    · split at isInvalidate
      · cases List.mem_singleton.mp isInvalidate
        exact isKnown
      · cases isInvalidate
  · exact initiateOperations_names isKnown draw now operation isInitiate

/-- Whatever packet is received, it is answered for a known peer. -/
theorem Within.inboundOperations_names
    (within : engine.Within known)
    (draws : PeerName → Draw snow)
    (now clock : Instant)
    (packet : Auth.ParsedPacket) :
    ∀ operation ∈ engine.inboundOperations draws now clock packet,
      operation.Names known := by
  intro operation member
  cases packet with
  | transport sessionId counter ciphertext =>
      rcases List.mem_append.mp member with isDecrypt | isAcknowledge
      · cases List.mem_singleton.mp isDecrypt
        trivial
      · unfold acknowledgeOperations at isAcknowledge
        split at isAcknowledge
        · split at isAcknowledge
          · cases List.mem_singleton.mp isAcknowledge
            trivial
          · cases isAcknowledge
        · cases isAcknowledge
  | handshake kind handshakeId message =>
      cases kind with
      | transport =>
          cases member
      | handshakeResponse =>
          cases List.mem_singleton.mp member
          trivial
      | handshakeInit =>
          unfold inboundOperations at member
          dsimp only at member
          split at member
          · cases member
          next peerName handshake isDecoded =>
            cases List.mem_singleton.mp member
            obtain ⟨route, isRoute, rfl, -⟩ :=
              decodeHandshakeInitFrom_some isDecoded
            exact within.routed (Router.mem_peerNames isRoute)

/-- The operations of a call create state for known peers only. -/
theorem Within.operations_names
    (within : engine.Within known)
    (names : call.Names known) :
    ∀ operation ∈ engine.operations call, operation.Names known := by
  have isKnown
      {peerName : PeerName}
      {peer : Peer}
      (isPeer : engine.peer peerName = some peer) :
      peer.name ∈ known :=
    within.routed (mem_peerNames_of_peer isPeer)
  cases call with
  | processOutboundIp packet draw now =>
      unfold operations
      dsimp only
      split
      · exact List.forall_mem_nil _
      · split
        · exact List.forall_mem_nil _
        next route isRoute =>
          have isRouted :=
            Router.mem_peerNames (List.mem_of_find?_eq_some isRoute)
          exact
            outboundOperations_names (within.routed isRouted) _ packet draw
              now
  | processInboundTransport frame source draws now clock =>
      unfold operations
      dsimp only
      split
      · exact List.forall_mem_nil _
      · exact within.inboundOperations_names draws now clock _
  | recordTransportSent peerName bytes =>
      exact List.forall_mem_nil _
  | invalidatePeer peerName =>
      exact List.forall_mem_singleton.mpr names
  | updateResolvedEndpoint peerName endpoint =>
      unfold operations
      dsimp only
      split
      next isUpdated =>
        exact List.forall_mem_singleton.mpr (within.updated isUpdated)
      · exact List.forall_mem_nil _
  | initiateHandshake peerName draw now =>
      unfold operations
      dsimp only
      split
      · exact List.forall_mem_nil _
      next peer isPeer =>
        exact initiateOperations_names (isKnown isPeer) draw now
  | createKeepalive peerName payload draw now =>
      unfold operations
      dsimp only
      split
      · exact List.forall_mem_nil _
      next peer isPeer =>
        exact
          outboundOperations_names (isKnown isPeer) _ payload draw now

/-- What is noted of a packet is noted for the peer that sent it. -/
theorem Within.processTransport_peers
    (within : engine.Within known)
    (sessionId : SessionId)
    (counter : UInt64)
    (ciphertext : Bytes)
    (source : SocketAddr)
    (now clock : Instant) :
    (engine.processTransport sessionId counter ciphertext source now
      clock).2.peers.Within known := by
  have opens :=
    (within.sessions.decryptTransport sessionId counter ciphertext now).1
  unfold processTransport
  dsimp only
  split
  · exact within.peers
  · exact within.peers
  next decrypted isDecrypted =>
    have isKnown := opens decrypted isDecrypted
    have noted (stats : PeerStats) :
        AssociationMap.Within (engine.peers.insert decrypted.peerName stats)
          known :=
      within.peers.insert isKnown stats
    split
    · unfold processKeepalive
      dsimp only
      split
      · split <;> exact noted _
      · exact noted _
    · unfold processData
      dsimp only
      split <;> exact noted _

theorem Within.processInboundTransport_peers
    (within : engine.Within known)
    (frame : Bytes)
    (source : SocketAddr)
    (draws : PeerName → Draw snow)
    (now clock : Instant) :
    (engine.processInboundTransport frame source draws now
      clock).2.peers.Within known := by
  unfold processInboundTransport
  split
  · exact within.peers
  next handshakeId message _ =>
    unfold processHandshakeInit
    split
    · exact within.peers
    · dsimp only
      split
      · exact within.peers
      · split
        · exact within.peers
        · split <;> exact within.peers
  next handshakeId message _ =>
    have completes :=
      (within.sessions.finalizeInitiator handshakeId message clock).1
    unfold processHandshakeResponse
    dsimp only
    split
    · exact within.peers
    · exact within.peers
    next peerName confirmation isCompleted =>
      exact within.peers.insert (completes _ isCompleted) _
  · exact within.peers
  · exact within.processTransport_peers _ _ _ source now clock

/-- A call that changes sessions only notes nothing. -/
theorem Within.peers_of_sessions
    {after : Engine snow}
    (within : engine.Within known)
    (withSessions : ∃ sessions, after = { engine with sessions }) :
    after.peers.Within known ∧ after.resolvedEndpoints.Within known := by
  obtain ⟨sessions, rfl⟩ := withSessions
  exact ⟨within.peers, within.resolvedEndpoints⟩

/-- What a call notes of peers it notes of known ones. -/
theorem Within.perform_peers
    (within : engine.Within known)
    (names : call.Names known) :
    (engine.perform call).2.peers.Within known ∧
      (engine.perform call).2.resolvedEndpoints.Within known := by
  cases call with
  | processOutboundIp packet draw now =>
      exact
        within.peers_of_sessions
          (engine.processOutboundIp_withSessions packet draw now)
  | createKeepalive peerName payload draw now =>
      exact
        within.peers_of_sessions
          (engine.createKeepalive_withSessions peerName payload draw now)
  | initiateHandshake peerName draw now =>
      exact
        within.peers_of_sessions
          (engine.initiateHandshake_withSessions peerName draw now)
  | invalidatePeer peerName =>
      exact ⟨within.peers, within.resolvedEndpoints⟩
  | recordTransportSent peerName bytes =>
      exact ⟨within.peers.insert names _, within.resolvedEndpoints⟩
  | updateResolvedEndpoint peerName endpoint =>
      rcases engine.updateResolvedEndpoint_cases peerName endpoint with
        ⟨result, _, isResult⟩ | ⟨_, isResult⟩
      · rw [perform, isResult]
        exact ⟨within.peers, within.resolvedEndpoints⟩
      · have isUpdated :
            (engine.updateResolvedEndpoint peerName endpoint).1.toOption =
              some true := by
          rw [isResult]
          rfl
        have isKnown := within.updated isUpdated
        have cleared : (engine.peers.clearEndpoint peerName).Within known := by
          unfold PeerState.clearEndpoint
          split
          · exact within.peers
          · exact within.peers.insert isKnown _
        rw [perform, isResult]
        exact ⟨cleared, within.resolvedEndpoints.insert isKnown endpoint⟩
  | processInboundTransport frame source draws now clock =>
      have kept :
          engine.KeepsEndpoints
            (engine.perform
              (.processInboundTransport frame source draws now clock)) :=
        engine.perform_keepsEndpoints fun _ _ isUpdate => by cases isUpdate
      refine
        ⟨within.processInboundTransport_peers frame source draws now clock,
          ?_⟩
      rw [kept]
      exact within.resolvedEndpoints

/-- Whatever is called, state is kept for known peers only. -/
theorem Within.perform
    (within : engine.Within known)
    (names : call.Names known) :
    (engine.perform call).2.Within known where
  routed := by
    rw [(engine.perform_hears call).router]
    exact within.routed
  sessions := by
    rw [engine.perform_sessions]
    exact
      (within.sessions.operations (within.operations_names names)).2
  peers := (within.perform_peers names).1
  resolvedEndpoints := (within.perform_peers names).2

/-- Whatever is called, frames are sent to known peers only. -/
theorem Within.sends
    {output : EngineOutput}
    {peerName : PeerName}
    {endpoint : SocketAddr}
    {frame : Bytes}
    (within : engine.Within known)
    (names : call.Names known)
    (succeeded : (engine.perform call).1 = .ok output)
    (sent : .sendTransport peerName endpoint frame ∈ output.actions) :
    peerName ∈ known := by
  have isFrame := engine.perform_frames succeeded sent
  have operated :=
    within.sessions.operations (within.operations_names names)
  exact operated.1 _ isFrame

/-- The entries of all maps of an engine that grow while it runs. -/
def entryCount (engine : Engine snow) : Nat :=
  engine.sessions.sessions.entries.length +
    engine.sessions.previousSessions.entries.length +
    engine.sessions.responderCandidates.entries.length +
    engine.sessions.pendingInit.entries.length +
    engine.sessions.responderCache.entries.length +
    engine.sessions.inboundRecoveryPreference.card +
    engine.peers.entries.length +
    engine.resolvedEndpoints.entries.length

theorem Within.entryCount_le (within : engine.Within known) :
    engine.entryCount ≤ 8 * known.card := by
  have sessions := within.sessions.sessions.length_le
  have previous := within.sessions.previousSessions.length_le
  have candidates := within.sessions.responderCandidates.length_le
  have pending := within.sessions.pendingInit.length_le
  have cached := within.sessions.responderCache.length_le
  have preferred :=
    Finset.card_le_card within.sessions.inboundRecoveryPreference
  have noted := within.peers.length_le
  have resolved := within.resolvedEndpoints.length_le
  unfold entryCount
  omega

end Engine

namespace Tunnel

/-- A daemon whose workers keep state for and send to known peers only. -/
structure Within (tunnel : Tunnel snow) (known : Finset PeerName) : Prop where
  engine : tunnel.engine.Within known
  sends :
    ∀ worker peerName endpoint frame,
      .sendTransport peerName endpoint frame ∈ tunnel.actions worker →
        peerName ∈ known

/-- The scheduler invalidates nobody but known peers. -/
def Invalidates (event : TunnelEvent snow) (known : Finset PeerName) : Prop :=
  ∀ peerName,
    event = .scheduled (.invalidatePeer peerName) → peerName ∈ known

namespace Within

variable {tunnel : Tunnel snow} {event : TunnelEvent snow}

theorem new
    {router : Router}
    (routed : router.peerNames ⊆ known)
    (localStatic : Key)
    (packetInformation : Bool) :
    (Tunnel.new localStatic router packetInformation : Tunnel snow).Within
      known where
  engine :=
    { routed
      sessions := .new
      peers := .empty
      resolvedEndpoints := .empty }
  sends := fun _ _ _ _ member => by cases member

/-- A worker names known peers to the engine. -/
theorem names
    {call : EngineCall snow}
    (within : tunnel.Within known)
    (enabled : tunnel.Enabled event)
    (invalidates : Invalidates event known)
    (isCall : tunnel.call? event = some call) :
    call.Names known := by
  cases enabled with
  | read =>
      rw [call?] at isCall
      split at isCall
      · cases isCall
      · split at isCall <;> cases isCall
        trivial
  | received =>
      rw [call?] at isCall
      split at isCall <;> cases isCall
      trivial
  | scheduled isScheduled =>
      cases isCall
      cases call with
      | recordTransportSent =>
          cases isScheduled
      | invalidatePeer peerName =>
          exact invalidates peerName rfl
      | _ =>
          trivial
  | @carriedOut worker action rest succeeded isNext =>
      cases action with
      | writeIpPacket =>
          cases isCall
      | sendTransport peerName endpoint frame =>
          cases succeeded <;> cases isCall
          apply within.sends worker peerName endpoint frame
          rw [isNext]
          exact .head _

theorem step
    (within : tunnel.Within known)
    (enabled : tunnel.Enabled event)
    (invalidates : Invalidates event known) :
    (tunnel.after event).Within known where
  engine := by
    change (tunnel.engineAfter event).Within known
    unfold engineAfter
    split
    · exact within.engine
    next call isCall =>
      exact within.engine.perform (within.names enabled invalidates isCall)
  sends := by
    intro worker peerName endpoint frame member
    rcases mem_actions_after member with earlier | ⟨_, isGiven⟩
    · exact within.sends worker peerName endpoint frame earlier
    · unfold given at isGiven
      split at isGiven
      · cases isGiven
      next call isCall =>
        have names := within.names enabled invalidates isCall
        unfold actionsOf at isGiven
        split at isGiven
        next output succeeded =>
          exact within.engine.sends names succeeded isGiven
        · cases isGiven

end Within

end Tunnel

/--
In every run, whatever the workers receive and in whatever order they act, the
engine keeps state for known peers only, at most one entry for each of them in
each of its eight maps, and the workers send to nobody else.  Known are the
peers to which there are routes and those that the scheduler invalidates.
-/
theorem tunnel_state_bounded
    {localStatic : Key}
    {router : Router}
    {packetInformation : Bool}
    {turns : List (TunnelTurn snow)}
    {tunnel : Tunnel snow}
    (routed : router.peerNames ⊆ known)
    (invalidates : ∀ turn ∈ turns, Tunnel.Invalidates turn.event known)
    (execution :
      Execution TunnelStep (.new localStatic router packetInformation) turns
        tunnel) :
    tunnel.Within known ∧ tunnel.engine.entryCount ≤ 8 * known.card := by
  have within : tunnel.Within known := by
    apply execution.preserves (Tunnel.Within · known) (.new routed _ _)
    intro before turn after member within step
    obtain ⟨rfl, enabled, rfl⟩ := step
    exact within.step enabled (invalidates turn member)
  exact ⟨within, within.engine.entryCount_le⟩

open TunnelExample in
/-- The peer that has sent a packet is the only one that is known. -/
theorem tunnel_state_bounded_example :
    opening.Within {"first"} ∧ opening.engine.entryCount ≤ 8 := by
  apply tunnel_state_bounded ?_ ?_ responder_execution
  · decide +kernel
  · intro turn member peerName isScheduled
    simp only [responderTurns, List.mem_cons, List.not_mem_nil,
      or_false] at member
    rcases member with rfl | rfl | rfl <;> cases isScheduled

end HushWire

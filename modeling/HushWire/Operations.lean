import HushWire.Engine
import HushWire.HandshakeEvents

namespace HushWire

open Noise

/-!
# What an engine does to its sessions

An engine call works on the session manager through a few operations: it
encrypts, decrypts, starts a handshake, answers one, completes one or discards
a peer.  `Engine.operations` lists the operations of a call;
`Engine.perform_sessions` says that they are all the call does to its
sessions, and `Engine.perform_frames` that it sends only frames they produce.
-/

/-- One use of the session manager by an engine. -/
inductive Operation (snow : Snow) where
  | encrypt
      (peerName : PeerName)
      (msgType : Auth.MsgType)
      (payload : Bytes)
      (now : Instant)
  | decrypt
      (sessionId : SessionId)
      (counter : UInt64)
      (ciphertext : Bytes)
      (now : Instant)
  | start
      (peerName : PeerName)
      (localStatic remoteStaticPub psk : Key)
      (draw : Draw snow)
      (now : Instant)
  /-- The initiation has passed `responder_respond` with this result. -/
  | answer
      (peerName : PeerName)
      (handshake : ResponderHandshake snow)
      (handshakeId : SessionId)
      (message : Bytes)
      (passivePeer : Bool)
      (clock : Instant)
  | finalize
      (handshakeId : SessionId)
      (response : Bytes)
      (clock : Instant)
  | invalidate (peerName : PeerName)

variable {snow : Snow}

/-- The instant an operation reads. -/
def Operation.time : Operation snow → Option Instant
  | .encrypt _ _ _ now => some now
  | .decrypt _ _ _ now => some now
  | .start _ _ _ _ _ now => some now
  | .answer _ _ _ _ _ clock => some clock
  | .finalize _ _ clock => some clock
  | .invalidate _ => none

namespace SessionState

/--
What `process_inbound_transport` does with a verified initiation: decide
whether to accept it, and resend the cached response or store a candidate.
-/
def answerInitiation
    (state : SessionState snow)
    (peerName : PeerName)
    (handshake : ResponderHandshake snow)
    (handshakeId : SessionId)
    (message : Bytes)
    (passivePeer : Bool)
    (clock : Instant) :
    Option Bytes × SessionState snow :=
  let (accepted, state) :=
    state.acceptInboundInitiation peerName handshakeId passivePeer clock
  if accepted = false then
    (none, state)
  else
    let (cached, state) :=
      state.cachedResponderResponse peerName handshakeId message clock
    match cached with
    | some response => (some response, state)
    | none =>
        let response :=
          Auth.encodeHandshake .handshakeResponse handshakeId
            handshake.message
        let (stored, state) :=
          state.storeResponderCandidate peerName handshake.session handshakeId
            message response clock
        (if stored then some response else none, state)

/-- The frame of a result for a peer, if there is one. -/
def framesFor
    (peerName : PeerName) :
    Except (NoiseError snow) (Option Bytes) → List (PeerName × Bytes)
  | .ok (some frame) => [(peerName, frame)]
  | _ => []

/-- Carry out an operation; the result lists the frames for each peer. -/
def operate
    (state : SessionState snow) :
    Operation snow → List (PeerName × Bytes) × SessionState snow
  | .encrypt peerName msgType payload now =>
      (state.encryptForPeer peerName msgType payload now).map
        (framesFor peerName) id
  | .decrypt sessionId counter ciphertext now =>
      ([], (state.decryptTransport sessionId counter ciphertext now).2)
  | .start peerName localStatic remoteStaticPub psk draw now =>
      (state.startOrRetryHandshake peerName localStatic remoteStaticPub psk
        draw now).map (framesFor peerName) id
  | .answer peerName handshake handshakeId message passivePeer clock =>
      (state.answerInitiation peerName handshake handshakeId message
        passivePeer clock).map
          (fun response => @framesFor snow peerName (.ok response)) id
  | .finalize handshakeId response clock =>
      (state.finalizeInitiator handshakeId response clock).map
        (fun
          | .ok (some completed) => [completed]
          | _ => []) id
  | .invalidate peerName =>
      ([], (state.invalidatePeer peerName).2)

/-- The state that an operation leaves behind. -/
def afterOperation
    (state : SessionState snow)
    (operation : Operation snow) :
    SessionState snow :=
  (state.operate operation).2

/-- The state that a sequence of operations leaves behind. -/
def afterOperations
    (state : SessionState snow)
    (operations : List (Operation snow)) :
    SessionState snow :=
  operations.foldl afterOperation state

/-- The frames that a sequence of operations produces. -/
def framesOf
    (state : SessionState snow) :
    List (Operation snow) → List (PeerName × Bytes)
  | [] => []
  | operation :: rest =>
      (state.operate operation).1 ++
        (state.afterOperation operation).framesOf rest

theorem framesOf_append
    (state : SessionState snow)
    (earlier later : List (Operation snow)) :
    state.framesOf (earlier ++ later) =
      state.framesOf earlier ++
        (state.afterOperations earlier).framesOf later := by
  induction earlier generalizing state with
  | nil =>
      rfl
  | cons operation rest inductionHypothesis =>
      simp [framesOf, inductionHypothesis, afterOperations]

end SessionState

namespace Engine

/-- Whether a peer's configured endpoint cannot be used. -/
def isPassive (engine : Engine snow) (peerName : PeerName) : Bool :=
  (engine.peer peerName).any fun peer => !usablePeerEndpoint peer.endpoint

/-- The operations of `initiate_peer`. -/
def initiateOperations
    (engine : Engine snow)
    (peer : Peer)
    (draw : Draw snow)
    (now : Instant) :
    List (Operation snow) :=
  if (engine.resolveEndpoint peer).isSome then
    [.start peer.name engine.localStatic peer.publicKey peer.psk draw now]
  else
    []

/-- The operations of outbound traffic to a peer. -/
def outboundOperations
    (engine : Engine snow)
    (peer : Peer)
    (msgType : Auth.MsgType)
    (payload : Bytes)
    (draw : Draw snow)
    (now : Instant) :
    List (Operation snow) :=
  [.encrypt peer.name msgType payload now] ++
    (match (engine.sessions.encryptForPeer peer.name msgType payload now).1 with
      | .error _ => [.invalidate peer.name]
      | .ok _ => []) ++
    engine.initiateOperations peer draw now

/-- The acknowledgement of a decrypted keepalive probe. -/
def acknowledgeOperations
    (now : Instant) :
    Except (NoiseError snow) (Option DecryptedTransport) →
      List (Operation snow)
  | .ok (some decrypted) =>
      if decrypted.msgType = .keepalive ∧
          decrypted.payload = Auth.keepaliveProbePayload then
        [.encrypt decrypted.peerName .keepalive Auth.keepaliveAckPayload now]
      else
        []
  | _ => []

/-- The operations of an inbound packet. -/
def inboundOperations
    (engine : Engine snow)
    (draws : PeerName → Draw snow)
    (now clock : Instant) :
    Auth.ParsedPacket → List (Operation snow)
  | .handshake .handshakeInit handshakeId message =>
      match engine.decodeHandshakeInit handshakeId message draws clock with
      | none => []
      | some (peerName, handshake) =>
          [.answer peerName handshake handshakeId message
            (engine.isPassive peerName) clock]
  | .handshake .handshakeResponse handshakeId message =>
      [.finalize handshakeId message clock]
  | .handshake .transport _ _ => []
  | .transport sessionId counter ciphertext =>
      [.decrypt sessionId counter ciphertext now] ++
        acknowledgeOperations now
          (engine.sessions.decryptTransport sessionId counter ciphertext
            now).1

/-- The operations of a call, in order. -/
def operations (engine : Engine snow) :
    EngineCall snow → List (Operation snow)
  | .processOutboundIp packet draw now =>
      match Ipv4Packet.parse packet with
      | .error _ => []
      | .ok ipv4 =>
          match engine.router.lookup ipv4.destination with
          | none => []
          | some route =>
              engine.outboundOperations route.peer .data packet draw now
  | .processInboundTransport frame _ draws now clock =>
      match Auth.decodePacket frame with
      | none => []
      | some packet => engine.inboundOperations draws now clock packet
  | .recordTransportSent _ _ => []
  | .invalidatePeer peerName => [.invalidate peerName]
  | .updateResolvedEndpoint peerName endpoint =>
      if (engine.updateResolvedEndpoint peerName endpoint).1.toOption =
          some true then
        [.invalidate peerName]
      else
        []
  | .initiateHandshake peerName draw now =>
      match engine.peer peerName with
      | none => []
      | some peer => engine.initiateOperations peer draw now
  | .createKeepalive peerName payload draw now =>
      match engine.peer peerName with
      | none => []
      | some peer =>
          engine.outboundOperations peer .keepalive payload draw now

/-- Operations do not touch routes, keys and endpoints. -/
theorem initiateOperations_withSessions
    (engine : Engine snow)
    (sessions : SessionState snow)
    (peer : Peer)
    (draw : Draw snow)
    (now : Instant) :
    ({ engine with sessions } : Engine snow).initiateOperations peer draw
        now =
      engine.initiateOperations peer draw now :=
  rfl

theorem initiatePeer_sessions
    (engine : Engine snow)
    (peer : Peer)
    (draw : Draw snow)
    (now : Instant) :
    (engine.initiatePeer peer draw now).2.sessions =
      engine.sessions.afterOperations
        (engine.initiateOperations peer draw now) := by
  unfold initiatePeer initiateOperations
  cases engine.resolveEndpoint peer with
  | none => rfl
  | some endpoint => rfl

theorem encryptAndInitiate_sessions
    (engine : Engine snow)
    (peer : Peer)
    (msgType : Auth.MsgType)
    (payload : Bytes)
    (draw : Draw snow)
    (now : Instant) :
    (engine.encryptAndInitiate peer msgType payload draw now).2.sessions =
      engine.sessions.afterOperations
        (engine.outboundOperations peer msgType payload draw now) := by
  unfold encryptAndInitiate outboundOperations
  rcases encrypted :
    engine.sessions.encryptForPeer peer.name msgType payload now with
    ⟨error | frame | frame, sessions⟩
  all_goals
    simp only
    split <;>
      simp [initiatePeer_sessions, initiateOperations_withSessions,
        SessionState.afterOperations, SessionState.afterOperation,
        SessionState.operate, encrypted]

/-- The `HandshakeInit` branch answers a verified initiation. -/
theorem processHandshakeInit_answer
    {engine : Engine snow}
    {handshakeId : SessionId}
    {message : Bytes}
    {draws : PeerName → Draw snow}
    {clock : Instant}
    {peerName : PeerName}
    {handshake : ResponderHandshake snow}
    (decoded :
      engine.decodeHandshakeInit handshakeId message draws clock =
        some (peerName, handshake))
    (source : SocketAddr) :
    engine.processHandshakeInit handshakeId message source draws clock =
      (let (response, sessions) :=
        engine.sessions.answerInitiation peerName handshake handshakeId
          message (engine.isPassive peerName) clock
      (.ok
          { actions :=
              response.toList.map fun response =>
                .sendTransport peerName source response
            events := [] },
        { engine with sessions })) := by
  unfold processHandshakeInit SessionState.answerInitiation isPassive
  rw [decoded]
  simp only
  split
  · rfl
  · split
    · simp_all
    · split <;> simp_all [EngineOutput.empty]

/-- The sessions after an inbound packet. -/
theorem processInboundTransport_sessions
    (engine : Engine snow)
    (frame : Bytes)
    (source : SocketAddr)
    (draws : PeerName → Draw snow)
    (now clock : Instant) :
    (engine.processInboundTransport frame source draws now
        clock).2.sessions =
      engine.sessions.afterOperations
        (engine.operations
          (.processInboundTransport frame source draws now clock)) := by
  simp only [processInboundTransport, operations]
  cases Auth.decodePacket frame with
  | none =>
      rfl
  | some packet =>
      cases packet with
      | transport sessionId counter ciphertext =>
          simp only [inboundOperations, acknowledgeOperations,
            processTransport, processKeepalive, processData]
          rcases opened :
            engine.sessions.decryptTransport sessionId counter ciphertext
              now with ⟨error | _ | packet, sessions⟩
          · simp [SessionState.afterOperations, SessionState.afterOperation,
              SessionState.operate, opened]
          · simp [SessionState.afterOperations, SessionState.afterOperation,
              SessionState.operate, opened]
          · obtain ⟨peerName, msgType, payload, promoted⟩ := packet
            cases msgType with
            | data =>
                simp only
                split <;>
                  simp [SessionState.afterOperations,
                    SessionState.afterOperation, SessionState.operate,
                    opened]
            | keepalive =>
                by_cases probe : payload = Auth.keepaliveProbePayload
                · simp only [probe]
                  rcases acknowledged :
                    sessions.encryptForPeer peerName .keepalive
                      Auth.keepaliveAckPayload now with
                    ⟨error | frame, final⟩ <;>
                  simp [SessionState.afterOperations,
                    SessionState.afterOperation, SessionState.operate,
                    opened, acknowledged]
                · simp [SessionState.afterOperations,
                    SessionState.afterOperation, SessionState.operate,
                    opened, probe]
      | handshake kind handshakeId message =>
          cases kind with
          | transport =>
              rfl
          | handshakeInit =>
              simp only [inboundOperations]
              cases decoded :
                  engine.decodeHandshakeInit handshakeId message draws
                    clock with
              | none =>
                  simp [processHandshakeInit, decoded,
                    SessionState.afterOperations]
              | some answer =>
                  obtain ⟨peerName, handshake⟩ := answer
                  rw [processHandshakeInit_answer decoded]
                  rfl
          | handshakeResponse =>
              simp only [inboundOperations, processHandshakeResponse]
              rcases finalized :
                engine.sessions.finalizeInitiator handshakeId message clock
                with ⟨error | _ | completed, sessions⟩ <;>
              simp [SessionState.afterOperations,
                SessionState.afterOperation, SessionState.operate, finalized]

/-- A call does to its sessions exactly what its operations do. -/
theorem perform_sessions
    (engine : Engine snow)
    (call : EngineCall snow) :
    (engine.perform call).2.sessions =
      engine.sessions.afterOperations (engine.operations call) := by
  cases call with
  | processOutboundIp packet draw now =>
      simp only [perform, processOutboundIp, operations]
      cases Ipv4Packet.parse packet with
      | error error =>
          rfl
      | ok ipv4 =>
          simp only
          cases engine.router.lookup ipv4.destination with
          | none => rfl
          | some route =>
              exact engine.encryptAndInitiate_sessions _ _ _ _ _
  | processInboundTransport frame source draws now clock =>
      exact engine.processInboundTransport_sessions frame source draws now
        clock
  | recordTransportSent peerName bytes =>
      rfl
  | invalidatePeer peerName =>
      rfl
  | updateResolvedEndpoint peerName endpoint =>
      simp only [perform, operations, updateResolvedEndpoint]
      split
      · rfl
      · cases engine.peer peerName with
        | none => rfl
        | some peer =>
            simp only
            split
            · rfl
            · simp [Except.toOption, SessionState.afterOperations,
                SessionState.afterOperation, SessionState.operate]
  | initiateHandshake peerName draw now =>
      simp only [perform, initiateHandshake, operations]
      cases engine.peer peerName with
      | none => rfl
      | some peer =>
          simp only
          split <;> exact engine.initiatePeer_sessions _ _ _
  | createKeepalive peerName payload draw now =>
      simp only [perform, createKeepalive, operations]
      cases engine.peer peerName with
      | none => rfl
      | some peer =>
          exact engine.encryptAndInitiate_sessions _ _ _ _ _

theorem initiatePeer_frames
    {engine : Engine snow}
    {peer : Peer}
    {draw : Draw snow}
    {now : Instant}
    {action : Option EngineAction}
    (initiated : (engine.initiatePeer peer draw now).1 = .ok action)
    {peerName : PeerName}
    {endpoint : SocketAddr}
    {frame : Bytes}
    (sent : action = some (.sendTransport peerName endpoint frame)) :
    (peerName, frame) ∈
      engine.sessions.framesOf
        (engine.initiateOperations peer draw now) := by
  subst sent
  unfold initiatePeer at initiated
  unfold initiateOperations
  cases resolved : engine.resolveEndpoint peer with
  | none =>
      rw [resolved] at initiated
      cases initiated
  | some target =>
      rw [resolved] at initiated
      rcases started :
        engine.sessions.startOrRetryHandshake peer.name engine.localStatic
          peer.publicKey peer.psk draw now with
        ⟨error | _ | packet, sessions⟩
      · simp [started, Except.map] at initiated
      · simp [started, Except.map] at initiated
      · simp only [started, Except.map, Option.map_some, Except.ok.injEq,
          Option.some.injEq, EngineAction.sendTransport.injEq] at initiated
        obtain ⟨rfl, rfl, rfl⟩ := initiated
        simp [SessionState.framesOf, SessionState.operate, started,
          SessionState.framesFor]

theorem encryptAndInitiate_frames
    {engine : Engine snow}
    {peer : Peer}
    {msgType : Auth.MsgType}
    {payload : Bytes}
    {draw : Draw snow}
    {now : Instant}
    {output : EngineOutput}
    (succeeded :
      (engine.encryptAndInitiate peer msgType payload draw now).1 =
        .ok output)
    {peerName : PeerName}
    {endpoint : SocketAddr}
    {frame : Bytes}
    (sent : .sendTransport peerName endpoint frame ∈ output.actions) :
    (peerName, frame) ∈
      engine.sessions.framesOf
        (engine.outboundOperations peer msgType payload draw now) := by
  unfold encryptAndInitiate at succeeded
  unfold outboundOperations
  rw [SessionState.framesOf_append, List.mem_append]
  rcases encrypted :
    engine.sessions.encryptForPeer peer.name msgType payload now with
    ⟨error | _ | sealed, sessions⟩
  all_goals
    rw [encrypted] at succeeded
    simp only at succeeded
    split at succeeded
    · cases succeeded
    · rename_i action initiated
      cases succeeded
      have fromStart
          (started :
            action = some (.sendTransport peerName endpoint frame)) :=
        initiatePeer_frames initiated started
      simp only [initiateOperations_withSessions] at fromStart
      cases action <;>
        simp [SessionState.afterOperations, SessionState.afterOperation,
          SessionState.operate, encrypted, SessionState.framesOf,
          SessionState.framesFor] at sent fromStart ⊢ <;>
        grind

theorem processInboundTransport_frames
    {engine : Engine snow}
    {frame : Bytes}
    {source : SocketAddr}
    {draws : PeerName → Draw snow}
    {now clock : Instant}
    {output : EngineOutput}
    (succeeded :
      (engine.processInboundTransport frame source draws now clock).1 =
        .ok output)
    {peerName : PeerName}
    {endpoint : SocketAddr}
    {sentFrame : Bytes}
    (sent : .sendTransport peerName endpoint sentFrame ∈ output.actions) :
    (peerName, sentFrame) ∈
      engine.sessions.framesOf
        (engine.operations
          (.processInboundTransport frame source draws now clock)) := by
  simp only [processInboundTransport, operations] at succeeded ⊢
  cases decodedPacket : Auth.decodePacket frame with
  | none =>
      rw [decodedPacket] at succeeded
      cases succeeded
      cases sent
  | some packet =>
      rw [decodedPacket] at succeeded
      cases packet with
      | transport sessionId counter ciphertext =>
          simp only [inboundOperations, acknowledgeOperations,
            processTransport, processKeepalive, processData]
            at succeeded ⊢
          rcases opened :
            engine.sessions.decryptTransport sessionId counter ciphertext
              now with ⟨error | _ | packet, sessions⟩
          · simp [opened] at succeeded
          · simp only [opened, Except.ok.injEq] at succeeded
            subst succeeded
            cases sent
          · obtain ⟨recipient, msgType, payload, promoted⟩ := packet
            rw [opened] at succeeded
            cases msgType with
            | data =>
                simp only at succeeded
                split at succeeded
                · cases succeeded
                · cases succeeded
                  simp at sent
            | keepalive =>
                by_cases probe : payload = Auth.keepaliveProbePayload
                · simp only [probe, ↓reduceIte] at succeeded
                  rcases acknowledged :
                    sessions.encryptForPeer recipient .keepalive
                      Auth.keepaliveAckPayload now with
                    ⟨error | _ | acknowledgement, final⟩
                  · simp [acknowledged] at succeeded
                  · simp only [acknowledged, Except.ok.injEq] at succeeded
                    subst succeeded
                    cases sent
                  · simp only [acknowledged, Except.ok.injEq] at succeeded
                    subst succeeded
                    simp only [Option.toList_some, List.map_cons,
                      List.map_nil, List.mem_singleton,
                      EngineAction.sendTransport.injEq] at sent
                    simp [SessionState.framesOf, SessionState.operate,
                      SessionState.afterOperation, SessionState.framesFor,
                      opened, probe, acknowledged, sent]
                · simp only [probe, ↓reduceIte, Except.ok.injEq] at succeeded
                  subst succeeded
                  cases sent
      | handshake kind handshakeId message =>
          cases kind with
          | transport =>
              cases succeeded
              cases sent
          | handshakeInit =>
              simp only [inboundOperations] at succeeded ⊢
              cases decoded :
                  engine.decodeHandshakeInit handshakeId message draws
                    clock with
              | none =>
                  simp only [processHandshakeInit, decoded,
                    Except.ok.injEq] at succeeded
                  subst succeeded
                  cases sent
              | some answer =>
                  obtain ⟨sender, handshake⟩ := answer
                  rw [processHandshakeInit_answer decoded] at succeeded
                  rcases answered :
                    engine.sessions.answerInitiation sender handshake
                      handshakeId message (engine.isPassive sender) clock
                    with ⟨_ | response, sessions⟩
                  · simp only [answered, Except.ok.injEq] at succeeded
                    subst succeeded
                    cases sent
                  · simp only [answered, Except.ok.injEq] at succeeded
                    subst succeeded
                    simp only [Option.toList_some, List.map_cons,
                      List.map_nil, List.mem_singleton,
                      EngineAction.sendTransport.injEq] at sent
                    simp [SessionState.framesOf, SessionState.operate,
                      SessionState.framesFor, answered, sent]
          | handshakeResponse =>
              simp only [inboundOperations, processHandshakeResponse]
                at succeeded ⊢
              rcases finalized :
                engine.sessions.finalizeInitiator handshakeId message clock
                with ⟨error | _ | ⟨sender, confirmation⟩, sessions⟩
              · simp [finalized] at succeeded
              · simp only [finalized, Except.ok.injEq] at succeeded
                subst succeeded
                cases sent
              · simp only [finalized, Except.ok.injEq] at succeeded
                subst succeeded
                simp only [List.mem_singleton,
                  EngineAction.sendTransport.injEq] at sent
                simp [SessionState.framesOf, SessionState.operate, finalized,
                  sent]

/-- Every frame that a call sends to a peer is produced by its operations. -/
theorem perform_frames
    {engine : Engine snow}
    {call : EngineCall snow}
    {output : EngineOutput}
    (succeeded : (engine.perform call).1 = .ok output)
    {peerName : PeerName}
    {endpoint : SocketAddr}
    {frame : Bytes}
    (sent : .sendTransport peerName endpoint frame ∈ output.actions) :
    (peerName, frame) ∈
      engine.sessions.framesOf (engine.operations call) := by
  cases call with
  | processOutboundIp packet draw now =>
      simp only [perform, processOutboundIp, operations] at succeeded ⊢
      cases parsed : Ipv4Packet.parse packet with
      | error error =>
          simp [parsed] at succeeded
      | ok ipv4 =>
          rw [parsed] at succeeded
          cases routed : engine.router.lookup ipv4.destination with
          | none =>
              simp only [routed, Except.ok.injEq] at succeeded
              subst succeeded
              cases sent
          | some route =>
              simp only [routed] at succeeded
              simpa [routed] using encryptAndInitiate_frames succeeded sent
  | processInboundTransport source draws now clock =>
      exact processInboundTransport_frames succeeded sent
  | recordTransportSent =>
      cases succeeded
      cases sent
  | invalidatePeer =>
      cases succeeded
      cases sent
  | updateResolvedEndpoint recipient target =>
      simp only [perform] at succeeded
      rcases updated : engine.updateResolvedEndpoint recipient target with
        ⟨error | changed, next⟩
      · simp [updated, Except.map] at succeeded
      · simp only [updated, Except.map, Except.ok.injEq] at succeeded
        subst succeeded
        cases sent
  | initiateHandshake recipient draw now =>
      simp only [perform, initiateHandshake, operations] at succeeded ⊢
      cases known : engine.peer recipient with
      | none =>
          simp [known] at succeeded
      | some peer =>
          simp only [known] at succeeded
          split at succeeded
          · cases succeeded
          · rename_i action initiated
            cases succeeded
            simp only [Option.mem_toList] at sent
            exact initiatePeer_frames initiated sent
  | createKeepalive recipient payload draw now =>
      simp only [perform, createKeepalive, operations] at succeeded ⊢
      cases known : engine.peer recipient with
      | none =>
          simp [known] at succeeded
      | some peer =>
          simp only [known] at succeeded
          simpa [known] using encryptAndInitiate_frames succeeded sent

end Engine

end HushWire

import HushWire.InboundFrames
import HushWire.Operations

namespace HushWire

open Noise

/-!
# Whom a call of the engine hears

The engine notes when it has last seen a peer and announces the handshakes
that were completed.  `Engine.Hears` bounds both by the peers that a call
authenticates: an inbound frame authenticates the peer under whose handshake
or session it verifies, where it is not an initiation, and no other call
authenticates anybody.
-/

namespace Engine

variable {snow : Snow}

/-- The statistics of a peer say when it was last seen. -/
def Seen (engine : Engine snow) (peerName : PeerName) : Prop :=
  ∃ stats,
    engine.peers.lookup peerName = some stats ∧ stats.lastSeen.isSome

/-- A frame that verifies as one of the peer and is not an initiation. -/
def AuthenticatesAs
    (engine : Engine snow)
    (frame : Bytes)
    (draws : PeerName → Draw snow)
    (now clock : Instant)
    (peerName : PeerName) :
    Prop :=
  ¬ IsInitiation frame ∧ engine.VerifiesAs frame draws now clock peerName

/-- The peers that a call authenticates. -/
def Authenticates
    (engine : Engine snow)
    (peerName : PeerName) :
    EngineCall snow → Prop
  | .processInboundTransport frame _ draws now clock =>
      engine.AuthenticatesAs frame draws now clock peerName
  | _ => False

/-- Whoever is seen or announced was seen before or is heard now. -/
structure Hears
    (before : Engine snow)
    (heard : PeerName → Prop)
    (outcome : Except (EngineError snow) EngineOutput × Engine snow) :
    Prop where
  router : outcome.2.router = before.router
  localStatic : outcome.2.localStatic = before.localStatic
  seen :
    ∀ peerName, outcome.2.Seen peerName →
      before.Seen peerName ∨ heard peerName
  announced :
    ∀ output, outcome.1 = .ok output →
      ∀ event ∈ output.events, ∃ peerName endpoint role,
        event = .handshakeCompleted peerName endpoint role ∧ heard peerName

/-- A call that leaves the endpoint of every peer as it was resolved. -/
def KeepsEndpoints
    (before : Engine snow)
    (outcome : Except (EngineError snow) EngineOutput × Engine snow) :
    Prop :=
  outcome.2.resolvedEndpoints = before.resolvedEndpoints

namespace Hears

variable {before : Engine snow} {heard : PeerName → Prop}

/-- A call that changes sessions only and announces nothing. -/
theorem of_sessions
    {result : Except (EngineError snow) EngineOutput}
    (sessions : SessionState snow)
    (silent : ∀ output, result = .ok output → output.events = []) :
    before.Hears heard (result, { before with sessions }) where
  router := rfl
  localStatic := rfl
  seen := fun _ seen => .inl seen
  announced := by
    intro output isOutput event member
    rw [silent output isOutput] at member
    cases member

/-- Hearing more is allowed. -/
theorem mono
    {outcome : Except (EngineError snow) EngineOutput × Engine snow}
    {louder : PeerName → Prop}
    (hears : before.Hears heard outcome)
    (more : ∀ peerName, heard peerName → louder peerName) :
    before.Hears louder outcome where
  router := hears.router
  localStatic := hears.localStatic
  seen := fun peerName seen =>
    (hears.seen peerName seen).imp_right (more peerName)
  announced := by
    intro output isOutput event member
    obtain ⟨peerName, endpoint, role, isEvent, isHeard⟩ :=
      hears.announced output isOutput event member
    exact ⟨peerName, endpoint, role, isEvent, more peerName isHeard⟩

/-- A peer that is heard is noted and may be announced. -/
theorem of_heard
    {result : Except (EngineError snow) EngineOutput}
    {peerName : PeerName}
    (sessions : SessionState snow)
    {peers : PeerState}
    (noted :
      ∀ other, other ≠ peerName →
        peers.lookup other = before.peers.lookup other)
    (announced :
      ∀ output, result = .ok output →
        ∀ event ∈ output.events, ∃ endpoint role,
          event = .handshakeCompleted peerName endpoint role)
    (isHeard : heard peerName) :
    before.Hears heard (result, { before with sessions, peers }) where
  router := rfl
  localStatic := rfl
  seen := by
    rintro other ⟨stats, stored, wasSeen⟩
    by_cases isPeer : other = peerName
    · exact .inr (isPeer ▸ isHeard)
    · exact .inl ⟨stats, (noted other isPeer).symm.trans stored, wasSeen⟩
  announced := by
    intro output isOutput event member
    obtain ⟨endpoint, role, isEvent⟩ :=
      announced output isOutput event member
    exact ⟨peerName, endpoint, role, isEvent, isHeard⟩

end Hears

theorem initiatePeer_withSessions
    (engine : Engine snow)
    (peer : Peer)
    (draw : Draw snow)
    (now : Instant) :
    ∃ sessions,
      (engine.initiatePeer peer draw now).2 = { engine with sessions } := by
  unfold initiatePeer
  cases engine.resolveEndpoint peer with
  | none => exact ⟨engine.sessions, rfl⟩
  | some endpoint => exact ⟨_, rfl⟩

section Quiet

variable (heard : PeerName → Prop)

theorem encryptAndInitiate_hears
    (engine : Engine snow)
    (peer : Peer)
    (msgType : Auth.MsgType)
    (payload : Bytes)
    (draw : Draw snow)
    (now : Instant) :
    engine.Hears heard
        (engine.encryptAndInitiate peer msgType payload draw now) ∧
      engine.KeepsEndpoints
        (engine.encryptAndInitiate peer msgType payload draw now) := by
  unfold encryptAndInitiate
  rcases engine.sessions.encryptForPeer peer.name msgType payload now with
    ⟨error | frame | frame, sessions⟩
  all_goals
    simp only
    split
    all_goals
      rw [(initiatePeer_withSessions _ peer draw now).choose_spec]
      refine ⟨.of_sessions _ ?_, rfl⟩
      rintro output ⟨⟩
  all_goals rfl

theorem initiateHandshake_hears
    (engine : Engine snow)
    (peerName : PeerName)
    (draw : Draw snow)
    (now : Instant) :
    engine.Hears heard (engine.initiateHandshake peerName draw now) ∧
      engine.KeepsEndpoints
        (engine.initiateHandshake peerName draw now) := by
  unfold initiateHandshake
  cases engine.peer peerName with
  | none => exact ⟨.of_sessions engine.sessions (by rintro _ ⟨⟩), rfl⟩
  | some peer =>
      simp only
      split
      all_goals
        rw [(initiatePeer_withSessions _ peer draw now).choose_spec]
        refine ⟨.of_sessions _ ?_, rfl⟩
        rintro output ⟨⟩
      rfl

theorem processOutboundIp_hears
    (engine : Engine snow)
    (packet : Bytes)
    (draw : Draw snow)
    (now : Instant) :
    engine.Hears heard (engine.processOutboundIp packet draw now) ∧
      engine.KeepsEndpoints (engine.processOutboundIp packet draw now) := by
  unfold processOutboundIp
  cases Ipv4Packet.parse packet with
  | error error =>
      exact ⟨.of_sessions engine.sessions (by rintro _ ⟨⟩), rfl⟩
  | ok ipv4 =>
      simp only
      cases engine.router.lookup ipv4.destination with
      | none =>
          exact ⟨.of_sessions engine.sessions (by rintro _ ⟨⟩; rfl), rfl⟩
      | some route =>
          exact engine.encryptAndInitiate_hears heard route.peer .data packet
            draw now

theorem createKeepalive_hears
    (engine : Engine snow)
    (peerName : PeerName)
    (payload : Bytes)
    (draw : Draw snow)
    (now : Instant) :
    engine.Hears heard
        (engine.createKeepalive peerName payload draw now) ∧
      engine.KeepsEndpoints
        (engine.createKeepalive peerName payload draw now) := by
  unfold createKeepalive
  cases engine.peer peerName with
  | none => exact ⟨.of_sessions engine.sessions (by rintro _ ⟨⟩), rfl⟩
  | some peer =>
      exact engine.encryptAndInitiate_hears heard peer .keepalive payload
        draw now

/-- Counting what was sent does not say that anybody was seen. -/
theorem recordTransportSent_hears
    (engine : Engine snow)
    (peerName : PeerName)
    (bytes : Nat) :
    engine.Hears heard
      (.ok .empty, engine.recordTransportSent peerName bytes) where
  router := rfl
  localStatic := rfl
  seen := by
    rintro other ⟨stats, stored, wasSeen⟩
    refine .inl ?_
    simp only [recordTransportSent, PeerState.recordTx] at stored
    by_cases isPeer : other = peerName
    · subst isPeer
      rw [AList.lookup_insert, Option.some.injEq] at stored
      subst stored
      cases noted : engine.peers.lookup other with
      | none => simp [PeerState.stats, noted, PeerStats.empty] at wasSeen
      | some entry =>
          refine ⟨entry, noted, ?_⟩
          simpa [PeerState.stats, noted] using wasSeen
    · rw [AList.lookup_insert_ne isPeer] at stored
      exact ⟨stats, stored, wasSeen⟩
  announced := by
    rintro output ⟨⟩ event member
    cases member

/-- Forgetting a roaming endpoint does not say that anybody was seen. -/
theorem updateResolvedEndpoint_hears
    (engine : Engine snow)
    (peerName : PeerName)
    (endpoint : SocketAddr) :
    engine.Hears heard
      (engine.perform (.updateResolvedEndpoint peerName endpoint)) := by
  have unchanged (error : EngineError snow) :
      engine.Hears heard (.error error, engine) :=
    .of_sessions engine.sessions (by rintro _ ⟨⟩)
  simp only [perform, updateResolvedEndpoint]
  split
  · exact unchanged _
  · cases engine.peer peerName with
    | none => exact unchanged _
    | some peer =>
        simp only
        split
        · exact .of_sessions engine.sessions (by rintro _ ⟨⟩; rfl)
        · refine
            { router := rfl
              localStatic := rfl
              seen := ?_
              announced := by rintro _ ⟨⟩ _ ⟨⟩ }
          rintro other ⟨stats, stored, wasSeen⟩
          refine .inl ?_
          simp only [PeerState.clearEndpoint] at stored
          cases noted : engine.peers.lookup peerName with
          | none =>
              rw [noted] at stored
              exact ⟨stats, stored, wasSeen⟩
          | some entry =>
              rw [noted] at stored
              by_cases isPeer : other = peerName
              · subst isPeer
                rw [AList.lookup_insert, Option.some.injEq] at stored
                subst stored
                exact ⟨entry, noted, wasSeen⟩
              · rw [AList.lookup_insert_ne isPeer] at stored
                exact ⟨stats, stored, wasSeen⟩

/-- An initiation is answered, but nobody is heard in it. -/
theorem processHandshakeInit_hears
    (engine : Engine snow)
    (handshakeId : SessionId)
    (message : Bytes)
    (source : SocketAddr)
    (draws : PeerName → Draw snow)
    (clock : Instant) :
    engine.Hears heard
        (engine.processHandshakeInit handshakeId message source draws
          clock) ∧
      engine.KeepsEndpoints
        (engine.processHandshakeInit handshakeId message source draws
          clock) := by
  unfold processHandshakeInit
  cases engine.decodeHandshakeInit handshakeId message draws clock with
  | none =>
      exact ⟨.of_sessions engine.sessions (by rintro _ ⟨⟩; rfl), rfl⟩
  | some answer =>
      simp only
      split
      · exact ⟨.of_sessions _ (by rintro _ ⟨⟩; rfl), rfl⟩
      · split
        · exact ⟨.of_sessions _ (by rintro _ ⟨⟩; rfl), rfl⟩
        · split <;>
            exact ⟨.of_sessions _ (by rintro _ ⟨⟩; rfl), rfl⟩

end Quiet

theorem stats_recordKeepalive_of_ne
    (peers : PeerState)
    {peerName other : PeerName}
    (differs : other ≠ peerName)
    (source : SocketAddr)
    (clock : Instant) :
    (peers.recordKeepalive peerName source clock).lookup other =
      peers.lookup other :=
  AList.lookup_insert_ne differs

/-- A response is heard from the peer whose initiation it completes. -/
theorem processHandshakeResponse_hears
    {engine : Engine snow}
    {frame : Bytes}
    {handshakeId : SessionId}
    {message : Bytes}
    (decoded :
      Auth.decodePacket frame =
        some (.handshake .handshakeResponse handshakeId message))
    (source : SocketAddr)
    (draws : PeerName → Draw snow)
    (now clock : Instant) :
    engine.Hears (engine.AuthenticatesAs frame draws now clock)
        (engine.processHandshakeResponse handshakeId message source
          clock) ∧
      engine.KeepsEndpoints
        (engine.processHandshakeResponse handshakeId message source
          clock) := by
  obtain ⟨acts, _, outcome⟩ :=
    engine.sessions.finalizeInitiator_execution handshakeId message clock
  unfold processHandshakeResponse
  rcases finalized :
    engine.sessions.finalizeInitiator handshakeId message clock with
    ⟨result, sessions⟩
  rw [finalized] at outcome
  simp only at outcome ⊢
  cases outcome with
  | unknown => exact ⟨.of_sessions _ (by rintro _ ⟨⟩; rfl), rfl⟩
  | abandoned => exact ⟨.of_sessions _ (by rintro _ ⟨⟩), rfl⟩
  | completed matched verified =>
      refine ⟨.of_heard _
        (fun other differs =>
          stats_recordKeepalive_of_ne _ differs source clock) ?_ ?_, rfl⟩
      · rintro output ⟨⟩ event member
        exact ⟨_, _, List.mem_singleton.mp member⟩
      · refine ⟨?_, .response decoded matched verified⟩
        rintro ⟨_, _, initiation⟩
        rw [decoded] at initiation
        cases initiation

/-- What a decrypted packet does to a peer that was heard in it. -/
theorem processDecrypted_hears
    (engine : Engine snow)
    {heard : PeerName → Prop}
    (sessions : SessionState snow)
    (decrypted : DecryptedTransport)
    (isHeard : heard decrypted.peerName)
    (source : SocketAddr)
    (now clock : Instant) :
    let events :=
      if decrypted.promotedResponderSession then
        [EngineEvent.handshakeCompleted decrypted.peerName source .responder]
      else
        []
    (engine.Hears heard
        (processKeepalive { engine with sessions } decrypted events source
          now clock) ∧
      engine.KeepsEndpoints
        (processKeepalive { engine with sessions } decrypted events source
          now clock)) ∧
      engine.Hears heard
          (processData { engine with sessions } decrypted events source
            clock) ∧
        engine.KeepsEndpoints
          (processData { engine with sessions } decrypted events source
            clock) := by
  intro events
  have onlyCompleted :
      ∀ event ∈ events, ∃ endpoint role,
        event =
          .handshakeCompleted decrypted.peerName endpoint role := by
    intro event member
    by_cases promoted : decrypted.promotedResponderSession = true
    · simp only [events, promoted, ↓reduceIte, List.mem_singleton] at member
      exact ⟨_, _, member⟩
    · simp [events, promoted] at member
  have noted (other : PeerName) (differs : other ≠ decrypted.peerName) :=
    stats_recordKeepalive_of_ne engine.peers differs source clock
  constructor
  · unfold processKeepalive
    dsimp only
    split
    · split
      · exact ⟨.of_heard _ noted (by rintro _ ⟨⟩) isHeard, rfl⟩
      · refine ⟨.of_heard _ noted ?_ isHeard, rfl⟩
        rintro output ⟨⟩
        exact onlyCompleted
    · refine ⟨.of_heard _ noted ?_ isHeard, rfl⟩
      rintro output ⟨⟩
      exact onlyCompleted
  · have notedData (other : PeerName) (differs : other ≠ decrypted.peerName) :
        (engine.peers.recordRx decrypted.peerName source
            decrypted.payload.length clock).lookup other =
          engine.peers.lookup other :=
      AList.lookup_insert_ne differs
    unfold processData
    simp only
    split
    · exact ⟨.of_heard _ notedData (by rintro _ ⟨⟩) isHeard, rfl⟩
    · refine ⟨.of_heard _ notedData ?_ isHeard, rfl⟩
      rintro output ⟨⟩
      exact onlyCompleted

/-- A packet is heard from the peer under whose session it verifies. -/
theorem processTransport_hears
    {engine : Engine snow}
    {frame : Bytes}
    {sessionId : SessionId}
    {counter : UInt64}
    {ciphertext : Bytes}
    (decoded :
      Auth.decodePacket frame =
        some (.transport sessionId counter ciphertext))
    (source : SocketAddr)
    (draws : PeerName → Draw snow)
    (now clock : Instant) :
    engine.Hears (engine.AuthenticatesAs frame draws now clock)
        (engine.processTransport sessionId counter ciphertext source now
          clock) ∧
      engine.KeepsEndpoints
        (engine.processTransport sessionId counter ciphertext source now
          clock) := by
  have authentic
      {peerName : PeerName}
      {session : Session snow}
      {plaintext : Bytes}
      (located :
        engine.sessions.located sessionId now = some (peerName, session))
      (opens :
        session.Authenticates sessionId counter ciphertext plaintext) :
      engine.AuthenticatesAs frame draws now clock peerName := by
    refine ⟨?_, .transport decoded located opens⟩
    rintro ⟨_, _, initiation⟩
    rw [decoded] at initiation
    cases initiation
  obtain ⟨_, _, _, _, outcome⟩ :=
    engine.sessions.decryptTransport_execution sessionId counter ciphertext
      now
  unfold processTransport
  rcases transported :
    engine.sessions.decryptTransport sessionId counter ciphertext now with
    ⟨result, sessions⟩
  rw [transported] at outcome
  simp only at outcome ⊢
  have delivered
      (decrypted : DecryptedTransport)
      (isHeard :
        engine.AuthenticatesAs frame draws now clock
          decrypted.peerName) :=
    engine.processDecrypted_hears sessions decrypted isHeard source now clock
  cases outcome with
  | unknown => exact ⟨.of_sessions _ (by rintro _ ⟨⟩; rfl), rfl⟩
  | @inPlace peerName _ session _ _ _ located =>
      cases opened : (session.decrypt sessionId counter ciphertext).1 with
      | error error => exact ⟨.of_sessions _ (by rintro _ ⟨⟩), rfl⟩
      | ok opened' =>
          obtain ⟨msgType, payload⟩ := opened'
          obtain ⟨_, opens⟩ := Session.authenticates_of_decrypt opened
          have outcomes :=
            delivered ⟨peerName, msgType, payload, false⟩
              (authentic located opens)
          cases msgType with
          | keepalive => exact outcomes.1
          | data => exact outcomes.2
  | @promoted peerName session msgType payload _ _ _ located opened =>
      obtain ⟨_, opens⟩ := Session.authenticates_of_decrypt opened
      have outcomes :=
        delivered ⟨peerName, msgType, payload, true⟩
          (authentic located opens)
      cases msgType with
      | keepalive => exact outcomes.1
      | data => exact outcomes.2

/-- An inbound frame is heard from the peer as whose it verifies. -/
theorem processInboundTransport_hears
    (engine : Engine snow)
    (frame : Bytes)
    (source : SocketAddr)
    (draws : PeerName → Draw snow)
    (now clock : Instant) :
    engine.Hears (engine.AuthenticatesAs frame draws now clock)
        (engine.processInboundTransport frame source draws now clock) ∧
      engine.KeepsEndpoints
        (engine.processInboundTransport frame source draws now clock) := by
  unfold processInboundTransport
  cases decoded : Auth.decodePacket frame with
  | none => exact ⟨.of_sessions engine.sessions (by rintro _ ⟨⟩; rfl), rfl⟩
  | some packet =>
      cases packet with
      | transport sessionId counter ciphertext =>
          exact processTransport_hears decoded source draws now clock
      | handshake kind handshakeId message =>
          cases kind with
          | transport =>
              exact
                ⟨.of_sessions engine.sessions (by rintro _ ⟨⟩; rfl), rfl⟩
          | handshakeInit =>
              exact engine.processHandshakeInit_hears _ handshakeId message
                source draws clock
          | handshakeResponse =>
              exact processHandshakeResponse_hears decoded source draws now
                clock

/-- A call hears the peers that it authenticates. -/
theorem perform_hears
    (engine : Engine snow)
    (call : EngineCall snow) :
    engine.Hears (fun peerName => engine.Authenticates peerName call)
      (engine.perform call) := by
  cases call with
  | processOutboundIp packet draw now =>
      exact (engine.processOutboundIp_hears _ packet draw now).1
  | processInboundTransport frame source draws now clock =>
      exact (engine.processInboundTransport_hears frame source draws now
        clock).1
  | recordTransportSent peerName bytes =>
      exact engine.recordTransportSent_hears _ peerName bytes
  | invalidatePeer peerName =>
      exact .of_sessions _ (by rintro _ ⟨⟩; rfl)
  | updateResolvedEndpoint peerName endpoint =>
      exact engine.updateResolvedEndpoint_hears _ peerName endpoint
  | initiateHandshake peerName draw now =>
      exact (engine.initiateHandshake_hears _ peerName draw now).1
  | createKeepalive peerName payload draw now =>
      exact (engine.createKeepalive_hears _ peerName payload draw now).1

/-- Only an update changes how the endpoint of a peer was resolved. -/
theorem perform_keepsEndpoints
    (engine : Engine snow)
    {call : EngineCall snow}
    (noUpdate :
      ∀ peerName endpoint, call ≠ .updateResolvedEndpoint peerName endpoint) :
    engine.KeepsEndpoints (engine.perform call) := by
  let heard : PeerName → Prop := fun _ => True
  cases call with
  | processOutboundIp packet draw now =>
      exact (engine.processOutboundIp_hears heard packet draw now).2
  | processInboundTransport frame source draws now clock =>
      exact (engine.processInboundTransport_hears frame source draws now
        clock).2
  | recordTransportSent peerName bytes => rfl
  | invalidatePeer peerName => rfl
  | updateResolvedEndpoint peerName endpoint =>
      exact absurd rfl (noUpdate peerName endpoint)
  | initiateHandshake peerName draw now =>
      exact (engine.initiateHandshake_hears heard peerName draw now).2
  | createKeepalive peerName payload draw now =>
      exact (engine.createKeepalive_hears heard peerName payload draw now).2

end Engine

end HushWire

import HushWire.Engine
import HushWire.HandshakeEvents
import HushWire.PlainNoise

namespace HushWire

open Noise

/-!
# Cold handshakes

Outbound traffic to a peer without a session and without an attempt should
start a handshake.  `start_or_retry_handshake` declines to compete with an
unconfirmed candidate so that traffic keeps using the current session, but it
does not ask whether there is one.  Until the candidate reaches its reject
deadline an initiation that was answered and never confirmed therefore
silences the peer.
-/

variable {snow : Snow}

/-- A call hands a handshake initiation for the peer to the platform. -/
def EmitsInitiation
    (peerName : PeerName)
    (result : Except (EngineError snow) EngineOutput) :
    Prop :=
  ∃ output endpoint handshakeId message,
    result = .ok output ∧
      .sendTransport peerName endpoint
          (Auth.encodeHandshake .handshakeInit handshakeId message) ∈
        output.actions

namespace SessionState

/-- The peer has no session that it could still send through. -/
def NoActiveSession
    (state : SessionState snow)
    (peerName : PeerName)
    (now : Instant) :
    Prop :=
  ∀ session,
    state.sessions.lookup peerName = some session →
    session.isExpired now = true

/-- No unconfirmed inbound exchange of the peer waits for its confirmation. -/
def NoCandidate
    (state : SessionState snow)
    (peerName : PeerName)
    (now : Instant) :
    Prop :=
  ∀ candidate,
    state.responderCandidates.lookup peerName = some candidate →
    candidate.isExpired now = true

instance
    (state : SessionState snow)
    (peerName : PeerName)
    (now : Instant) :
    Decidable (state.NoCandidate peerName now) :=
  decidable_of_iff
    ((state.responderCandidates.lookup peerName).all
      fun candidate => candidate.isExpired now)
    (by simp [NoCandidate, Option.all_eq_true])

/-- Without a session nothing is encrypted and only expired ones are dropped. -/
theorem encryptForPeer_of_noActiveSession
    {state : SessionState snow}
    {peerName : PeerName}
    {now : Instant}
    (noSession : state.NoActiveSession peerName now)
    (msgType : Auth.MsgType)
    (payload : Bytes) :
    state.encryptForPeer peerName msgType payload now =
      (.ok none,
        (state.dropExpiredPrevious now).dropExpiredSession peerName now) := by
  have gone :
      ((state.dropExpiredPrevious now).dropExpiredSession peerName
        now).sessions.lookup peerName = none := by
    cases stored :
        ((state.dropExpiredPrevious now).dropExpiredSession peerName
          now).sessions.lookup peerName with
    | none =>
        rfl
    | some session =>
        obtain ⟨active, unexpired⟩ := (sessions_dropExpiredSession _ _ _ _).mp stored
        rw [noSession session active] at unexpired
        cases unexpired
  simp [encryptForPeer, gone]

/--
Without a session and without a live attempt an initiation is due exactly when
no candidate waits.
-/
theorem startOrRetryHandshake_iff
    {state : SessionState snow}
    {peerName : PeerName}
    {localStatic remoteStaticPub psk : Key}
    {draw : Draw snow}
    {now : Instant}
    {handshake : InitiatorHandshake snow}
    (noSession : state.NoActiveSession peerName now)
    (noAttempt : state.livePending peerName now = none)
    (drawn :
      initiatorStart localStatic remoteStaticPub psk draw =
        .ok handshake) :
    (state.startOrRetryHandshake peerName localStatic remoteStaticPub psk
        draw now).1 =
      .ok
        (if state.NoCandidate peerName now then
          some (PendingInitiator.ofHandshake handshake now).packet
        else
          none) := by
  obtain ⟨drops, acts, _, _, outcome⟩ :=
    state.startOrRetryHandshake_execution peerName localStatic
      remoteStaticPub psk draw now
  generalize
    (state.startOrRetryHandshake peerName localStatic remoteStaticPub psk
      draw now).1 = result
    at outcome ⊢
  cases outcome with
  | waiting live | retransmitted live =>
      rw [noAttempt] at live
      cases live
  | confirming _ candidate unexpired =>
      rw [if_neg]
      intro noCandidate
      rw [noCandidate _ candidate] at unexpired
      cases unexpired
  | current _ _ active unexpired =>
      rw [noSession _ active] at unexpired
      cases unexpired
  | due _ noCandidate _ started =>
      rw [if_pos (show state.NoCandidate peerName now from noCandidate)]
      rcases started with
        ⟨error, failed, _⟩ | ⟨started, startedOk, _, resultOk⟩
      · rw [drawn] at failed
        cases failed
      · rw [drawn, Except.ok.injEq] at startedOk
        rw [resultOk, startedOk]

end SessionState

/--
For every valid packet to a peer with an endpoint, without a session and
without an attempt, an initiation is emitted exactly when no candidate waits.
-/
theorem outbound_starts_cold_handshake_iff
    {engine : Engine snow}
    {packet : Bytes}
    {ipv4 : Ipv4Packet}
    {route : Route}
    {endpoint : SocketAddr}
    {draw : Draw snow}
    {now : Instant}
    {handshake : InitiatorHandshake snow}
    (valid : Ipv4Packet.parse packet = .ok ipv4)
    (routed : engine.router.lookup ipv4.destination = some route)
    (usable : engine.resolveEndpoint route.peer = some endpoint)
    (noSession : engine.sessions.NoActiveSession route.peer.name now)
    (noAttempt : engine.sessions.livePending route.peer.name now = none)
    (drawn :
      initiatorStart engine.localStatic route.peer.publicKey route.peer.psk
        draw = .ok handshake) :
    EmitsInitiation route.peer.name
        (engine.processOutboundIp packet draw now).1 ↔
      engine.sessions.NoCandidate route.peer.name now := by
  let peerName := route.peer.name
  let sessions :=
    (engine.sessions.dropExpiredPrevious now).dropExpiredSession peerName now
  have stillNoSession : sessions.NoActiveSession peerName now := by
    intro session active
    exact noSession session
      ((SessionState.sessions_dropExpiredSession _ _ _ _).mp active).1
  have stillNoAttempt : sessions.livePending peerName now = none := by
    simpa [sessions, SessionState.livePending, SessionState.entry,
      SessionState.dropExpiredPrevious] using noAttempt
  have sameCandidates :
      sessions.NoCandidate peerName now ↔
        engine.sessions.NoCandidate peerName now := by
    simp [sessions, SessionState.NoCandidate,
      SessionState.dropExpiredPrevious]
  have started :=
    SessionState.startOrRetryHandshake_iff stillNoSession stillNoAttempt drawn
  have sameEndpoint :
      ({ engine with sessions } : Engine snow).resolveEndpoint route.peer =
        some endpoint :=
    usable
  have result :
      (engine.processOutboundIp packet draw now).1 =
        .ok
          { actions :=
              (if sessions.NoCandidate peerName now then
                [EngineAction.sendTransport peerName endpoint
                  (PendingInitiator.ofHandshake handshake now).packet]
              else
                [])
            events := [] } := by
    simp only [Engine.processOutboundIp, valid, routed,
      Engine.encryptAndInitiate, Engine.initiatePeer,
      SessionState.encryptForPeer_of_noActiveSession noSession]
    rw [sameEndpoint]
    by_cases noCandidate : sessions.NoCandidate peerName now
    · rw [if_pos noCandidate] at started ⊢
      simp only
      rw [started]
      rfl
    · rw [if_neg noCandidate] at started ⊢
      simp only
      rw [started]
      rfl
  rw [result, ← sameCandidates]
  constructor
  · rintro ⟨output, target, handshakeId, message, ⟨⟩, emitted⟩
    by_contra waiting
    simp [waiting] at emitted
  · intro noCandidate
    exact ⟨_, endpoint, handshake.handshakeId, handshake.message, rfl,
      by simp [noCandidate, PendingInitiator.ofHandshake, peerName]⟩

namespace ColdHandshakeExample

/-- The only peer, reachable at a fixed address. -/
def peer : Peer where
  name := "exit"
  endpoint := { ip := .v4 0xC0000201, port := 4000 }
  configuredEndpoint :=
    .ofSocketAddr "192.0.2.1" { ip := .v4 0xC0000201, port := 4000 }
  excludedIps := []
  psk := .fill 3
  publicKey := .fill 2
  persistentKeepalive := 0
  udpRebindAfter := 0
  sessionTimeout := 0

def route : Route where
  net := { address := 0x0A000000, prefixLen := 8 }
  peer := peer

def router : Router :=
  ⟨[route], []⟩

/-- An engine before any traffic. -/
def idle : Engine PlainNoise.snow :=
  .withRouter (.fill 1) router

/-- The keys that the engine draws. -/
def draw : Draw PlainNoise.snow where
  id := .fill 8
  ephemeral := (5 : UInt8)

/-- A handshake initiation of the peer. -/
def initiation : Bytes :=
  Auth.encodeHandshake .handshakeInit (.fill 7)
    ([4] ++ (Key.fill 2).bytes ++
      PlainNoise.binding (.fill 1) (.fill 3)
        (Auth.handshakePrologue (.fill 7)))

/-- The peer's initiation arrives and is answered. -/
def answer : EngineCall PlainNoise.snow :=
  .processInboundTransport initiation peer.endpoint (fun _ => draw) 0 0

/-- The engine once its answer is lost and the peer has given up. -/
def waiting : Engine PlainNoise.snow :=
  (idle.perform answer).2

/-- An IPv4 header without payload, to an address of the route. -/
def packet : Bytes :=
  [0x45] ++ List.replicate 15 0 ++ [10, 0, 0, 9]

def ipv4 : Ipv4Packet where
  bytes := packet
  size := by decide

/-- The handshake that the engine would start. -/
def attempt : InitiatorHandshake PlainNoise.snow :=
  let request :=
    [5] ++ (Key.fill 1).bytes ++
      PlainNoise.binding (.fill 2) (.fill 3)
        (Auth.handshakePrologue (.fill 8))
  { handshakeId := .fill 8
    message := request
    state :=
      { handshakeId := .fill 8
        state :=
          { isInitiator := true
            localStatic := .fill 1
            remoteStatic := some (.fill 2)
            psk := .fill 3
            prologue := Auth.handshakePrologue (.fill 8)
            initiatorEphemeral := some 5
            responderEphemeral := none
            request } } }

set_option maxRecDepth 4000 in
theorem initiatorStart_attempt :
    initiatorStart (.fill 1) peer.publicKey peer.psk draw = .ok attempt :=
  rfl

end ColdHandshakeExample

open ColdHandshakeExample in
/-- Without a candidate the first packet starts a handshake. -/
theorem outbound_starts_cold_handshake_example :
    EmitsInitiation "exit" (idle.processOutboundIp packet draw 0).1 :=
  have parsed : Ipv4Packet.parse packet = .ok ipv4 := rfl
  have routed : idle.router.lookup ipv4.destination = some route := by
    decide
  have resolved :
      idle.resolveEndpoint route.peer = some peer.endpoint := by
    decide
  (outbound_starts_cold_handshake_iff parsed routed resolved
    (by rintro _ ⟨⟩) rfl initiatorStart_attempt).mpr (by rintro _ ⟨⟩)

open ColdHandshakeExample in
/--
An inbound initiation that was answered and never confirmed silences the peer:
a hundred seconds later a packet starts no handshake although there is neither
a session nor an attempt.
-/
theorem outbound_starts_cold_handshake_counterexample :
    Engine.Reachable (.fill 1) router waiting ∧
      Ipv4Packet.parse packet = .ok ipv4 ∧
      waiting.router.lookup ipv4.destination = some route ∧
      waiting.resolveEndpoint peer = some peer.endpoint ∧
      waiting.sessions.hasActiveSession "exit" (fromSecs 100) = false ∧
      waiting.sessions.hasPendingInit "exit" = false ∧
      initiatorStart waiting.localStatic peer.publicKey peer.psk draw =
        .ok attempt ∧
      ¬ EmitsInitiation "exit"
        (waiting.processOutboundIp packet draw (fromSecs 100)).1 := by
  have sameKey : waiting.localStatic = .fill 1 := by
    decide +kernel
  refine ⟨.perform .start answer, by rfl, by decide +kernel,
    by decide +kernel, by decide +kernel, by decide +kernel,
    by rw [sameKey, initiatorStart_attempt], ?_⟩
  have silent :
      ((waiting.processOutboundIp packet draw
        (fromSecs 100)).1.toOption.map EngineOutput.actions) = some [] := by
    decide +kernel
  rintro ⟨output, endpoint, handshakeId, message, result, emitted⟩
  rw [result] at silent
  simp only [Except.toOption, Option.map_some, Option.some.injEq] at silent
  rw [silent] at emitted
  cases emitted

end HushWire

import HushWire.RebindBroadcast
import HushWire.RouteAgreement
import HushWire.TcpTransport

namespace HushWire

open Noise

/-!
# Packets that fit the interface

A packet passes three limits on its way: with its type byte and its tag it is
one Noise message, with the transport header it is one frame, and over TCP the
length of the frame has two bytes.  The configuration bounds the MTU from
below only, so not every packet of an interface passes them.
-/

variable {snow : Snow}

/-! ## Queueing a frame -/

/-- The stream takes bytes or has the sender wait. -/
def WriteOutcome.Works : WriteOutcome → Prop
  | .written count => count ≠ 0
  | .failed error =>
      error.kind = .interrupted ∨
        error.kind = .wouldBlock ∨
        error.kind = .timedOut

namespace PendingWrites

/-- Flushing to a stream that works does not fail. -/
theorem flushTo_isOk
    (pending : PendingWrites)
    {outcomes : List WriteOutcome}
    (works : ∀ outcome ∈ outcomes, outcome.Works) :
    (pending.flushTo outcomes).1 = .ok () := by
  induction outcomes generalizing pending with
  | nil =>
      unfold flushTo
      split <;> rfl
  | cons outcome rest inductionHypothesis =>
      have restWorks : ∀ later ∈ rest, later.Works := fun later member =>
        works later (List.mem_cons_of_mem _ member)
      have first := works outcome List.mem_cons_self
      unfold flushTo
      split
      case isFalse => rfl
      case isTrue =>
        cases outcome with
        | written count =>
            cases count with
            | zero =>
                exact absurd rfl first
            | succ count =>
                exact inductionHypothesis _ restWorks
        | failed error =>
            rcases first with interrupted | wouldBlock | timedOut
            · simp only [interrupted]
              exact inductionHypothesis pending restWorks
            · simp only [wouldBlock]
            · simp only [timedOut]

end PendingWrites

namespace ConnState

/-- The stream works, and once flushed the queue has room for the frame. -/
structure HasRoom
    (conn : ConnState)
    (frame : Bytes)
    (earlier later : List WriteOutcome) :
    Prop where
  works : ∀ outcome ∈ earlier ++ later, outcome.Works
  room :
    (conn.pendingWrites.flushTo earlier).2.1.pendingLen +
        (2 + frame.length) ≤
      (conn.pendingWrites.flushTo earlier).2.1.limit

/-- Where there is room only a frame that is too long is rejected. -/
theorem queueFrame_isOk
    {conn : ConnState}
    {frame : Bytes}
    {earlier later : List WriteOutcome}
    (hasRoom : conn.HasRoom frame earlier later) :
    (conn.queueFrame frame earlier later).1 = .ok () ↔
      frame.length ≤ 65535 := by
  have flushed : (conn.pendingWrites.flushTo earlier).1 = .ok () :=
    PendingWrites.flushTo_isOk _ fun outcome member =>
      hasRoom.works outcome (List.mem_append_left _ member)
  unfold queueFrame PendingWrites.enqueueFrame
  dsimp only
  rw [flushed]
  dsimp only
  by_cases tooLong : 65535 < frame.length
  · simp [tooLong]
  · rw [if_neg tooLong, if_neg (Nat.not_lt.mpr hasRoom.room)]
    have laterWorks : ∀ outcome ∈ later, outcome.Works :=
      fun outcome member =>
        hasRoom.works outcome (List.mem_append_right _ member)
    simp [PendingWrites.flushTo_isOk _ laterWorks, Nat.not_lt.mp tooLong]

/-- A new connection has room for frames of every length that can occur. -/
theorem new_hasRoom
    {frame : Bytes}
    (short : 2 + frame.length ≤ maxPendingWriteBytes) :
    new.HasRoom frame [] [] where
  works := by
    simp
  room := by
    simpa [new, PendingWrites.new, PendingWrites.flushTo,
      PendingWrites.pendingLen] using short

end ConnState

/-! ## Sending a packet -/

namespace SessionState

variable {state : SessionState snow}

/-- A live initiation or candidate keeps a new exchange from starting. -/
def handshakeUnderWay
    (state : SessionState snow)
    (peerName : PeerName)
    (now : Instant) :
    Bool :=
  (state.livePending peerName now).isSome ||
    (state.responderCandidates.lookup peerName).any fun candidate =>
      !candidate.isExpired now

theorem lookup_dropExpiredSession
    (state : SessionState snow)
    (peerName : PeerName)
    (now : Instant) :
    (state.dropExpiredSession peerName now).sessions.lookup peerName =
      (state.sessions.lookup peerName).filter fun session =>
        !session.isExpired now := by
  ext session
  rw [sessions_dropExpiredSession, Option.filter_eq_some_iff]
  simp

theorem startHandshake_sessions
    {peerName queried : PeerName}
    {localStatic remoteStaticPub psk : Key}
    {draw : Draw snow}
    {now : Instant} :
    (state.startHandshake peerName localStatic remoteStaticPub psk draw
        now).2.sessions.lookup queried =
      state.sessions.lookup queried := by
  unfold startHandshake
  split <;> rfl

@[simp] theorem encryptForPeer_responderCandidates
    (state : SessionState snow)
    (peerName : PeerName)
    (msgType : Auth.MsgType)
    (payload : Bytes)
    (now : Instant) :
    (state.encryptForPeer peerName msgType payload
        now).2.responderCandidates =
      state.responderCandidates := by
  unfold encryptForPeer
  dsimp only
  split <;> simp [dropExpiredPrevious]

/-- Starting an exchange drops an expired session, unless one is under way. -/
theorem startOrRetryHandshake_session
    (state : SessionState snow)
    (peerName : PeerName)
    (localStatic remoteStaticPub psk : Key)
    (draw : Draw snow)
    (now : Instant) :
    (state.startOrRetryHandshake peerName localStatic remoteStaticPub psk draw
        now).2.sessions.lookup peerName =
      if state.handshakeUnderWay peerName now then
        state.sessions.lookup peerName
      else
        (state.sessions.lookup peerName).filter fun session =>
          !session.isExpired now := by
  have kept := state.entry_dropExpiredPending peerName now peerName
  rw [if_pos rfl] at kept
  have keptPending :
      (state.dropExpiredPending peerName now).pendingInit.lookup peerName =
        state.livePending peerName now :=
    congrArg PeerEntry.pending kept
  have keptCandidate :
      (state.dropExpiredPending peerName now).responderCandidates.lookup
          peerName =
        state.responderCandidates.lookup peerName :=
    congrArg PeerEntry.candidate kept
  have keptSession :
      (state.dropExpiredPending peerName now).sessions.lookup peerName =
        state.sessions.lookup peerName :=
    congrArg PeerEntry.session kept
  unfold startOrRetryHandshake handshakeUnderWay
  dsimp only
  rw [keptPending]
  cases live : state.livePending peerName now with
  | some pending =>
      dsimp only
      split
      · exact keptSession
      · exact keptSession
  | none =>
      have candidateFiltered :=
        candidates_dropExpiredCandidate
          (state.dropExpiredPending peerName now) peerName now
      rw [keptCandidate] at candidateFiltered
      have sessionFiltered :=
        lookup_dropExpiredSession
          ((state.dropExpiredPending peerName now).dropExpiredCandidate
            peerName now)
          peerName now
      rw [dropExpiredCandidate_sessions, keptSession] at sessionFiltered
      dsimp only
      cases waiting :
          ((state.dropExpiredPending peerName now).dropExpiredCandidate
            peerName now).responderCandidates.lookup peerName with
      | some candidate =>
          rw [waiting, eq_comm, Option.filter_eq_some_iff] at candidateFiltered
          obtain ⟨isCandidate, unexpired⟩ := candidateFiltered
          simp [isCandidate, unexpired, keptSession]
      | none =>
          rw [waiting, eq_comm, Option.filter_eq_none_iff] at candidateFiltered
          have noCandidate :
              (state.responderCandidates.lookup peerName).any
                  (fun candidate => !candidate.isExpired now) =
                false := by
            rw [Option.any_eq_false_iff_get]
            intro isSome
            simpa using candidateFiltered _ (Option.some_get isSome).symm
          simp only [noCandidate, Option.isSome_none, Bool.or_self,
            Bool.false_eq_true, if_false]
          rw [← sessionFiltered]
          split
          · exact startHandshake_sessions
          · split
            · exact startHandshake_sessions
            · rfl

end SessionState

namespace Engine

variable {engine : Engine snow}

/-- The largest packet whose frame has a length of two bytes. -/
def maxFramedPacket : Nat := 65500

/--
A packet to a peer is sent under its session, which stays active, and every
connection with room queues the frame.
-/
structure Carries
    (engine : Engine snow)
    (peer : Peer)
    (endpoint : SocketAddr)
    (session : Session snow)
    (packet : Bytes)
    (draw : Draw snow)
    (now : Instant) :
    Prop where
  kept :
    (engine.processOutboundIp packet draw now).2.sessions.sessions.lookup
        peer.name =
      some (session.encrypt .data packet).2
  sends :
    ∃ output frame,
      (engine.processOutboundIp packet draw now).1 = .ok output ∧
        (session.encrypt .data packet).1 = .ok frame ∧
        .sendTransport peer.name endpoint frame ∈ output.actions ∧
        ∀ conn earlier later,
          ConnState.HasRoom conn frame earlier later →
          (conn.queueFrame frame earlier later).1 = .ok ()

/-- A frame has 35 bytes more than its packet. -/
theorem frame_length
    {packet frame : Bytes}
    (size :
      frame.length =
        Auth.transportHeaderSize + (packet.length + 1 + aeadTagSize)) :
    frame.length = packet.length + 35 := by
  have headerSize : Auth.transportHeaderSize = 18 := rfl
  rw [size, headerSize, aeadTagSize]
  omega

/-- What TCP can frame is no longer than what Noise can encrypt. -/
theorem fits_of_le
    {packet : Bytes}
    (short : packet.length ≤ maxFramedPacket) :
    packet.length + 1 + aeadTagSize ≤ maxNoiseMessageSize := by
  rw [maxFramedPacket] at short
  rw [aeadTagSize, maxNoiseMessageSize]
  omega

/-- After the encryption only the last message can cost the session. -/
theorem session_of_initiatePeer
    {peer : Peer}
    {endpoint : SocketAddr}
    {session : Session snow}
    {now : Instant}
    (resolved : engine.resolveEndpoint peer = some endpoint)
    (active : engine.sessions.sessions.lookup peer.name = some session)
    (unexpired : session.isExpired now = false)
    (msgType : Auth.MsgType)
    (payload : Bytes)
    (draw : Draw snow) :
    ((engine.afterEncryption peer.name msgType payload now).initiatePeer peer
          draw now).2.sessions.sessions.lookup peer.name =
        some (session.encrypt msgType payload).2 ↔
      (session.sendCounter + 1 = u64Max →
        engine.sessions.handshakeUnderWay peer.name now = true) := by
  obtain ⟨_, isActive⟩ :=
    SessionState.encryptForPeer_active active unexpired msgType payload
  have sameUnderWay :
      (engine.afterEncryption peer.name msgType payload
            now).sessions.handshakeUnderWay peer.name now =
        engine.sessions.handshakeUnderWay peer.name now := by
    simp [afterEncryption, SessionState.handshakeUnderWay,
      SessionState.livePending, SessionState.entry]
  have expires :
      (session.encrypt msgType payload).2.isExpired now =
        decide (session.sendCounter + 1 = u64Max) := by
    have unexhausted := NonceInvariant.unexhausted_of_unexpired unexpired
    have young := (Bool.or_eq_false_iff.mp unexpired).1
    unfold Session.isExpired
    rw [Session.encrypt_createdAt, young,
      Session.encrypt_sendCounter unexhausted, Bool.false_or]
  have started :
      ((engine.afterEncryption peer.name msgType payload now).initiatePeer
            peer draw now).2.sessions =
        ((engine.afterEncryption peer.name msgType payload
            now).sessions.startOrRetryHandshake peer.name engine.localStatic
          peer.publicKey peer.psk draw now).2 := by
    have stillResolved :
        (engine.afterEncryption peer.name msgType payload
            now).resolveEndpoint peer =
          some endpoint :=
      resolved
    unfold initiatePeer
    rw [stillResolved]
    rfl
  rw [started, SessionState.startOrRetryHandshake_session, sameUnderWay]
  have isLookup :
      (engine.afterEncryption peer.name msgType payload
          now).sessions.sessions.lookup peer.name =
        some (session.encrypt msgType payload).2 :=
    isActive
  rw [isLookup]
  by_cases underWay :
      engine.sessions.handshakeUnderWay peer.name now = true
  · simp [underWay]
  · rw [if_neg underWay, Option.filter_eq_some_iff, expires]
    simp [underWay]

/-- A packet that cannot be encrypted costs the session. -/
theorem encryptAndInitiate_session_of_error
    {peer : Peer}
    {session : Session snow}
    {payload : Bytes}
    {now : Instant}
    (active : engine.sessions.sessions.lookup peer.name = some session)
    (unexpired : session.isExpired now = false)
    {msgType : Auth.MsgType}
    {error : NoiseError snow}
    (failed : (session.encrypt msgType payload).1 = .error error)
    (draw : Draw snow) :
    (engine.encryptAndInitiate peer msgType payload draw
        now).2.sessions.sessions.lookup peer.name =
      none := by
  obtain ⟨isFailed, _⟩ :=
    SessionState.encryptForPeer_active active unexpired msgType payload
  rw [failed] at isFailed
  have absent :
      ((engine.afterEncryption peer.name msgType payload now).invalidatePeer
            peer.name).2.sessions.sessions.lookup peer.name =
        none := by
    simp [invalidatePeer, SessionState.invalidatePeer]
  have stillAbsent := initiatePeer_session_of_none absent peer draw now
  unfold encryptAndInitiate
  dsimp only
  rw [isFailed]
  dsimp only [Except.map]
  split <;> exact stillAbsent

/-- A frame that is queued was written from a packet that is not too long. -/
theorem Carries.length_le
    (limits : NoiseLimits snow)
    (starts : snow.StartsHandshakes)
    {packet : Bytes}
    {ipv4 : Ipv4Packet}
    {route : Route}
    {endpoint : SocketAddr}
    {session : Session snow}
    {draw : Draw snow}
    {now : Instant}
    (carries : engine.Carries route.peer endpoint session packet draw now)
    (parsed : Ipv4Packet.parse packet = .ok ipv4)
    (routed : engine.router.lookup ipv4.destination = some route)
    (resolved : engine.resolveEndpoint route.peer = some endpoint)
    (active :
      engine.sessions.sessions.lookup route.peer.name = some session)
    (unexpired : session.isExpired now = false) :
    packet.length ≤ maxFramedPacket := by
  have isResult := processOutboundIp_of_route parsed routed draw now
  by_cases fits : packet.length + 1 + aeadTagSize ≤ maxNoiseMessageSize
  · obtain ⟨_, frame, _, encrypted, size, _⟩ :=
      encryptAndInitiate_active limits starts resolved active unexpired .data
        fits draw
    obtain ⟨_, other, _, isFrame, _, queues⟩ := carries.sends
    cases encrypted.symm.trans isFrame
    have frameSize := frame_length size
    have hasRoom : ConnState.new.HasRoom frame [] [] :=
      ConnState.new_hasRoom (by
        rw [frameSize, maxPendingWriteBytes]
        rw [aeadTagSize, maxNoiseMessageSize] at fits
        omega)
    have short :=
      (ConnState.queueFrame_isOk hasRoom).mp (queues _ _ _ hasRoom)
    rw [frameSize] at short
    rw [maxFramedPacket]
    omega
  · obtain ⟨error, failed⟩ :=
      limits.refuses session .data (Nat.not_le.mp fits)
    have kept := carries.kept
    rw [isResult,
      encryptAndInitiate_session_of_error active unexpired failed draw] at kept
    cases kept

end Engine

/--
A packet keeps the session of its peer and is sent over TCP exactly if it has at
most 65500 bytes, and the session has a message left or an exchange is under
way; neither the engine's history nor the MTU matters.
-/
theorem packet_carried_iff
    (limits : NoiseLimits snow)
    (starts : snow.StartsHandshakes)
    {engine : Engine snow}
    {packet : Bytes}
    {ipv4 : Ipv4Packet}
    {route : Route}
    {endpoint : SocketAddr}
    {session : Session snow}
    {now : Instant}
    (parsed : Ipv4Packet.parse packet = .ok ipv4)
    (routed : engine.router.lookup ipv4.destination = some route)
    (resolved : engine.resolveEndpoint route.peer = some endpoint)
    (active :
      engine.sessions.sessions.lookup route.peer.name = some session)
    (unexpired : session.isExpired now = false)
    (draw : Draw snow) :
    engine.Carries route.peer endpoint session packet draw now ↔
      packet.length ≤ Engine.maxFramedPacket ∧
        (session.sendCounter + 1 = u64Max →
          engine.sessions.handshakeUnderWay route.peer.name now = true) := by
  have isResult := Engine.processOutboundIp_of_route parsed routed draw now
  have staysActive :=
    Engine.session_of_initiatePeer resolved active unexpired .data packet
      draw
  have sent (short : packet.length ≤ Engine.maxFramedPacket) :=
    Engine.encryptAndInitiate_active limits starts resolved active unexpired
      .data (Engine.fits_of_le short) draw
  constructor
  · intro carries
    have short :=
      carries.length_le limits starts parsed routed resolved active unexpired
    obtain ⟨_, _, _, _, _, isSent⟩ := sent short
    have kept := carries.kept
    rw [isResult, isSent] at kept
    exact ⟨short, staysActive.mp kept⟩
  · rintro ⟨short, lasts⟩
    obtain ⟨action, frame, _, encrypted, size, isSent⟩ := sent short
    rw [isSent] at isResult
    refine ⟨?_, ?_⟩
    · rw [isResult]
      exact staysActive.mpr lasts
    · rw [isResult]
      refine ⟨_, frame, rfl, encrypted, by simp, ?_⟩
      intro conn earlier later hasRoom
      refine (ConnState.queueFrame_isOk hasRoom).mpr ?_
      rw [Engine.frame_length size]
      rw [Engine.maxFramedPacket] at short
      omega

namespace OversizeExample

open AgreementExample (endpoint sentFrame)
open TwoPeersExample (decodeBase64 initiate respond)

def toSocketAddrs (_ : String) (_ : UInt16) :
    Except String (List SocketAddr) :=
  .error "no such host"

/-- Over TCP, with the largest MTU there is. -/
def config : Config where
  interface :=
    { name := "hush0"
      address := { address := 0x0A070001, prefixLen := 24 }
      listen := endpoint
      transport := .tcp
      mtu := 65535
      privateKey := "a" }
  gateway := none
  peer :=
    [{ name := "peer"
       endpoint := .ofSocketAddr "10.0.0.1" endpoint
       allowedIps := [{ address := 0x0A010000, prefixLen := 16 }]
       excludedIps := []
       psk := "ccc"
       publicKey := "bb"
       persistentKeepalive := 25
       udpRebindAfter := 0
       sessionTimeout := none }]

def router : Router :=
  (Router.new decodeBase64 toSocketAddrs config).toOption.getD ⟨[], []⟩

def localStatic : Key :=
  (decodeKey decodeBase64 config.interface.privateKey).getD (.fill 0)

def idle : Engine PlainNoise.snow :=
  .withRouter localStatic router

def answer : EngineCall PlainNoise.snow :=
  respond (.fill 2) (sentFrame (idle.perform (initiate "peer" 7))) 8 0

/-- The peer has answered the initiation. -/
def engine : Engine PlainNoise.snow :=
  ((idle.perform (initiate "peer" 7)).2.perform answer).2

def route : Route :=
  router.routes.head?.getD
    ⟨⟨0, 0⟩, TwoPeersExample.peer "" (.fill 0)⟩

def header : Bytes :=
  0x45 :: List.replicate 15 0 ++ [10, 1, 0, 1]

/-- A packet to the peer, with a number of bytes after its header. -/
def packet (size : Nat) : Bytes :=
  header ++ List.replicate size 0

def draw : Draw PlainNoise.snow where
  id := .fill 9
  ephemeral := (9 : UInt8)

theorem config_accepted : config.validate decodeBase64 = .ok () := by
  decide +kernel

theorem router_built :
    Router.new decodeBase64 toSocketAddrs config = .ok router := by
  decide +kernel

theorem engine_reachable :
    Engine.Reachable localStatic router engine :=
  .perform (.perform .start (initiate "peer" 7)) answer

theorem packet_length (size : Nat) : (packet size).length = 20 + size := by
  rw [packet, List.length_append, List.length_replicate]
  rfl

theorem packet_parsed (size : Nat) :
    ∃ ipv4,
      Ipv4Packet.parse (packet size) = .ok ipv4 ∧
        ipv4.destination = 0x0A010001 := by
  have long : ¬ (packet size).length < 20 := by
    rw [packet_length]
    omega
  refine ⟨⟨packet size, Nat.not_lt.mp long⟩, ?_, ?_⟩
  · unfold Ipv4Packet.parse
    rw [dif_neg long]
    have notIpv4 : ¬ (0x45 : UInt8) >>> 4 ≠ 4 := by
      decide
    have headerFits :
        ¬ (packet size).length < ((0x45 : UInt8) &&& 0x0f).toNat * 4 := long
    exact (if_neg notIpv4).trans (if_neg headerFits)
  · change
      ((10 : UInt8).toBitVec ++ (1 : UInt8).toBitVec ++ (0 : UInt8).toBitVec ++
          (1 : UInt8).toBitVec : Ipv4Addr) =
        0x0A010001
    decide

theorem engine_session :
    ∃ session,
      engine.router.lookup 0x0A010001 = some route ∧
        engine.resolveEndpoint route.peer = some endpoint ∧
        engine.sessions.sessions.lookup route.peer.name = some session ∧
        session.isExpired 0 = false ∧
        session.sendCounter = 1 := by
  have summary :
      (engine.sessions.sessions.lookup route.peer.name).map
          (fun session => (session.isExpired 0, session.sendCounter)) =
        some (false, 1) := by
    decide +kernel
  obtain ⟨session, active, isSummary⟩ := Option.map_eq_some_iff.mp summary
  obtain ⟨unexpired, counter⟩ := Prod.mk.inj isSummary
  exact ⟨session, by decide +kernel, by decide +kernel, active, unexpired,
    counter⟩

end OversizeExample

open OversizeExample in
/-- The largest packet that is carried. -/
theorem packet_carried_iff_example :
    ∃ session,
      engine.Carries route.peer AgreementExample.endpoint session
        (packet 65480) draw 0 := by
  obtain ⟨session, isRoute, resolved, active, unexpired, counter⟩ :=
    engine_session
  obtain ⟨ipv4, parsed, isDestination⟩ := packet_parsed 65480
  refine ⟨session,
    (packet_carried_iff PlainNoise.limits PlainNoise.startsHandshakes parsed
      (isDestination ▸ isRoute) resolved active unexpired draw).mpr ⟨?_, ?_⟩⟩
  · exact (packet_length 65480).le
  · intro isLast
    rw [counter] at isLast
    cases isLast

open OversizeExample in
/--
One byte more than what is carried, and as many as the MTU allows: the first
frame is too long for TCP, the second packet costs the session.
-/
theorem packet_within_mtu_lost :
    config.validate TwoPeersExample.decodeBase64 = .ok () ∧
      Router.new TwoPeersExample.decodeBase64 toSocketAddrs config =
          .ok router ∧
      Engine.Reachable localStatic router engine ∧
      ∃ session,
        engine.resolveEndpoint route.peer = some AgreementExample.endpoint ∧
          engine.sessions.sessions.lookup route.peer.name = some session ∧
          session.isExpired 0 = false ∧
          ∀ size ∈ [65481, 65515],
            (packet size).length ≤ config.interface.mtu.toNat ∧
              (∃ ipv4,
                Ipv4Packet.parse (packet size) = .ok ipv4 ∧
                  engine.router.lookup ipv4.destination = some route) ∧
              ¬ engine.Carries route.peer AgreementExample.endpoint session
                  (packet size) draw 0 := by
  obtain ⟨session, isRoute, resolved, active, unexpired, _⟩ := engine_session
  refine ⟨config_accepted, router_built, engine_reachable, session, resolved,
    active, unexpired, ?_⟩
  intro size member
  have bounds : 65480 < size ∧ size ≤ 65515 := by
    rcases List.mem_pair.mp member with rfl | rfl <;> decide
  obtain ⟨ipv4, parsed, isDestination⟩ := packet_parsed size
  have routed : engine.router.lookup ipv4.destination = some route :=
    isDestination ▸ isRoute
  refine ⟨?_, ⟨ipv4, parsed, routed⟩, ?_⟩
  · rw [packet_length]
    have isMtu : config.interface.mtu.toNat = 65535 := rfl
    omega
  · intro carries
    have short :=
      carries.length_le PlainNoise.limits PlainNoise.startsHandshakes parsed
        routed resolved active unexpired
    rw [packet_length, Engine.maxFramedPacket] at short
    omega

end HushWire

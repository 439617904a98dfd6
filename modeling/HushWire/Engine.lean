import HushWire.Packet
import HushWire.SessionManager

namespace HushWire

open Noise

/-!
# The packet engine

`Engine` joins the router, the session manager and the state of roaming peers.
One call is one function from the engine to its result and the next engine; a
call that fails keeps the changes it made before failing.

`now` is the instant the caller passes, `clock` is what `Instant::now()` reads
during the call, and draws are the randomness of the handshake steps that the
call may perform.
-/

/-- Runtime statistics for a single peer. -/
structure PeerStats where
  lastSeen : Option Instant
  txBytes : UInt64
  rxBytes : UInt64
  currentEndpoint : Option SocketAddr
  deriving DecidableEq

namespace PeerStats

/-- `PeerStats::default`. -/
def empty : PeerStats where
  lastSeen := none
  txBytes := 0
  rxBytes := 0
  currentEndpoint := none

end PeerStats

/-- The statistics of all peers. -/
abbrev PeerState := AssociationMap PeerName PeerStats

namespace PeerState

/-- `map.entry(peer_name).or_default()`. -/
def stats (state : PeerState) (peerName : PeerName) : PeerStats :=
  (state.lookup peerName).getD .empty

def recordTx
    (state : PeerState)
    (peerName : PeerName)
    (bytes : Nat) :
    PeerState :=
  let entry := stats state peerName
  state.insert peerName
    { entry with txBytes := entry.txBytes + UInt64.ofNat bytes }

def recordRx
    (state : PeerState)
    (peerName : PeerName)
    (source : SocketAddr)
    (bytes : Nat)
    (clock : Instant) :
    PeerState :=
  let entry := stats state peerName
  state.insert peerName
    { entry with
      rxBytes := entry.rxBytes + UInt64.ofNat bytes
      lastSeen := some clock
      currentEndpoint := some source }

def recordKeepalive
    (state : PeerState)
    (peerName : PeerName)
    (source : SocketAddr)
    (clock : Instant) :
    PeerState :=
  let entry := stats state peerName
  state.insert peerName
    { entry with
      lastSeen := some clock
      currentEndpoint := some source }

def clearEndpoint (state : PeerState) (peerName : PeerName) : PeerState :=
  match state.lookup peerName with
  | none => state
  | some entry =>
      state.insert peerName { entry with currentEndpoint := none }

end PeerState

/-- A platform adapter operation. -/
inductive EngineAction where
  | sendTransport
      (peerName : PeerName)
      (endpoint : SocketAddr)
      (frame : Bytes)
  | writeIpPacket
      (peerName : PeerName)
      (source : SocketAddr)
      (packet : Bytes)
  deriving DecidableEq

inductive HandshakeRole where
  | initiator
  | responder
  deriving Repr, DecidableEq

inductive EngineEvent where
  | handshakeCompleted
      (peerName : PeerName)
      (endpoint : SocketAddr)
      (role : HandshakeRole)
  deriving DecidableEq

/-- All work produced while processing one packet or timer event. -/
structure EngineOutput where
  actions : List EngineAction
  events : List EngineEvent
  deriving DecidableEq

namespace EngineOutput

/-- `EngineOutput::default`. -/
def empty : EngineOutput where
  actions := []
  events := []

end EngineOutput

inductive EngineError (snow : Snow) where
  | packet (error : PacketError)
  | noise (error : NoiseError snow)
  | unknownPeer (peerName : PeerName)
  | invalidPeerEndpoint (endpoint : SocketAddr)

structure Engine (snow : Snow) where
  router : Router
  localStatic : Key
  sessions : SessionState snow
  peers : PeerState
  resolvedEndpoints : AssociationMap PeerName SocketAddr

def usablePeerEndpoint (endpoint : SocketAddr) : Bool :=
  !endpoint.ip.isUnspecified && endpoint.port ≠ 0

namespace Engine

variable {snow : Snow}

/-- An engine with its routes and its private key, before any traffic. -/
def withRouter (localStatic : Key) (router : Router) : Engine snow where
  router := router
  localStatic := localStatic
  sessions := .new
  peers := ∅
  resolvedEndpoints := ∅

def configuredEndpoint (engine : Engine snow) (peer : Peer) : SocketAddr :=
  (engine.resolvedEndpoints.lookup peer.name).getD peer.endpoint

def resolveEndpoint (engine : Engine snow) (peer : Peer) :
    Option SocketAddr :=
  ((((engine.peers.lookup peer.name).bind PeerStats.currentEndpoint).filter
      usablePeerEndpoint).or
    (some (engine.configuredEndpoint peer))).filter usablePeerEndpoint

/-- The peer of the first route that names it. -/
def peer (engine : Engine snow) (peerName : PeerName) : Option Peer :=
  (engine.router.routes.find? fun route => route.peer.name = peerName).map
    Route.peer

def initiatePeer
    (engine : Engine snow)
    (peer : Peer)
    (draw : Draw snow)
    (now : Instant) :
    Except (NoiseError snow) (Option EngineAction) × Engine snow :=
  match engine.resolveEndpoint peer with
  | none => (.ok none, engine)
  | some endpoint =>
      let (frame, sessions) :=
        engine.sessions.startOrRetryHandshake peer.name engine.localStatic
          peer.publicKey peer.psk draw now
      (frame.map fun frame =>
          frame.map fun frame => .sendTransport peer.name endpoint frame,
        { engine with sessions })

/-- The loop of `decode_handshake_init`, which tries every peer once. -/
def decodeHandshakeInitFrom
    (engine : Engine snow)
    (handshakeId : SessionId)
    (message : Bytes)
    (draws : PeerName → Draw snow)
    (clock : Instant) :
    List Route → List PeerName →
      Option (PeerName × ResponderHandshake snow)
  | [], _ => none
  | route :: rest, checked =>
      if route.peer.name ∈ checked then
        engine.decodeHandshakeInitFrom handshakeId message draws clock rest
          checked
      else
        match responderRespond engine.localStatic route.peer.publicKey
            route.peer.psk handshakeId message (draws route.peer.name)
            clock with
        | .ok handshake => some (route.peer.name, handshake)
        | .error _ =>
            engine.decodeHandshakeInitFrom handshakeId message draws clock
              rest (route.peer.name :: checked)

/-- The first peer whose keys verify the initiation answers it. -/
def decodeHandshakeInit
    (engine : Engine snow)
    (handshakeId : SessionId)
    (message : Bytes)
    (draws : PeerName → Draw snow)
    (clock : Instant) :
    Option (PeerName × ResponderHandshake snow) :=
  engine.decodeHandshakeInitFrom handshakeId message draws clock
    engine.router.routes []

/-- Encrypt for a peer and start or retry its handshake when one is due. -/
def encryptAndInitiate
    (engine : Engine snow)
    (peer : Peer)
    (msgType : Auth.MsgType)
    (payload : Bytes)
    (draw : Draw snow)
    (now : Instant) :
    Except (EngineError snow) EngineOutput × Engine snow :=
  let (encrypted, sessions) :=
    engine.sessions.encryptForPeer peer.name msgType payload now
  let engine := { engine with sessions }
  match encrypted with
  | .ok (some frame) =>
      let (initiated, engine) := engine.initiatePeer peer draw now
      match initiated with
      | .error error => (.error (.noise error), engine)
      | .ok action =>
          let sent :=
            (engine.resolveEndpoint peer).map fun endpoint =>
              EngineAction.sendTransport peer.name endpoint frame
          (.ok { actions := action.toList ++ sent.toList, events := [] },
            engine)
  | .ok none =>
      let (initiated, engine) := engine.initiatePeer peer draw now
      match initiated with
      | .error error => (.error (.noise error), engine)
      | .ok action =>
          (.ok { actions := action.toList, events := [] }, engine)
  | .error _ =>
      let engine :=
        { engine with sessions := (engine.sessions.invalidatePeer peer.name).2 }
      let (initiated, engine) := engine.initiatePeer peer draw now
      match initiated with
      | .error error => (.error (.noise error), engine)
      | .ok action =>
          (.ok { actions := action.toList, events := [] }, engine)

/-- Process one IP packet read from a TUN device. -/
def processOutboundIp
    (engine : Engine snow)
    (packet : Bytes)
    (draw : Draw snow)
    (now : Instant) :
    Except (EngineError snow) EngineOutput × Engine snow :=
  match Ipv4Packet.parse packet with
  | .error error => (.error (.packet error), engine)
  | .ok ipv4 =>
      match engine.router.lookup ipv4.destination with
      | none => (.ok .empty, engine)
      | some route =>
          engine.encryptAndInitiate route.peer .data packet draw now

/-- The `HandshakeInit` branch of `process_inbound_transport`. -/
def processHandshakeInit
    (engine : Engine snow)
    (handshakeId : SessionId)
    (message : Bytes)
    (source : SocketAddr)
    (draws : PeerName → Draw snow)
    (clock : Instant) :
    Except (EngineError snow) EngineOutput × Engine snow :=
  match engine.decodeHandshakeInit handshakeId message draws clock with
  | none => (.ok .empty, engine)
  | some (peerName, handshake) =>
      let passivePeer :=
        (engine.peer peerName).any fun peer =>
          !usablePeerEndpoint peer.endpoint
      let (accepted, sessions) :=
        engine.sessions.acceptInboundInitiation peerName handshakeId
          passivePeer clock
      if accepted = false then
        (.ok .empty, { engine with sessions })
      else
        let (cached, sessions) :=
          sessions.cachedResponderResponse peerName handshakeId message clock
        match cached with
        | some response =>
            (.ok
                { actions := [.sendTransport peerName source response]
                  events := [] },
              { engine with sessions })
        | none =>
            let response :=
              Auth.encodeHandshake .handshakeResponse handshakeId
                handshake.message
            let (stored, sessions) :=
              sessions.storeResponderCandidate peerName handshake.session
                handshakeId message response clock
            if stored then
              (.ok
                  { actions := [.sendTransport peerName source response]
                    events := [] },
                { engine with sessions })
            else
              (.ok .empty, { engine with sessions })

/-- The `HandshakeResponse` branch of `process_inbound_transport`. -/
def processHandshakeResponse
    (engine : Engine snow)
    (handshakeId : SessionId)
    (message : Bytes)
    (source : SocketAddr)
    (clock : Instant) :
    Except (EngineError snow) EngineOutput × Engine snow :=
  let (finalized, sessions) :=
    engine.sessions.finalizeInitiator handshakeId message clock
  match finalized with
  | .error error => (.error (.noise error), { engine with sessions })
  | .ok none => (.ok .empty, { engine with sessions })
  | .ok (some (peerName, confirmation)) =>
      (.ok
          { actions := [.sendTransport peerName source confirmation]
            events := [.handshakeCompleted peerName source .initiator] },
        { engine with
          sessions
          peers := engine.peers.recordKeepalive peerName source clock })

/-- What follows a decrypted keepalive: a probe is acknowledged. -/
def processKeepalive
    (engine : Engine snow)
    (decrypted : DecryptedTransport)
    (events : List EngineEvent)
    (source : SocketAddr)
    (now clock : Instant) :
    Except (EngineError snow) EngineOutput × Engine snow :=
  let engine :=
    { engine with
      peers := engine.peers.recordKeepalive decrypted.peerName source clock }
  if decrypted.payload = Auth.keepaliveProbePayload then
    let (encrypted, sessions) :=
      engine.sessions.encryptForPeer decrypted.peerName .keepalive
        Auth.keepaliveAckPayload now
    let engine := { engine with sessions }
    match encrypted with
    | .error error => (.error (.noise error), engine)
    | .ok acknowledgement =>
        let actions :=
          acknowledgement.toList.map fun acknowledgement =>
            EngineAction.sendTransport decrypted.peerName source
              acknowledgement
        (.ok { actions, events }, engine)
  else
    (.ok { actions := [], events }, engine)

/-- What follows a decrypted data message. -/
def processData
    (engine : Engine snow)
    (decrypted : DecryptedTransport)
    (events : List EngineEvent)
    (source : SocketAddr)
    (clock : Instant) :
    Except (EngineError snow) EngineOutput × Engine snow :=
  let engine :=
    { engine with
      peers :=
        engine.peers.recordRx decrypted.peerName source
          decrypted.payload.length clock }
  match Ipv4Packet.parse decrypted.payload with
  | .error error => (.error (.packet error), engine)
  | .ok _ =>
      (.ok
          { actions :=
              [.writeIpPacket decrypted.peerName source decrypted.payload]
            events },
        engine)

/-- The `Transport` branch of `process_inbound_transport`. -/
def processTransport
    (engine : Engine snow)
    (sessionId : SessionId)
    (counter : UInt64)
    (ciphertext : Bytes)
    (source : SocketAddr)
    (now clock : Instant) :
    Except (EngineError snow) EngineOutput × Engine snow :=
  let (result, sessions) :=
    engine.sessions.decryptTransport sessionId counter ciphertext now
  let engine := { engine with sessions }
  match result with
  | .error error => (.error (.noise error), engine)
  | .ok none => (.ok .empty, engine)
  | .ok (some decrypted) =>
      let events :=
        if decrypted.promotedResponderSession then
          [EngineEvent.handshakeCompleted decrypted.peerName source .responder]
        else
          []
      match decrypted.msgType with
      | .keepalive =>
          engine.processKeepalive decrypted events source now clock
      | .data =>
          engine.processData decrypted events source clock

/-- Process one framed packet received from the transport. -/
def processInboundTransport
    (engine : Engine snow)
    (frame : Bytes)
    (source : SocketAddr)
    (draws : PeerName → Draw snow)
    (now clock : Instant) :
    Except (EngineError snow) EngineOutput × Engine snow :=
  match Auth.decodePacket frame with
  | none => (.ok .empty, engine)
  | some (.handshake .handshakeInit handshakeId message) =>
      engine.processHandshakeInit handshakeId message source draws clock
  | some (.handshake .handshakeResponse handshakeId message) =>
      engine.processHandshakeResponse handshakeId message source clock
  | some (.handshake .transport _ _) => (.ok .empty, engine)
  | some (.transport sessionId counter ciphertext) =>
      engine.processTransport sessionId counter ciphertext source now clock

def recordTransportSent
    (engine : Engine snow)
    (peerName : PeerName)
    (bytes : Nat) :
    Engine snow :=
  { engine with peers := engine.peers.recordTx peerName bytes }

def invalidatePeer
    (engine : Engine snow)
    (peerName : PeerName) :
    Bool × Engine snow :=
  let (removed, sessions) := engine.sessions.invalidatePeer peerName
  (removed, { engine with sessions })

/-- Replace the last DNS resolution for a configured peer. -/
def updateResolvedEndpoint
    (engine : Engine snow)
    (peerName : PeerName)
    (endpoint : SocketAddr) :
    Except (EngineError snow) Bool × Engine snow :=
  if usablePeerEndpoint endpoint = false then
    (.error (.invalidPeerEndpoint endpoint), engine)
  else
    match engine.peer peerName with
    | none => (.error (.unknownPeer peerName), engine)
    | some peer =>
        if engine.configuredEndpoint peer = endpoint then
          (.ok false, engine)
        else
          (.ok true,
            { engine with
              resolvedEndpoints :=
                engine.resolvedEndpoints.insert peerName endpoint
              peers := engine.peers.clearEndpoint peerName
              sessions := (engine.sessions.invalidatePeer peerName).2 })

/-- Start or retry a handshake for a named peer. -/
def initiateHandshake
    (engine : Engine snow)
    (peerName : PeerName)
    (draw : Draw snow)
    (now : Instant) :
    Except (EngineError snow) EngineOutput × Engine snow :=
  match engine.peer peerName with
  | none => (.error (.unknownPeer peerName), engine)
  | some peer =>
      let (initiated, engine) := engine.initiatePeer peer draw now
      match initiated with
      | .error error => (.error (.noise error), engine)
      | .ok action =>
          (.ok { actions := action.toList, events := [] }, engine)

/-- Encrypt a keepalive or initiate a session when none is active. -/
def createKeepalive
    (engine : Engine snow)
    (peerName : PeerName)
    (payload : Bytes)
    (draw : Draw snow)
    (now : Instant) :
    Except (EngineError snow) EngineOutput × Engine snow :=
  match engine.peer peerName with
  | none => (.error (.unknownPeer peerName), engine)
  | some peer =>
      engine.encryptAndInitiate peer .keepalive payload draw now

end Engine

/-- A call of the engine with its arguments and the values it reads or draws. -/
inductive EngineCall (snow : Snow) where
  | processOutboundIp
      (packet : Bytes)
      (draw : Draw snow)
      (now : Instant)
  | processInboundTransport
      (frame : Bytes)
      (source : SocketAddr)
      (draws : PeerName → Draw snow)
      (now clock : Instant)
  | recordTransportSent (peerName : PeerName) (bytes : Nat)
  | invalidatePeer (peerName : PeerName)
  | updateResolvedEndpoint (peerName : PeerName) (endpoint : SocketAddr)
  | initiateHandshake
      (peerName : PeerName)
      (draw : Draw snow)
      (now : Instant)
  | createKeepalive
      (peerName : PeerName)
      (payload : Bytes)
      (draw : Draw snow)
      (now : Instant)

namespace Engine

variable {snow : Snow}

/-- Carry out a call; calls that produce no work yield the empty output. -/
def perform (engine : Engine snow) :
    EngineCall snow → Except (EngineError snow) EngineOutput × Engine snow
  | .processOutboundIp packet draw now =>
      engine.processOutboundIp packet draw now
  | .processInboundTransport frame source draws now clock =>
      engine.processInboundTransport frame source draws now clock
  | .recordTransportSent peerName bytes =>
      (.ok .empty, engine.recordTransportSent peerName bytes)
  | .invalidatePeer peerName =>
      (.ok .empty, (engine.invalidatePeer peerName).2)
  | .updateResolvedEndpoint peerName endpoint =>
      let (updated, engine) :=
        engine.updateResolvedEndpoint peerName endpoint
      (updated.map fun _ => .empty, engine)
  | .initiateHandshake peerName draw now =>
      engine.initiateHandshake peerName draw now
  | .createKeepalive peerName payload draw now =>
      engine.createKeepalive peerName payload draw now

/-- A run of the engine from its construction. -/
inductive Reachable (localStatic : Key) (router : Router) :
    Engine snow → Prop where
  | start :
      Reachable localStatic router (.withRouter localStatic router)
  | perform
      {engine : Engine snow} :
      Reachable localStatic router engine →
      (call : EngineCall snow) →
      Reachable localStatic router (engine.perform call).2

end Engine

end HushWire

import HushWire.Library.AssociationMap
import HushWire.Noise
import Mathlib.Data.Finset.Basic

namespace HushWire

/-!
# The session manager

Handshake, rekey and transport state of all peers of one interface.  Every
method of `SessionManager` locks the whole state, so it is one function from
the state to its result and the next state.  A method that fails keeps the
changes it made before failing.

`now` is the instant the caller passes; `clock` is what `Instant::now()` and
`elapsed()` read inside the method.
-/

abbrev PeerName := String

def handshakeRetryInterval : Nat := fromSecs 5

def handshakeAttemptLifetime : Nat := fromSecs 30

def handshakeCacheLifetime : Nat := fromSecs 60

open Noise

structure PendingInitiator (snow : Snow) where
  handshakeId : SessionId
  state : InitiatorState snow
  packet : Bytes
  createdAt : Instant
  lastSent : Instant

/-- The record of a handshake first sent at `now`. -/
def PendingInitiator.ofHandshake
    {snow : Snow}
    (handshake : InitiatorHandshake snow)
    (now : Instant) :
    PendingInitiator snow where
  handshakeId := handshake.handshakeId
  state := handshake.state
  packet :=
    Auth.encodeHandshake .handshakeInit handshake.handshakeId
      handshake.message
  createdAt := now
  lastSent := now

structure CachedResponderHandshake where
  handshakeId : SessionId
  request : Bytes
  response : Bytes
  createdAt : Instant

structure SessionState (snow : Snow) where
  sessions : AssociationMap PeerName (Session snow)
  previousSessions : AssociationMap PeerName (Session snow)
  responderCandidates : AssociationMap PeerName (Session snow)
  pendingInit : AssociationMap PeerName (PendingInitiator snow)
  responderCache : AssociationMap PeerName CachedResponderHandshake
  inboundRecoveryPreference : Finset PeerName

structure DecryptedTransport where
  peerName : PeerName
  msgType : Auth.MsgType
  payload : Bytes
  promotedResponderSession : Bool
  deriving DecidableEq

namespace SessionState

variable {snow : Snow}

/-- `SessionManager::new`. -/
def new : SessionState snow where
  sessions := ∅
  previousSessions := ∅
  responderCandidates := ∅
  pendingInit := ∅
  responderCache := ∅
  inboundRecoveryPreference := ∅

def sessionIdInUse
    (state : SessionState snow)
    (sessionId : SessionId) :
    Bool :=
  (state.sessions.entries ++ state.previousSessions.entries ++
      state.responderCandidates.entries).any
    fun entry => entry.2.sessionId = sessionId

def installActiveSession
    (state : SessionState snow)
    (peerName : PeerName)
    (session : Session snow) :
    SessionState snow :=
  let previousSessions :=
    match state.sessions.lookup peerName with
    | none => state.previousSessions
    | some previous => state.previousSessions.insert peerName previous
  { state with
    inboundRecoveryPreference :=
      state.inboundRecoveryPreference.erase peerName
    sessions := state.sessions.insert peerName session
    previousSessions }

/-- `retain` on the previous sessions, at the start of `encrypt_for_peer`. -/
def dropExpiredPrevious
    (state : SessionState snow)
    (now : Instant) :
    SessionState snow :=
  { state with
    previousSessions :=
      state.previousSessions.retain fun session => !session.isExpired now }

/-- Remove the active session of a peer once it reached its deadline. -/
def dropExpiredSession
    (state : SessionState snow)
    (peerName : PeerName)
    (now : Instant) :
    SessionState snow :=
  match state.sessions.lookup peerName with
  | none => state
  | some session =>
      if session.isExpired now then
        { state with sessions := state.sessions.erase peerName }
      else
        state

/-- Remove a pending initiation once it reached its lifetime. -/
def dropExpiredPending
    (state : SessionState snow)
    (peerName : PeerName)
    (time : Instant) :
    SessionState snow :=
  match state.pendingInit.lookup peerName with
  | none => state
  | some pending =>
      if handshakeAttemptLifetime ≤ time - pending.createdAt then
        { state with pendingInit := state.pendingInit.erase peerName }
      else
        state

/-- Remove an expired candidate together with its cached response. -/
def dropExpiredCandidate
    (state : SessionState snow)
    (peerName : PeerName)
    (now : Instant) :
    SessionState snow :=
  match state.responderCandidates.lookup peerName with
  | none => state
  | some candidate =>
      if candidate.isExpired now then
        { state with
          responderCandidates := state.responderCandidates.erase peerName
          responderCache := state.responderCache.erase peerName }
      else
        state

def encryptForPeer
    (state : SessionState snow)
    (peerName : PeerName)
    (msgType : Auth.MsgType)
    (payload : Bytes)
    (now : Instant) :
    Except (NoiseError snow) (Option Bytes) × SessionState snow :=
  let state := state.dropExpiredPrevious now
  let state := state.dropExpiredSession peerName now
  match state.sessions.lookup peerName with
  | none => (.ok none, state)
  | some session =>
      let (frame, session) := session.encrypt msgType payload
      (frame.map some,
        { state with sessions := state.sessions.insert peerName session })

/-- The three `retain` calls that open `decrypt_transport`. -/
def dropExpired
    (state : SessionState snow)
    (now : Instant) :
    SessionState snow :=
  { state with
    sessions :=
      state.sessions.retain fun session => !session.isExpired now
    previousSessions :=
      state.previousSessions.retain fun session => !session.isExpired now
    responderCandidates :=
      state.responderCandidates.retain fun session => !session.isExpired now }

def decryptTransport
    (state : SessionState snow)
    (sessionId : SessionId)
    (counter : UInt64)
    (ciphertext : Bytes)
    (now : Instant) :
    Except (NoiseError snow) (Option DecryptedTransport) ×
      SessionState snow :=
  let state := state.dropExpired now
  match state.sessions.findFirst? fun session =>
      session.sessionId = sessionId with
  | some (peerName, session) =>
      let (decrypted, session) := session.decrypt sessionId counter ciphertext
      (decrypted.map fun (msgType, payload) =>
          some { peerName, msgType, payload, promotedResponderSession := false },
        { state with sessions := state.sessions.insert peerName session })
  | none =>
      match state.previousSessions.findFirst? fun session =>
          session.sessionId = sessionId with
      | some (peerName, session) =>
          let (decrypted, session) :=
            session.decrypt sessionId counter ciphertext
          (decrypted.map fun (msgType, payload) =>
              some
                { peerName, msgType, payload,
                  promotedResponderSession := false },
            { state with
              previousSessions :=
                state.previousSessions.insert peerName session })
      | none =>
          match state.responderCandidates.findFirst? fun session =>
              session.sessionId = sessionId with
          | none => (.ok none, state)
          | some (peerName, session) =>
              match session.decrypt sessionId counter ciphertext with
              | (.error error, session) =>
                  (.error error,
                    { state with
                      responderCandidates :=
                        state.responderCandidates.insert peerName session })
              | (.ok (msgType, payload), session) =>
                  let state :=
                    { state with
                      responderCandidates :=
                        state.responderCandidates.erase peerName }
                  let state := state.installActiveSession peerName session
                  (.ok
                      (some
                        { peerName, msgType, payload,
                          promotedResponderSession := true }),
                    { state with
                      pendingInit := state.pendingInit.erase peerName
                      responderCache := state.responderCache.erase peerName })

def storeResponderCandidate
    (state : SessionState snow)
    (peerName : PeerName)
    (session : Session snow)
    (handshakeId : SessionId)
    (request response : Bytes)
    (clock : Instant) :
    Bool × SessionState snow :=
  if state.sessionIdInUse session.sessionId then
    (false, state)
  else
    (true,
      { state with
        pendingInit := state.pendingInit.erase peerName
        responderCandidates :=
          state.responderCandidates.insert peerName session
        responderCache :=
          state.responderCache.insert peerName
            { handshakeId, request, response, createdAt := clock } })

def cachedResponderResponse
    (state : SessionState snow)
    (peerName : PeerName)
    (handshakeId : SessionId)
    (request : Bytes)
    (clock : Instant) :
    Option Bytes × SessionState snow :=
  match state.responderCache.lookup peerName with
  | none => (none, state)
  | some cached =>
      if handshakeCacheLifetime ≤ clock - cached.createdAt then
        (none,
          { state with
            responderCache := state.responderCache.erase peerName
            responderCandidates :=
              state.responderCandidates.erase peerName })
      else if cached.handshakeId = handshakeId ∧ cached.request = request then
        (some cached.response, state)
      else
        (none, state)

/-- The smaller of the two identifiers remains the initiator. -/
def acceptInboundInitiation
    (state : SessionState snow)
    (peerName : PeerName)
    (remoteHandshakeId : SessionId)
    (passivePeer : Bool)
    (clock : Instant) :
    Bool × SessionState snow :=
  let state := state.dropExpiredPending peerName clock
  if passivePeer ∧ peerName ∈ state.inboundRecoveryPreference then
    (true,
      { state with
        inboundRecoveryPreference :=
          state.inboundRecoveryPreference.erase peerName
        pendingInit := state.pendingInit.erase peerName })
  else
    match state.pendingInit.lookup peerName with
    | none => (true, state)
    | some pending =>
        if pending.handshakeId ≤ remoteHandshakeId then
          (false, state)
        else
          (true, { state with pendingInit := state.pendingInit.erase peerName })

/-- The part of `start_or_retry_handshake` that begins a new exchange. -/
def startHandshake
    (state : SessionState snow)
    (peerName : PeerName)
    (localStatic remoteStaticPub psk : Key)
    (draw : Draw snow)
    (now : Instant) :
    Except (NoiseError snow) (Option Bytes) × SessionState snow :=
  match initiatorStart localStatic remoteStaticPub psk draw with
  | .error error => (.error error, state)
  | .ok handshake =>
      let pending := PendingInitiator.ofHandshake handshake now
      (.ok (some pending.packet),
        { state with
          pendingInit := state.pendingInit.insert peerName pending })

/-- Start a handshake, or retransmit the exact first message of a pending one. -/
def startOrRetryHandshake
    (state : SessionState snow)
    (peerName : PeerName)
    (localStatic remoteStaticPub psk : Key)
    (draw : Draw snow)
    (now : Instant) :
    Except (NoiseError snow) (Option Bytes) × SessionState snow :=
  let state := state.dropExpiredPending peerName now
  match state.pendingInit.lookup peerName with
  | some pending =>
      if now - pending.lastSent < handshakeRetryInterval then
        (.ok none, state)
      else
        (.ok (some pending.packet),
          { state with
            pendingInit :=
              state.pendingInit.insert peerName
                { pending with lastSent := now } })
  | none =>
      let state := state.dropExpiredCandidate peerName now
      match state.responderCandidates.lookup peerName with
      | some _ => (.ok none, state)
      | none =>
          let state := state.dropExpiredSession peerName now
          match state.sessions.lookup peerName with
          | none =>
              state.startHandshake peerName localStatic remoteStaticPub psk
                draw now
          | some session =>
              if session.shouldRekey now then
                state.startHandshake peerName localStatic remoteStaticPub psk
                  draw now
              else
                (.ok none, state)

def finalizeInitiator
    (state : SessionState snow)
    (handshakeId : SessionId)
    (response : Bytes)
    (clock : Instant) :
    Except (NoiseError snow) (Option (PeerName × Bytes)) ×
      SessionState snow :=
  match state.pendingInit.findFirst? fun pending =>
      pending.handshakeId = handshakeId with
  | none => (.ok none, state)
  | some (peerName, pending) =>
      let state :=
        { state with pendingInit := state.pendingInit.erase peerName }
      match initiatorFinalize pending.state response clock with
      | .error error => (.error error, state)
      | .ok session =>
          if state.sessionIdInUse session.sessionId then
            (.error .wrongSession, state)
          else
            match session.encrypt .keepalive Auth.keepaliveProbePayload with
            | (.error error, _) => (.error error, state)
            | (.ok confirmation, session) =>
                let state := state.installActiveSession peerName session
                (.ok (some (peerName, confirmation)),
                  { state with
                    responderCandidates :=
                      state.responderCandidates.erase peerName
                    responderCache := state.responderCache.erase peerName })

def hasPendingInit
    (state : SessionState snow)
    (peerName : PeerName) :
    Bool :=
  (state.pendingInit.lookup peerName).isSome

def hasActiveSession
    (state : SessionState snow)
    (peerName : PeerName)
    (clock : Instant) :
    Bool :=
  (state.sessions.lookup peerName).any fun session =>
    !session.isExpired clock

/-- Discard all cryptographic state of a peer before recovery. -/
def invalidatePeer
    (state : SessionState snow)
    (peerName : PeerName) :
    Bool × SessionState snow :=
  ((state.sessions.lookup peerName).isSome ||
      (state.previousSessions.lookup peerName).isSome ||
      (state.responderCandidates.lookup peerName).isSome ||
      (state.pendingInit.lookup peerName).isSome,
    { sessions := state.sessions.erase peerName
      previousSessions := state.previousSessions.erase peerName
      responderCandidates := state.responderCandidates.erase peerName
      pendingInit := state.pendingInit.erase peerName
      responderCache := state.responderCache.erase peerName
      inboundRecoveryPreference :=
        insert peerName state.inboundRecoveryPreference })

def activeSessionId
    (state : SessionState snow)
    (peerName : PeerName) :
    Option SessionId :=
  (state.sessions.lookup peerName).map Session.sessionId

end SessionState

end HushWire

import HushWire.Agreement
import HushWire.ColdHandshake
import HushWire.IdealNoise
import HushWire.NoiseLimits
import HushWire.Operations
import HushWire.RebindBroadcast

namespace HushWire

open Noise

/-!
# An exchange restores a link

One end has no session, no attempt and no candidate for the other, because it
has just started or has given the link up; the other end may still hold
sessions of earlier exchanges.  If the network loses nothing, the next packet
starts a handshake, three frames complete it, and the packet after it comes out
at the other end as it went in.
-/

variable {snow : Snow}

/-- What honest ends may expect of Noise: nothing fails between them. -/
structure WorkingNoise (snow : Snow) where
  ideal : IdealNoise snow
  limits : NoiseLimits snow
  starts : snow.StartsHandshakes
  request_nonempty :
    ∀ {localStatic remoteStatic psk draw handshake},
      initiatorStart localStatic remoteStatic psk draw =
        .ok (handshake : InitiatorHandshake snow) →
      handshake.message ≠ []
  response_nonempty :
    ∀ {localStatic remoteStatic psk handshakeId request draw clock answer},
      responderRespond localStatic remoteStatic psk handshakeId request draw
        clock = .ok (answer : ResponderHandshake snow) →
      answer.message ≠ []
  /-- Whoever is meant and shares the pre-shared key can answer. -/
  answers :
    ∀ {initiatorStatic responderStatic psk draw handshake},
      initiatorStart initiatorStatic (snow.publicKey responderStatic) psk
        draw = .ok (handshake : InitiatorHandshake snow) →
      ∀ (responderDraw : Draw snow) clock,
        ∃ answer,
          responderRespond responderStatic (snow.publicKey initiatorStatic)
            psk handshake.handshakeId handshake.message responderDraw
            clock = .ok answer
  /-- An initiation names its sender. -/
  names_sender :
    ∀ {initiatorStatic remoteStatic psk draw handshake responderStatic
        expectedStatic responderPsk clock answer}
        {responderDraw : Draw snow},
      initiatorStart initiatorStatic remoteStatic psk draw =
        .ok (handshake : InitiatorHandshake snow) →
      responderRespond responderStatic expectedStatic responderPsk
        handshake.handshakeId handshake.message responderDraw clock =
        .ok answer →
      expectedStatic = snow.publicKey initiatorStatic
  /-- An answer completes the attempt that it answers. -/
  completes :
    ∀ {initiatorStatic remoteStatic psk draw handshake responderStatic
        expectedStatic responderPsk clock answer}
        {responderDraw : Draw snow},
      initiatorStart initiatorStatic remoteStatic psk draw =
        .ok (handshake : InitiatorHandshake snow) →
      responderRespond responderStatic expectedStatic responderPsk
        handshake.handshakeId handshake.message responderDraw clock =
        .ok answer →
      ∀ finishClock,
        ∃ session,
          initiatorFinalize handshake.state answer.message finishClock =
            .ok session

/-- What the other end wrote is opened, unless its counter was seen. -/
theorem Noise.Session.decrypt_written
    (ideal : IdealNoise snow)
    {reader : Session snow}
    {transport : snow.StatelessTransportState}
    {counter : UInt64}
    {msgType : Auth.MsgType}
    {payload ciphertext : Bytes}
    (written :
      snow.writeMessage transport counter
          (Auth.encodeTransportPlaintext msgType payload)
          ((Auth.encodeTransportPlaintext msgType payload).length +
            aeadTagSize) =
        .ok ciphertext)
    (opposite : reader.transport = ideal.flip transport)
    (accepts : reader.replay.wouldAccept counter = true) :
    reader.decrypt reader.sessionId counter ciphertext =
      (.ok (msgType, payload),
        { reader with
          replay := (reader.replay.markAuthenticated counter).2
          receivedMessages := saturatingSucc reader.receivedMessages }) := by
  obtain ⟨size, isRead⟩ := ideal.message_opens written
  rw [← opposite] at isRead
  have long : aeadTagSize + 1 ≤ ciphertext.length := by
    rw [size, plaintext_length]
    omega
  rcases reader.decrypt_cases reader.sessionId counter ciphertext with
    ⟨fails, _⟩ | ⟨plaintext, authentic, isDecrypted⟩
  · exact absurd ⟨rfl, accepts, long, isRead⟩ (fails _)
  · obtain ⟨_, _, _, alsoRead⟩ := authentic
    cases isRead.symm.trans alsoRead
    rw [isDecrypted,
      Auth.decodeTransportPlaintext_encodeTransportPlaintext]

namespace SessionState

/-- Whatever sessions a state holds were held before. -/
def HoldsNoMore (after before : SessionState snow) : Prop :=
  ∀ peerName slot session,
    after.table.Holds peerName slot session →
    before.table.Holds peerName slot session

/-- Nobody but one peer holds a session of an identifier, in one slot. -/
def HoldsOnly
    (state : SessionState snow)
    (sessionId : SessionId)
    (peerName : PeerName)
    (slot : Slot) :
    Prop :=
  ∀ queried other session,
    state.table.Holds queried other session →
    session.sessionId = sessionId →
    queried = peerName ∧ other = slot

namespace HoldsNoMore

variable {after middle before : SessionState snow}

theorem trans
    (later : after.HoldsNoMore middle)
    (earlier : middle.HoldsNoMore before) :
    after.HoldsNoMore before :=
  fun _ _ _ held => earlier _ _ _ (later _ _ _ held)

theorem unused
    {sessionId : SessionId}
    (noMore : after.HoldsNoMore before)
    (unused : before.table.Unused sessionId) :
    after.table.Unused sessionId :=
  fun _ _ _ held => unused (noMore _ _ _ held)

end HoldsNoMore

section Expiry

variable (state : SessionState snow) (peerName : PeerName) (now : Instant)

theorem dropExpiredPrevious_holdsNoMore :
    (state.dropExpiredPrevious now).HoldsNoMore state := by
  intro queried slot session held
  cases slot with
  | previous =>
      change
        (state.dropExpiredPrevious now).previousSessions.lookup queried =
          some session
        at held
      rw [dropExpiredPrevious, AssociationMap.lookup_retain,
        Option.filter_eq_some_iff] at held
      exact held.1
  | active | candidate =>
      exact held

theorem dropExpiredSession_holdsNoMore :
    (state.dropExpiredSession peerName now).HoldsNoMore state := by
  unfold dropExpiredSession
  split
  · exact fun _ _ _ held => held
  · split
    · intro queried slot session held
      cases slot with
      | active =>
          by_cases isPeer : queried = peerName
          · subst isPeer
            simp [PeerTable.Holds, PeerEntry.slot, table, entry] at held
          · simpa [PeerTable.Holds, PeerEntry.slot, table, entry,
              isPeer] using held
      | previous | candidate =>
          exact held
    · exact fun _ _ _ held => held

theorem dropExpiredPending_holdsNoMore :
    (state.dropExpiredPending peerName now).HoldsNoMore state := by
  unfold dropExpiredPending
  split
  · exact fun _ _ _ held => held
  · split <;>
      exact fun _ slot _ held => by cases slot <;> exact held

theorem dropExpiredCandidate_holdsNoMore :
    (state.dropExpiredCandidate peerName now).HoldsNoMore state := by
  unfold dropExpiredCandidate
  split
  · exact fun _ _ _ held => held
  · split
    · intro queried slot session held
      cases slot with
      | candidate =>
          by_cases isPeer : queried = peerName
          · subst isPeer
            simp [PeerTable.Holds, PeerEntry.slot, table, entry] at held
          · simpa [PeerTable.Holds, PeerEntry.slot, table, entry,
              isPeer] using held
      | active | previous =>
          exact held
    · exact fun _ _ _ held => held

end Expiry

/-- An end that has nothing for a peer starts a handshake. -/
theorem startOrRetryHandshake_cold
    {state : SessionState snow}
    {peerName : PeerName}
    {localStatic remoteStatic psk : Key}
    {draw : Draw snow}
    {now : Instant}
    {handshake : InitiatorHandshake snow}
    (noSession : state.NoActiveSession peerName now)
    (noAttempt : state.livePending peerName now = none)
    (noCandidate : state.NoCandidate peerName now)
    (started :
      initiatorStart localStatic remoteStatic psk draw = .ok handshake) :
    ∃ after,
      state.startOrRetryHandshake peerName localStatic remoteStatic psk draw
          now =
        (.ok (some (PendingInitiator.ofHandshake handshake now).packet),
          after) ∧
      after.pendingInit =
        (state.dropExpiredPending peerName now).pendingInit.insert peerName
          (.ofHandshake handshake now) ∧
      after.HoldsNoMore state := by
  have isDropped := state.entry_dropExpiredPending peerName now peerName
  rw [if_pos rfl] at isDropped
  have noPending :
      (state.dropExpiredPending peerName now).pendingInit.lookup peerName =
        none :=
    (congrArg PeerEntry.pending isDropped).trans noAttempt
  have noneWaits :
      ((state.dropExpiredPending peerName now).dropExpiredCandidate peerName
          now).responderCandidates.lookup peerName =
        none := by
    rw [candidates_dropExpiredCandidate, Option.filter_eq_none_iff]
    intro candidate isCandidate
    have stored :
        state.responderCandidates.lookup peerName = some candidate :=
      (congrArg PeerEntry.candidate isDropped).symm.trans isCandidate
    simp [noCandidate candidate stored]
  have noneActive :
      (((state.dropExpiredPending peerName now).dropExpiredCandidate peerName
          now).dropExpiredSession peerName now).sessions.lookup peerName =
        none := by
    apply Option.eq_none_iff_forall_ne_some.mpr
    intro session isSession
    obtain ⟨isActive, unexpired⟩ :=
      (sessions_dropExpiredSession _ _ _ _).mp isSession
    rw [dropExpiredCandidate_sessions] at isActive
    have stored : state.sessions.lookup peerName = some session :=
      (congrArg PeerEntry.session isDropped).symm.trans isActive
    rw [noSession session stored] at unexpired
    cases unexpired
  let dropped :=
    ((state.dropExpiredPending peerName now).dropExpiredCandidate peerName
      now).dropExpiredSession peerName now
  refine
    ⟨{ dropped with
        pendingInit :=
          dropped.pendingInit.insert peerName (.ofHandshake handshake now) },
      ?_, ?_, ?_⟩
  · unfold startOrRetryHandshake
    dsimp only
    rw [noPending]
    dsimp only
    rw [noneWaits]
    dsimp only
    rw [noneActive]
    dsimp only
    rw [startHandshake, started]
  · simp [dropped]
  · intro queried slot session held
    apply state.dropExpiredPending_holdsNoMore peerName now
    apply dropExpiredCandidate_holdsNoMore _ peerName now
    apply dropExpiredSession_holdsNoMore _ peerName now
    cases slot <;> exact held

/-- An initiation that no attempt outranks is accepted. -/
theorem acceptInboundInitiation_accepts
    {state : SessionState snow}
    {peerName : PeerName}
    {handshakeId : SessionId}
    {passivePeer : Bool}
    {clock : Instant}
    (yields :
      ∀ pending,
        state.livePending peerName clock = some pending →
        ¬ pending.handshakeId ≤ handshakeId) :
    ∃ after,
      state.acceptInboundInitiation peerName handshakeId passivePeer clock =
        (true, after) ∧
      after.responderCache = state.responderCache ∧
      after.HoldsNoMore state := by
  have isDropped := state.entry_dropExpiredPending peerName clock peerName
  rw [if_pos rfl] at isDropped
  have sameCache :
      (state.dropExpiredPending peerName clock).responderCache =
        state.responderCache := by
    unfold dropExpiredPending
    split
    · rfl
    · split <;> rfl
  have noMore := state.dropExpiredPending_holdsNoMore peerName clock
  unfold acceptInboundInitiation
  dsimp only
  split
  · refine ⟨_, rfl, sameCache, fun queried slot session held => ?_⟩
    exact noMore queried slot session (by cases slot <;> exact held)
  · split
    · exact ⟨_, rfl, sameCache, noMore⟩
    next pending isPending =>
      have isLive : state.livePending peerName clock = some pending :=
        (congrArg PeerEntry.pending isDropped).symm.trans isPending
      rw [if_neg (yields pending isLive)]
      refine ⟨_, rfl, sameCache, fun queried slot session held => ?_⟩
      exact noMore queried slot session (by cases slot <;> exact held)

/-- An initiation with a new identifier has no cached response. -/
theorem cachedResponderResponse_misses
    {state : SessionState snow}
    {peerName : PeerName}
    {handshakeId : SessionId}
    {request : Bytes}
    {clock : Instant}
    (notCached :
      ∀ cached,
        state.responderCache.lookup peerName = some cached →
        cached.handshakeId ≠ handshakeId) :
    ∃ after,
      state.cachedResponderResponse peerName handshakeId request clock =
        (none, after) ∧
      after.HoldsNoMore state := by
  unfold cachedResponderResponse
  split
  · exact ⟨state, rfl, fun _ _ _ held => held⟩
  next cached isCached =>
    split
    · refine ⟨_, rfl, fun queried slot session held => ?_⟩
      cases slot with
      | candidate =>
          by_cases isPeer : queried = peerName
          · subst isPeer
            simp [PeerTable.Holds, PeerEntry.slot, table, entry] at held
          · simpa [PeerTable.Holds, PeerEntry.slot, table, entry,
              isPeer] using held
      | active | previous =>
          exact held
    · rw [if_neg fun same => notCached cached isCached same.1]
      exact ⟨state, rfl, fun _ _ _ held => held⟩

/-- An initiation that has to yield to nothing is answered. -/
theorem answerInitiation_stores
    {state : SessionState snow}
    {peerName : PeerName}
    {handshake : ResponderHandshake snow}
    {handshakeId : SessionId}
    {message : Bytes}
    {passivePeer : Bool}
    {clock : Instant}
    (yields :
      ∀ pending,
        state.livePending peerName clock = some pending →
        ¬ pending.handshakeId ≤ handshakeId)
    (notCached :
      ∀ cached,
        state.responderCache.lookup peerName = some cached →
        cached.handshakeId ≠ handshakeId)
    (unused : state.table.Unused handshake.session.sessionId) :
    ∃ after,
      state.answerInitiation peerName handshake handshakeId message
          passivePeer clock =
        (some
            (Auth.encodeHandshake .handshakeResponse handshakeId
              handshake.message),
          after) ∧
      after.responderCandidates.lookup peerName = some handshake.session ∧
      after.HoldsOnly handshake.session.sessionId peerName .candidate := by
  obtain ⟨accepted, isAccepted, sameCache, acceptedNoMore⟩ :=
    @acceptInboundInitiation_accepts _ state peerName handshakeId passivePeer
      clock yields
  rw [← sameCache] at notCached
  obtain ⟨missed, isMissed, missedNoMore⟩ :=
    @cachedResponderResponse_misses _ accepted peerName handshakeId message
      clock notCached
  have stillUnused := (missedNoMore.trans acceptedNoMore).unused unused
  have isFree := sessionIdInUse_eq_false.mpr stillUnused
  have stores :
      ∃ after,
        missed.storeResponderCandidate peerName handshake.session handshakeId
            message
            (Auth.encodeHandshake .handshakeResponse handshakeId
              handshake.message) clock =
          (true, after) ∧
        after.responderCandidates.lookup peerName = some handshake.session ∧
        after.HoldsOnly handshake.session.sessionId peerName .candidate := by
    unfold storeResponderCandidate
    rw [isFree]
    refine ⟨_, rfl, AList.lookup_insert _, ?_⟩
    intro queried slot session held sameId
    cases slot with
    | candidate =>
        refine ⟨?_, rfl⟩
        by_contra isPeer
        have heldBefore : missed.table.Holds queried .candidate session := by
          simpa [PeerTable.Holds, PeerEntry.slot, table, entry,
            isPeer] using held
        exact stillUnused heldBefore sameId
    | active =>
        exact absurd sameId (@stillUnused queried .active session held)
    | previous =>
        exact absurd sameId (@stillUnused queried .previous session held)
  obtain ⟨after, isStored, isCandidate, only⟩ := stores
  refine ⟨after, ?_, isCandidate, only⟩
  rw [answerInitiation, isAccepted]
  dsimp only
  rw [if_neg Bool.noConfusion, isMissed]
  dsimp only
  rw [isStored]
  rfl

/-- A packet that confirms the candidate promotes it. -/
theorem decryptTransport_promotes
    {state : SessionState snow}
    {peerName : PeerName}
    {session opened : Session snow}
    {counter : UInt64}
    {ciphertext payload : Bytes}
    {msgType : Auth.MsgType}
    {now : Instant}
    (waits : state.responderCandidates.lookup peerName = some session)
    (unexpired : session.isExpired now = false)
    (only : state.HoldsOnly session.sessionId peerName .candidate)
    (opens :
      session.decrypt session.sessionId counter ciphertext =
        (.ok (msgType, payload), opened)) :
    ∃ after,
      state.decryptTransport session.sessionId counter ciphertext now =
        (.ok
            (some
              { peerName, msgType, payload
                promotedResponderSession := true }),
          after) ∧
      after.sessions.lookup peerName = some opened ∧
      after.HoldsOnly session.sessionId peerName .active := by
  have before {queried : PeerName} {slot : Slot} {found : Session snow}
      (held : (state.dropExpired now).table.Holds queried slot found)
      (sameId : found.sessionId = session.sessionId) :
      queried = peerName ∧ slot = .candidate :=
    only queried slot found (holds_dropExpired.mp held).1 sameId
  have noneActive :
      ((state.dropExpired now).sessions.findFirst? fun found =>
          found.sessionId = session.sessionId) =
        none := by
    apply AssociationMap.findFirst?_eq_none.mpr
    intro queried found isFound
    apply decide_eq_false
    intro sameId
    cases (@before queried .active found isFound sameId).2
  have nonePrevious :
      ((state.dropExpired now).previousSessions.findFirst? fun found =>
          found.sessionId = session.sessionId) =
        none := by
    apply AssociationMap.findFirst?_eq_none.mpr
    intro queried found isFound
    apply decide_eq_false
    intro sameId
    cases (@before queried .previous found isFound sameId).2
  have isFound :
      ((state.dropExpired now).responderCandidates.findFirst? fun found =>
          found.sessionId = session.sessionId) =
        some (peerName, session) := by
    apply AssociationMap.findFirst?_of_unique
    · have held :
          (state.dropExpired now).table.Holds peerName .candidate session :=
        holds_dropExpired.mpr ⟨waits, unexpired⟩
      exact held
    · exact decide_eq_true rfl
    · intro queried found isFound sameId
      exact
        (@before queried .candidate found isFound
          (of_decide_eq_true sameId)).1
  unfold decryptTransport
  dsimp only
  rw [noneActive, nonePrevious, isFound]
  dsimp only
  rw [opens]
  refine ⟨_, rfl, ?_, ?_⟩
  · simp [installActiveSession]
  · intro queried slot found held sameId
    cases slot with
    | active =>
        refine ⟨?_, rfl⟩
        by_contra isPeer
        have heldBefore :
            (state.dropExpired now).table.Holds queried .active found := by
          simpa [PeerTable.Holds, PeerEntry.slot, table, entry,
            installActiveSession, isPeer] using held
        cases (before heldBefore sameId).2
    | previous =>
        -- The earlier active session may have moved here.
        have heldBefore :
            (∃ slot, slot ≠ .candidate ∧
              (state.dropExpired now).table.Holds queried slot found) := by
          cases isActive :
              (state.dropExpired now).sessions.lookup peerName with
          | none =>
              refine ⟨.previous, Slot.noConfusion, ?_⟩
              simpa [PeerTable.Holds, PeerEntry.slot, table, entry,
                installActiveSession, isActive] using held
          | some earlier =>
              by_cases isPeer : queried = peerName
              · subst isPeer
                refine ⟨.active, Slot.noConfusion, ?_⟩
                simpa [PeerTable.Holds, PeerEntry.slot, table, entry,
                  installActiveSession, isActive] using held
              · refine ⟨.previous, Slot.noConfusion, ?_⟩
                simpa [PeerTable.Holds, PeerEntry.slot, table, entry,
                  installActiveSession, isActive, isPeer] using held
        obtain ⟨slot, notCandidate, heldBefore⟩ := heldBefore
        exact absurd (before heldBefore sameId).2 notCandidate
    | candidate =>
        by_cases isPeer : queried = peerName
        · subst isPeer
          simp [PeerTable.Holds, PeerEntry.slot, table, entry,
            installActiveSession] at held
        · have heldBefore :
              (state.dropExpired now).table.Holds queried .candidate
                found := by
            simpa [PeerTable.Holds, PeerEntry.slot, table, entry,
              installActiveSession, isPeer] using held
          exact absurd (before heldBefore sameId).1 isPeer

/-- A packet of the active session is opened under it. -/
theorem decryptTransport_opens
    {state : SessionState snow}
    {peerName : PeerName}
    {session opened : Session snow}
    {counter : UInt64}
    {ciphertext payload : Bytes}
    {msgType : Auth.MsgType}
    {now : Instant}
    (active : state.sessions.lookup peerName = some session)
    (unexpired : session.isExpired now = false)
    (only : state.HoldsOnly session.sessionId peerName .active)
    (opens :
      session.decrypt session.sessionId counter ciphertext =
        (.ok (msgType, payload), opened)) :
    (state.decryptTransport session.sessionId counter ciphertext now).1 =
      .ok
        (some
          { peerName, msgType, payload
            promotedResponderSession := false }) := by
  have isFound :
      ((state.dropExpired now).sessions.findFirst? fun found =>
          found.sessionId = session.sessionId) =
        some (peerName, session) := by
    apply AssociationMap.findFirst?_of_unique
    · have held :
          (state.dropExpired now).table.Holds peerName .active session :=
        holds_dropExpired.mpr ⟨active, unexpired⟩
      exact held
    · exact decide_eq_true rfl
    · intro queried found isFound sameId
      have held : (state.dropExpired now).table.Holds queried .active found :=
        isFound
      exact
        (only queried .active found (holds_dropExpired.mp held).1
          (of_decide_eq_true sameId)).1
  unfold decryptTransport
  dsimp only
  rw [isFound]
  dsimp only
  rw [opens]
  rfl

/-- A response that completes the attempt makes its session active. -/
theorem finalizeInitiator_completes
    {state : SessionState snow}
    {peerName : PeerName}
    {handshakeId : SessionId}
    {pending : PendingInitiator snow}
    {response confirmation : Bytes}
    {clock : Instant}
    {session confirmed : Session snow}
    (matched : state.Matches handshakeId peerName pending)
    (completed :
      initiatorFinalize pending.state response clock = .ok session)
    (unused : state.table.Unused session.sessionId)
    (isSealed :
      session.encrypt .keepalive Auth.keepaliveProbePayload =
        (.ok confirmation, confirmed)) :
    ∃ after,
      state.finalizeInitiator handshakeId response clock =
        (.ok (some (peerName, confirmation)), after) ∧
      after.sessions.lookup peerName = some confirmed := by
  have isFree :
      ({ state with
        pendingInit := state.pendingInit.erase peerName } :
        SessionState snow).sessionIdInUse session.sessionId = false :=
    sessionIdInUse_eq_false.mpr fun queried slot _ held =>
      @unused queried slot _ (by cases slot <;> exact held)
  unfold finalizeInitiator
  rw [matched]
  dsimp only
  rw [completed]
  dsimp only
  rw [isFree, isSealed]
  exact ⟨_, rfl, by simp [installActiveSession]⟩

/-- What is sealed under the active session leaves the others alone. -/
theorem encryptForPeer_holdsOnly
    {state : SessionState snow}
    {peerName : PeerName}
    {session : Session snow}
    {now : Instant}
    (active : state.sessions.lookup peerName = some session)
    (unexpired : session.isExpired now = false)
    (only : state.HoldsOnly session.sessionId peerName .active)
    (msgType : Auth.MsgType)
    (payload : Bytes) :
    (state.encryptForPeer peerName msgType payload now).2.HoldsOnly
      session.sessionId peerName .active := by
  intro queried slot found held sameId
  by_cases isPlace : queried = peerName ∧ slot = .active
  · exact isPlace
  · have noMore :=
      ((state.dropExpiredPrevious now).dropExpiredSession_holdsNoMore peerName
        now).trans (state.dropExpiredPrevious_holdsNoMore now)
    have kept :
        ((state.dropExpiredPrevious now).dropExpiredSession peerName
          now).sessions.lookup peerName = some session :=
      (sessions_dropExpiredSession _ _ _ _).mpr ⟨active, unexpired⟩
    refine only queried slot found (noMore queried slot found ?_) sameId
    rw [encryptForPeer] at held
    dsimp only at held
    rw [kept] at held
    cases slot with
    | active =>
        have isPeer : queried ≠ peerName := fun same => isPlace ⟨same, rfl⟩
        simpa [PeerTable.Holds, PeerEntry.slot, table, entry,
          isPeer] using held
    | previous | candidate =>
        exact held

end SessionState

/-- The last frame that a call sends. -/
def lastFrame
    (result : Except (EngineError snow) EngineOutput × Engine snow) :
    Bytes :=
  match result.1 with
  | .error _ => []
  | .ok output =>
      match output.actions.getLast? with
      | some (.sendTransport _ _ frame) => frame
      | _ => []

/--
The draws, addresses and instants of an exchange in which nothing is lost.
-/
structure Exchange (snow : Snow) where
  packet : Bytes
  attempt : Draw snow
  answers : PeerName → Draw snow
  /-- What the initiator draws if its new session is due for a rekey. -/
  rekey : Draw snow
  initiatorAddress : SocketAddr
  responderAddress : SocketAddr
  startAt : Instant
  answerAt : Instant
  finishAt : Instant
  confirmAt : Instant
  sendAt : Instant
  deliverAt : Instant

namespace Exchange

variable (exchange : Exchange snow) (initiator responder : Engine snow)

/-- The packet finds no session and starts a handshake. -/
def started : Except (EngineError snow) EngineOutput × Engine snow :=
  initiator.processOutboundIp exchange.packet exchange.attempt
    exchange.startAt

def answered : Except (EngineError snow) EngineOutput × Engine snow :=
  responder.processInboundTransport
    (lastFrame (exchange.started initiator)) exchange.initiatorAddress
    exchange.answers exchange.answerAt exchange.answerAt

def finished : Except (EngineError snow) EngineOutput × Engine snow :=
  (exchange.started initiator).2.processInboundTransport
    (lastFrame (exchange.answered initiator responder))
    exchange.responderAddress exchange.answers exchange.finishAt
    exchange.finishAt

def confirmed : Except (EngineError snow) EngineOutput × Engine snow :=
  (exchange.answered initiator responder).2.processInboundTransport
    (lastFrame (exchange.finished initiator responder))
    exchange.initiatorAddress exchange.answers exchange.confirmAt
    exchange.confirmAt

/-- The packet is sent again. -/
def sent : Except (EngineError snow) EngineOutput × Engine snow :=
  (exchange.finished initiator responder).2.processOutboundIp exchange.packet
    exchange.rekey exchange.sendAt

def delivered : Except (EngineError snow) EngineOutput × Engine snow :=
  (exchange.confirmed initiator responder).2.processInboundTransport
    (lastFrame (exchange.sent initiator responder)) exchange.initiatorAddress
    exchange.answers exchange.deliverAt exchange.deliverAt

/--
The initiator has nothing for the peer of the route, the responder knows the
initiator by `name` and has no attempt that outranks this one, and what is
drawn is new.
-/
structure Ready (route : Route) (name : PeerName) : Prop where
  routed :
    ∃ ipv4,
      Ipv4Packet.parse exchange.packet = .ok ipv4 ∧
        initiator.router.lookup ipv4.destination = some route
  fits :
    exchange.packet.length + 1 + aeadTagSize ≤ maxNoiseMessageSize
  resolved : (initiator.resolveEndpoint route.peer).isSome = true
  answers_usable : usablePeerEndpoint exchange.responderAddress = true
  isKey : route.peer.publicKey = snow.publicKey responder.localStatic
  known :
    ∃ found ∈ responder.router.routes, found.peer.name = name
  sameName :
    ∀ found ∈ responder.router.routes,
      found.peer.name = name ↔
        found.peer.publicKey = snow.publicKey initiator.localStatic
  samePsk :
    ∀ found ∈ responder.router.routes,
      found.peer.name = name → found.peer.psk = route.peer.psk
  noSession :
    initiator.sessions.NoActiveSession route.peer.name exchange.startAt
  noAttempt :
    initiator.sessions.livePending route.peer.name exchange.startAt = none
  noCandidate :
    initiator.sessions.NoCandidate route.peer.name exchange.startAt
  yields :
    ∀ pending,
      responder.sessions.livePending name exchange.answerAt = some pending →
      ¬ pending.handshakeId ≤ exchange.attempt.id
  newAttempt :
    ∀ peerName pending,
      initiator.sessions.pendingInit.lookup peerName = some pending →
      pending.handshakeId ≠ exchange.attempt.id
  newRequest :
    ∀ cached,
      responder.sessions.responderCache.lookup name = some cached →
      cached.handshakeId ≠ exchange.attempt.id
  newSession :
    initiator.sessions.table.Unused (exchange.answers name).id ∧
      responder.sessions.table.Unused (exchange.answers name).id
  confirmedInTime :
    exchange.confirmAt - exchange.answerAt < rejectAfterTime
  sentInTime : exchange.sendAt - exchange.finishAt < rejectAfterTime
  deliveredInTime : exchange.deliverAt - exchange.answerAt < rejectAfterTime

variable
  {exchange : Exchange snow}
  {initiator responder : Engine snow}
  {route : Route}
  {name : PeerName}

/-- The packet starts a handshake. -/
theorem Ready.started
    (working : WorkingNoise snow)
    (ready : exchange.Ready initiator responder route name) :
    ∃ handshake endpoint sessions,
      initiatorStart initiator.localStatic route.peer.publicKey route.peer.psk
          exchange.attempt = .ok handshake ∧
        handshake.handshakeId = exchange.attempt.id ∧
        exchange.started initiator =
          (.ok
              { actions :=
                  [.sendTransport route.peer.name endpoint
                    (Auth.encodeHandshake .handshakeInit handshake.handshakeId
                      handshake.message)]
                events := [] },
            { initiator with sessions }) ∧
        sessions.Matches handshake.handshakeId route.peer.name
          (.ofHandshake handshake exchange.startAt) ∧
        sessions.HoldsNoMore initiator.sessions := by
  obtain ⟨ipv4, isIpv4, isRoute⟩ := ready.routed
  obtain ⟨endpoint, isEndpoint⟩ := Option.isSome_iff_exists.mp ready.resolved
  obtain ⟨handshake, isStarted⟩ :=
    working.starts initiator.localStatic route.peer.publicKey route.peer.psk
      exchange.attempt
  obtain ⟨fresh, message, state, _, _, isHandshake⟩ :=
    initiatorStart_ok isStarted
  have sameId : handshake.handshakeId = exchange.attempt.id := by
    rw [isHandshake]
  let quieted :=
    (initiator.sessions.dropExpiredPrevious exchange.startAt).dropExpiredSession
      route.peer.name exchange.startAt
  have samePending : quieted.pendingInit = initiator.sessions.pendingInit :=
    SessionState.dropExpiredSession_pendingInit _ _ _
  have sameCandidates :
      quieted.responderCandidates = initiator.sessions.responderCandidates :=
    SessionState.dropExpiredSession_responderCandidates _ _ _
  have noMore : quieted.HoldsNoMore initiator.sessions :=
    (SessionState.dropExpiredSession_holdsNoMore _ _ _).trans
      (SessionState.dropExpiredPrevious_holdsNoMore _ _)
  have noSession :
      quieted.NoActiveSession route.peer.name exchange.startAt :=
    fun session isActive =>
      ready.noSession session
        (noMore route.peer.name .active session isActive)
  have noAttempt :
      quieted.livePending route.peer.name exchange.startAt = none := by
    rw [← ready.noAttempt]
    unfold SessionState.livePending SessionState.entry
    rw [samePending]
  have noCandidate :
      quieted.NoCandidate route.peer.name exchange.startAt := by
    intro candidate isCandidate
    rw [sameCandidates] at isCandidate
    exact ready.noCandidate candidate isCandidate
  obtain ⟨after, isAfter, isPending, afterNoMore⟩ :=
    SessionState.startOrRetryHandshake_cold noSession noAttempt noCandidate
      isStarted
  refine ⟨handshake, endpoint, after, isStarted, sameId, ?_, ?_,
    afterNoMore.trans noMore⟩
  · rw [Exchange.started, Engine.processOutboundIp_of_route isIpv4 isRoute,
      Engine.encryptAndInitiate,
      SessionState.encryptForPeer_of_noActiveSession ready.noSession]
    dsimp only
    have resolved :
        ({ initiator with sessions := quieted } : Engine snow).resolveEndpoint
            route.peer =
          some endpoint :=
      isEndpoint
    have isInitiated :
        ({ initiator with sessions := quieted } : Engine snow).initiatePeer
            route.peer exchange.attempt exchange.startAt =
          (.ok
              (some
                (.sendTransport route.peer.name endpoint
                  (PendingInitiator.ofHandshake handshake
                    exchange.startAt).packet)),
            { initiator with sessions := after }) := by
      rw [Engine.initiatePeer, resolved]
      dsimp only
      rw [isAfter]
      rfl
    rw [isInitiated]
    rfl
  · unfold SessionState.Matches
    rw [isPending]
    apply AssociationMap.findFirst?_of_unique
    · exact AList.lookup_insert _
    · exact decide_eq_true rfl
    · intro queried pending isFound sameFound
      by_contra isOther
      rw [AList.lookup_insert_ne isOther] at isFound
      have isKept :=
        quieted.entry_dropExpiredPending route.peer.name exchange.startAt
          queried
      rw [if_neg isOther] at isKept
      have isBefore :
          quieted.pendingInit.lookup queried = some pending :=
        (congrArg PeerEntry.pending isKept).symm.trans isFound
      rw [samePending] at isBefore
      exact
        ready.newAttempt queried pending isBefore
          ((of_decide_eq_true sameFound).trans sameId)

/-- The sender of an initiation is found among the peers. -/
theorem decodeHandshakeInitFrom_finds
    (working : WorkingNoise snow)
    (ready : exchange.Ready initiator responder route name)
    {handshake : InitiatorHandshake snow}
    (isStarted :
      initiatorStart initiator.localStatic route.peer.publicKey route.peer.psk
        exchange.attempt = .ok handshake)
    {answer : ResponderHandshake snow}
    (isAnswer :
      responderRespond responder.localStatic
          (snow.publicKey initiator.localStatic) route.peer.psk
          handshake.handshakeId handshake.message (exchange.answers name)
          exchange.answerAt =
        .ok answer)
    {routes : List Route}
    {checked : List PeerName}
    (within : ∀ found ∈ routes, found ∈ responder.router.routes)
    (known : ∃ found ∈ routes, found.peer.name = name)
    (notChecked : name ∉ checked) :
    responder.decodeHandshakeInitFrom handshake.handshakeId handshake.message
        exchange.answers exchange.answerAt routes checked =
      some (name, answer) := by
  induction routes generalizing checked with
  | nil =>
      obtain ⟨_, member, _⟩ := known
      cases member
  | cons found rest inductionHypothesis =>
      have restWithin (later : Route) (member : later ∈ rest) :
          later ∈ responder.router.routes :=
        within later (.tail _ member)
      have isRouted := within found (.head _)
      unfold Engine.decodeHandshakeInitFrom
      by_cases isName : found.peer.name = name
      · have isPeer := (ready.sameName found isRouted).mp isName
        rw [if_neg (isName ▸ notChecked), isPeer,
          ready.samePsk found isRouted isName, isName, isAnswer]
      · have knownLater : ∃ later ∈ rest, later.peer.name = name := by
          obtain ⟨later, member, isLater⟩ := known
          rcases List.mem_cons.mp member with rfl | isRest
          · exact absurd isLater isName
          · exact ⟨later, isRest, isLater⟩
        split
        · exact inductionHypothesis restWithin knownLater notChecked
        · split
          next other isOther =>
            have isKey := working.names_sender isStarted isOther
            exact absurd ((ready.sameName found isRouted).mpr isKey) isName
          · refine inductionHypothesis restWithin knownLater ?_
            exact List.not_mem_cons_of_ne_of_not_mem (Ne.symm isName)
              notChecked

/-- The responder answers and keeps the session as a candidate. -/
theorem Ready.answered
    (working : WorkingNoise snow)
    (ready : exchange.Ready initiator responder route name) :
    ∃ handshake answer sessions,
      initiatorStart initiator.localStatic route.peer.publicKey route.peer.psk
          exchange.attempt = .ok handshake ∧
        responderRespond responder.localStatic
            (snow.publicKey initiator.localStatic) route.peer.psk
            handshake.handshakeId handshake.message (exchange.answers name)
            exchange.answerAt =
          .ok answer ∧
        exchange.answered initiator responder =
          (.ok
              { actions :=
                  [.sendTransport name exchange.initiatorAddress
                    (Auth.encodeHandshake .handshakeResponse
                      handshake.handshakeId answer.message)]
                events := [] },
            { responder with sessions }) ∧
        sessions.responderCandidates.lookup name = some answer.session ∧
        sessions.HoldsOnly answer.session.sessionId name .candidate := by
  obtain ⟨handshake, endpoint, _, isStarted, sameId, isResult, _, _⟩ :=
    ready.started working
  have meant := isStarted
  rw [ready.isKey] at meant
  obtain ⟨answer, isAnswer⟩ :=
    working.answers meant (exchange.answers name) exchange.answerAt
  obtain ⟨_, _, _, _, _, _, _, _, _, _, isSession⟩ :=
    responderRespond_ok isAnswer
  have sameSession : answer.session.sessionId = (exchange.answers name).id := by
    rw [isSession]
    rfl
  have isFrame :
      lastFrame (exchange.started initiator) =
        Auth.encodeHandshake .handshakeInit handshake.handshakeId
          handshake.message := by
    rw [isResult]
    rfl
  have isDecoded :=
    Auth.decodePacket_encodeHandshake
      (show Auth.PacketKind.handshakeInit.isHandshake = true from rfl)
      handshake.handshakeId (working.request_nonempty isStarted)
  have isFound :
      responder.decodeHandshakeInit handshake.handshakeId handshake.message
          exchange.answers exchange.answerAt =
        some (name, answer) :=
    decodeHandshakeInitFrom_finds working ready isStarted isAnswer
      (fun _ member => member) ready.known List.not_mem_nil
  obtain ⟨after, isAnswered, isCandidate, only⟩ :=
    @SessionState.answerInitiation_stores _ responder.sessions name answer
      handshake.handshakeId handshake.message (responder.isPassive name)
      exchange.answerAt (sameId ▸ ready.yields) (sameId ▸ ready.newRequest)
      (sameSession ▸ ready.newSession.2)
  refine ⟨handshake, answer, after, isStarted, isAnswer, ?_, isCandidate,
    only⟩
  rw [Exchange.answered, isFrame, Engine.processInboundTransport, isDecoded]
  dsimp only
  rw [Engine.processHandshakeInit_answer isFound, isAnswered]
  rfl

/--
How the ends stand after the initiator has completed its attempt: it has sealed
one message under its session, and the responder keeps the other end of it.
-/
structure Completed
    (working : WorkingNoise snow)
    (exchange : Exchange snow)
    (initiator responder : Engine snow)
    (route : Route)
    (name : PeerName)
    (ours theirs : Session snow)
    (confirmation : Bytes) :
    Prop where
  isOurs :
    ours = .new theirs.sessionId ours.transport exchange.finishAt
  isTheirs :
    theirs = .new theirs.sessionId theirs.transport exchange.answerAt
  opposite : ours.transport = working.ideal.flip theirs.transport
  waits :
    (exchange.answered initiator
        responder).2.sessions.responderCandidates.lookup name =
      some theirs
  only :
    (exchange.answered initiator responder).2.sessions.HoldsOnly
      theirs.sessionId name .candidate
  isSealed :
    (ours.encrypt .keepalive Auth.keepaliveProbePayload).1 = .ok confirmation
  output :
    (exchange.finished initiator responder).1 =
      .ok
        { actions :=
            [.sendTransport route.peer.name exchange.responderAddress
              confirmation]
          events :=
            [.handshakeCompleted route.peer.name exchange.responderAddress
              .initiator] }
  active :
    (exchange.finished initiator responder).2.sessions.sessions.lookup
        route.peer.name =
      some (ours.encrypt .keepalive Auth.keepaliveProbePayload).2
  sameRouter :
    (exchange.finished initiator responder).2.router = initiator.router
  resolved :
    (exchange.finished initiator responder).2.resolveEndpoint route.peer =
      some exchange.responderAddress

/-- The initiator completes its attempt and confirms it. -/
theorem Ready.completed
    (working : WorkingNoise snow)
    (ready : exchange.Ready initiator responder route name) :
    ∃ ours theirs confirmation,
      Completed working exchange initiator responder route name ours theirs
        confirmation := by
  obtain ⟨handshake, endpoint, startedSessions, isStarted, sameId, isResult,
    matched, noMore⟩ := ready.started working
  obtain ⟨alsoHandshake, answer, answeredSessions, alsoStarted, isAnswer,
    isAnswered, waits, only⟩ := ready.answered working
  cases isStarted.symm.trans alsoStarted
  obtain ⟨ours, isCompleted⟩ :=
    working.completes isStarted isAnswer exchange.finishAt
  obtain ⟨_, _, sameSession, opposite⟩ :=
    working.ideal.response_binds isStarted isAnswer isCompleted
  obtain ⟨_, _, sessionId, transport, _, _, _, isOurs⟩ :=
    initiatorFinalize_ok isCompleted
  obtain ⟨_, _, _, _, responderTransport, _, _, _, _, _, isTheirs⟩ :=
    responderRespond_ok isAnswer
  have theirId : answer.session.sessionId = (exchange.answers name).id := by
    rw [isTheirs]
    rfl
  have notExhausted : ours.sendCounter ≠ u64Max := by
    rw [isOurs]
    change (0 : UInt64) ≠ u64Max
    decide
  obtain ⟨confirmation, isSealed, _⟩ :=
    working.limits.encrypts .keepalive notExhausted
      (show
        Auth.keepaliveProbePayload.length + 1 + aeadTagSize ≤
          maxNoiseMessageSize
        by decide)
  have unused : startedSessions.table.Unused ours.sessionId := by
    rw [sameSession, theirId]
    exact noMore.unused ready.newSession.1
  obtain ⟨after, isFinalized, active⟩ :=
    @SessionState.finalizeInitiator_completes _ startedSessions route.peer.name
      handshake.handshakeId (.ofHandshake handshake exchange.startAt)
      answer.message confirmation exchange.finishAt ours
      (ours.encrypt .keepalive Auth.keepaliveProbePayload).2 matched
      isCompleted unused (Prod.ext isSealed rfl)
  have isFrame :
      lastFrame (exchange.answered initiator responder) =
        Auth.encodeHandshake .handshakeResponse handshake.handshakeId
          answer.message := by
    rw [isAnswered]
    rfl
  have isDecoded :=
    Auth.decodePacket_encodeHandshake
      (show Auth.PacketKind.handshakeResponse.isHandshake = true from rfl)
      handshake.handshakeId (working.response_nonempty isAnswer)
  have isFinished :
      exchange.finished initiator responder =
        (.ok
            { actions :=
                [.sendTransport route.peer.name exchange.responderAddress
                  confirmation]
              events :=
                [.handshakeCompleted route.peer.name
                  exchange.responderAddress .initiator] },
          { initiator with
            sessions := after
            peers :=
              initiator.peers.recordKeepalive route.peer.name
                exchange.responderAddress exchange.finishAt }) := by
    rw [Exchange.finished, isFrame, isResult, Engine.processInboundTransport,
      isDecoded]
    dsimp only
    rw [Engine.processHandshakeResponse]
    dsimp only
    rw [isFinalized]
  refine ⟨ours, answer.session, confirmation, ?_, ?_, opposite, ?_, ?_,
    isSealed, ?_, ?_, ?_, ?_⟩
  · rw [← sameSession, isOurs]
    rfl
  · rw [isTheirs]
    rfl
  · rw [isAnswered]
    exact waits
  · rw [isAnswered]
    exact only
  · rw [isFinished]
  · rw [isFinished]
    exact active
  · rw [isFinished]
  · rw [isFinished]
    unfold Engine.resolveEndpoint
    dsimp only
    rw [PeerState.recordKeepalive, AList.lookup_insert]
    simp [Option.filter_some, ready.answers_usable]

/-- What a session has sealed reaches the decoder as it was sealed. -/
theorem decodePacket_of_encrypt
    (ideal : IdealNoise snow)
    {session : Session snow}
    {msgType : Auth.MsgType}
    {payload frame : Bytes}
    (isSealed : (session.encrypt msgType payload).1 = .ok frame) :
    ∃ ciphertext,
      snow.writeMessage session.transport session.sendCounter
          (Auth.encodeTransportPlaintext msgType payload)
          ((Auth.encodeTransportPlaintext msgType payload).length +
            aeadTagSize) =
        .ok ciphertext ∧
      Auth.decodePacket frame =
        some (.transport session.sessionId session.sendCounter ciphertext) := by
  obtain ⟨_, ciphertext, written, rfl⟩ := Session.encrypt_ok isSealed
  obtain ⟨size, _⟩ := ideal.message_opens written
  refine ⟨ciphertext, written, Auth.decodePacket_encodeTransport _ _ ?_⟩
  rw [size, plaintext_length]
  exact Nat.add_le_add_right (Nat.le_add_left 1 _) 16

/-- The responder after it has opened the confirmation and acknowledged it. -/
structure Confirmed
    (exchange : Exchange snow)
    (initiator responder : Engine snow)
    (name : PeerName)
    (theirs session : Session snow) :
    Prop where
  output :
    ∃ acknowledgement,
      (exchange.confirmed initiator responder).1 =
        .ok
          { actions :=
              [.sendTransport name exchange.initiatorAddress acknowledgement]
            events :=
              [.handshakeCompleted name exchange.initiatorAddress
                .responder] }
  active :
    (exchange.confirmed initiator responder).2.sessions.sessions.lookup name =
      some session
  only :
    (exchange.confirmed initiator responder).2.sessions.HoldsOnly
      session.sessionId name .active
  sameId : session.sessionId = theirs.sessionId
  sameTransport : session.transport = theirs.transport
  createdAt : session.createdAt = exchange.answerAt
  sendCounter : session.sendCounter = 1
  replay : session.replay = (ReplayWindow.new.markAuthenticated 0).2

/-- The confirmation makes the responder's session active. -/
theorem Completed.confirmed
    {working : WorkingNoise snow}
    (ready : exchange.Ready initiator responder route name)
    {ours theirs : Session snow}
    {confirmation : Bytes}
    (completed :
      Completed working exchange initiator responder route name ours theirs
        confirmation) :
    ∃ session, Confirmed exchange initiator responder name theirs session := by
  obtain ⟨ciphertext, written, isDecoded⟩ :=
    decodePacket_of_encrypt working.ideal completed.isSealed
  have isFirst : ours.sendCounter = 0 := by
    rw [completed.isOurs]
    rfl
  have sameId : ours.sessionId = theirs.sessionId := by
    rw [completed.isOurs]
    rfl
  have isNew : theirs.replay = ReplayWindow.new := by
    rw [completed.isTheirs]
    rfl
  have createdAt : theirs.createdAt = exchange.answerAt := by
    rw [completed.isTheirs]
    rfl
  have unsent : theirs.sendCounter = 0 := by
    rw [completed.isTheirs]
    rfl
  rw [isFirst] at written isDecoded
  rw [sameId] at isDecoded
  have opposite : theirs.transport = working.ideal.flip ours.transport := by
    rw [completed.opposite, working.ideal.flip_flip]
  have accepts : theirs.replay.wouldAccept 0 = true := by
    rw [isNew]
    rfl
  have opens :=
    Session.decrypt_written working.ideal written opposite accepts
  have unexpired : theirs.isExpired exchange.confirmAt = false := by
    have young := ready.confirmedInTime
    rw [← createdAt] at young
    simp only [Session.isExpired, unsent, Bool.or_eq_false_iff,
      decide_eq_false_iff_not]
    exact ⟨Nat.not_le.mpr young, by decide⟩
  obtain ⟨after, isOpened, active, only⟩ :=
    SessionState.decryptTransport_promotes completed.waits unexpired
      completed.only opens
  generalize isResult :
    ({ theirs with
      replay := (theirs.replay.markAuthenticated 0).2
      receivedMessages := saturatingSucc theirs.receivedMessages } :
      Session snow) = opened
    at active
  have openedId : opened.sessionId = theirs.sessionId := by
    rw [← isResult]
  have openedCounter : opened.sendCounter = 0 := by
    rw [← isResult]
    exact unsent
  have notExhausted : opened.sendCounter ≠ u64Max := by
    rw [openedCounter]
    decide
  have openedUnexpired : opened.isExpired exchange.confirmAt = false := by
    rw [← isResult]
    exact unexpired
  obtain ⟨acknowledgement, isAcknowledged, _⟩ :=
    working.limits.encrypts .keepalive notExhausted
      (show
        Auth.keepaliveAckPayload.length + 1 + aeadTagSize ≤
          maxNoiseMessageSize
        by decide)
  obtain ⟨isSent, stored⟩ :=
    SessionState.encryptForPeer_active active openedUnexpired .keepalive
      Auth.keepaliveAckPayload
  rw [isAcknowledged] at isSent
  have isFrame :
      lastFrame (exchange.finished initiator responder) = confirmation := by
    rw [lastFrame, completed.output]
    rfl
  have isConfirmed :
      exchange.confirmed initiator responder =
        (.ok
            { actions :=
                [.sendTransport name exchange.initiatorAddress
                  acknowledgement]
              events :=
                [.handshakeCompleted name exchange.initiatorAddress
                  .responder] },
          { (exchange.answered initiator responder).2 with
            sessions :=
              (after.encryptForPeer name .keepalive Auth.keepaliveAckPayload
                exchange.confirmAt).2
            peers :=
              (exchange.answered initiator responder).2.peers.recordKeepalive
                name exchange.initiatorAddress exchange.confirmAt }) := by
    rw [Exchange.confirmed, isFrame, Engine.processInboundTransport, isDecoded]
    dsimp only
    rw [Engine.processTransport, isOpened]
    dsimp only
    rw [Engine.processKeepalive]
    dsimp only
    rw [if_pos rfl, isSent]
    rfl
  refine ⟨(opened.encrypt .keepalive Auth.keepaliveAckPayload).2, ?_⟩
  constructor
  · rw [isConfirmed]
    exact ⟨acknowledgement, rfl⟩
  · rw [isConfirmed]
    exact stored
  · rw [isConfirmed, Session.encrypt_sessionId]
    rw [← openedId] at only
    exact
      SessionState.encryptForPeer_holdsOnly active openedUnexpired only _ _
  · rw [Session.encrypt_sessionId, openedId]
  · rw [Session.encrypt_transport, ← isResult]
  · rw [Session.encrypt_createdAt, ← isResult]
    exact createdAt
  · rw [Session.encrypt_sendCounter notExhausted, openedCounter]
    rfl
  · rw [Session.encrypt_replay, ← isResult, isNew]

/-- The packet that is sent again comes out as it went in. -/
theorem Completed.delivered
    {working : WorkingNoise snow}
    (ready : exchange.Ready initiator responder route name)
    {ours theirs session : Session snow}
    {confirmation : Bytes}
    (completed :
      Completed working exchange initiator responder route name ours theirs
        confirmation)
    (confirmed : Confirmed exchange initiator responder name theirs session) :
    (exchange.delivered initiator responder).1 =
      .ok
        { actions :=
            [.writeIpPacket name exchange.initiatorAddress exchange.packet]
          events := [] } := by
  obtain ⟨ipv4, isIpv4, isRoute⟩ := ready.routed
  generalize isSender :
    (ours.encrypt .keepalive Auth.keepaliveProbePayload).2 = sender
  have isFirst : ours.sendCounter = 0 := by
    rw [completed.isOurs]
    rfl
  have isSecond : sender.sendCounter = 1 := by
    rw [← isSender, Session.encrypt_sendCounter (by rw [isFirst]; decide),
      isFirst]
    rfl
  have sameId : sender.sessionId = session.sessionId := by
    rw [← isSender, Session.encrypt_sessionId, confirmed.sameId,
      completed.isOurs]
    rfl
  have opposite : session.transport = working.ideal.flip sender.transport := by
    rw [confirmed.sameTransport, ← isSender, Session.encrypt_transport,
      completed.opposite, working.ideal.flip_flip]
  have senderUnexpired : sender.isExpired exchange.sendAt = false := by
    have createdAt : sender.createdAt = exchange.finishAt := by
      rw [← isSender, Session.encrypt_createdAt, completed.isOurs]
      rfl
    simp only [Session.isExpired, isSecond, createdAt, Bool.or_eq_false_iff,
      decide_eq_false_iff_not]
    exact ⟨Nat.not_le.mpr ready.sentInTime, by decide⟩
  have readerUnexpired : session.isExpired exchange.deliverAt = false := by
    simp only [Session.isExpired, confirmed.sendCounter, confirmed.createdAt,
      Bool.or_eq_false_iff, decide_eq_false_iff_not]
    exact ⟨Nat.not_le.mpr ready.deliveredInTime, by decide⟩
  have active := completed.active
  rw [isSender] at active
  obtain ⟨action, frame, _, isSealed, _, isSent⟩ :=
    Engine.encryptAndInitiate_active working.limits working.starts
      completed.resolved active senderUnexpired .data ready.fits exchange.rekey
  have isFrame : lastFrame (exchange.sent initiator responder) = frame := by
    rw [← completed.sameRouter] at isRoute
    rw [Exchange.sent, Engine.processOutboundIp_of_route isIpv4 isRoute,
      isSent, lastFrame]
    simp
  obtain ⟨ciphertext, written, isDecoded⟩ :=
    decodePacket_of_encrypt working.ideal isSealed
  rw [isSecond] at written isDecoded
  rw [sameId] at isDecoded
  have accepts : session.replay.wouldAccept 1 = true := by
    rw [confirmed.replay]
    decide +kernel
  have isOpened :=
    SessionState.decryptTransport_opens confirmed.active readerUnexpired
      confirmed.only
      (Session.decrypt_written working.ideal written opposite accepts)
  rw [Exchange.delivered, isFrame, Engine.processInboundTransport, isDecoded]
  dsimp only
  rw [Engine.processTransport]
  dsimp only
  rw [isOpened]
  dsimp only
  rw [Engine.processData]
  dsimp only
  rw [isIpv4]
  rfl

end Exchange

/--
After one exchange over a network that loses nothing both ends have a session
again, whatever was left of earlier ones, and the next packet is handed to the
TUN interface of the responder as it was read at the initiator.
-/
theorem exchange_restores_link
    (working : WorkingNoise snow)
    {exchange : Exchange snow}
    {initiator responder : Engine snow}
    {route : Route}
    {name : PeerName}
    (ready : exchange.Ready initiator responder route name) :
    (∃ confirmation,
        (exchange.finished initiator responder).1 =
          .ok
            { actions :=
                [.sendTransport route.peer.name exchange.responderAddress
                  confirmation]
              events :=
                [.handshakeCompleted route.peer.name
                  exchange.responderAddress .initiator] }) ∧
      (∃ acknowledgement,
        (exchange.confirmed initiator responder).1 =
          .ok
            { actions :=
                [.sendTransport name exchange.initiatorAddress
                  acknowledgement]
              events :=
                [.handshakeCompleted name exchange.initiatorAddress
                  .responder] }) ∧
      (exchange.delivered initiator responder).1 =
        .ok
          { actions :=
              [.writeIpPacket name exchange.initiatorAddress exchange.packet]
            events := [] } := by
  obtain ⟨ours, theirs, confirmation, completed⟩ := ready.completed working
  obtain ⟨session, confirmed⟩ := completed.confirmed ready
  exact
    ⟨⟨confirmation, completed.output⟩, confirmed.output,
      completed.delivered ready confirmed⟩

namespace PlainNoise

/-- A request is read by whoever it is bound to and names its sender. -/
theorem readHandshake_request
    {localStatic remoteStatic psk : Key}
    {draw : Draw PlainNoise.snow} :
    readHandshake
        { isInitiator := false
          localStatic := remoteStatic
          remoteStatic := none
          psk
          prologue := Auth.handshakePrologue draw.id
          initiatorEphemeral := none
          responderEphemeral := none
          request := [] }
        (request localStatic remoteStatic psk draw) maxNoiseMessageSize =
      .ok ([],
        { isInitiator := false
          localStatic := remoteStatic
          remoteStatic := some localStatic
          psk
          prologue := Auth.handshakePrologue draw.id
          initiatorEphemeral := some draw.ephemeral
          responderEphemeral := none
          request := request localStatic remoteStatic psk draw }) := by
  have isBound :
      (localStatic.bytes ++
          binding remoteStatic psk (Auth.handshakePrologue draw.id)).drop 32 =
        binding remoteStatic psk (Auth.handshakePrologue draw.id) :=
    List.drop_left' localStatic.size
  have isSender :
      (localStatic.bytes ++
          binding remoteStatic psk (Auth.handshakePrologue draw.id)).take 32 =
        localStatic.bytes :=
    List.take_left' localStatic.size
  simp [readHandshake, request, isBound, isSender]

/-- A responder takes the first message's sender from it. -/
theorem readHandshake_names
    {state opened : Handshake}
    {ephemeral : UInt8}
    {sender : Key}
    {bound payload : Bytes}
    {capacity : Nat}
    (responds : state.isInitiator = false)
    (isRead :
      PlainNoise.snow.readHandshake state
          (ephemeral :: (sender.bytes ++ bound)) capacity =
        .ok (payload, opened)) :
    opened.remoteStatic = some sender := by
  simp only [PlainNoise.snow, readHandshake, responds, Bool.false_eq_true,
    if_false] at isRead
  split at isRead
  case isFalse => cases isRead
  case isTrue =>
    cases isRead
    exact
      (congrArg Key.ofBytes? (List.take_left' sender.size)).trans
        (Key.ofBytes?_bytes sender)

/-- The initiator reads the answer to its request. -/
theorem readHandshake_response
    {state : Handshake}
    {ephemeral : UInt8}
    {payload : Bytes}
    {capacity : Nat}
    (initiates : state.isInitiator = true)
    (fits : payload.length ≤ capacity) :
    readHandshake state (ephemeral :: (state.request ++ payload)) capacity =
      .ok (payload,
        { state with responderEphemeral := some ephemeral }) := by
  simp [readHandshake, initiates, fits]

/-- The stand-in works. -/
def working : WorkingNoise PlainNoise.snow where
  ideal := ideal
  limits := limits
  starts := startsHandshakes
  request_nonempty isStarted := by
    obtain ⟨_, isMessage, _⟩ := initiatorStart_request isStarted
    rw [isMessage]
    exact List.cons_ne_nil _ _
  response_nonempty isAnswer := by
    obtain ⟨_, _, _, _, isMessage, _⟩ := responderRespond_request isAnswer
    rw [isMessage]
    exact List.cons_ne_nil _ _
  answers := by
    intro initiatorStatic responderStatic psk draw handshake isStarted
      responderDraw clock
    obtain ⟨isId, isMessage, _⟩ := initiatorStart_request isStarted
    have isRead :=
      @readHandshake_request initiatorStatic responderStatic psk draw
    have fits :
        127 + responderDraw.id.bytes.length + 1 ≤ maxNoiseMessageSize := by
      rw [responderDraw.id.size]
      decide
    rw [isId, isMessage]
    simp [responderRespond, PlainNoise.snow, fromSnow, buildResponder, bind,
      Except.bind, isRead, writeHandshake, intoStatelessTransportMode, fits]
    exact ⟨_, rfl⟩
  names_sender := by
    intro initiatorStatic remoteStatic psk draw handshake responderStatic
      expectedStatic responderPsk clock answer responderDraw isStarted isAnswer
    obtain ⟨_, isMessage, _⟩ := initiatorStart_request isStarted
    obtain ⟨_, opened, _, _, _, isFresh, isRead, isExpected, _⟩ :=
      responderRespond_ok isAnswer
    cases isFresh
    have isFirst :
        handshake.message =
          draw.ephemeral ::
            (initiatorStatic.bytes ++
              binding remoteStatic psk (Auth.handshakePrologue draw.id)) :=
      isMessage
    rw [isFirst] at isRead
    have isSender : opened.remoteStatic = some initiatorStatic :=
      readHandshake_names rfl isRead
    exact Option.some.inj (isExpected.symm.trans isSender)
  completes := by
    intro initiatorStatic remoteStatic psk draw handshake responderStatic
      expectedStatic responderPsk clock answer responderDraw isStarted isAnswer
      finishClock
    obtain ⟨isId, isMessage, isInitiator, isRequest, isEphemeral⟩ :=
      initiatorStart_request isStarted
    obtain ⟨_, _, _, _, isResponse, _⟩ := responderRespond_request isAnswer
    have fits :
        responderDraw.id.bytes.length ≤
          Auth.sessionIdSize + aeadTagSize := by
      rw [responderDraw.id.size]
      decide
    have isRead :
        readHandshake handshake.state.state
            (responderDraw.ephemeral ::
              (handshake.message ++ responderDraw.id.bytes))
            (Auth.sessionIdSize + aeadTagSize) =
          .ok (responderDraw.id.bytes,
            { handshake.state.state with
              responderEphemeral := some responderDraw.ephemeral }) := by
      rw [← isRequest]
      exact readHandshake_response isInitiator fits
    rw [isResponse]
    simp only [initiatorFinalize, PlainNoise.snow, fromSnow, bind,
      Except.bind, List.cons_append, List.nil_append, isRead,
      SessionId.ofBytes?_bytes, intoStatelessTransportMode, isEphemeral]
    exact ⟨_, rfl⟩

end PlainNoise

namespace RecoveryExample

open AgreementExample

/-- A packet of the initiator, which has restarted. -/
def exchange : Exchange PlainNoise.snow where
  packet := 0x45 :: List.replicate 19 0
  attempt := { id := .fill 9, ephemeral := (6 : UInt8) }
  answers _ := { id := .fill 10, ephemeral := (7 : UInt8) }
  rekey := { id := .fill 11, ephemeral := (8 : UInt8) }
  initiatorAddress := endpoint
  responderAddress := endpoint
  startAt := 1000
  answerAt := 1000
  finishAt := 1000
  confirmAt := 1000
  sendAt := 1000
  deliverAt := 1000

def survivor : Engine PlainNoise.snow :=
  (answered.perform confirm).2

def route : Route where
  net := { address := 0, prefixLen := 0 }
  peer :=
    { name := "second"
      endpoint
      configuredEndpoint := .ofSocketAddr "10.0.0.1" endpoint
      excludedIps := []
      psk := .fill 3
      publicKey := localStatic .second
      persistentKeepalive := 0
      udpRebindAfter := 0
      sessionTimeout := 0 }

set_option maxRecDepth 8000 in
theorem ready : exchange.Ready (idle .first) survivor route "first" where
  routed := ⟨_, rfl, rfl⟩
  fits := by decide
  resolved := rfl
  answers_usable := by decide +kernel
  isKey := rfl
  known := ⟨_, List.mem_singleton.mpr rfl, rfl⟩
  sameName := by decide +kernel
  samePsk := by decide +kernel
  noSession := by
    intro session isSession
    cases isSession
  noAttempt := by decide +kernel
  noCandidate := by decide +kernel
  yields := by
    intro pending isPending
    cases isPending
  newAttempt := by
    intro peerName pending isPending
    cases isPending
  newRequest := by
    intro cached isCached
    cases isCached
  newSession :=
    ⟨SessionState.sessionIdInUse_eq_false.mp (by decide +kernel),
      SessionState.sessionIdInUse_eq_false.mp (by decide +kernel)⟩
  confirmedInTime := by decide
  sentInTime := by decide
  deliveredInTime := by decide

end RecoveryExample

open RecoveryExample in
/-- The survivor still has the session that the restarted end lost. -/
theorem exchange_restores_link_example :
    (survivor.sessions.sessions.lookup "first").isSome = true ∧
      (exchange.delivered (AgreementExample.idle .first) survivor).1 =
        .ok
          { actions :=
              [.writeIpPacket "first" AgreementExample.endpoint
                exchange.packet]
            events := [] } :=
  ⟨by decide +kernel, (exchange_restores_link PlainNoise.working ready).2.2⟩

end HushWire

import HushWire.Authentication
import HushWire.NoiseLimits
import HushWire.Nonces
import HushWire.TickInitiations

namespace HushWire

open Noise

/-!
# Announcing a rebind

After the socket was rebound every other peer has to learn of the new port.
The keepalives of that tick are due for all peers; each leaves what the tick
does for the others alone, so a peer with a session is sent exactly one packet
under it, and the peer that was recovered is sent none.
-/

variable {snow : Snow}

/-- The traffic packets that a tick sends to a peer. -/
def SchedulerTick.transportFrames
    (tick : SchedulerTick snow)
    (peerName : PeerName) :
    List Bytes :=
  tick.outputs.flatMap fun scheduled =>
    scheduled.output.transportFrames peerName

/-- What a result adds to the traffic packets of a tick. -/
theorem SchedulerTick.transportFrames_pushEngineOutput
    (tick : SchedulerTick snow)
    (peerName : PeerName)
    (operation : ScheduledOperation)
    (result : Except (EngineError snow) EngineOutput)
    (queried : PeerName) :
    (tick.pushEngineOutput peerName operation result).transportFrames
        queried =
      tick.transportFrames queried ++
        match result with
        | .ok output => output.transportFrames queried
        | .error _ => [] := by
  cases result <;> simp [transportFrames, pushEngineOutput]

namespace SessionState

variable {state : SessionState snow}

/-- Dropping the session of a peer leaves those of the others. -/
theorem dropExpiredSession_lookup_of_ne
    {peerName queried : PeerName}
    (different : queried ≠ peerName)
    (now : Instant) :
    (state.dropExpiredSession peerName now).sessions.lookup queried =
      state.sessions.lookup queried := by
  unfold dropExpiredSession
  split
  · rfl
  · split
    · simp [different]
    · rfl

/-- Encrypting for a peer leaves the sessions of the others. -/
theorem encryptForPeer_session_of_ne
    {peerName queried : PeerName}
    (different : queried ≠ peerName)
    (msgType : Auth.MsgType)
    (payload : Bytes)
    (now : Instant) :
    (state.encryptForPeer peerName msgType payload now).2.sessions.lookup
        queried =
      state.sessions.lookup queried := by
  have kept :
      ((state.dropExpiredPrevious now).dropExpiredSession peerName
          now).sessions.lookup queried =
        state.sessions.lookup queried :=
    dropExpiredSession_lookup_of_ne different now
  unfold encryptForPeer
  dsimp only
  split
  · exact kept
  · simpa [different] using kept

/-- Where there is no session nothing is encrypted. -/
theorem encryptForPeer_of_none
    {peerName : PeerName}
    (absent : state.sessions.lookup peerName = none)
    (msgType : Auth.MsgType)
    (payload : Bytes)
    (now : Instant) :
    (state.encryptForPeer peerName msgType payload now).1 = .ok none ∧
      (state.encryptForPeer peerName msgType payload now).2.sessions.lookup
          peerName =
        none := by
  simp [encryptForPeer, dropExpiredSession, dropExpiredPrevious, absent]

end SessionState

namespace Engine

variable {engine : Engine snow}

/-- Starting a handshake leaves the sessions of the others. -/
theorem initiatePeer_session_of_ne
    {peer : Peer}
    {queried : PeerName}
    (different : queried ≠ peer.name)
    (draw : Draw snow)
    (now : Instant) :
    (engine.initiatePeer peer draw now).2.sessions.sessions.lookup queried =
      engine.sessions.sessions.lookup queried := by
  unfold initiatePeer
  cases engine.resolveEndpoint peer with
  | none =>
      rfl
  | some endpoint =>
      exact congrArg PeerEntry.session
        (engine.sessions.startOrRetryHandshake_entry_of_ne different _ _ _
          draw now)

/-- Starting a handshake keeps a session that has not expired. -/
theorem initiatePeer_session_of_unexpired
    {peerName : PeerName}
    {session : Session snow}
    {now : Instant}
    (active : engine.sessions.sessions.lookup peerName = some session)
    (unexpired : session.isExpired now = false)
    (peer : Peer)
    (draw : Draw snow) :
    (engine.initiatePeer peer draw now).2.sessions.sessions.lookup peerName =
      some session := by
  obtain ⟨_, keeps⟩ := engine.initiatePeer_engine peer draw now
  rcases keeps.sessions peerName with same | ⟨held, isHeld, expired, _⟩
  · exact same.trans active
  · cases isHeld.symm.trans active
    rw [unexpired] at expired
    cases expired

/-- Starting a handshake brings back no session. -/
theorem initiatePeer_session_of_none
    {peerName : PeerName}
    (absent : engine.sessions.sessions.lookup peerName = none)
    (peer : Peer)
    (draw : Draw snow)
    (now : Instant) :
    (engine.initiatePeer peer draw now).2.sessions.sessions.lookup peerName =
      none := by
  obtain ⟨_, keeps⟩ := engine.initiatePeer_engine peer draw now
  rcases keeps.sessions peerName with same | ⟨held, isHeld, _, _⟩
  · exact same.trans absent
  · cases isHeld.symm.trans absent

/-- The engine after something was encrypted for a peer. -/
def afterEncryption
    (engine : Engine snow)
    (peerName : PeerName)
    (msgType : Auth.MsgType)
    (payload : Bytes)
    (now : Instant) :
    Engine snow :=
  { engine with
    sessions :=
      (engine.sessions.encryptForPeer peerName msgType payload now).2 }

/-- After encryption, or the invalidation that follows it, a handshake starts. -/
theorem encryptAndInitiate_cases
    (engine : Engine snow)
    (peer : Peer)
    (msgType : Auth.MsgType)
    (payload : Bytes)
    (draw : Draw snow)
    (now : Instant) :
    (engine.encryptAndInitiate peer msgType payload draw now).2 =
        ((engine.afterEncryption peer.name msgType payload now).initiatePeer
          peer draw now).2 ∨
      (engine.encryptAndInitiate peer msgType payload draw now).2 =
        (((engine.afterEncryption peer.name msgType payload
          now).invalidatePeer peer.name).2.initiatePeer peer draw now).2 := by
  unfold encryptAndInitiate
  dsimp only
  split
  · left
    split <;> rfl
  · left
    split <;> rfl
  · right
    split <;> rfl

/-- A packet is encrypted for the peer of its route. -/
theorem processOutboundIp_of_route
    {packet : Bytes}
    {ipv4 : Ipv4Packet}
    {route : Route}
    (parsed : Ipv4Packet.parse packet = .ok ipv4)
    (routed : engine.router.lookup ipv4.destination = some route)
    (draw : Draw snow)
    (now : Instant) :
    engine.processOutboundIp packet draw now =
      engine.encryptAndInitiate route.peer .data packet draw now := by
  unfold processOutboundIp
  rw [parsed]
  dsimp only
  rw [routed]

/-- The routes, the endpoints and the session of a peer stay as they are. -/
structure Keeps
    (before after : Engine snow)
    (peerName : PeerName) :
    Prop where
  settings : ∃ sessions, after = { before with sessions }
  session :
    after.sessions.sessions.lookup peerName =
      before.sessions.sessions.lookup peerName

namespace Keeps

variable
  {before middle after : Engine snow}
  {peerName : PeerName}

theorem refl (engine : Engine snow) (peerName : PeerName) :
    Keeps engine engine peerName where
  settings := ⟨engine.sessions, rfl⟩
  session := rfl

theorem trans
    (first : Keeps before middle peerName)
    (second : Keeps middle after peerName) :
    Keeps before after peerName where
  settings := by
    obtain ⟨_, rfl⟩ := first.settings
    obtain ⟨sessions, rfl⟩ := second.settings
    exact ⟨sessions, rfl⟩
  session := second.session.trans first.session

theorem peer (keeps : Keeps before after peerName) (queried : PeerName) :
    after.peer queried = before.peer queried := by
  obtain ⟨_, rfl⟩ := keeps.settings
  rfl

theorem resolveEndpoint (keeps : Keeps before after peerName) (peer : Peer) :
    after.resolveEndpoint peer = before.resolveEndpoint peer := by
  obtain ⟨_, rfl⟩ := keeps.settings
  rfl

theorem hasActiveSession
    (keeps : Keeps before after peerName)
    (clock : Instant) :
    after.hasActiveSession peerName clock =
      before.hasActiveSession peerName clock := by
  unfold Engine.hasActiveSession SessionState.hasActiveSession
  rw [keeps.session]

end Keeps

theorem initiatePeer_keeps_of_ne
    (engine : Engine snow)
    {peer : Peer}
    {queried : PeerName}
    (different : queried ≠ peer.name)
    (draw : Draw snow)
    (now : Instant) :
    Keeps engine (engine.initiatePeer peer draw now).2 queried where
  settings := engine.initiatePeer_withSessions peer draw now
  session := initiatePeer_session_of_ne different draw now

theorem initiatePeer_keeps_of_unexpired
    {peerName : PeerName}
    {session : Session snow}
    {now : Instant}
    (active : engine.sessions.sessions.lookup peerName = some session)
    (unexpired : session.isExpired now = false)
    (peer : Peer)
    (draw : Draw snow) :
    Keeps engine (engine.initiatePeer peer draw now).2 peerName where
  settings := engine.initiatePeer_withSessions peer draw now
  session := by
    rw [active]
    exact initiatePeer_session_of_unexpired active unexpired peer draw

/-- A handshake is started with the peer of that name, if there is one. -/
theorem initiateHandshake_cases
    (engine : Engine snow)
    (peerName : PeerName)
    (draw : Draw snow)
    (now : Instant) :
    (engine.initiateHandshake peerName draw now).2 = engine ∨
      ∃ peer,
        peer.name = peerName ∧
          (engine.initiateHandshake peerName draw now).2 =
            (engine.initiatePeer peer draw now).2 := by
  unfold initiateHandshake
  cases found : engine.peer peerName with
  | none =>
      exact Or.inl rfl
  | some peer =>
      right
      refine ⟨peer, name_of_peer found, ?_⟩
      dsimp only
      split <;> rfl

/-- Starting a handshake is no traffic. -/
theorem PendingEncoded.transportFrames_initiateHandshake
    (encoded : engine.PendingEncoded)
    (tick : SchedulerTick snow)
    (peerName : PeerName)
    (operation : ScheduledOperation)
    (draw : Draw snow)
    (now : Instant)
    (queried : PeerName) :
    (tick.pushEngineOutput peerName operation
        (engine.initiateHandshake peerName draw now).1).transportFrames
        queried =
      tick.transportFrames queried := by
  rw [SchedulerTick.transportFrames_pushEngineOutput]
  unfold initiateHandshake
  cases engine.peer peerName with
  | none =>
      simp
  | some peer =>
      dsimp only
      cases initiated : (engine.initiatePeer peer draw now).1 with
      | error error =>
          simp
      | ok action =>
          have silent := encoded.initiated initiated [] [] queried
          simp only [List.append_nil] at silent
          simp [silent]

/-- A keepalive leaves the session of every other peer. -/
theorem createKeepalive_keeps_of_ne
    (engine : Engine snow)
    {peerName queried : PeerName}
    (different : queried ≠ peerName)
    (payload : Bytes)
    (draw : Draw snow)
    (now : Instant) :
    Keeps engine (engine.createKeepalive peerName payload draw now).2
      queried := by
  unfold createKeepalive
  cases found : engine.peer peerName with
  | none =>
      exact .refl engine queried
  | some peer =>
      have isName := name_of_peer found
      subst isName
      have kept :
          (engine.sessions.encryptForPeer peer.name .keepalive payload
              now).2.sessions.lookup queried =
            engine.sessions.sessions.lookup queried :=
        SessionState.encryptForPeer_session_of_ne different .keepalive payload
          now
      rcases engine.encryptAndInitiate_cases peer .keepalive payload draw now
        with same | same
      · have used :
            Keeps engine
              (engine.afterEncryption peer.name .keepalive payload now)
              queried :=
          ⟨⟨_, rfl⟩, kept⟩
        dsimp only
        rw [same]
        exact used.trans (initiatePeer_keeps_of_ne _ different draw now)
      · have invalidated :
            Keeps engine
              ((engine.afterEncryption peer.name .keepalive payload
                now).invalidatePeer peer.name).2
              queried := by
          refine ⟨⟨_, rfl⟩, ?_⟩
          simpa [invalidatePeer, SessionState.invalidatePeer, different,
            afterEncryption] using kept
        dsimp only
        rw [same]
        exact invalidated.trans
          (initiatePeer_keeps_of_ne _ different draw now)

/-- A keepalive to a peer without a session brings back none. -/
theorem createKeepalive_session_of_none
    {peerName : PeerName}
    (absent : engine.sessions.sessions.lookup peerName = none)
    (recipient : PeerName)
    (payload : Bytes)
    (draw : Draw snow)
    (now : Instant) :
    (engine.createKeepalive recipient payload draw
        now).2.sessions.sessions.lookup peerName =
      none := by
  by_cases isPeer : peerName = recipient
  · subst isPeer
    unfold createKeepalive
    cases found : engine.peer peerName with
    | none =>
        exact absent
    | some peer =>
        have isName := name_of_peer found
        subst isName
        obtain ⟨noFrame, stillAbsent⟩ :=
          SessionState.encryptForPeer_of_none absent .keepalive payload now
        unfold encryptAndInitiate
        dsimp only
        rw [noFrame]
        dsimp only
        split <;> exact initiatePeer_session_of_none stillAbsent peer draw now
  · exact
      (engine.createKeepalive_keeps_of_ne isPeer payload draw
        now).session.trans absent

/-- A handshake that can be written can be started. -/
theorem initiatePeer_isOk
    (starts : snow.StartsHandshakes)
    (engine : Engine snow)
    (peer : Peer)
    (draw : Draw snow)
    (now : Instant) :
    ∃ action, (engine.initiatePeer peer draw now).1 = .ok action := by
  unfold initiatePeer
  cases engine.resolveEndpoint peer with
  | none =>
      exact ⟨none, rfl⟩
  | some endpoint =>
      obtain ⟨_, _, _, _, outcome⟩ :=
        engine.sessions.startOrRetryHandshake_execution peer.name
          engine.localStatic peer.publicKey peer.psk draw now
      dsimp only
      generalize
        (engine.sessions.startOrRetryHandshake peer.name engine.localStatic
          peer.publicKey peer.psk draw now).1 = result
        at outcome
      cases outcome with
      | waiting | confirming | current | retransmitted =>
          exact ⟨_, rfl⟩
      | due _ _ _ due =>
          rcases due with ⟨error, failed, _⟩ | ⟨_, _, _, rfl⟩
          · obtain ⟨handshake, started⟩ :=
              starts engine.localStatic peer.publicKey peer.psk draw
            rw [started] at failed
            cases failed
          · exact ⟨_, rfl⟩

/-- What is encrypted for a peer with a session is sent under the session. -/
theorem encryptAndInitiate_active
    (limits : NoiseLimits snow)
    (starts : snow.StartsHandshakes)
    {peer : Peer}
    {endpoint : SocketAddr}
    {session : Session snow}
    {payload : Bytes}
    {now : Instant}
    (resolved : engine.resolveEndpoint peer = some endpoint)
    (active : engine.sessions.sessions.lookup peer.name = some session)
    (unexpired : session.isExpired now = false)
    (msgType : Auth.MsgType)
    (fits : payload.length + 1 + aeadTagSize ≤ maxNoiseMessageSize)
    (draw : Draw snow) :
    ∃ action frame,
      ((engine.afterEncryption peer.name msgType payload now).initiatePeer
          peer draw now).1 = .ok action ∧
        (session.encrypt msgType payload).1 = .ok frame ∧
        frame.length =
          Auth.transportHeaderSize + (payload.length + 1 + aeadTagSize) ∧
        engine.encryptAndInitiate peer msgType payload draw now =
          (.ok
              { actions :=
                  action.toList ++ [.sendTransport peer.name endpoint frame]
                events := [] },
            ((engine.afterEncryption peer.name msgType payload
              now).initiatePeer peer draw now).2) := by
  obtain ⟨frame, encrypted, size⟩ :=
    limits.encrypts msgType
      (NonceInvariant.unexhausted_of_unexpired unexpired) fits
  obtain ⟨isFrame, _⟩ :=
    SessionState.encryptForPeer_active active unexpired msgType payload
  rw [encrypted] at isFrame
  obtain ⟨action, initiated⟩ :=
    (engine.afterEncryption peer.name msgType payload now).initiatePeer_isOk
      starts peer draw now
  have stillResolved :
      ((engine.afterEncryption peer.name msgType payload now).initiatePeer
          peer draw now).2.resolveEndpoint peer =
        some endpoint := by
    obtain ⟨_, isAfter⟩ :=
      (engine.afterEncryption peer.name msgType payload
        now).initiatePeer_withSessions peer draw now
    rw [isAfter]
    exact resolved
  refine ⟨action, frame, initiated, encrypted, size, ?_⟩
  unfold encryptAndInitiate
  dsimp only
  rw [isFrame]
  unfold afterEncryption at initiated stillResolved
  simp [Except.map, initiated, stillResolved, afterEncryption]

/-- A keepalive to a peer with a session is one packet under the session. -/
theorem createKeepalive_active
    (limits : NoiseLimits snow)
    (starts : snow.StartsHandshakes)
    (encoded : engine.PendingEncoded)
    {peerName : PeerName}
    {peer : Peer}
    {endpoint : SocketAddr}
    {session : Session snow}
    {payload : Bytes}
    {now : Instant}
    (routed : engine.peer peerName = some peer)
    (resolved : engine.resolveEndpoint peer = some endpoint)
    (active : engine.sessions.sessions.lookup peerName = some session)
    (unexpired : session.isExpired now = false)
    (fits : payload.length + 1 + aeadTagSize ≤ maxNoiseMessageSize)
    (draw : Draw snow) :
    ∃ output frame,
      (engine.createKeepalive peerName payload draw now).1 = .ok output ∧
        (session.encrypt .keepalive payload).1 = .ok frame ∧
        output.transportFrames peerName = [frame] := by
  have isName := name_of_peer routed
  subst isName
  obtain ⟨action, frame, initiated, encrypted, size, result⟩ :=
    encryptAndInitiate_active limits starts resolved active unexpired
      .keepalive fits draw
  have isTransport : Auth.isTransport frame = true := by
    obtain ⟨_, ciphertext, _, rfl⟩ := Session.encrypt_ok encrypted
    rw [Auth.encodeTransport_length] at size
    have long : 17 ≤ ciphertext.length := by
      rw [aeadTagSize] at size
      omega
    unfold Auth.isTransport
    rw [Auth.decodePacket_encodeTransport _ _ long]
  have afterEncoded :
      (engine.afterEncryption peer.name .keepalive payload
        now).PendingEncoded :=
    SessionState.PendingEncoded.operation encoded
      (.encrypt peer.name .keepalive payload now)
  refine ⟨⟨action.toList ++ [.sendTransport peer.name endpoint frame], []⟩,
    frame, ?_, encrypted, ?_⟩
  · unfold createKeepalive
    rw [routed]
    exact congrArg Prod.fst result
  · rw [afterEncoded.initiated initiated]
    simp [EngineOutput.transportFrames, isTransport]

end Engine

/-- What is done for others leaves a peer as it is. -/
structure Unaffected
    (peerName : PeerName)
    (start progress : TickProgress snow) :
    Prop where
  engine : start.engine.Keeps progress.engine peerName
  lastSent :
    progress.scheduler.lastSent.lookup peerName =
      start.scheduler.lastSent.lookup peerName
  frames :
    progress.tick.transportFrames peerName =
      start.tick.transportFrames peerName
  pendingEncoded :
    start.engine.PendingEncoded → progress.engine.PendingEncoded

namespace Unaffected

variable
  {peerName : PeerName}
  {start middle progress : TickProgress snow}

theorem refl (peerName : PeerName) (start : TickProgress snow) :
    Unaffected peerName start start where
  engine := .refl start.engine peerName
  lastSent := rfl
  frames := rfl
  pendingEncoded := id

theorem trans
    (first : Unaffected peerName start middle)
    (second : Unaffected peerName middle progress) :
    Unaffected peerName start progress where
  engine := first.engine.trans second.engine
  lastSent := second.lastSent.trans first.lastSent
  frames := second.frames.trans first.frames
  pendingEncoded := second.pendingEncoded ∘ first.pendingEncoded

/-- A step that leaves a peer alone may be taken for every entry. -/
theorem foldl
    {Entry : Type}
    {step : TickProgress snow → Entry → TickProgress snow}
    {entries : List Entry}
    (encoded : start.engine.PendingEncoded)
    (kept :
      ∀ progress,
        progress.engine.PendingEncoded →
        Unaffected peerName start progress →
        ∀ entry ∈ entries,
          Unaffected peerName progress (step progress entry)) :
    Unaffected peerName start (entries.foldl step start) :=
  List.foldlRecOn entries step (.refl peerName start)
    fun progress unaffected entry member =>
      unaffected.trans
        (kept progress (unaffected.pendingEncoded encoded) unaffected entry
          member)

/-- A retry is no traffic, and a session that has not expired stays. -/
theorem retryHandshake
    {input : TickInput snow}
    {progress : TickProgress snow}
    (encoded : progress.engine.PendingEncoded)
    {session : Session snow}
    (active :
      progress.engine.sessions.sessions.lookup peerName = some session)
    (unexpired : session.isExpired input.now = false)
    (entry : ScheduledPeer × Nat) :
    Unaffected peerName progress
      (EngineScheduler.retryHandshake input progress entry) := by
  obtain ⟨peer, position⟩ := entry
  unfold EngineScheduler.retryHandshake
  dsimp only
  split
  · exact
      { engine := by
          rcases progress.engine.initiateHandshake_cases peer.name
              (input.draws .handshakeRetry position) input.now with
            same | ⟨initiated, _, same⟩
          · rw [same]
            exact .refl progress.engine peerName
          · rw [same]
            exact Engine.initiatePeer_keeps_of_unexpired active unexpired
              initiated _
        lastSent := rfl
        frames :=
          encoded.transportFrames_initiateHandshake progress.tick peer.name
            .handshakeRetry _ input.now peerName
        pendingEncoded := fun _ =>
          encoded.perform
            (.initiateHandshake peer.name
              (input.draws .handshakeRetry position) input.now) }
  · exact .refl peerName progress

/-- A keepalive to another peer. -/
theorem sendKeepalive
    {input : TickInput snow}
    {rebound : Bool}
    {progress : TickProgress snow}
    (encoded : progress.engine.PendingEncoded)
    {entry : ScheduledPeer × Nat}
    (different : peerName ≠ entry.1.name) :
    Unaffected peerName progress
      (EngineScheduler.sendKeepalive input rebound progress entry) := by
  obtain ⟨peer, position⟩ := entry
  unfold EngineScheduler.sendKeepalive
  dsimp only at different ⊢
  split
  · exact
      { engine :=
          progress.engine.createKeepalive_keeps_of_ne different _ _ input.now
        lastSent := by
          split
          · simp [different]
          · rfl
        frames := by
          rw [SchedulerTick.transportFrames_pushEngineOutput]
          split
          · rename_i output created
            rcases encoded.keepalive created peerName with silent | ⟨same, _⟩
            · rw [silent, List.append_nil]
            · exact absurd same different
          · rw [List.append_nil]
        pendingEncoded := fun _ =>
          encoded.perform (.createKeepalive peer.name _ _ input.now) }
  · split
    · exact
        { engine := .refl progress.engine peerName
          lastSent := by
            unfold EngineScheduler.noteUnlessSent
            split
            · rfl
            · simp [different]
          frames := rfl
          pendingEncoded := id }
    · exact .refl peerName progress

/-- Keepalives to other peers. -/
theorem sendKeepalives
    {input : TickInput snow}
    {rebound : Bool}
    (encoded : start.engine.PendingEncoded)
    {entries : List (ScheduledPeer × Nat)}
    (others : ∀ entry ∈ entries, peerName ≠ entry.1.name) :
    Unaffected peerName start
      (entries.foldl (EngineScheduler.sendKeepalive input rebound) start) :=
  .foldl encoded fun _ progressEncoded _ entry member =>
    .sendKeepalive progressEncoded (others entry member)

end Unaffected

/-- Retries are no traffic. -/
theorem EngineScheduler.transportFrames_retryHandshakes
    {input : TickInput snow}
    {start : TickProgress snow}
    {entries : List (ScheduledPeer × Nat)}
    (encoded : start.engine.PendingEncoded)
    (queried : PeerName) :
    (entries.foldl (retryHandshake input) start).tick.transportFrames
        queried =
      start.tick.transportFrames queried := by
  have kept :
      (entries.foldl (retryHandshake input) start).tick.transportFrames
            queried =
          start.tick.transportFrames queried ∧
        (entries.foldl (retryHandshake input)
          start).engine.PendingEncoded := by
    refine List.foldlRecOn (motive := fun progress : TickProgress snow =>
        progress.tick.transportFrames queried =
            start.tick.transportFrames queried ∧
          progress.engine.PendingEncoded)
      _ _ ⟨rfl, encoded⟩ ?_
    rintro progress ⟨same, progressEncoded⟩ ⟨peer, position⟩ _
    unfold retryHandshake
    dsimp only
    split
    · refine ⟨?_, progressEncoded.perform
        (.initiateHandshake peer.name (input.draws .handshakeRetry position)
          input.now)⟩
      rw [progressEncoded.transportFrames_initiateHandshake]
      exact same
    · exact ⟨same, progressEncoded⟩
  exact kept.1

/-- What a recovery does that rebinds the socket. -/
structure Rebound
    (peerName : PeerName)
    (input : TickInput snow)
    (start progress : TickProgress snow) :
    Prop where
  engine :
    ∃ draw,
      progress.engine =
        ((start.engine.invalidatePeer peerName).2.initiateHandshake peerName
          draw input.now).2
  peers : progress.scheduler.peers = start.scheduler.peers
  lastSent : progress.scheduler.lastSent = start.scheduler.lastSent
  frames :
    ∀ queried,
      progress.tick.transportFrames queried =
        start.tick.transportFrames queried

/-- A recovery whose event says so rebinds the socket. -/
theorem EngineScheduler.recover_rebound
    {input : TickInput snow}
    {progress : TickProgress snow}
    (encoded : progress.engine.PendingEncoded)
    (noEvents : progress.tick.events = [])
    {event : SchedulerEvent}
    (isEvent : event ∈ (recover input progress).1.tick.events)
    (succeeded : event.rebindSucceeded = true) :
    (recover input progress).2 = true ∧
      Rebound event.peerName input progress (recover input progress).1 := by
  unfold recover at isEvent ⊢
  cases first :
      progress.scheduler.firstRecovery progress.engine input.now with
  | none =>
      rw [first] at isEvent
      dsimp only at isEvent
      rw [noEvents] at isEvent
      cases isEvent
  | some found =>
      obtain ⟨⟨peer, position⟩, policy, lastSeen⟩ := found
      rw [first] at isEvent
      simp only [SchedulerTick.events_pushEngineOutput, noEvents,
        List.nil_append, List.mem_singleton] at isEvent
      subst isEvent
      refine ⟨succeeded,
        { engine := ⟨_, rfl⟩
          peers := by simp
          lastSent := by simp
          frames := ?_ }⟩
      intro queried
      exact Engine.PendingEncoded.transportFrames_initiateHandshake
        (encoded.perform (.invalidatePeer peer.name)) progress.tick peer.name
        .sessionRecovery _ input.now queried

namespace Rebound

variable
  {peerName : PeerName}
  {input : TickInput snow}
  {start progress : TickProgress snow}

/-- A recovery leaves the other peers as they are. -/
theorem unaffected
    (rebound : Rebound peerName input start progress)
    {queried : PeerName}
    (different : queried ≠ peerName) :
    Unaffected queried start progress where
  engine := by
    obtain ⟨draw, isEngine⟩ := rebound.engine
    have invalidated :
        start.engine.Keeps (start.engine.invalidatePeer peerName).2 queried :=
      ⟨⟨_, rfl⟩,
        by simp [Engine.invalidatePeer, SessionState.invalidatePeer, different]⟩
    rw [isEngine]
    rcases (start.engine.invalidatePeer peerName).2.initiateHandshake_cases
        peerName draw input.now with same | ⟨initiated, rfl, same⟩
    · rw [same]
      exact invalidated
    · rw [same]
      exact invalidated.trans
        (Engine.initiatePeer_keeps_of_ne _ different draw input.now)
  lastSent := by rw [rebound.lastSent]
  frames := rebound.frames queried
  pendingEncoded := by
    intro encoded
    obtain ⟨draw, isEngine⟩ := rebound.engine
    rw [isEngine]
    exact Engine.PendingEncoded.perform
      (encoded.perform (.invalidatePeer peerName))
      (.initiateHandshake peerName draw input.now)

/-- The peer that was recovered has no session left. -/
theorem session_eq_none (rebound : Rebound peerName input start progress) :
    progress.engine.sessions.sessions.lookup peerName = none := by
  obtain ⟨draw, isEngine⟩ := rebound.engine
  have absent :
      (start.engine.invalidatePeer peerName).2.sessions.sessions.lookup
          peerName =
        none := by
    simp [Engine.invalidatePeer, SessionState.invalidatePeer]
  rw [isEngine]
  rcases (start.engine.invalidatePeer peerName).2.initiateHandshake_cases
      peerName draw input.now with same | ⟨initiated, _, same⟩
  · rw [same]
    exact absent
  · rw [same]
    exact Engine.initiatePeer_session_of_none absent initiated draw input.now

end Rebound

/-- After a rebind a peer with a session is sent one packet under it. -/
theorem EngineScheduler.sendKeepalive_rebound
    (limits : NoiseLimits snow)
    (starts : snow.StartsHandshakes)
    {input : TickInput snow}
    {progress : TickProgress snow}
    (encoded : progress.engine.PendingEncoded)
    (entry : ScheduledPeer × Nat)
    {routed : Peer}
    {endpoint : SocketAddr}
    {session : Session snow}
    (isRouted : progress.engine.peer entry.1.name = some routed)
    (resolved : progress.engine.resolveEndpoint routed = some endpoint)
    (active :
      progress.engine.sessions.sessions.lookup entry.1.name = some session)
    (unexpired : session.isExpired input.now = false) :
    (∃ payload frame,
        (session.encrypt .keepalive payload).1 = .ok frame ∧
          (sendKeepalive input true progress entry).tick.transportFrames
              entry.1.name =
            progress.tick.transportFrames entry.1.name ++ [frame]) ∧
      (sendKeepalive input true progress entry).scheduler.lastSent.lookup
          entry.1.name =
        some input.now ∧
      (sendKeepalive input true progress entry).engine.PendingEncoded := by
  obtain ⟨peer, position⟩ := entry
  have isActive :
      progress.engine.hasActiveSession peer.name input.now = true := by
    simp [Engine.hasActiveSession, SessionState.hasActiveSession, active,
      unexpired]
  have fits :
      (if peer.recovery.isSome then Auth.keepaliveProbePayload else []).length +
          1 + aeadTagSize ≤
        maxNoiseMessageSize := by
    split <;> decide
  obtain ⟨output, frame, created, encrypted, isFrame⟩ :=
    Engine.createKeepalive_active limits starts encoded isRouted resolved
      active unexpired fits (input.draws .keepalive position)
  refine ⟨⟨_, frame, encrypted, ?_⟩, ?_, ?_⟩
  · simp [sendKeepalive, keepaliveShouldSend, created, isFrame,
      SchedulerTick.transportFrames_pushEngineOutput]
  · simp [sendKeepalive, keepaliveShouldSend, isActive]
  · exact encoded.perform
      (.createKeepalive peer.name
        (if peer.recovery.isSome then Auth.keepaliveProbePayload else [])
        (input.draws .keepalive position) input.now)

/-- A peer without a session is sent no traffic. -/
theorem EngineScheduler.sendKeepalive_of_none
    {input : TickInput snow}
    {rebound : Bool}
    {progress : TickProgress snow}
    (encoded : progress.engine.PendingEncoded)
    {peerName : PeerName}
    (absent : progress.engine.sessions.sessions.lookup peerName = none)
    (entry : ScheduledPeer × Nat) :
    (sendKeepalive input rebound progress
          entry).engine.sessions.sessions.lookup peerName =
        none ∧
      (sendKeepalive input rebound progress entry).tick.transportFrames
          peerName =
        progress.tick.transportFrames peerName ∧
      (sendKeepalive input rebound progress entry).engine.PendingEncoded := by
  obtain ⟨peer, position⟩ := entry
  unfold sendKeepalive
  dsimp only
  split
  · refine ⟨Engine.createKeepalive_session_of_none absent _ _ _ _, ?_,
      encoded.perform (.createKeepalive peer.name _ _ input.now)⟩
    rw [SchedulerTick.transportFrames_pushEngineOutput]
    split
    · rename_i output created
      rcases encoded.keepalive created peerName with silent | ⟨rfl, _, active⟩
      · rw [silent, List.append_nil]
      · simp [Engine.hasActiveSession, SessionState.hasActiveSession, absent]
          at active
    · rw [List.append_nil]
  · split
    · exact ⟨absent, rfl, encoded⟩
    · exact ⟨absent, rfl, encoded⟩

/-- Keepalives are no events. -/
theorem TickProgress.events_sendKeepalive
    (progress : TickProgress snow)
    (input : TickInput snow)
    (rebound : Bool)
    (entry : ScheduledPeer × Nat) :
    (EngineScheduler.sendKeepalive input rebound progress entry).tick.events =
      progress.tick.events := by
  unfold EngineScheduler.sendKeepalive
  dsimp only
  split
  · simp
  · split <;> rfl

namespace Ticked

variable {ticked : Ticked snow}

/-- The traffic for a peer is one packet under its session, and is noted. -/
structure AnnouncesTo
    (ticked : Ticked snow)
    (peerName : PeerName)
    (session : Session snow) :
    Prop where
  frame :
    ∃ payload frame,
      (session.encrypt .keepalive payload).1 = .ok frame ∧
        ticked.result.transportFrames peerName = [frame]
  lastSent :
    ticked.after.scheduler.lastSent.lookup peerName = some ticked.now

/-- The engine, the scheduler and the outputs after the retries of a tick. -/
def retried (ticked : Ticked snow) : TickProgress snow :=
  ticked.before.scheduler.peers.zipIdx.foldl
    (EngineScheduler.retryHandshake ticked.input) ticked.start

theorem retries (ticked : Ticked snow) :
    Retried ticked.now ticked.start ticked.retried :=
  .foldl ticked.input ticked.start ticked.before.scheduler.peers.zipIdx

/-- The events of a tick are those of its recovery. -/
theorem events_eq (ticked : Ticked snow) :
    ticked.result.events =
      (EngineScheduler.recover ticked.input ticked.retried).1.tick.events :=
  List.foldlRecOn (motive := fun progress : TickProgress snow =>
      progress.tick.events =
        (EngineScheduler.recover ticked.input ticked.retried).1.tick.events)
    _ _ rfl
    fun progress same entry _ =>
      (progress.events_sendKeepalive ticked.input _ entry).trans same

/-- The passes of a tick in which the socket was rebound. -/
theorem rebound_passes
    (encoded : ticked.before.engine.PendingEncoded)
    {event : SchedulerEvent}
    (isEvent : event ∈ ticked.result.events)
    (succeeded : event.rebindSucceeded = true) :
    ∃ recovered,
      Rebound event.peerName ticked.input ticked.retried recovered ∧
        ticked.progress =
          ticked.before.scheduler.peers.zipIdx.foldl
            (EngineScheduler.sendKeepalive ticked.input true) recovered := by
  rw [ticked.events_eq] at isEvent
  obtain ⟨isRebound, rebound⟩ :=
    EngineScheduler.recover_rebound (ticked.retries.pendingEncoded encoded)
      ticked.retries.events isEvent succeeded
  refine ⟨_, rebound, ?_⟩
  rw [← isRebound]
  rfl

/-- A peer with a session learns of the rebind. -/
theorem announcesTo
    (limits : NoiseLimits snow)
    (starts : snow.StartsHandshakes)
    (encoded : ticked.before.engine.PendingEncoded)
    (names : (ticked.before.scheduler.peers.map ScheduledPeer.name).Nodup)
    {event : SchedulerEvent}
    (isEvent : event ∈ ticked.result.events)
    (succeeded : event.rebindSucceeded = true)
    {peerName : PeerName}
    (scheduled :
      peerName ∈ ticked.before.scheduler.peers.map ScheduledPeer.name)
    (other : peerName ≠ event.peerName)
    {routed : Peer}
    {endpoint : SocketAddr}
    {session : Session snow}
    (isRouted : ticked.before.engine.peer peerName = some routed)
    (resolved : ticked.before.engine.resolveEndpoint routed = some endpoint)
    (active :
      ticked.before.engine.sessions.sessions.lookup peerName = some session)
    (unexpired : session.isExpired ticked.now = false) :
    ticked.AnnouncesTo peerName session := by
  obtain ⟨recovered, rebound, isProgress⟩ :=
    rebound_passes encoded isEvent succeeded
  have retriedUnaffected : Unaffected peerName ticked.start ticked.retried :=
    .foldl encoded fun progress progressEncoded unaffected entry _ =>
      .retryHandshake progressEncoded
        (unaffected.engine.session.trans active) unexpired entry
  have unaffected := retriedUnaffected.trans (rebound.unaffected other)
  obtain ⟨peer, member, rfl⟩ := List.mem_map.mp scheduled
  obtain ⟨earlier, later, isSplit⟩ := List.append_of_mem member
  rw [isSplit, List.map_append, List.map_cons] at names
  obtain ⟨_, laterNames, disjoint⟩ := List.nodup_append.mp names
  rw [isSplit, List.zipIdx_append, List.zipIdx_cons, List.foldl_append,
    List.foldl_cons] at isProgress
  have earlierOthers : ∀ entry ∈ earlier.zipIdx, peer.name ≠ entry.1.name := by
    intro entry isEarlier same
    have isName :=
      List.mem_map_of_mem (f := ScheduledPeer.name)
        (List.fst_mem_of_mem_zipIdx isEarlier)
    exact disjoint entry.1.name isName peer.name (by simp) same.symm
  have laterOthers :
      ∀ entry ∈ later.zipIdx (0 + earlier.length + 1),
        peer.name ≠ entry.1.name := by
    intro entry isLater same
    have isName :=
      List.mem_map_of_mem (f := ScheduledPeer.name)
        (List.fst_mem_of_mem_zipIdx isLater)
    rw [← same] at isName
    exact (List.nodup_cons.mp laterNames).1 isName
  have waited :
      Unaffected peer.name recovered
        (earlier.zipIdx.foldl
          (EngineScheduler.sendKeepalive ticked.input true) recovered) :=
    .sendKeepalives (unaffected.pendingEncoded encoded) earlierOthers
  have served := unaffected.trans waited
  obtain ⟨⟨payload, frame, encrypted, isFrame⟩, isSent, servedEncoded⟩ :=
    EngineScheduler.sendKeepalive_rebound limits starts
      (served.pendingEncoded encoded) (peer, 0 + earlier.length)
      ((served.engine.peer peer.name).trans isRouted)
      ((served.engine.resolveEndpoint routed).trans resolved)
      (served.engine.session.trans active) unexpired
  have finished :
      Unaffected peer.name _
        ((later.zipIdx (0 + earlier.length + 1)).foldl
          (EngineScheduler.sendKeepalive ticked.input true) _) :=
    .sendKeepalives servedEncoded laterOthers
  rw [← isProgress] at finished
  refine ⟨⟨payload, frame, encrypted, ?_⟩, finished.lastSent.trans isSent⟩
  have noFrames : ticked.start.tick.transportFrames peer.name = [] := rfl
  have frames := finished.frames.trans isFrame
  rw [served.frames, noFrames, List.nil_append] at frames
  exact frames

/-- The peer that was recovered is sent no traffic. -/
theorem recovered_silent
    (encoded : ticked.before.engine.PendingEncoded)
    {event : SchedulerEvent}
    (isEvent : event ∈ ticked.result.events)
    (succeeded : event.rebindSucceeded = true) :
    ticked.result.transportFrames event.peerName = [] := by
  obtain ⟨recovered, rebound, isProgress⟩ :=
    rebound_passes encoded isEvent succeeded
  have recoveredEncoded : recovered.engine.PendingEncoded := by
    obtain ⟨draw, isEngine⟩ := rebound.engine
    rw [isEngine]
    exact Engine.PendingEncoded.perform
      ((ticked.retries.pendingEncoded encoded).perform
        (.invalidatePeer event.peerName))
      (.initiateHandshake event.peerName draw ticked.input.now)
  have noneBefore : recovered.tick.transportFrames event.peerName = [] := by
    rw [rebound.frames]
    exact EngineScheduler.transportFrames_retryHandshakes encoded
      event.peerName
  have silent :
      ticked.progress.engine.sessions.sessions.lookup event.peerName = none ∧
        ticked.progress.tick.transportFrames event.peerName = [] ∧
        ticked.progress.engine.PendingEncoded := by
    rw [isProgress]
    refine List.foldlRecOn (motive := fun progress : TickProgress snow =>
        progress.engine.sessions.sessions.lookup event.peerName = none ∧
          progress.tick.transportFrames event.peerName = [] ∧
          progress.engine.PendingEncoded)
      _ _ ⟨rebound.session_eq_none, noneBefore, recoveredEncoded⟩ ?_
    rintro progress ⟨absent, noFrames, progressEncoded⟩ entry _
    obtain ⟨stillAbsent, sameFrames, stillEncoded⟩ :=
      EngineScheduler.sendKeepalive_of_none progressEncoded absent entry
    exact ⟨stillAbsent, sameFrames.trans noFrames, stillEncoded⟩
  exact silent.2.1

end Ticked

/-- The peers of a scheduler of a valid configuration have distinct names. -/
theorem EngineScheduler.new_names
    {decodeBase64 : String → Option Bytes}
    {config : Config}
    (accepted : config.validate decodeBase64 = .ok ()) :
    ((EngineScheduler.new config).peers.map ScheduledPeer.name).Nodup := by
  have names := (Config.validate_ok accepted).names
  simpa [EngineScheduler.new, ScheduledPeer.ofConfig, Function.comp_def]
    using names

/--
After the socket was rebound each other peer with a session is sent one packet
under it, the recovered peer is sent none, and what is sent is noted.
-/
theorem rebind_announced
    (limits : NoiseLimits snow)
    (starts : snow.StartsHandshakes)
    {decodeBase64 : String → Option Bytes}
    {config : Config}
    (accepted : config.validate decodeBase64 = .ok ())
    {localStatic : Key}
    {router : Router}
    {events : List (SchedulingEvent snow)}
    {ticked : Ticked snow}
    (execution :
      Execution SchedulingStep (.start config localStatic router) events
        ticked.before)
    {recoveredName : PeerName}
    {silence : Nat}
    {rebindUdp hadStaleState : Bool}
    (rebound :
      .recovery recoveredName silence rebindUdp true hadStaleState ∈
        ticked.result.events) :
    (∀ peerConfig ∈ config.peer,
        peerConfig.name ≠ recoveredName →
        ∀ peer endpoint session,
          ticked.before.engine.peer peerConfig.name = some peer →
          ticked.before.engine.resolveEndpoint peer = some endpoint →
          ticked.before.engine.sessions.sessions.lookup peerConfig.name =
            some session →
          session.isExpired ticked.now = false →
          ticked.AnnouncesTo peerConfig.name session) ∧
      ticked.result.transportFrames recoveredName = [] ∧
      ∀ peerName,
        ticked.result.keepaliveFrames peerName ≠ [] →
        ticked.after.scheduler.lastSent.lookup peerName =
          some ticked.now := by
  have invariant := SchedulingInvariant.of_execution execution
  have encoded := invariant.pendingEncoded
  refine ⟨?_, Ticked.recovered_silent encoded rebound rfl, ?_⟩
  · intro peerConfig configured other peer endpoint session isRouted resolved
      active unexpired
    refine Ticked.announcesTo limits starts encoded ?_ rebound rfl ?_ other
      isRouted resolved active unexpired
    · rw [invariant.peers]
      exact EngineScheduler.new_names accepted
    · rw [invariant.peers]
      refine List.mem_map.mpr ⟨_, List.mem_map_of_mem configured, rfl⟩
  · intro peerName
    exact (ticked.keepalives encoded peerName).2.1

namespace TwoPeersExample

open AgreementExample (endpoint sentFrame)

/-- A peer with its key and what the hub routes to it. -/
def peer (name : PeerName) (publicKey : Key) : Peer where
  name := name
  endpoint := endpoint
  configuredEndpoint := .ofSocketAddr "10.0.0.1" endpoint
  excludedIps := []
  psk := .fill 3
  publicKey := publicKey
  persistentKeepalive := 0
  udpRebindAfter := 0
  sessionTimeout := 0

def router : Router where
  routes :=
    [{ net := { address := 0x0A010000, prefixLen := 16 }
       peer := peer "second" (.fill 2) },
      { net := { address := 0x0A020000, prefixLen := 16 }
        peer := peer "third" (.fill 4) }]
  excludedRoutes := []

/-- The engine of a peer, which knows the hub only. -/
def spoke (localStatic : Key) : Engine PlainNoise.snow :=
  .withRouter localStatic
    { routes :=
        [{ net := { address := 0, prefixLen := 0 }
           peer := peer "hub" (.fill 1) }]
      excludedRoutes := [] }

def hub : Engine PlainNoise.snow :=
  .withRouter (.fill 1) router

/-- Start a handshake, with an identifier and a key pair. -/
def initiate (peerName : PeerName) (byte : UInt8) :
    EngineCall PlainNoise.snow :=
  .initiateHandshake peerName { id := .fill byte, ephemeral := byte } 0

/-- The response of a fresh peer to an initiation, at an instant. -/
def respond
    (localStatic : Key)
    (initiation : Bytes)
    (byte : UInt8)
    (now : Instant) :
    EngineCall PlainNoise.snow :=
  .processInboundTransport
    (sentFrame
      ((spoke localStatic).perform
        (.processInboundTransport initiation endpoint
          (fun _ => { id := .fill byte, ephemeral := byte }) now now)))
    endpoint (fun _ => { id := .fill byte, ephemeral := byte }) now now

def toSecond : EngineCall PlainNoise.snow :=
  respond (.fill 2) (sentFrame (hub.perform (initiate "second" 7))) 8 0

def afterInitiation : Engine PlainNoise.snow :=
  (hub.perform (initiate "second" 7)).2

def afterSecond : Engine PlainNoise.snow :=
  (afterInitiation.perform toSecond).2

def toThird : EngineCall PlainNoise.snow :=
  respond (.fill 4) (sentFrame (afterSecond.perform (initiate "third" 9))) 10
    0

def afterBoth : Engine PlainNoise.snow :=
  (afterSecond.perform (initiate "third" 9)).2

/-- Both peers have a session. -/
def established : Engine PlainNoise.snow :=
  (afterBoth.perform toThird).2

/-- A byte string of 32 bytes for every text. -/
def decodeBase64 (text : String) : Option Bytes :=
  some (List.replicate 32 (UInt8.ofNat text.length))

def peerConfig
    (name key : String)
    (persistentKeepalive udpRebindAfter : UInt16) :
    PeerConfig where
  name := name
  endpoint := .ofSocketAddr "10.0.0.1" endpoint
  allowedIps := [{ address := 0x0A010000, prefixLen := 16 }]
  excludedIps := []
  psk := key
  publicKey := key
  persistentKeepalive := persistentKeepalive
  udpRebindAfter := udpRebindAfter
  sessionTimeout := none

def config (second third : PeerConfig) : Config where
  interface :=
    { name := "hush0"
      address := { address := 0x0A070001, prefixLen := 24 }
      listen := endpoint
      transport := .udp
      mtu := 1400
      privateKey := "" }
  gateway := none
  peer := [second, third]

def input (seconds : Nat) (rebinds : Bool) : TickInput PlainNoise.snow where
  now := fromSecs seconds
  draws _ position :=
    { id := .fill (UInt8.ofNat (20 + position)), ephemeral := (6 : UInt8) }
  rebindUdp _ _ := rebinds

/-- Both sessions are established before the first tick. -/
theorem established_run (config : Config) :
    Execution SchedulingStep (.start config (.fill 1) router)
      [.call hub (initiate "second" 7), .call afterInitiation toSecond,
        .call afterSecond (initiate "third" 9), .call afterBoth toThird]
      ⟨.new config, established⟩ :=
  .snoc (.snoc (.snoc (.single (.call hub (initiate "second" 7)))
    (.call afterInitiation toSecond)) (.call afterSecond (initiate "third" 9)))
    (.call afterBoth toThird)

/-- Only the first peer has keepalives, and it is the one that falls silent. -/
def oneSided : Config :=
  config (peerConfig "second" "a" 25 60) (peerConfig "third" "bb" 0 0)

/-- A tick that sends a keepalive. -/
def first : Ticked PlainNoise.snow where
  before := ⟨.new oneSided, established⟩
  input := input 1 false

/-- A tick that finds the peer silent and rebinds the socket. -/
def second : Ticked PlainNoise.snow where
  before := first.after
  input := input 61 true

theorem oneSided_accepted : oneSided.validate decodeBase64 = .ok () := by
  decide +kernel

theorem oneSided_run :
    Execution SchedulingStep (.start oneSided (.fill 1) router)
      [.call hub (initiate "second" 7), .call afterInitiation toSecond,
        .call afterSecond (initiate "third" 9), .call afterBoth toThird,
        .tick first]
      second.before :=
  .snoc (established_run oneSided) (.tick first)

theorem second_rebinds :
    .recovery "second" (fromSecs 61) true true true ∈
      second.result.events := by
  decide +kernel

theorem third_reachable :
    ∃ session,
      second.before.engine.peer "third" = some (peer "third" (.fill 4)) ∧
        second.before.engine.resolveEndpoint (peer "third" (.fill 4)) =
          some endpoint ∧
        second.before.engine.sessions.sessions.lookup "third" =
          some session ∧
        session.isExpired second.now = false := by
  have unexpired :
      (second.before.engine.sessions.sessions.lookup "third").map
        (fun session => session.isExpired second.now) = some false := by
    decide +kernel
  obtain ⟨session, active, isUnexpired⟩ := Option.map_eq_some_iff.mp unexpired
  exact ⟨session, by decide +kernel, by decide +kernel, active, isUnexpired⟩

end TwoPeersExample

open TwoPeersExample in
/-- A peer without keepalives learns that the socket was rebound. -/
theorem rebind_announced_example :
    ∃ session, second.AnnouncesTo "third" session := by
  obtain ⟨session, isRouted, resolved, active, unexpired⟩ := third_reachable
  obtain ⟨announced, _⟩ :=
    rebind_announced PlainNoise.limits PlainNoise.startsHandshakes
      oneSided_accepted oneSided_run second_rebinds
  exact ⟨session,
    announced (peerConfig "third" "bb" 0 0) (by simp [oneSided, config])
      (by decide) (peer "third" (.fill 4)) AgreementExample.endpoint session
      isRouted resolved active unexpired⟩

end HushWire

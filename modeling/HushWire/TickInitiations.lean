import HushWire.NoiseLimits
import HushWire.RateLimits

namespace HushWire

open Noise

/-!
# The initiations of a tick

All three passes of a tick may start a handshake.  Once one is pending that has
not lapsed, the later passes send its packet or none, until the peer is
invalidated.  A tick invalidates only the peer that it recovers, so for every
other peer it sends one initiation at most, and that one is still pending when
the tick ends.
-/

variable {snow : Snow}

/-- A packet starts a handshake. -/
def Auth.isInitiation (frame : Bytes) : Bool :=
  match decodePacket frame with
  | some (.handshake .handshakeInit _ _) => true
  | _ => false

/-- Traffic starts no handshake. -/
theorem Auth.isInitiation_encodeTransport
    (sessionId : SessionId)
    (counter : UInt64)
    (ciphertext : Bytes) :
    isInitiation (encodeTransport sessionId counter ciphertext) = false := by
  unfold isInitiation
  split
  · rename_i handshakeId message decoded
    have encoded := (encode_of_decodePacket decoded).2
    exact absurd encoded
      (encodeHandshake_ne_encodeTransport rfl _ _ _ _ _)
  · rfl

namespace SessionState

/-- An initiation that has not lapsed waits for its response. -/
def Awaits
    (state : SessionState snow)
    (peerName : PeerName)
    (now : Instant)
    (packet : Bytes) :
    Prop :=
  ∃ pending,
    state.livePending peerName now = some pending ∧ pending.packet = packet

namespace Awaits

variable
  {state : SessionState snow}
  {peerName : PeerName}
  {now : Instant}
  {packet : Bytes}

theorem unique
    {other : Bytes}
    (awaits : state.Awaits peerName now packet)
    (otherAwaits : state.Awaits peerName now other) :
    packet = other := by
  obtain ⟨pending, live, rfl⟩ := awaits
  obtain ⟨otherPending, otherLive, rfl⟩ := otherAwaits
  cases live.symm.trans otherLive
  rfl

theorem stored
    (awaits : state.Awaits peerName now packet) :
    ∃ pending,
      state.pendingInit.lookup peerName = some pending ∧
        pending.packet = packet := by
  obtain ⟨pending, live, isPacket⟩ := awaits
  exact ⟨pending, (Option.filter_eq_some_iff.mp live).1, isPacket⟩

/-- What is pending depends on the pending initiation only. -/
theorem of_lookup_eq
    {after : SessionState snow}
    (awaits : state.Awaits peerName now packet)
    (same :
      after.pendingInit.lookup peerName =
        state.pendingInit.lookup peerName) :
    after.Awaits peerName now packet := by
  obtain ⟨pending, live, isPacket⟩ := awaits
  have sameEntry :
      (after.entry peerName).pending = (state.entry peerName).pending :=
    same
  refine ⟨pending, ?_, isPacket⟩
  unfold livePending at live ⊢
  rwa [sameEntry]

end Awaits

/-- A fresh attempt is pending at the instant at which it starts. -/
theorem startHandshake_awaits
    {state : SessionState snow}
    {peerName : PeerName}
    {localStatic remoteStaticPub psk : Key}
    {draw : Draw snow}
    {now : Instant}
    {frame : Bytes}
    (started :
      (state.startHandshake peerName localStatic remoteStaticPub psk draw
        now).1 = .ok (some frame)) :
    (state.startHandshake peerName localStatic remoteStaticPub psk draw
      now).2.Awaits peerName now frame := by
  unfold startHandshake at started ⊢
  cases drawn : initiatorStart localStatic remoteStaticPub psk draw with
  | error error =>
      rw [drawn] at started
      cases started
  | ok handshake =>
      rw [drawn] at started
      cases started
      refine ⟨.ofHandshake handshake now, ?_, rfl⟩
      refine Option.filter_eq_some_iff.mpr ⟨by simp [entry], ?_⟩
      simp [PendingInitiator.ofHandshake, handshakeAttemptLifetime, fromSecs]

/-- What is sent to start an exchange is pending afterwards. -/
theorem startOrRetryHandshake_awaits
    (state : SessionState snow)
    (peerName : PeerName)
    (localStatic remoteStaticPub psk : Key)
    (draw : Draw snow)
    (now : Instant) :
    (∀ frame,
        (state.startOrRetryHandshake peerName localStatic remoteStaticPub psk
          draw now).1 = .ok (some frame) →
        (state.startOrRetryHandshake peerName localStatic remoteStaticPub psk
          draw now).2.Awaits peerName now frame) ∧
      ∀ packet,
        state.Awaits peerName now packet →
        (state.startOrRetryHandshake peerName localStatic remoteStaticPub psk
          draw now).2.Awaits peerName now packet := by
  have kept := state.entry_dropExpiredPending peerName now peerName
  rw [if_pos rfl] at kept
  have keptPending :
      (state.dropExpiredPending peerName now).pendingInit.lookup peerName =
        state.livePending peerName now :=
    congrArg PeerEntry.pending kept
  unfold startOrRetryHandshake
  dsimp only
  rw [keptPending]
  cases live : state.livePending peerName now with
  | some pending =>
      have isLive := (Option.filter_eq_some_iff.mp live).2
      dsimp only
      split
      · have stillLive :
            (state.dropExpiredPending peerName now).livePending peerName now =
              some pending := by
          refine Option.filter_eq_some_iff.mpr ⟨?_, isLive⟩
          exact keptPending.trans live
        refine ⟨by rintro _ ⟨⟩, ?_⟩
        rintro packet ⟨other, otherLive, isPacket⟩
        cases live.symm.trans otherLive
        exact ⟨pending, stillLive, isPacket⟩
      · refine ⟨?_, ?_⟩
        · rintro _ ⟨⟩
          refine ⟨{ pending with lastSent := now }, ?_, rfl⟩
          refine Option.filter_eq_some_iff.mpr ⟨?_, isLive⟩
          simp [entry]
        · rintro packet ⟨other, otherLive, isPacket⟩
          cases live.symm.trans otherLive
          refine ⟨{ pending with lastSent := now }, ?_, isPacket⟩
          refine Option.filter_eq_some_iff.mpr ⟨?_, isLive⟩
          simp [entry]
  | none =>
      refine ⟨?_, ?_⟩
      · intro frame started
        dsimp only at started ⊢
        split at started
        · cases started
        · split at started
          · exact startHandshake_awaits started
          · split at started
            · rename_i due
              rw [if_pos due]
              exact startHandshake_awaits started
            · cases started
      · rintro packet ⟨other, otherLive, _⟩
        cases live.symm.trans otherLive

/-- Starting an exchange with any peer keeps what is pending. -/
theorem Awaits.startOrRetryHandshake
    {state : SessionState snow}
    {queried : PeerName}
    {now : Instant}
    {packet : Bytes}
    (awaits : state.Awaits queried now packet)
    (peerName : PeerName)
    (localStatic remoteStaticPub psk : Key)
    (draw : Draw snow) :
    (state.startOrRetryHandshake peerName localStatic remoteStaticPub psk draw
      now).2.Awaits queried now packet := by
  by_cases isPeer : queried = peerName
  · subst isPeer
    exact (state.startOrRetryHandshake_awaits queried localStatic
      remoteStaticPub psk draw now).2 packet awaits
  · refine awaits.of_lookup_eq ?_
    exact congrArg PeerEntry.pending
      (state.startOrRetryHandshake_entry_of_ne isPeer localStatic
        remoteStaticPub psk draw now)

@[simp] theorem encryptForPeer_pendingInit
    (state : SessionState snow)
    (peerName : PeerName)
    (msgType : Auth.MsgType)
    (payload : Bytes)
    (now : Instant) :
    (state.encryptForPeer peerName msgType payload now).2.pendingInit =
      state.pendingInit := by
  unfold encryptForPeer
  dsimp only
  split <;> simp [dropExpiredPrevious]

/-- What is encrypted starts no handshake. -/
theorem isInitiation_encryptForPeer
    {state : SessionState snow}
    {peerName : PeerName}
    {msgType : Auth.MsgType}
    {payload : Bytes}
    {now : Instant}
    {frame : Bytes}
    (encrypted :
      (state.encryptForPeer peerName msgType payload now).1 =
        .ok (some frame)) :
    Auth.isInitiation frame = false := by
  obtain ⟨_, _, _, _, outcome⟩ :=
    state.encryptForPeer_execution peerName msgType payload now
  rcases outcome with ⟨_, _, noFrame⟩ | ⟨session, _, _, _, sealed⟩
  · rw [encrypted] at noFrame
    cases noFrame
  · rw [encrypted] at sealed
    cases isSealed : (session.encrypt msgType payload).1 with
    | error error =>
        rw [isSealed] at sealed
        cases sealed
    | ok sealedFrame =>
        rw [isSealed] at sealed
        cases sealed
        obtain ⟨_, _, _, rfl⟩ := Session.encrypt_ok isSealed
        exact Auth.isInitiation_encodeTransport _ _ _

end SessionState

/-- The initiations that an output sends to a peer. -/
def EngineOutput.initiations
    (output : EngineOutput)
    (peerName : PeerName) :
    List Bytes :=
  output.actions.filterMap fun
    | .sendTransport recipient _ frame =>
        if recipient = peerName ∧ Auth.isInitiation frame = true then
          some frame
        else
          none
    | .writeIpPacket _ _ _ => none

@[simp] theorem EngineOutput.initiations_nil
    (events : List EngineEvent)
    (peerName : PeerName) :
    EngineOutput.initiations ⟨[], events⟩ peerName = [] :=
  rfl

/-- A packet that may be sent and starts no handshake. -/
theorem EngineOutput.initiations_sent
    {frame : Bytes}
    (other : Auth.isInitiation frame = false)
    {recipient : PeerName}
    {endpoint : Option SocketAddr}
    (peerName : PeerName) :
    EngineOutput.initiations
        ⟨(endpoint.map fun endpoint =>
          EngineAction.sendTransport recipient endpoint frame).toList, []⟩
        peerName = [] := by
  cases endpoint with
  | none =>
      rfl
  | some endpoint =>
      simp [initiations, other]

/-- The initiations of a result, which has none if it is an error. -/
def initiationsOf
    (result : Except (EngineError snow) EngineOutput)
    (peerName : PeerName) :
    List Bytes :=
  match result with
  | .ok output => output.initiations peerName
  | .error _ => []

namespace Engine

variable {engine : Engine snow}

/-- An initiation for a peer is pending that has not lapsed. -/
def Awaits
    (engine : Engine snow)
    (peerName : PeerName)
    (now : Instant)
    (packet : Bytes) :
    Prop :=
  engine.sessions.Awaits peerName now packet

/-- What a call sends is pending afterwards, as is what was before. -/
structure Initiates
    (now : Instant)
    (before : Engine snow)
    (result : Except (EngineError snow) EngineOutput × Engine snow) :
    Prop where
  sent :
    ∀ peerName,
      ∀ frame ∈ initiationsOf result.1 peerName,
        result.2.Awaits peerName now frame
  kept :
    ∀ peerName packet,
      before.Awaits peerName now packet → result.2.Awaits peerName now packet

/-- What `initiate_peer` sends is pending afterwards. -/
theorem initiatePeer_awaits
    (engine : Engine snow)
    (peer : Peer)
    (draw : Draw snow)
    (now : Instant) :
    (∀ action,
        (engine.initiatePeer peer draw now).1 = .ok (some action) →
        ∃ endpoint frame,
          action = .sendTransport peer.name endpoint frame ∧
            (engine.initiatePeer peer draw now).2.Awaits peer.name now
              frame) ∧
      ∀ peerName packet,
        engine.Awaits peerName now packet →
        (engine.initiatePeer peer draw now).2.Awaits peerName now packet := by
  unfold initiatePeer
  cases engine.resolveEndpoint peer with
  | none =>
      exact ⟨by rintro _ ⟨⟩, fun _ _ awaits => awaits⟩
  | some endpoint =>
      refine ⟨?_, ?_⟩
      · intro action initiated
        dsimp only at initiated ⊢
        cases started :
            (engine.sessions.startOrRetryHandshake peer.name
              engine.localStatic peer.publicKey peer.psk draw now).1 with
        | error error =>
            rw [started] at initiated
            cases initiated
        | ok packet =>
            rw [started] at initiated
            cases packet with
            | none =>
                cases initiated
            | some frame =>
                cases initiated
                exact ⟨endpoint, frame, rfl,
                  (SessionState.startOrRetryHandshake_awaits _ _ _ _ _ _
                    _).1 frame started⟩
      · intro peerName packet awaits
        exact SessionState.Awaits.startOrRetryHandshake awaits peer.name _ _ _
          draw

/-- The initiations of one action that may be there and of other actions. -/
theorem initiationsOf_optional
    {peer : Peer}
    {action : Option EngineAction}
    {sent : List EngineAction}
    {events : List EngineEvent}
    {peerName : PeerName}
    {frame : Bytes}
    (silent :
      ∀ queried, EngineOutput.initiations ⟨sent, events⟩ queried = [])
    (isInitiation :
      ∀ started,
        action = some started →
        ∃ endpoint packet, started = .sendTransport peer.name endpoint packet)
    (member :
      frame ∈
        EngineOutput.initiations ⟨action.toList ++ sent, events⟩ peerName) :
    peerName = peer.name ∧
      ∃ endpoint,
        action = some (.sendTransport peer.name endpoint frame) := by
  cases action with
  | none =>
      rw [Option.toList_none, List.nil_append, silent peerName] at member
      cases member
  | some started =>
      obtain ⟨endpoint, packet, rfl⟩ := isInitiation started rfl
      have noMore := silent peerName
      unfold EngineOutput.initiations at member noMore
      rw [List.filterMap_append, noMore] at member
      by_cases counts :
          peer.name = peerName ∧ Auth.isInitiation packet = true
      · simp [counts] at member
        exact ⟨counts.1.symm, endpoint, by rw [member]⟩
      · simp [counts] at member

/-- A call that hands on what `initiate_peer` returned, with other packets. -/
theorem Initiates.of_initiatePeer
    {before middle : Engine snow}
    {result : Except (EngineError snow) EngineOutput × Engine snow}
    {now : Instant}
    (peer : Peer)
    (draw : Draw snow)
    (kept :
      ∀ peerName packet,
        before.Awaits peerName now packet → middle.Awaits peerName now packet)
    (after : result.2 = (middle.initiatePeer peer draw now).2)
    (returned :
      ∀ output,
        result.1 = .ok output →
        ∃ action sent,
          (middle.initiatePeer peer draw now).1 = .ok action ∧
            output = ⟨action.toList ++ sent, []⟩ ∧
            ∀ queried, EngineOutput.initiations ⟨sent, []⟩ queried = []) :
    Initiates now before result := by
  obtain ⟨started, stays⟩ := middle.initiatePeer_awaits peer draw now
  rw [← after] at started stays
  refine
    { sent := ?_
      kept := fun peerName packet awaits =>
        stays peerName packet (kept peerName packet awaits) }
  intro peerName frame member
  cases isResult : result.1 with
  | error error =>
      rw [isResult] at member
      cases member
  | ok output =>
      rw [isResult] at member
      obtain ⟨action, sent, initiated, rfl, silent⟩ :=
        returned output isResult
      obtain ⟨rfl, endpoint, rfl⟩ :=
        initiationsOf_optional silent
          (by
            rintro action rfl
            obtain ⟨endpoint, packet, isAction, _⟩ := started action initiated
            exact ⟨endpoint, packet, isAction⟩)
          member
      obtain ⟨_, _, isAction, awaits⟩ := started _ initiated
      cases isAction
      exact awaits

/-- Retrying a handshake sends what is pending. -/
theorem initiateHandshake_initiates
    (engine : Engine snow)
    (peerName : PeerName)
    (draw : Draw snow)
    (now : Instant) :
    Initiates now engine (engine.initiateHandshake peerName draw now) := by
  unfold initiateHandshake
  cases engine.peer peerName with
  | none =>
      exact ⟨by rintro _ _ ⟨⟩, fun _ _ awaits => awaits⟩
  | some peer =>
      dsimp only
      refine .of_initiatePeer peer draw
        (fun _ _ (awaits : engine.Awaits _ _ _) => awaits) ?_ ?_
      · split <;> rfl
      · intro output returned
        split at returned
        · cases returned
        · rename_i action initiated
          cases returned
          exact ⟨action, [], initiated, by simp, fun _ => rfl⟩

/-- A keepalive that fits sends what is pending, and no other initiation. -/
theorem createKeepalive_initiates
    (limits : NoiseLimits snow)
    (engine : Engine snow)
    (peerName : PeerName)
    {payload : Bytes}
    (fits : payload.length + 1 + aeadTagSize ≤ maxNoiseMessageSize)
    (draw : Draw snow)
    (now : Instant) :
    Initiates now engine (engine.createKeepalive peerName payload draw now) := by
  unfold createKeepalive
  cases engine.peer peerName with
  | none =>
      exact ⟨by rintro _ _ ⟨⟩, fun _ _ awaits => awaits⟩
  | some peer =>
      obtain ⟨frame, encrypted⟩ :=
        limits.encryptForPeer_isOk engine.sessions peer.name .keepalive fits
          now
      have kept (queried : PeerName) (packet : Bytes)
          (awaits : engine.Awaits queried now packet) :
          Engine.Awaits
            { engine with
              sessions :=
                (engine.sessions.encryptForPeer peer.name .keepalive payload
                  now).2 }
            queried now packet :=
        SessionState.Awaits.of_lookup_eq awaits (by simp)
      have sealed (sealedFrame : Bytes) (isFrame : frame = some sealedFrame) :
          Auth.isInitiation sealedFrame = false := by
        subst isFrame
        exact SessionState.isInitiation_encryptForPeer encrypted
      unfold encryptAndInitiate
      dsimp only
      rw [encrypted]
      cases frame with
      | none =>
          refine .of_initiatePeer peer draw kept ?_ ?_
          · dsimp only
            split <;> rfl
          · intro output returned
            dsimp only at returned
            split at returned
            · cases returned
            · rename_i action initiated
              cases returned
              exact ⟨action, [], initiated, by simp, fun _ => rfl⟩
      | some frame =>
          refine .of_initiatePeer peer draw kept ?_ ?_
          · dsimp only
            split <;> rfl
          · intro output returned
            dsimp only at returned
            split at returned
            · cases returned
            · rename_i action initiated
              cases returned
              exact ⟨action, _, initiated, rfl,
                EngineOutput.initiations_sent (sealed frame rfl)⟩

end Engine

/-- What a pass of a tick over its peers has sent since `start`. -/
structure Initiated
    (now : Instant)
    (operation : ScheduledOperation)
    (start progress : TickProgress snow) :
    Prop where
  events : progress.tick.events = start.tick.events
  outputs :
    ∃ added,
      progress.tick.outputs = start.tick.outputs ++ added ∧
        ∀ scheduled ∈ added,
          scheduled.operation = operation ∧
            ∀ peerName,
              ∀ frame ∈ scheduled.output.initiations peerName,
                progress.engine.Awaits peerName now frame
  kept :
    ∀ peerName packet,
      start.engine.Awaits peerName now packet →
      progress.engine.Awaits peerName now packet

namespace Initiated

variable
  {input : TickInput snow}
  {operation : ScheduledOperation}
  {start progress : TickProgress snow}

theorem refl
    (now : Instant)
    (operation : ScheduledOperation)
    (start : TickProgress snow) :
    Initiated now operation start start where
  events := rfl
  outputs := ⟨[], by simp, by simp⟩
  kept _ _ := id

/-- The result of a call is added to what the pass has sent. -/
theorem push
    {now : Instant}
    (initiated : Initiated now operation start progress)
    {result : Except (EngineError snow) EngineOutput × Engine snow}
    (initiates : Engine.Initiates now progress.engine result)
    (peerName : PeerName)
    (scheduler : EngineScheduler) :
    Initiated now operation start
      { scheduler
        engine := result.2
        tick :=
          progress.tick.pushEngineOutput peerName operation result.1 } where
  events := by simpa using initiated.events
  outputs := by
    obtain ⟨added, isAdded, awaits⟩ := initiated.outputs
    have stillAwaits :
        ∀ scheduled ∈ added,
          scheduled.operation = operation ∧
            ∀ queried,
              ∀ frame ∈ scheduled.output.initiations queried,
                result.2.Awaits queried now frame := by
      intro scheduled member
      obtain ⟨sameOperation, earlier⟩ := awaits scheduled member
      exact ⟨sameOperation, fun queried frame sent =>
        initiates.kept queried frame (earlier queried frame sent)⟩
    cases isResult : result.1 with
    | error error =>
        exact ⟨added, isAdded, stillAwaits⟩
    | ok output =>
        refine ⟨added ++ [⟨operation, output⟩], ?_, ?_⟩
        · simp [SchedulerTick.pushEngineOutput, isAdded]
        · intro scheduled member
          rcases List.mem_append.mp member with before | isLast
          · exact stillAwaits scheduled before
          · cases List.mem_singleton.mp isLast
            refine ⟨rfl, fun queried frame sent => ?_⟩
            refine initiates.sent queried frame ?_
            rw [isResult]
            exact sent
  kept queried packet awaits :=
    initiates.kept queried packet (initiated.kept queried packet awaits)

/-- Retrying the handshakes of all peers. -/
theorem retries
    (input : TickInput snow)
    (start : TickProgress snow)
    (entries : List (ScheduledPeer × Nat)) :
    Initiated input.now .handshakeRetry start
      (entries.foldl (EngineScheduler.retryHandshake input) start) := by
  refine List.foldlRecOn entries _ (.refl input.now .handshakeRetry start) ?_
  rintro progress initiated ⟨peer, position⟩ _
  unfold EngineScheduler.retryHandshake
  dsimp only
  split
  · exact initiated.push
      (progress.engine.initiateHandshake_initiates peer.name _ input.now)
      peer.name progress.scheduler
  · exact initiated

/-- Sending keepalives to all peers. -/
theorem keepalives
    (limits : NoiseLimits snow)
    (input : TickInput snow)
    (rebound : Bool)
    (start : TickProgress snow)
    (entries : List (ScheduledPeer × Nat)) :
    Initiated input.now .keepalive start
      (entries.foldl (EngineScheduler.sendKeepalive input rebound)
        start) := by
  refine List.foldlRecOn entries _ (.refl input.now .keepalive start) ?_
  rintro progress initiated ⟨peer, position⟩ _
  unfold EngineScheduler.sendKeepalive
  dsimp only
  split
  · refine initiated.push
      (Engine.createKeepalive_initiates limits progress.engine peer.name ?_ _
        input.now)
      peer.name _
    split <;> decide
  · split
    · exact ⟨initiated.events, initiated.outputs, initiated.kept⟩
    · exact initiated

end Initiated

/-- The peer that an event is about. -/
def SchedulerEvent.peerName : SchedulerEvent → PeerName
  | .recovery peerName _ _ _ _ => peerName

/-- Invalidating a peer keeps what is pending for the others. -/
theorem Engine.Awaits.invalidatePeer
    {engine : Engine snow}
    {peerName queried : PeerName}
    {now : Instant}
    {packet : Bytes}
    (awaits : engine.Awaits queried now packet)
    (different : queried ≠ peerName) :
    (engine.invalidatePeer peerName).2.Awaits queried now packet := by
  refine SessionState.Awaits.of_lookup_eq awaits ?_
  simp [Engine.invalidatePeer, SessionState.invalidatePeer, different]

/-- A recovery abandons what is pending for its peer only. -/
theorem EngineScheduler.recover_initiations
    (input : TickInput snow)
    (progress : TickProgress snow) :
    (∃ added,
        (recover input progress).1.tick.outputs =
            progress.tick.outputs ++ added ∧
          ∀ scheduled ∈ added,
            scheduled.operation = .sessionRecovery ∧
              ∀ peerName,
                ∀ frame ∈ scheduled.output.initiations peerName,
                  (recover input progress).1.engine.Awaits peerName input.now
                    frame) ∧
      ∀ peerName packet,
        (∀ event ∈ (recover input progress).1.tick.events,
          event.peerName ≠ peerName) →
        progress.engine.Awaits peerName input.now packet →
        (recover input progress).1.engine.Awaits peerName input.now packet := by
  unfold recover
  cases first :
      progress.scheduler.firstRecovery progress.engine input.now with
  | none =>
      exact ⟨⟨[], by simp, by simp⟩, fun _ _ _ => id⟩
  | some found =>
      obtain ⟨⟨peer, position⟩, policy, lastSeen⟩ := found
      dsimp only
      have initiates :=
        (progress.engine.invalidatePeer peer.name).2.initiateHandshake_initiates
          peer.name (input.draws .sessionRecovery position) input.now
      refine ⟨?_, ?_⟩
      · cases isResult :
            ((progress.engine.invalidatePeer peer.name).2.initiateHandshake
              peer.name (input.draws .sessionRecovery position)
              input.now).1 with
        | error error =>
            exact ⟨[], by simp [SchedulerTick.pushEngineOutput], by simp⟩
        | ok output =>
            refine ⟨[⟨.sessionRecovery, output⟩],
              by simp [SchedulerTick.pushEngineOutput], ?_⟩
            intro scheduled member
            cases List.mem_singleton.mp member
            refine ⟨rfl, fun queried frame sent => ?_⟩
            refine initiates.sent queried frame ?_
            rw [isResult]
            exact sent
      · intro queried packet others awaits
        have different : queried ≠ peer.name := by
          rintro rfl
          exact others _ (List.mem_append_right _ (List.mem_singleton_self _))
            rfl
        exact initiates.kept queried packet (awaits.invalidatePeer different)

namespace Ticked

/-- The tick gave up the state of a peer that had fallen silent. -/
def Recovers (ticked : Ticked snow) (peerName : PeerName) : Prop :=
  ∃ event ∈ ticked.result.events, event.peerName = peerName

/-- The initiation with this packet is pending when the tick ends. -/
def LeavesPending
    (ticked : Ticked snow)
    (peerName : PeerName)
    (packet : Bytes) :
    Prop :=
  ∃ pending,
    ticked.after.engine.sessions.pendingInit.lookup peerName =
        some pending ∧
      pending.packet = packet

/-- A tick sends one initiation to a peer, and gives up none that it sent. -/
structure SingleInitiation
    (ticked : Ticked snow)
    (peerName : PeerName) :
    Prop where
  /-- All but the retries that a recovery follows are pending. -/
  pending :
    ∀ scheduled ∈ ticked.result.outputs,
      (scheduled.operation = .handshakeRetry → ¬ ticked.Recovers peerName) →
      ∀ frame ∈ scheduled.output.initiations peerName,
        ticked.LeavesPending peerName frame
  /-- The retries send one initiation. -/
  retried :
    ∀ first ∈ ticked.result.outputs,
      ∀ second ∈ ticked.result.outputs,
        first.operation = .handshakeRetry →
        second.operation = .handshakeRetry →
        ∀ frame ∈ first.output.initiations peerName,
          ∀ other ∈ second.output.initiations peerName, frame = other

end Ticked

/-- The outputs of the three passes, and what is pending after each. -/
theorem Ticked.initiations
    (limits : NoiseLimits snow)
    (ticked : Ticked snow) :
    ∃ retried recovered : TickProgress snow,
      Initiated ticked.now .handshakeRetry ticked.start retried ∧
        (∃ added,
          recovered.tick.outputs = retried.tick.outputs ++ added ∧
            ∀ scheduled ∈ added,
              scheduled.operation = .sessionRecovery ∧
                ∀ peerName,
                  ∀ frame ∈ scheduled.output.initiations peerName,
                    recovered.engine.Awaits peerName ticked.now frame) ∧
        (∀ peerName packet,
          ¬ ticked.Recovers peerName →
          retried.engine.Awaits peerName ticked.now packet →
          recovered.engine.Awaits peerName ticked.now packet) ∧
        Initiated ticked.now .keepalive recovered ticked.progress := by
  let retried :=
    ticked.before.scheduler.peers.zipIdx.foldl
      (EngineScheduler.retryHandshake ticked.input) ticked.start
  let recovered := EngineScheduler.recover ticked.input retried
  have keepalives :
      Initiated ticked.now .keepalive recovered.1 ticked.progress :=
    Initiated.keepalives limits ticked.input recovered.2 recovered.1
      ticked.before.scheduler.peers.zipIdx
  obtain ⟨sent, kept⟩ :=
    EngineScheduler.recover_initiations ticked.input retried
  refine ⟨retried, recovered.1, .retries ticked.input ticked.start _, sent, ?_,
    keepalives⟩
  intro peerName packet notRecovered
  refine kept peerName packet ?_
  intro event member isPeer
  refine notRecovered ⟨event, ?_, isPeer⟩
  have sameEvents : ticked.result.events = recovered.1.tick.events :=
    keepalives.events
  rw [sameEvents]
  exact member

/--
A tick sends a peer that it does not recover at most one initiation, which is
still pending when it ends; for the peer that it recovers this holds of what
follows the retries.
-/
theorem tick_single_initiation
    (limits : NoiseLimits snow)
    (ticked : Ticked snow)
    (peerName : PeerName) :
    ticked.SingleInitiation peerName := by
  obtain ⟨retried, recovered, retries, ⟨recoveries, isRecovered, recoveredSent⟩,
    kept, keepalives⟩ := ticked.initiations limits
  obtain ⟨retryOutputs, isRetried, retriedSent⟩ := retries.outputs
  obtain ⟨keepaliveOutputs, isSent, keepaliveSent⟩ := keepalives.outputs
  have noOutputs : ticked.start.tick.outputs = [] := rfl
  rw [noOutputs, List.nil_append] at isRetried
  rw [isRecovered, isRetried] at isSent
  have isRetry {scheduled : ScheduledOutput}
      (member : scheduled ∈ ticked.result.outputs)
      (retry : scheduled.operation = .handshakeRetry) :
      scheduled ∈ retryOutputs := by
    have isMember : scheduled ∈ ticked.progress.tick.outputs := member
    rw [isSent] at isMember
    rcases List.mem_append.mp isMember with early | keepalive
    · rcases List.mem_append.mp early with isFirst | recovery
      · exact isFirst
      · have isRecovery := (recoveredSent scheduled recovery).1
        rw [retry] at isRecovery
        cases isRecovery
    · have isKeepalive := (keepaliveSent scheduled keepalive).1
      rw [retry] at isKeepalive
      cases isKeepalive
  constructor
  · intro scheduled member retryOnly frame sent
    have isMember : scheduled ∈ ticked.progress.tick.outputs := member
    rw [isSent] at isMember
    have awaits : ticked.progress.engine.Awaits peerName ticked.now frame := by
      rcases List.mem_append.mp isMember with early | keepalive
      · refine keepalives.kept peerName frame ?_
        rcases List.mem_append.mp early with retry | recovery
        · obtain ⟨isOperation, earlier⟩ := retriedSent scheduled retry
          exact kept peerName frame (retryOnly isOperation)
            (earlier peerName frame sent)
        · exact (recoveredSent scheduled recovery).2 peerName frame sent
      · exact (keepaliveSent scheduled keepalive).2 peerName frame sent
    exact SessionState.Awaits.stored awaits
  · intro first isFirst second isSecond firstRetry secondRetry frame sent other
      otherSent
    exact SessionState.Awaits.unique
      ((retriedSent first (isRetry isFirst firstRetry)).2 peerName frame sent)
      ((retriedSent second (isRetry isSecond secondRetry)).2 peerName other
        otherSent)

namespace TickInitiationExample

open AgreementExample (complete idle initiate localStatic router started)

/-- One peer that is silent after a little more than two minutes. -/
def config : Config :=
  { RateLimitExample.config with
    peer :=
      RateLimitExample.config.peer.map fun peer =>
        { peer with udpRebindAfter := 125 } }

def input (seconds : Nat) : TickInput PlainNoise.snow where
  now := fromSecs seconds
  draws operation _ :=
    { id := .fill (if operation = .keepalive then 9 else 10)
      ephemeral := (6 : UInt8) }
  rebindUdp _ _ := false

/-- A tick that sends a keepalive. -/
def first : Ticked PlainNoise.snow where
  before := ⟨.new config, (started.perform complete).2⟩
  input := input 1

/-- A tick that sends another one and starts to replace the session. -/
def second : Ticked PlainNoise.snow where
  before := first.after
  input := input 121

/-- A tick that retries this and then finds the peer silent. -/
def third : Ticked PlainNoise.snow where
  before := second.after
  input := input 126

theorem run :
    Execution SchedulingStep
      (.start config (localStatic .first) (router .first))
      [.call (idle .first) initiate, .call started complete, .tick first,
        .tick second]
      third.before :=
  .snoc (.snoc (.snoc (.single (.call (idle .first) initiate))
    (.call started complete)) (.tick first)) (.tick second)

theorem third_outputs :
    ∃ retry ∈ third.result.outputs,
      ∃ recovery ∈ third.result.outputs,
        ∃ frame ∈ retry.output.initiations "second",
          ∃ other ∈ recovery.output.initiations "second",
            frame ≠ other ∧
              (third.after.engine.sessions.pendingInit.lookup
                  "second").map PendingInitiator.packet ≠
                some frame := by
  decide +kernel

end TickInitiationExample

open TickInitiationExample in
/-- A silent peer gets a retry that the same tick gives up. -/
theorem tick_single_initiation_example :
    third.SingleInitiation "second" :=
  tick_single_initiation PlainNoise.limits third "second"

open TickInitiationExample in
/-- A tick sends two initiations to a peer, and the first is given up. -/
theorem tick_two_initiations :
    ∃ events : List (SchedulingEvent PlainNoise.snow),
      Execution SchedulingStep
          (.start config (AgreementExample.localStatic .first)
            (AgreementExample.router .first))
          events third.before ∧
        ∃ retry ∈ third.result.outputs,
          ∃ recovery ∈ third.result.outputs,
            ∃ frame ∈ retry.output.initiations "second",
              ∃ other ∈ recovery.output.initiations "second",
                frame ≠ other ∧ ¬ third.LeavesPending "second" frame := by
  obtain ⟨retry, isRetry, recovery, isRecovery, frame, sent, other, otherSent,
    different, abandoned⟩ := third_outputs
  refine ⟨_, run, retry, isRetry, recovery, isRecovery, frame, sent, other,
    otherSent, different, ?_⟩
  intro pending
  exact abandoned (Option.map_eq_some_iff.mpr pending)

end HushWire

import HushWire.LinkHistory
import HushWire.Scheduler
import HushWire.WireCodec

namespace HushWire

open Noise

/-!
# What a tick does

A tick goes over its peers three times: it retries handshakes, recovers at most
one peer and sends keepalives.  Each pass has its own account here of what it
leaves alone, and `Ticked.recovery_cases` and `Ticked.keepalives` put them
together for a whole tick.
-/

variable {snow : Snow}

/-- A packet carries traffic and no handshake. -/
def Auth.isTransport (frame : Bytes) : Bool :=
  match decodePacket frame with
  | some (.transport _ _ _) => true
  | _ => false

/-- A handshake packet carries no traffic. -/
theorem Auth.isTransport_encodeHandshake
    {kind : PacketKind}
    (isHandshake : kind.isHandshake = true)
    (handshakeId : SessionId)
    (message : Bytes) :
    isTransport (encodeHandshake kind handshakeId message) = false := by
  unfold isTransport
  split
  · rename_i sessionId counter ciphertext decoded
    have encoded := (encode_of_decodePacket decoded).2
    exact absurd encoded.symm
      (encodeHandshake_ne_encodeTransport isHandshake _ _ _ _ _)
  · rfl

namespace SessionState

/-- Every pending initiation keeps the packet that was first sent. -/
def PendingEncoded (state : SessionState snow) : Prop :=
  ∀ ⦃peerName pending⦄,
    state.pendingInit.lookup peerName = some pending →
    ∃ handshakeId message,
      pending.packet =
        Auth.encodeHandshake .handshakeInit handshakeId message

theorem PendingEncoded.new :
    PendingEncoded (SessionState.new : SessionState snow) := by
  intro peerName pending stored
  cases stored

/-- An operation starts an attempt with a packet or keeps the packet. -/
theorem PendingEncoded.operation
    {state : SessionState snow}
    (encoded : state.PendingEncoded)
    (operation : Operation snow) :
    (state.afterOperation operation).PendingEncoded := by
  intro peerName pending stored
  have effect := state.operate_effect operation peerName
  have isPending :
      ((state.afterOperation operation).entry peerName).pending =
        some pending :=
    stored
  generalize (state.afterOperation operation).entry peerName = final
    at effect isPending
  cases effect with
  | rest drops =>
      exact encoded (drops.pending_some isPending)
  | event drops _ step _ =>
      rcases step.pending_cases isPending with
        ⟨earlier, lastSent, before, rfl⟩ | ⟨_, _, _, _, _, _, _, _, rfl⟩
      · obtain ⟨handshakeId, message, isPacket⟩ :=
          encoded (drops.pending_some before)
        exact ⟨handshakeId, message, isPacket⟩
      · exact ⟨_, _, rfl⟩

theorem PendingEncoded.operations
    {state : SessionState snow}
    (encoded : state.PendingEncoded)
    (operations : List (Operation snow)) :
    (state.afterOperations operations).PendingEncoded := by
  induction operations generalizing state with
  | nil =>
      exact encoded
  | cons operation rest inductionHypothesis =>
      exact inductionHypothesis (encoded.operation operation)

/-- What is sent to start an exchange is a handshake packet. -/
theorem PendingEncoded.started
    {state : SessionState snow}
    (encoded : state.PendingEncoded)
    {peerName : PeerName}
    {localStatic remoteStaticPub psk : Key}
    {draw : Draw snow}
    {now : Instant}
    {frame : Bytes}
    (started :
      (state.startOrRetryHandshake peerName localStatic remoteStaticPub psk
        draw now).1 = .ok (some frame)) :
    Auth.isTransport frame = false := by
  obtain ⟨_, _, _, _, outcome⟩ :=
    state.startOrRetryHandshake_execution peerName localStatic
      remoteStaticPub psk draw now
  generalize
    (state.startOrRetryHandshake peerName localStatic remoteStaticPub psk
      draw now).1 = result
    at outcome started
  cases outcome with
  | waiting | confirming | current =>
      cases started
  | retransmitted live =>
      cases started
      obtain ⟨handshakeId, message, isPacket⟩ :=
        encoded (Option.filter_eq_some_iff.mp live).1
      rw [isPacket]
      exact Auth.isTransport_encodeHandshake rfl _ _
  | due _ _ _ due =>
      rcases due with ⟨_, _, _, failed⟩ | ⟨_, _, _, succeeded⟩
      · rw [failed] at started
        cases started
      · rw [succeeded] at started
        cases started
        exact Auth.isTransport_encodeHandshake rfl _ _

/-- Starting an exchange removes expired sessions only. -/
theorem startOrRetryHandshake_keepsSessions
    (state : SessionState snow)
    (peerName : PeerName)
    (localStatic remoteStaticPub psk : Key)
    (draw : Draw snow)
    (now : Instant) :
    state.KeepsSessions
      (state.startOrRetryHandshake peerName localStatic remoteStaticPub psk
        draw now).2 now := by
  obtain ⟨drops, acts, execution, onlyDrops, outcome⟩ :=
    state.startOrRetryHandshake_execution peerName localStatic
      remoteStaticPub psk draw now
  generalize
    (state.startOrRetryHandshake peerName localStatic remoteStaticPub psk
      draw now).1 = result
    at outcome
  refine .of_execution execution ?_
  intro event member
  rcases List.mem_append.mp member with drop | act
  · rcases onlyDrops event drop with
      ⟨isLapse, _⟩ | isExpire | isForget | isExpire
    · rw [isLapse]
      trivial
    · rw [isExpire]
      rfl
    · rw [isForget]
      trivial
    · rw [isExpire]
      rfl
  · cases outcome with
    | waiting | confirming | current =>
        cases act
    | retransmitted =>
        rw [List.mem_singleton.mp act]
        trivial
    | due _ _ _ due =>
        rcases due with ⟨_, _, noAct, _⟩ | ⟨_, _, started, _⟩
        · rw [noAct] at act
          cases act
        · rw [started] at act
          rw [List.mem_singleton.mp act]
          trivial

/-- A session that has not expired stays where sessions are kept. -/
theorem KeepsSessions.hasActiveSession
    {before after : SessionState snow}
    {now : Instant}
    (keeps : before.KeepsSessions after now)
    (peerName : PeerName) :
    after.hasActiveSession peerName now =
      before.hasActiveSession peerName now := by
  unfold SessionState.hasActiveSession
  rcases keeps.sessions peerName with same | ⟨session, held, expired, gone⟩
  · rw [same]
  · simp [held, expired, gone]

end SessionState

/-- The traffic packets of an output for a peer. -/
def EngineOutput.transportFrames
    (output : EngineOutput)
    (peerName : PeerName) :
    List Bytes :=
  output.actions.filterMap fun
    | .sendTransport recipient _ frame =>
        if recipient = peerName ∧ Auth.isTransport frame = true then
          some frame
        else
          none
    | .writeIpPacket _ _ _ => none

@[simp] theorem EngineOutput.transportFrames_nil
    (events : List EngineEvent)
    (peerName : PeerName) :
    EngineOutput.transportFrames ⟨[], events⟩ peerName = [] :=
  rfl

/-- One packet for a peer is traffic for that peer, or no traffic. -/
theorem transportFrames_sent
    (recipient queried : PeerName)
    (endpoint : Option SocketAddr)
    (frame : Bytes) :
    EngineOutput.transportFrames
          ⟨(endpoint.map fun endpoint =>
            EngineAction.sendTransport recipient endpoint frame).toList, []⟩
          queried = [] ∨
      queried = recipient ∧
        (EngineOutput.transportFrames
            ⟨(endpoint.map fun endpoint =>
              EngineAction.sendTransport recipient endpoint frame).toList, []⟩
            queried).length = 1 := by
  cases endpoint with
  | none =>
      exact Or.inl rfl
  | some endpoint =>
      by_cases counts :
          recipient = queried ∧ Auth.isTransport frame = true
      · right
        simp [EngineOutput.transportFrames, counts]
      · left
        simp [EngineOutput.transportFrames, counts]

namespace Engine

variable {engine : Engine snow}

/-- The packets of all pending initiations are handshake packets. -/
def PendingEncoded (engine : Engine snow) : Prop :=
  engine.sessions.PendingEncoded

theorem PendingEncoded.perform
    (encoded : engine.PendingEncoded)
    (call : EngineCall snow) :
    (engine.perform call).2.PendingEncoded := by
  unfold PendingEncoded
  rw [engine.perform_sessions]
  exact SessionState.PendingEncoded.operations encoded _

/-- A peer has the name by which it is found. -/
theorem name_of_peer
    {peerName : PeerName}
    {peer : Peer}
    (found : engine.peer peerName = some peer) :
    peer.name = peerName := by
  unfold Engine.peer at found
  obtain ⟨route, isRoute, rfl⟩ := Option.map_eq_some_iff.mp found
  simpa using List.find?_some isRoute

theorem initiatePeer_engine
    (engine : Engine snow)
    (peer : Peer)
    (draw : Draw snow)
    (now : Instant) :
    (engine.initiatePeer peer draw now).2.peers = engine.peers ∧
      engine.sessions.KeepsSessions
        (engine.initiatePeer peer draw now).2.sessions now := by
  unfold initiatePeer
  cases engine.resolveEndpoint peer with
  | none =>
      exact ⟨rfl, fun _ => .refl _ _, fun _ => .refl _ _⟩
  | some endpoint =>
      exact ⟨rfl, engine.sessions.startOrRetryHandshake_keepsSessions _ _ _ _
        _ _⟩

/-- What starts a handshake is no traffic. -/
theorem PendingEncoded.initiated
    (encoded : engine.PendingEncoded)
    {peer : Peer}
    {draw : Draw snow}
    {now : Instant}
    {action : Option EngineAction}
    (initiated : (engine.initiatePeer peer draw now).1 = .ok action)
    (actions : List EngineAction)
    (events : List EngineEvent)
    (peerName : PeerName) :
    EngineOutput.transportFrames ⟨action.toList ++ actions, events⟩ peerName =
      EngineOutput.transportFrames ⟨actions, events⟩ peerName := by
  cases action with
  | none =>
      rfl
  | some action =>
      unfold initiatePeer at initiated
      cases resolved : engine.resolveEndpoint peer with
      | none =>
          rw [resolved] at initiated
          cases initiated
      | some endpoint =>
          rw [resolved] at initiated
          simp only at initiated
          cases started :
              (engine.sessions.startOrRetryHandshake peer.name
                engine.localStatic peer.publicKey peer.psk draw now).1 with
          | error error =>
              rw [started] at initiated
              cases initiated
          | ok packet =>
              rw [started] at initiated
              cases packet with
              | none =>
                  cases initiated
              | some frame =>
                  cases initiated
                  have noTransport :=
                    SessionState.PendingEncoded.started encoded started
                  simp [EngineOutput.transportFrames, noTransport]

/-- A handshake leaves the active sessions and what was last seen. -/
theorem initiateHandshake_engine
    (engine : Engine snow)
    (peerName : PeerName)
    (draw : Draw snow)
    (now : Instant) :
    (engine.initiateHandshake peerName draw now).2.peers = engine.peers ∧
      engine.sessions.KeepsSessions
        (engine.initiateHandshake peerName draw now).2.sessions now := by
  unfold initiateHandshake
  cases engine.peer peerName with
  | none =>
      exact ⟨rfl, fun _ => .refl _ _, fun _ => .refl _ _⟩
  | some peer =>
      dsimp only
      split <;> exact engine.initiatePeer_engine peer draw now

/--
A keepalive sends at most one traffic packet, to its peer, and only under a
session that has not expired.
-/
theorem PendingEncoded.keepalive
    (encoded : engine.PendingEncoded)
    {peerName : PeerName}
    {payload : Bytes}
    {draw : Draw snow}
    {now : Instant}
    {output : EngineOutput}
    (succeeded :
      (engine.createKeepalive peerName payload draw now).1 = .ok output)
    (queried : PeerName) :
    output.transportFrames queried = [] ∨
      queried = peerName ∧
        (output.transportFrames queried).length = 1 ∧
        engine.hasActiveSession peerName now = true := by
  unfold createKeepalive at succeeded
  cases found : engine.peer peerName with
  | none =>
      rw [found] at succeeded
      cases succeeded
  | some peer =>
      rw [found] at succeeded
      have isName := name_of_peer found
      subst isName
      simp only [encryptAndInitiate] at succeeded
      obtain ⟨drops, acts, _, _, outcome⟩ :=
        engine.sessions.encryptForPeer_execution peer.name .keepalive payload
          now
      have keptEncoded
          {sessions : SessionState snow}
          (isAfter :
            (engine.sessions.encryptForPeer peer.name .keepalive payload
              now).2 = sessions) :
          ({ engine with sessions } : Engine snow).PendingEncoded := by
        rw [← isAfter]
        exact SessionState.PendingEncoded.operation encoded
          (.encrypt peer.name .keepalive payload now)
      cases encrypting :
          engine.sessions.encryptForPeer peer.name .keepalive payload now with
      | mk encrypted sessions =>
          rw [encrypting] at succeeded outcome keptEncoded
          have afterEncrypt := keptEncoded rfl
          cases encrypted with
          | error error =>
              left
              dsimp only at succeeded
              split at succeeded
              · cases succeeded
              · rename_i action initiated
                cases succeeded
                have afterInvalidate :
                    PendingEncoded
                      { engine with
                        sessions := (sessions.invalidatePeer peer.name).2 } :=
                  SessionState.PendingEncoded.operation afterEncrypt
                    (.invalidate peer.name)
                simpa using
                  afterInvalidate.initiated initiated [] [] queried
          | ok frame =>
              cases frame with
              | none =>
                  left
                  dsimp only at succeeded
                  split at succeeded
                  · cases succeeded
                  · rename_i action initiated
                    cases succeeded
                    simpa using
                      afterEncrypt.initiated initiated [] [] queried
              | some frame =>
                  dsimp only at succeeded
                  split at succeeded
                  · cases succeeded
                  · rename_i action initiated
                    cases succeeded
                    rw [afterEncrypt.initiated initiated]
                    rcases outcome with
                      ⟨_, _, impossible⟩ | ⟨session, active, unexpired, _, _⟩
                    · cases impossible
                    · have isActive :
                          engine.hasActiveSession peer.name now = true := by
                        simp [Engine.hasActiveSession,
                          SessionState.hasActiveSession, active, unexpired]
                      exact (transportFrames_sent peer.name queried _
                        frame).imp_right
                          fun isSent => ⟨isSent.1, isSent.2, isActive⟩

end Engine

namespace SchedulerTick

/-- The traffic packets that the keepalives of a tick send to a peer. -/
def keepaliveFrames
    (tick : SchedulerTick snow)
    (peerName : PeerName) :
    List Bytes :=
  (tick.outputs.filter fun scheduled =>
      scheduled.operation = .keepalive).flatMap
    fun scheduled => scheduled.output.transportFrames peerName

variable
  {tick : SchedulerTick snow}
  {peerName : PeerName}
  {operation : ScheduledOperation}
  {result : Except (EngineError snow) EngineOutput}

@[simp] theorem events_pushEngineOutput :
    (tick.pushEngineOutput peerName operation result).events =
      tick.events := by
  cases result <;> rfl

/-- Only keepalives count as keepalives. -/
theorem keepaliveFrames_pushEngineOutput
    (other : operation ≠ .keepalive)
    (queried : PeerName) :
    (tick.pushEngineOutput peerName operation result).keepaliveFrames
        queried =
      tick.keepaliveFrames queried := by
  cases result <;> simp [keepaliveFrames, pushEngineOutput, other]

/-- A keepalive adds at most one packet, for a peer with an active session. -/
theorem keepaliveFrames_createKeepalive
    {engine : Engine snow}
    (encoded : engine.PendingEncoded)
    (tick : SchedulerTick snow)
    (peerName : PeerName)
    (payload : Bytes)
    (draw : Draw snow)
    (now : Instant)
    (queried : PeerName) :
    (tick.pushEngineOutput peerName .keepalive
          (engine.createKeepalive peerName payload draw now).1).keepaliveFrames
          queried =
        tick.keepaliveFrames queried ∨
      queried = peerName ∧
        ((tick.pushEngineOutput peerName .keepalive
            (engine.createKeepalive peerName payload draw
              now).1).keepaliveFrames queried).length =
          (tick.keepaliveFrames queried).length + 1 ∧
        engine.hasActiveSession peerName now = true := by
  cases created : (engine.createKeepalive peerName payload draw now).1 with
  | error error =>
      exact Or.inl rfl
  | ok output =>
      rcases encoded.keepalive created queried with
        silent | ⟨isPeer, single, active⟩
      · left
        simp [keepaliveFrames, pushEngineOutput, silent]
      · subst isPeer
        right
        simp [keepaliveFrames, pushEngineOutput, single, active]

end SchedulerTick

/-- What the retries of a tick leave alone. -/
structure Retried
    (now : Instant)
    (start progress : TickProgress snow) :
    Prop where
  scheduler : progress.scheduler = start.scheduler
  events : progress.tick.events = start.tick.events
  keepaliveFrames :
    progress.tick.keepaliveFrames = start.tick.keepaliveFrames
  peers : progress.engine.peers = start.engine.peers
  hasActiveSession :
    ∀ peerName,
      progress.engine.hasActiveSession peerName now =
        start.engine.hasActiveSession peerName now
  pendingEncoded :
    start.engine.PendingEncoded → progress.engine.PendingEncoded

namespace Retried

variable
  {start progress : TickProgress snow}
  {input : TickInput snow}

theorem refl (now : Instant) (start : TickProgress snow) :
    Retried now start start where
  scheduler := rfl
  events := rfl
  keepaliveFrames := rfl
  peers := rfl
  hasActiveSession _ := rfl
  pendingEncoded := id

theorem step
    (retried : Retried input.now start progress)
    (entry : ScheduledPeer × Nat) :
    Retried input.now start
      (EngineScheduler.retryHandshake input progress entry) := by
  obtain ⟨peer, position⟩ := entry
  unfold EngineScheduler.retryHandshake
  dsimp only
  split
  · obtain ⟨samePeers, keeps⟩ :=
      progress.engine.initiateHandshake_engine peer.name
        (input.draws .handshakeRetry position) input.now
    exact
      { scheduler := retried.scheduler
        events := by simpa using retried.events
        keepaliveFrames := by
          funext queried
          rw [SchedulerTick.keepaliveFrames_pushEngineOutput (by decide),
            retried.keepaliveFrames]
        peers := samePeers.trans retried.peers
        hasActiveSession := fun queried =>
          (keeps.hasActiveSession queried).trans
            (retried.hasActiveSession queried)
        pendingEncoded := fun encoded =>
          (retried.pendingEncoded encoded).perform
            (.initiateHandshake peer.name
              (input.draws .handshakeRetry position) input.now) }
  · exact retried

theorem foldl
    (input : TickInput snow)
    (start : TickProgress snow)
    (entries : List (ScheduledPeer × Nat)) :
    Retried input.now start
      (entries.foldl (EngineScheduler.retryHandshake input) start) :=
  List.foldlRecOn entries _ (.refl input.now start)
    fun _ retried entry _ => retried.step entry

end Retried

/-- What must hold of a peer for it to be recovered. -/
structure RecoveryDue
    (scheduler : EngineScheduler)
    (engine : Engine snow)
    (now : Instant)
    (peer : ScheduledPeer)
    (policy : RecoveryPolicy)
    (lastSeen : Instant) :
    Prop where
  member : peer ∈ scheduler.peers
  hasPolicy : peer.recovery = some policy
  sent : (scheduler.lastSent.lookup peer.name).isSome
  active : engine.hasActiveSession peer.name now = true
  seen : engine.lastSeen peer.name = some lastSeen
  silent : policy.timeout ≤ now - lastSeen
  attempted :
    ∀ attempt,
      (if policy.rebindUdp then
        scheduler.lastUdpRebindAttempt
      else
        scheduler.lastSessionRecoveryAttempt.lookup peer.name) =
        some attempt →
      policy.timeout ≤ now - attempt

/-- A recovery that is due is so after the last attempt as well. -/
theorem recoveryDue_cases
    {now lastSeen : Instant}
    {lastAttempt : Option Instant}
    {timeout : Nat}
    (due : recoveryDue now lastSeen lastAttempt timeout = true) :
    timeout ≤ now - lastSeen ∧
      ∀ attempt, lastAttempt = some attempt → timeout ≤ now - attempt := by
  cases lastAttempt with
  | none =>
      exact ⟨by simpa [recoveryDue] using due, by simp⟩
  | some attempt =>
      have silent : timeout ≤ now - max attempt lastSeen := by
        simpa [recoveryDue] using due
      refine ⟨silent.trans (Nat.sub_le_sub_left (Nat.le_max_right _ _) _), ?_⟩
      rintro _ ⟨⟩
      exact silent.trans (Nat.sub_le_sub_left (Nat.le_max_left _ _) _)

/-- The peer that a tick recovers is due. -/
theorem RecoveryDue.of_recoveryOf
    {scheduler : EngineScheduler}
    {engine : Engine snow}
    {now : Instant}
    {peer : ScheduledPeer}
    {policy : RecoveryPolicy}
    {lastSeen : Instant}
    (member : peer ∈ scheduler.peers)
    (recovered :
      scheduler.recoveryOf engine now peer = some (policy, lastSeen)) :
    RecoveryDue scheduler engine now peer policy lastSeen := by
  unfold EngineScheduler.recoveryOf at recovered
  cases isPolicy : peer.recovery with
  | none =>
      rw [isPolicy] at recovered
      cases recovered
  | some found =>
      rw [isPolicy] at recovered
      dsimp only at recovered
      split at recovered
      · cases recovered
      · rename_i ready
        cases isSeen : engine.lastSeen peer.name with
        | none =>
            rw [isSeen] at recovered
            cases recovered
        | some seen =>
            rw [isSeen] at recovered
            obtain ⟨due, same⟩ := Option.ite_none_right_eq_some.mp recovered
            cases same
            obtain ⟨silent, attempted⟩ := recoveryDue_cases due
            simp only [Bool.or_eq_true, Option.isNone_iff_eq_none,
              Bool.not_eq_true', not_or, ← Option.isSome_iff_ne_none,
              Bool.not_eq_false] at ready
            exact ⟨member, isPolicy, ready.1, ready.2, isSeen, silent,
              attempted⟩

/-- What the recovery of a tick does. -/
inductive RecoverOutcome
    (input : TickInput snow)
    (progress : TickProgress snow) :
    TickProgress snow → Bool → Prop where
  /-- No peer is due. -/
  | idle :
      RecoverOutcome input progress progress false
  /-- A peer is due and starts afresh. -/
  | recovered
      {peer : ScheduledPeer}
      {policy : RecoveryPolicy}
      {lastSeen : Instant}
      {rebindSucceeded : Bool}
      {engine : Engine snow}
      {tick : SchedulerTick snow}
      (hadStaleState : Bool) :
      RecoveryDue progress.scheduler progress.engine input.now peer policy
        lastSeen →
      (rebindSucceeded = true → policy.rebindUdp = true) →
      tick.events =
        progress.tick.events ++
          [.recovery peer.name (input.now - lastSeen) policy.rebindUdp
            rebindSucceeded hadStaleState] →
      tick.keepaliveFrames = progress.tick.keepaliveFrames →
      (progress.engine.PendingEncoded → engine.PendingEncoded) →
      RecoverOutcome input progress
        { scheduler := progress.scheduler.noteRecovery peer policy input.now
          engine, tick }
        rebindSucceeded

namespace EngineScheduler

theorem firstRecovery_cases
    {scheduler : EngineScheduler}
    {engine : Engine snow}
    {now : Instant}
    {peer : ScheduledPeer}
    {position : Nat}
    {policy : RecoveryPolicy}
    {lastSeen : Instant}
    (first :
      scheduler.firstRecovery engine now =
        some ((peer, position), policy, lastSeen)) :
    RecoveryDue scheduler engine now peer policy lastSeen := by
  obtain ⟨⟨found, index⟩, member, isDue⟩ := List.exists_of_findSome?_eq_some first
  obtain ⟨due, recovered, same⟩ := Option.map_eq_some_iff.mp isDue
  cases same
  exact .of_recoveryOf (List.fst_mem_of_mem_zipIdx member) recovered

theorem recover_outcome
    (input : TickInput snow)
    (progress : TickProgress snow) :
    RecoverOutcome input progress (recover input progress).1
      (recover input progress).2 := by
  unfold recover
  split
  · exact .idle
  · rename_i peer position policy lastSeen first
    dsimp only
    refine .recovered (progress.engine.invalidatePeer peer.name).1
      (firstRecovery_cases first) ?_ ?_ ?_ ?_
    · intro succeeded
      exact (Bool.and_eq_true_iff.mp succeeded).1
    · rw [SchedulerTick.events_pushEngineOutput]
    · funext queried
      exact SchedulerTick.keepaliveFrames_pushEngineOutput (by decide) queried
    · intro encoded
      exact (encoded.perform (.invalidatePeer peer.name)).perform
        (.initiateHandshake peer.name
          (input.draws .sessionRecovery position) input.now)

end EngineScheduler

/-- What the keepalives of a tick have done since `start`. -/
structure KeepalivesSent
    (now : Instant)
    (rebound : Bool)
    (start progress : TickProgress snow) :
    Prop where
  peers : progress.scheduler.peers = start.scheduler.peers
  lastUdpRebindAttempt :
    progress.scheduler.lastUdpRebindAttempt =
      start.scheduler.lastUdpRebindAttempt
  lastSessionRecoveryAttempt :
    progress.scheduler.lastSessionRecoveryAttempt =
      start.scheduler.lastSessionRecoveryAttempt
  events : progress.tick.events = start.tick.events
  pendingEncoded : progress.engine.PendingEncoded
  lastSent :
    ∀ peerName,
      progress.scheduler.lastSent.lookup peerName =
          start.scheduler.lastSent.lookup peerName ∨
        progress.scheduler.lastSent.lookup peerName = some now
  sent :
    ∀ peerName,
      progress.tick.keepaliveFrames peerName ≠ [] →
      progress.scheduler.lastSent.lookup peerName = some now ∧
        (rebound = true ∨
          ∃ peer ∈ start.scheduler.peers,
            peer.name = peerName ∧
              peer.persistentKeepalive ≠ 0 ∧
              ∀ sent,
                start.scheduler.lastSent.lookup peerName = some sent →
                peer.persistentKeepalive ≤ now - sent)
  single :
    rebound = false →
    ∀ peerName, (progress.tick.keepaliveFrames peerName).length ≤ 1

/-- When a keepalive is sent. -/
theorem keepaliveShouldSend_cases
    {now : Instant}
    {lastSent : Option Instant}
    {interval : Nat}
    {recoveryEnabled rebound : Bool}
    (should :
      keepaliveShouldSend now lastSent interval recoveryEnabled rebound =
        true) :
    rebound = true ∨
      interval ≠ 0 ∧
        ∀ sent, lastSent = some sent → interval ≤ now - sent := by
  unfold keepaliveShouldSend at should
  split at should
  · rename_i isRebound
    exact Or.inl isRebound
  · split at should
    · cases should
    · rename_i nonzero
      refine Or.inr ⟨nonzero, ?_⟩
      rintro sent rfl
      simpa using should

/-- Nothing but the instant of a peer that has none is noted. -/
theorem EngineScheduler.lookup_noteUnlessSent
    (scheduler : EngineScheduler)
    (peerName : PeerName)
    (now : Instant)
    (queried : PeerName) :
    (scheduler.noteUnlessSent peerName now).lastSent.lookup queried =
        scheduler.lastSent.lookup queried ∨
      (scheduler.noteUnlessSent peerName now).lastSent.lookup queried =
        some now := by
  unfold noteUnlessSent
  split
  · exact Or.inl rfl
  · by_cases isPeer : queried = peerName
    · subst isPeer
      exact Or.inr (by simp)
    · exact Or.inl (by simp [isPeer])

namespace KeepalivesSent

variable
  {start progress : TickProgress snow}
  {input : TickInput snow}
  {rebound : Bool}

theorem refl
    (now : Instant)
    (rebound : Bool)
    (encoded : start.engine.PendingEncoded)
    (silent : ∀ peerName, start.tick.keepaliveFrames peerName = []) :
    KeepalivesSent now rebound start start where
  peers := rfl
  lastUdpRebindAttempt := rfl
  lastSessionRecoveryAttempt := rfl
  events := rfl
  pendingEncoded := encoded
  lastSent _ := Or.inl rfl
  sent peerName sent := absurd (silent peerName) sent
  single _ peerName := by simp [silent peerName]

/-- Only what was sent may be noted, and only at the instant of the tick. -/
theorem reschedule
    (sent : KeepalivesSent input.now rebound start progress)
    {scheduler : EngineScheduler}
    (peers : scheduler.peers = progress.scheduler.peers)
    (lastUdp :
      scheduler.lastUdpRebindAttempt =
        progress.scheduler.lastUdpRebindAttempt)
    (lastSession :
      scheduler.lastSessionRecoveryAttempt =
        progress.scheduler.lastSessionRecoveryAttempt)
    (lastSent :
      ∀ peerName,
        scheduler.lastSent.lookup peerName =
            progress.scheduler.lastSent.lookup peerName ∨
          scheduler.lastSent.lookup peerName = some input.now) :
    KeepalivesSent input.now rebound start { progress with scheduler } where
  peers := peers.trans sent.peers
  lastUdpRebindAttempt := lastUdp.trans sent.lastUdpRebindAttempt
  lastSessionRecoveryAttempt :=
    lastSession.trans sent.lastSessionRecoveryAttempt
  events := sent.events
  pendingEncoded := sent.pendingEncoded
  lastSent peerName := by
    rcases lastSent peerName with same | noted
    · exact (sent.lastSent peerName).imp same.trans same.trans
    · exact Or.inr noted
  sent peerName isSent := by
    obtain ⟨noted, reason⟩ := sent.sent peerName isSent
    refine ⟨?_, reason⟩
    rcases lastSent peerName with same | noted
    · exact same.trans noted
    · exact noted
  single := sent.single

/-- A packet is sent if it is time, and then it is noted. -/
theorem keepalive
    (sent : KeepalivesSent input.now rebound start progress)
    {peer : ScheduledPeer}
    (member : peer ∈ start.scheduler.peers)
    (should :
      keepaliveShouldSend input.now
        (progress.scheduler.lastSent.lookup peer.name)
        peer.persistentKeepalive peer.recovery.isSome rebound = true)
    (payload : Bytes)
    (draw : Draw snow)
    {scheduler : EngineScheduler}
    (rescheduled :
      KeepalivesSent input.now rebound start { progress with scheduler })
    (noted :
      progress.engine.hasActiveSession peer.name input.now = true →
      scheduler.lastSent.lookup peer.name = some input.now) :
    KeepalivesSent input.now rebound start
      { scheduler
        engine :=
          (progress.engine.createKeepalive peer.name payload draw input.now).2
        tick :=
          progress.tick.pushEngineOutput peer.name .keepalive
            (progress.engine.createKeepalive peer.name payload draw
              input.now).1 } := by
  have added (queried : PeerName) :=
    SchedulerTick.keepaliveFrames_createKeepalive sent.pendingEncoded
      progress.tick peer.name payload draw input.now queried
  exact
    { peers := rescheduled.peers
      lastUdpRebindAttempt := rescheduled.lastUdpRebindAttempt
      lastSessionRecoveryAttempt := rescheduled.lastSessionRecoveryAttempt
      events := by simpa using sent.events
      pendingEncoded :=
        sent.pendingEncoded.perform
          (.createKeepalive peer.name payload draw input.now)
      lastSent := rescheduled.lastSent
      sent := by
        intro peerName isSent
        rcases added peerName with same | ⟨rfl, _, active⟩
        · rw [same] at isSent
          exact rescheduled.sent peerName isSent
        · refine ⟨noted active, ?_⟩
          rcases keepaliveShouldSend_cases should with
            isRebound | ⟨nonzero, spaced⟩
          · exact Or.inl isRebound
          · refine Or.inr ⟨peer, member, rfl, nonzero, ?_⟩
            intro earlier isEarlier
            rcases sent.lastSent peer.name with same | isNow
            · exact spaced earlier (same.trans isEarlier)
            · exact absurd (spaced input.now isNow) (by simp [nonzero])
      single := by
        intro notRebound peerName
        rcases added peerName with same | ⟨rfl, more, _⟩
        · rw [same]
          exact sent.single notRebound peerName
        · cases isFirst : progress.tick.keepaliveFrames peer.name with
          | nil =>
              rw [isFirst] at more
              exact more.le
          | cons frame rest =>
              have isNow := (sent.sent peer.name (by simp [isFirst])).1
              rcases keepaliveShouldSend_cases should with
                isRebound | ⟨nonzero, spaced⟩
              · rw [notRebound] at isRebound
                cases isRebound
              · exact absurd (spaced input.now isNow) (by simp [nonzero]) }

theorem step
    (sent : KeepalivesSent input.now rebound start progress)
    {entry : ScheduledPeer × Nat}
    (member : entry.1 ∈ start.scheduler.peers) :
    KeepalivesSent input.now rebound start
      (EngineScheduler.sendKeepalive input rebound progress entry) := by
  obtain ⟨peer, position⟩ := entry
  unfold EngineScheduler.sendKeepalive
  dsimp only
  split
  · rename_i should
    split
    · refine sent.keepalive member should _ _ ?_ (fun _ => by simp)
      refine sent.reschedule rfl rfl rfl ?_
      intro queried
      by_cases isPeer : queried = peer.name
      · subst isPeer
        exact Or.inr (by simp)
      · exact Or.inl (by simp [isPeer])
    · rename_i notNoted
      refine sent.keepalive member should _ _ sent ?_
      intro active
      exact absurd (by simp [active]) notNoted
  · split
    · exact sent.reschedule (by unfold EngineScheduler.noteUnlessSent; split <;> rfl)
        (by unfold EngineScheduler.noteUnlessSent; split <;> rfl)
        (by unfold EngineScheduler.noteUnlessSent; split <;> rfl)
        (progress.scheduler.lookup_noteUnlessSent peer.name input.now)
    · exact sent

theorem foldl
    (input : TickInput snow)
    (rebound : Bool)
    {start : TickProgress snow}
    (encoded : start.engine.PendingEncoded)
    (silent : ∀ peerName, start.tick.keepaliveFrames peerName = [])
    (entries : List (ScheduledPeer × Nat))
    (members : ∀ entry ∈ entries, entry.1 ∈ start.scheduler.peers) :
    KeepalivesSent input.now rebound start
      (entries.foldl (EngineScheduler.sendKeepalive input rebound) start) :=
  List.foldlRecOn entries _ (.refl input.now rebound encoded silent)
    fun _ sent entry member => sent.step (members entry member)

end KeepalivesSent

namespace EngineScheduler

@[simp] theorem noteRecovery_peers
    (scheduler : EngineScheduler)
    (peer : ScheduledPeer)
    (policy : RecoveryPolicy)
    (now : Instant) :
    (scheduler.noteRecovery peer policy now).peers = scheduler.peers := by
  unfold noteRecovery
  split <;> rfl

@[simp] theorem noteRecovery_lastSent
    (scheduler : EngineScheduler)
    (peer : ScheduledPeer)
    (policy : RecoveryPolicy)
    (now : Instant) :
    (scheduler.noteRecovery peer policy now).lastSent =
      scheduler.lastSent := by
  unfold noteRecovery
  split <;> rfl

end EngineScheduler

/-- A peer that is due after the retries was due before them. -/
theorem RecoveryDue.of_retried
    {start retried : TickProgress snow}
    {now : Instant}
    {peer : ScheduledPeer}
    {policy : RecoveryPolicy}
    {lastSeen : Instant}
    (retries : Retried now start retried)
    (due :
      RecoveryDue retried.scheduler retried.engine now peer policy
        lastSeen) :
    RecoveryDue start.scheduler start.engine now peer policy lastSeen where
  member := by
    rw [← retries.scheduler]
    exact due.member
  hasPolicy := due.hasPolicy
  sent := by
    rw [← retries.scheduler]
    exact due.sent
  active := by
    rw [← retries.hasActiveSession]
    exact due.active
  seen := by
    unfold Engine.lastSeen
    rw [← retries.peers]
    exact due.seen
  silent := due.silent
  attempted := by
    rw [← retries.scheduler]
    exact due.attempted

namespace RecoverOutcome

variable
  {input : TickInput snow}
  {progress after : TickProgress snow}
  {rebound : Bool}

/-- What every recovery leaves alone. -/
theorem unchanged (outcome : RecoverOutcome input progress after rebound) :
    after.scheduler.peers = progress.scheduler.peers ∧
      after.scheduler.lastSent = progress.scheduler.lastSent ∧
      after.tick.keepaliveFrames = progress.tick.keepaliveFrames := by
  cases outcome with
  | idle =>
      exact ⟨rfl, rfl, rfl⟩
  | recovered _ _ _ _ silent _ =>
      exact ⟨by simp, by simp, silent⟩

theorem pendingEncoded
    (outcome : RecoverOutcome input progress after rebound)
    (encoded : progress.engine.PendingEncoded) :
    after.engine.PendingEncoded := by
  cases outcome with
  | idle =>
      exact encoded
  | recovered _ _ _ _ _ kept =>
      exact kept encoded

end RecoverOutcome

/-- Whether the socket was rebound in a recovery. -/
def SchedulerEvent.rebindSucceeded : SchedulerEvent → Bool
  | .recovery _ _ _ succeeded _ => succeeded

namespace Ticked

variable {ticked : Ticked snow}

/-- The socket was rebound successfully in the tick. -/
def Rebinds (ticked : Ticked snow) : Prop :=
  ∃ event ∈ ticked.result.events, event.rebindSucceeded = true

/-- Before the first pass nothing is done. -/
def start (ticked : Ticked snow) : TickProgress snow :=
  ⟨ticked.before.scheduler, ticked.before.engine, .empty⟩

/-- The three passes of a tick. -/
theorem passes (encoded : ticked.before.engine.PendingEncoded) :
    ∃ retried recovered rebound,
      Retried ticked.now ticked.start retried ∧
        RecoverOutcome ticked.input retried recovered rebound ∧
        KeepalivesSent ticked.now rebound recovered ticked.progress := by
  have retries :=
    Retried.foldl ticked.input ticked.start
      ticked.before.scheduler.peers.zipIdx
  generalize isRetried :
    ticked.before.scheduler.peers.zipIdx.foldl
      (EngineScheduler.retryHandshake ticked.input) ticked.start = retried
    at retries
  have outcome := EngineScheduler.recover_outcome ticked.input retried
  obtain ⟨_, _, silent⟩ := outcome.unchanged
  refine ⟨retried, _, _, retries, outcome, ?_⟩
  have isProgress :
      ticked.progress =
        ticked.before.scheduler.peers.zipIdx.foldl
          (EngineScheduler.sendKeepalive ticked.input
            (EngineScheduler.recover ticked.input retried).2)
          (EngineScheduler.recover ticked.input retried).1 := by
    rw [← isRetried]
    rfl
  rw [isProgress]
  refine .foldl ticked.input _
    (outcome.pendingEncoded (retries.pendingEncoded encoded)) ?_ _ ?_
  · intro peerName
    rw [silent, retries.keepaliveFrames]
    rfl
  · intro entry member
    rw [outcome.unchanged.1, retries.scheduler]
    exact List.fst_mem_of_mem_zipIdx member

/-- A tick recovers no peer, or one that is due. -/
theorem recovery_cases (encoded : ticked.before.engine.PendingEncoded) :
    ticked.result.events = [] ∧
        ticked.after.scheduler.lastUdpRebindAttempt =
          ticked.before.scheduler.lastUdpRebindAttempt ∧
        ticked.after.scheduler.lastSessionRecoveryAttempt =
          ticked.before.scheduler.lastSessionRecoveryAttempt ∨
      ∃ peer policy lastSeen rebindSucceeded hadStaleState,
        RecoveryDue ticked.before.scheduler ticked.before.engine ticked.now
            peer policy lastSeen ∧
          ticked.result.events =
            [.recovery peer.name (ticked.now - lastSeen) policy.rebindUdp
              rebindSucceeded hadStaleState] ∧
          ticked.after.scheduler.lastUdpRebindAttempt =
            (ticked.before.scheduler.noteRecovery peer policy
              ticked.now).lastUdpRebindAttempt ∧
          ticked.after.scheduler.lastSessionRecoveryAttempt =
            (ticked.before.scheduler.noteRecovery peer policy
              ticked.now).lastSessionRecoveryAttempt := by
  obtain ⟨retried, recovered, rebound, retries, outcome, sent⟩ :=
    ticked.passes encoded
  have sameScheduler : ticked.before.scheduler = retried.scheduler :=
    retries.scheduler.symm
  cases outcome with
  | idle =>
      left
      rw [sameScheduler]
      exact ⟨sent.events.trans retries.events, sent.lastUdpRebindAttempt,
        sent.lastSessionRecoveryAttempt⟩
  | recovered hadStaleState due _ isEvents _ _ =>
      right
      rw [retries.events] at isEvents
      refine ⟨_, _, _, _, hadStaleState, due.of_retried retries,
        sent.events.trans isEvents, ?_⟩
      rw [sameScheduler]
      exact ⟨sent.lastUdpRebindAttempt, sent.lastSessionRecoveryAttempt⟩

/-- What a tick sends to a peer and notes of it. -/
theorem keepalives
    (encoded : ticked.before.engine.PendingEncoded)
    (peerName : PeerName) :
    (ticked.after.scheduler.lastSent.lookup peerName =
          ticked.before.scheduler.lastSent.lookup peerName ∨
        ticked.after.scheduler.lastSent.lookup peerName = some ticked.now) ∧
      (ticked.result.keepaliveFrames peerName ≠ [] →
        ticked.after.scheduler.lastSent.lookup peerName =
          some ticked.now) ∧
      (¬ ticked.Rebinds →
        (ticked.result.keepaliveFrames peerName).length ≤ 1 ∧
          (ticked.result.keepaliveFrames peerName ≠ [] →
            ∃ peer ∈ ticked.before.scheduler.peers,
              peer.name = peerName ∧
                peer.persistentKeepalive ≠ 0 ∧
                ∀ sent,
                  ticked.before.scheduler.lastSent.lookup peerName =
                    some sent →
                  peer.persistentKeepalive ≤ ticked.now - sent)) := by
  obtain ⟨retried, recovered, rebound, retries, outcome, sent⟩ :=
    ticked.passes encoded
  obtain ⟨samePeers, sameSent, _⟩ := outcome.unchanged
  rw [retries.scheduler] at samePeers sameSent
  replace samePeers :
      recovered.scheduler.peers = ticked.before.scheduler.peers :=
    samePeers
  replace sameSent :
      recovered.scheduler.lastSent = ticked.before.scheduler.lastSent :=
    sameSent
  refine ⟨?_, fun isSent => (sent.sent peerName isSent).1, ?_⟩
  · rw [← sameSent]
    exact sent.lastSent peerName
  · intro notRebinds
    have notRebound : rebound = false := by
      cases outcome with
      | idle =>
          rfl
      | recovered hadStaleState _ _ isEvents _ _ =>
          have same : ticked.result.events = _ := sent.events.trans isEvents
          by_contra succeeded
          refine notRebinds
            ⟨_, same ▸ List.mem_append_right _ (List.mem_singleton_self _), ?_⟩
          exact Bool.not_eq_false _ ▸ succeeded
    refine ⟨sent.single notRebound peerName, ?_⟩
    intro isSent
    rcases (sent.sent peerName isSent).2 with isRebound | spaced
    · rw [notRebound] at isRebound
      cases isRebound
    · rwa [samePeers, sameSent] at spaced

/-- The peers of a scheduler do not change. -/
theorem peers_after (encoded : ticked.before.engine.PendingEncoded) :
    ticked.after.scheduler.peers = ticked.before.scheduler.peers := by
  obtain ⟨retried, recovered, rebound, retries, outcome, sent⟩ :=
    ticked.passes encoded
  have samePeers := sent.peers.trans outcome.unchanged.1
  rw [retries.scheduler] at samePeers
  exact samePeers

theorem pendingEncoded (encoded : ticked.before.engine.PendingEncoded) :
    ticked.after.engine.PendingEncoded := by
  obtain ⟨_, _, _, _, _, sent⟩ := ticked.passes encoded
  exact sent.pendingEncoded

end Ticked

end HushWire

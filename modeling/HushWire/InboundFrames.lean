import HushWire.Engine
import HushWire.HandshakeEvents
import HushWire.PlainNoise

namespace HushWire

open Noise

/-!
# Inbound frames and the state of a link

Anyone can send frames to an engine from any address.  A frame that does not
verify, and any handshake initiation, leaves the sessions in use and the
roaming state of all peers alone.  An active session is replaced only by a
frame that verifies for its own peer: a response to its pending initiation or
a packet of its candidate.
-/

variable {snow : Snow}

/-- A session that may have been used since, with the same keys and age. -/
structure Noise.Session.Continues
    (later earlier : Session snow) :
    Prop where
  sessionId : later.sessionId = earlier.sessionId
  transport : later.transport = earlier.transport
  createdAt : later.createdAt = earlier.createdAt

namespace Noise.Session.Continues

theorem refl (session : Session snow) : session.Continues session :=
  ⟨rfl, rfl, rfl⟩

theorem trans
    {last middle first : Session snow}
    (later : last.Continues middle)
    (earlier : middle.Continues first) :
    last.Continues first where
  sessionId := later.sessionId.trans earlier.sessionId
  transport := later.transport.trans earlier.transport
  createdAt := later.createdAt.trans earlier.createdAt

end Noise.Session.Continues

/-- Encrypting and decrypting continue a session. -/
theorem Noise.Session.encrypt_continues
    (session : Session snow)
    (msgType : Auth.MsgType)
    (payload : Bytes) :
    (session.encrypt msgType payload).2.Continues session :=
  ⟨by simp, by simp, by simp⟩

theorem Noise.Session.decrypt_continues
    (session : Session snow)
    (sessionId : SessionId)
    (counter : UInt64)
    (ciphertext : Bytes) :
    (session.decrypt sessionId counter ciphertext).2.Continues session :=
  ⟨by simp, by simp, by simp⟩

/-- A packet is decrypted by a session under which it authenticates only. -/
theorem Noise.Session.authenticates_of_decrypt
    {session : Session snow}
    {sessionId : SessionId}
    {counter : UInt64}
    {ciphertext : Bytes}
    {decrypted : Auth.MsgType × Bytes}
    (opened :
      (session.decrypt sessionId counter ciphertext).1 = .ok decrypted) :
    ∃ plaintext,
      session.Authenticates sessionId counter ciphertext plaintext := by
  rcases session.decrypt_cases sessionId counter ciphertext with
    ⟨_, error, rejected⟩ | ⟨plaintext, authentic, _⟩
  · rw [rejected] at opened
    cases opened
  · exact ⟨plaintext, authentic⟩

/-- A slot is as it was, or it held a session that had expired. -/
def KeptOrExpired
    (now : Instant)
    (before after : Option (Session snow)) :
    Prop :=
  after = before ∨
    ∃ session,
      before = some session ∧ session.isExpired now = true ∧ after = none

namespace KeptOrExpired

theorem refl (now : Instant) (slot : Option (Session snow)) :
    KeptOrExpired now slot slot :=
  Or.inl rfl

theorem trans
    {now : Instant}
    {first middle last : Option (Session snow)}
    (earlier : KeptOrExpired now first middle)
    (later : KeptOrExpired now middle last) :
    KeptOrExpired now first last := by
  rcases earlier with rfl | ⟨session, held, expired, rfl⟩
  · exact later
  · rcases later with rfl | ⟨_, impossible, _⟩
    · exact Or.inr ⟨session, held, expired, rfl⟩
    · cases impossible

end KeptOrExpired

/-- Events that leave the active and the previous session unless expired. -/
def PeerEvent.SparesSessions (now : Instant) : PeerEvent snow → Prop
  | .expire _ time => time = now
  | .decrypt _ session counter ciphertext _ =>
      (session.decrypt session.sessionId counter ciphertext).2 = session
  | .finalize _ _ _ => False
  | .encrypt _ _ _ _ => False
  | .promote _ _ _ _ => False
  | .invalidate => False
  | _ => True

theorem PeerStep.keptOrExpired
    {entry entry' : PeerEntry snow}
    {event : PeerEvent snow}
    {now : Instant}
    {slot : Slot}
    (step : PeerStep entry event entry')
    (spares : event.SparesSessions now)
    (inUse : slot ≠ .candidate) :
    KeptOrExpired now (entry.slot slot) (entry'.slot slot) := by
  cases step with
  | expire held expired =>
      cases spares
      rw [PeerEntry.slot_setSlot]
      split
      case isTrue sameSlot =>
        subst sameSlot
        exact Or.inr ⟨_, held, expired, rfl⟩
      case isFalse =>
        exact .refl now _
  | decrypt held =>
      rw [PeerEntry.slot_setSlot]
      split
      case isTrue sameSlot =>
        subst sameSlot
        exact Or.inl ((congrArg some spares).trans held.symm)
      case isFalse =>
        exact .refl now _
  | finalize | encrypt | promote | invalidate =>
      exact spares.elim
  | expireCached | store =>
      cases slot with
      | candidate => exact absurd rfl inUse
      | active | previous => exact .refl now _
  | forgetCached | lapse | yield | recover | start | retransmit | abandon =>
      cases slot <;> exact .refl now _

/-- Spared sessions are still there after a whole execution. -/
theorem PeerExecution.keptOrExpired
    {entry entry' : PeerEntry snow}
    {events : List (PeerEvent snow)}
    {now : Instant}
    (slot : Slot)
    (execution : PeerExecution entry events entry')
    (spares : ∀ event ∈ events, event.SparesSessions now)
    (inUse : slot ≠ .candidate) :
    KeptOrExpired now (entry.slot slot) (entry'.slot slot) :=
  execution.preserves
    (fun middle => KeptOrExpired now (entry.slot slot) (middle.slot slot))
    (.refl now _)
    fun member kept step => kept.trans (step.keptOrExpired (spares _ member) inUse)

/-- After an event the active session is the old one or just replaced it. -/
theorem PeerStep.active_cases
    {entry entry' : PeerEntry snow}
    {event : PeerEvent snow}
    {session : Session snow}
    (step : PeerStep entry event entry')
    (active : entry'.session = some session) :
    (∃ earlier, entry.session = some earlier ∧ session.Continues earlier) ∨
      (∃ negotiated response clock,
        event = .finalize negotiated response clock ∧
          session.Continues negotiated) ∨
      ∃ candidate counter ciphertext now,
        event = .promote candidate counter ciphertext now ∧
          session.Continues candidate := by
  cases step with
  | finalize =>
      cases active
      exact Or.inr (Or.inl ⟨_, _, _, rfl, Session.encrypt_continues _ _ _⟩)
  | promote =>
      cases active
      exact Or.inr
        (Or.inr ⟨_, _, _, _, rfl, Session.decrypt_continues _ _ _ _⟩)
  | encrypt stored =>
      cases active
      exact Or.inl ⟨_, stored, Session.encrypt_continues _ _ _⟩
  | @decrypt slot used _ _ _ held =>
      cases slot with
      | active =>
          cases active
          exact Or.inl ⟨used, held, Session.decrypt_continues _ _ _ _⟩
      | previous | candidate =>
          exact Or.inl ⟨session, active, .refl session⟩
  | @expire slot =>
      cases slot with
      | active =>
          cases active
      | previous | candidate =>
          exact Or.inl ⟨session, active, .refl session⟩
  | invalidate =>
      cases active
  | _ =>
      exact Or.inl ⟨session, active, .refl session⟩

/-- After an execution the active session is the old one or replaced it. -/
theorem TableExecution.active_cases
    {table table' : PeerTable snow}
    {events : List (PeerName × PeerEvent snow)}
    {peerName : PeerName}
    {session : Session snow}
    (execution : TableExecution table events table')
    (active : (table' peerName).session = some session) :
    (∃ earlier,
      (table peerName).session = some earlier ∧
        session.Continues earlier) ∨
      (∃ negotiated response clock,
        (peerName, .finalize negotiated response clock) ∈ events ∧
          session.Continues negotiated) ∨
      ∃ candidate counter ciphertext now,
        (peerName, .promote candidate counter ciphertext now) ∈ events ∧
          session.Continues candidate := by
  induction execution generalizing session with
  | nil =>
      exact Or.inl ⟨session, active, .refl session⟩
  | @snoc events middle final event _ step inductionHypothesis =>
      obtain ⟨actor, event⟩ := event
      by_cases isPeer : actor = peerName
      · subst isPeer
        rcases step.peerStep.active_cases active with
          ⟨earlier, held, continues⟩ |
          ⟨negotiated, response, clock, rfl, continues⟩ |
          ⟨candidate, counter, ciphertext, now, rfl, continues⟩
        · rcases inductionHypothesis held with
            ⟨first, atStart, kept⟩ |
            ⟨negotiated, response, clock, member, kept⟩ |
            ⟨candidate, counter, ciphertext, now, member, kept⟩
          · exact Or.inl ⟨first, atStart, continues.trans kept⟩
          · exact Or.inr (Or.inl
              ⟨negotiated, response, clock,
                List.mem_append_left _ member, continues.trans kept⟩)
          · exact Or.inr (Or.inr
              ⟨candidate, counter, ciphertext, now,
                List.mem_append_left _ member, continues.trans kept⟩)
        · exact Or.inr
            (Or.inl ⟨negotiated, response, clock, by simp, continues⟩)
        · exact Or.inr
            (Or.inr
              ⟨candidate, counter, ciphertext, now, by simp, continues⟩)
      · rw [step.frame (Ne.symm isPeer)] at active
        rcases inductionHypothesis active with
          atStart |
          ⟨negotiated, response, clock, member, kept⟩ |
          ⟨candidate, counter, ciphertext, now, member, kept⟩
        · exact Or.inl atStart
        · exact Or.inr (Or.inl
            ⟨negotiated, response, clock, List.mem_append_left _ member,
              kept⟩)
        · exact Or.inr (Or.inr
            ⟨candidate, counter, ciphertext, now,
              List.mem_append_left _ member, kept⟩)

namespace SessionState

/-- The sessions in use are as they were, up to removal of expired ones. -/
structure KeepsSessions
    (before after : SessionState snow)
    (now : Instant) :
    Prop where
  sessions :
    ∀ peerName,
      KeptOrExpired now (before.sessions.lookup peerName)
        (after.sessions.lookup peerName)
  previousSessions :
    ∀ peerName,
      KeptOrExpired now (before.previousSessions.lookup peerName)
        (after.previousSessions.lookup peerName)

theorem KeepsSessions.of_execution
    {before after : SessionState snow}
    {now : Instant}
    {events : List (PeerName × PeerEvent snow)}
    (execution : TableExecution before.table events after.table)
    (spares : ∀ event ∈ events, event.2.SparesSessions now) :
    before.KeepsSessions after now := by
  have sparesPeer (peerName : PeerName) :
      ∀ event ∈
        events.filterMap fun event =>
          if event.1 = peerName then some event.2 else none,
        event.SparesSessions now := by
    intro event member
    rw [List.mem_filterMap] at member
    obtain ⟨⟨actor, taken⟩, member, same⟩ := member
    split at same
    · cases same
      exact spares _ member
    · cases same
  constructor
  · intro peerName
    exact PeerExecution.keptOrExpired .active
      (execution.peerExecution peerName) (sparesPeer peerName) (by simp)
  · intro peerName
    exact PeerExecution.keptOrExpired .previous
      (execution.peerExecution peerName) (sparesPeer peerName) (by simp)

@[simp] theorem acceptInboundInitiation_sessions
    (state : SessionState snow)
    (peerName : PeerName)
    (remoteHandshakeId : SessionId)
    (passivePeer : Bool)
    (clock : Instant) :
    (state.acceptInboundInitiation peerName remoteHandshakeId passivePeer
        clock).2.sessions = state.sessions ∧
      (state.acceptInboundInitiation peerName remoteHandshakeId passivePeer
        clock).2.previousSessions = state.previousSessions := by
  grind [acceptInboundInitiation, dropExpiredPending]

@[simp] theorem cachedResponderResponse_sessions
    (state : SessionState snow)
    (peerName : PeerName)
    (handshakeId : SessionId)
    (request : Bytes)
    (clock : Instant) :
    (state.cachedResponderResponse peerName handshakeId request
        clock).2.sessions = state.sessions ∧
      (state.cachedResponderResponse peerName handshakeId request
        clock).2.previousSessions = state.previousSessions := by
  grind [cachedResponderResponse]

@[simp] theorem storeResponderCandidate_sessions
    (state : SessionState snow)
    (peerName : PeerName)
    (session : Session snow)
    (handshakeId : SessionId)
    (request response : Bytes)
    (clock : Instant) :
    (state.storeResponderCandidate peerName session handshakeId request
        response clock).2.sessions = state.sessions ∧
      (state.storeResponderCandidate peerName session handshakeId request
        response clock).2.previousSessions = state.previousSessions := by
  grind [storeResponderCandidate]

end SessionState

namespace Engine

/-- A frame passes its cryptographic check as one of the named peer. -/
inductive VerifiesAs
    (engine : Engine snow)
    (frame : Bytes)
    (draws : PeerName → Draw snow)
    (now clock : Instant)
    (peerName : PeerName) :
    Prop where
  | initiation
      {handshakeId : SessionId}
      {message : Bytes}
      {handshake : ResponderHandshake snow} :
      Auth.decodePacket frame =
        some (.handshake .handshakeInit handshakeId message) →
      engine.decodeHandshakeInit handshakeId message draws clock =
        some (peerName, handshake) →
      VerifiesAs engine frame draws now clock peerName
  | response
      {handshakeId : SessionId}
      {message : Bytes}
      {pending : PendingInitiator snow}
      {session : Session snow} :
      Auth.decodePacket frame =
        some (.handshake .handshakeResponse handshakeId message) →
      engine.sessions.Matches handshakeId peerName pending →
      initiatorFinalize pending.state message clock = .ok session →
      VerifiesAs engine frame draws now clock peerName
  | transport
      {sessionId : SessionId}
      {counter : UInt64}
      {ciphertext plaintext : Bytes}
      {session : Session snow} :
      Auth.decodePacket frame =
        some (.transport sessionId counter ciphertext) →
      engine.sessions.located sessionId now = some (peerName, session) →
      session.Authenticates sessionId counter ciphertext plaintext →
      VerifiesAs engine frame draws now clock peerName

/-- A frame that asks for a handshake. -/
def IsInitiation (frame : Bytes) : Prop :=
  ∃ handshakeId message,
    Auth.decodePacket frame =
      some (.handshake .handshakeInit handshakeId message)

/-- The result of a call leaves sessions, roaming state and platform alone. -/
structure LeavesLink
    (before : Engine snow)
    (now : Instant)
    (outcome : Except (EngineError snow) EngineOutput × Engine snow) :
    Prop where
  sessions : before.sessions.KeepsSessions outcome.2.sessions now
  peers : outcome.2.peers = before.peers
  silent :
    ∀ output,
      outcome.1 = .ok output →
      output.events = [] ∧
        ∀ peerName source packet,
          .writeIpPacket peerName source packet ∉ output.actions

namespace LeavesLink

/-- A call without output changes no link if it keeps the sessions. -/
theorem of_empty
    {before : Engine snow}
    {now : Instant}
    {sessions : SessionState snow}
    (kept : before.sessions.KeepsSessions sessions now) :
    before.LeavesLink now (.ok .empty, { before with sessions }) where
  sessions := kept
  peers := rfl
  silent := by
    rintro output ⟨⟩
    exact ⟨rfl, by simp [EngineOutput.empty]⟩

theorem of_error
    {before : Engine snow}
    {now : Instant}
    {sessions : SessionState snow}
    (error : EngineError snow)
    (kept : before.sessions.KeepsSessions sessions now) :
    before.LeavesLink now (.error error, { before with sessions }) where
  sessions := kept
  peers := rfl
  silent := by
    rintro output ⟨⟩

/-- An answer to a handshake initiation changes no link. -/
theorem of_answer
    {before : Engine snow}
    {now : Instant}
    {sessions : SessionState snow}
    {peerName : PeerName}
    {source : SocketAddr}
    {response : Bytes}
    (kept : before.sessions.KeepsSessions sessions now) :
    before.LeavesLink now
      (.ok
        { actions := [.sendTransport peerName source response]
          events := [] },
        { before with sessions }) where
  sessions := kept
  peers := rfl
  silent := by
    rintro output ⟨⟩
    exact ⟨rfl, by simp⟩

end LeavesLink

/-- A handshake initiation changes no link, whether it verifies or not. -/
theorem processHandshakeInit_leavesLink
    (engine : Engine snow)
    (handshakeId : SessionId)
    (message : Bytes)
    (source : SocketAddr)
    (draws : PeerName → Draw snow)
    (now clock : Instant) :
    engine.LeavesLink now
      (engine.processHandshakeInit handshakeId message source draws
        clock) := by
  have kept (sessions : SessionState snow)
      (same :
        sessions.sessions = engine.sessions.sessions ∧
          sessions.previousSessions = engine.sessions.previousSessions) :
      engine.sessions.KeepsSessions sessions now :=
    ⟨fun peerName => same.1 ▸ .refl now _,
      fun peerName => same.2 ▸ .refl now _⟩
  unfold processHandshakeInit
  cases decoded :
      engine.decodeHandshakeInit handshakeId message draws clock with
  | none =>
      exact .of_empty (kept _ ⟨rfl, rfl⟩)
  | some answer =>
      obtain ⟨peerName, handshake⟩ := answer
      simp only
      split
      · exact .of_empty (kept _ (by simp))
      · split
        · exact .of_answer (kept _ (by simp))
        · split
          · exact .of_answer (kept _ (by simp))
          · exact .of_empty (kept _ (by simp))

/-- A response that does not verify changes no link. -/
theorem processHandshakeResponse_leavesLink
    {engine : Engine snow}
    {handshakeId : SessionId}
    {message : Bytes}
    {clock : Instant}
    (unverified :
      ∀ peerName pending session,
        engine.sessions.Matches handshakeId peerName pending →
        initiatorFinalize pending.state message clock ≠ .ok session)
    (source : SocketAddr)
    (now : Instant) :
    engine.LeavesLink now
      (engine.processHandshakeResponse handshakeId message source
        clock) := by
  obtain ⟨acts, execution, outcome⟩ :=
    engine.sessions.finalizeInitiator_execution handshakeId message clock
  unfold processHandshakeResponse
  rcases finalized :
    engine.sessions.finalizeInitiator handshakeId message clock with
    ⟨result, sessions⟩
  rw [finalized] at execution outcome
  simp only at execution outcome ⊢
  cases outcome with
  | unknown =>
      exact .of_empty (.of_execution execution (by simp))
  | abandoned =>
      exact .of_error _
        (.of_execution execution (by simp [PeerEvent.SparesSessions]))
  | completed matched verified =>
      exact absurd verified (unverified _ _ _ matched)

/-- A transport packet that does not authenticate changes no link. -/
theorem processTransport_leavesLink
    {engine : Engine snow}
    {sessionId : SessionId}
    {counter : UInt64}
    {ciphertext : Bytes}
    {now : Instant}
    (unverified :
      ∀ peerName session plaintext,
        engine.sessions.located sessionId now = some (peerName, session) →
        ¬ session.Authenticates sessionId counter ciphertext plaintext)
    (source : SocketAddr)
    (clock : Instant) :
    engine.LeavesLink now
      (engine.processTransport sessionId counter ciphertext source now
        clock) := by
  obtain ⟨drops, acts, execution, onlyDrops, outcome⟩ :=
    engine.sessions.decryptTransport_execution sessionId counter ciphertext
      now
  have dropsSpare : ∀ event ∈ drops, event.2.SparesSessions now := by
    intro event member
    obtain ⟨slot, isExpire⟩ := onlyDrops event member
    rw [isExpire]
    rfl
  unfold processTransport
  rcases decrypted :
    engine.sessions.decryptTransport sessionId counter ciphertext now with
    ⟨result, sessions⟩
  rw [decrypted] at execution outcome
  simp only at execution outcome ⊢
  cases outcome with
  | unknown =>
      exact .of_empty
        (.of_execution execution (by simpa using dropsSpare))
  | @inPlace peerName _ session held unexpired sameId located =>
      rcases session.decrypt_cases sessionId counter ciphertext with
        ⟨_, error, rejected⟩ | ⟨plaintext, authentic, _⟩
      · rw [rejected]
        refine .of_error _ (.of_execution execution ?_)
        intro event member
        rcases List.mem_append.mp member with drop | act
        · exact dropsSpare event drop
        · rw [List.mem_singleton.mp act]
          change
            (session.decrypt session.sessionId counter ciphertext).2 = session
          rw [sameId, rejected]
      · exact absurd authentic (unverified _ _ _ located)
  | promoted held unexpired sameId located opened =>
      obtain ⟨plaintext, authentic⟩ :=
        Session.authenticates_of_decrypt opened
      exact absurd authentic (unverified _ _ _ located)

/-- Initiations and frames that do not verify change no link. -/
theorem processInboundTransport_leavesLink
    {engine : Engine snow}
    {frame : Bytes}
    {draws : PeerName → Draw snow}
    {now clock : Instant}
    (ignorable :
      IsInitiation frame ∨
        ∀ peerName, ¬ engine.VerifiesAs frame draws now clock peerName)
    (source : SocketAddr) :
    engine.LeavesLink now
      (engine.processInboundTransport frame source draws now clock) := by
  have keeps : engine.sessions.KeepsSessions engine.sessions now :=
    ⟨fun _ => .refl now _, fun _ => .refl now _⟩
  unfold processInboundTransport
  cases decoded : Auth.decodePacket frame with
  | none =>
      exact .of_empty keeps
  | some packet =>
      cases packet with
      | transport sessionId counter ciphertext =>
          refine processTransport_leavesLink ?_ source clock
          rcases ignorable with ⟨handshakeId, message, initiation⟩ | unverified
          · rw [decoded] at initiation
            cases initiation
          · intro peerName session plaintext located authentic
            exact unverified peerName (.transport decoded located authentic)
      | handshake kind handshakeId message =>
          cases kind with
          | transport =>
              exact .of_empty keeps
          | handshakeInit =>
              exact engine.processHandshakeInit_leavesLink handshakeId message
                source draws now clock
          | handshakeResponse =>
              refine processHandshakeResponse_leavesLink ?_ source now
              rcases ignorable with ⟨_, _, initiation⟩ | unverified
              · rw [decoded] at initiation
                cases initiation
              · intro peerName pending session matched verified
                exact unverified peerName
                  (.response decoded matched verified)

/-- Where the active session of a peer after a frame may come from. -/
inductive ActiveOrigin
    (engine : Engine snow)
    (frame : Bytes)
    (now clock : Instant)
    (peerName : PeerName)
    (session : Session snow) :
    Prop where
  /-- It was active before. -/
  | kept
      {earlier : Session snow} :
      engine.sessions.sessions.lookup peerName = some earlier →
      session.Continues earlier →
      ActiveOrigin engine frame now clock peerName session
  /-- The frame is a response that verifies against the peer's initiation. -/
  | response
      {handshakeId : SessionId}
      {message : Bytes}
      {pending : PendingInitiator snow}
      {negotiated : Session snow} :
      Auth.decodePacket frame =
        some (.handshake .handshakeResponse handshakeId message) →
      engine.sessions.pendingInit.lookup peerName = some pending →
      pending.handshakeId = handshakeId →
      initiatorFinalize pending.state message clock = .ok negotiated →
      session.Continues negotiated →
      ActiveOrigin engine frame now clock peerName session
  /-- The frame authenticates under the peer's candidate. -/
  | candidate
      {sessionId : SessionId}
      {counter : UInt64}
      {ciphertext plaintext : Bytes}
      {candidate : Session snow} :
      Auth.decodePacket frame =
        some (.transport sessionId counter ciphertext) →
      engine.sessions.responderCandidates.lookup peerName = some candidate →
      candidate.isExpired now = false →
      candidate.Authenticates sessionId counter ciphertext plaintext →
      session.Continues candidate →
      ActiveOrigin engine frame now clock peerName session

namespace ActiveOrigin

/-- Sessions that did not change come from themselves. -/
theorem of_sessions_eq
    {engine : Engine snow}
    {frame : Bytes}
    {now clock : Instant}
    {peerName : PeerName}
    {session : Session snow}
    {after : SessionState snow}
    (same : after.sessions = engine.sessions.sessions)
    (active : after.sessions.lookup peerName = some session) :
    engine.ActiveOrigin frame now clock peerName session :=
  .kept (same ▸ active) (.refl session)

end ActiveOrigin

theorem processHandshakeInit_sessions
    (engine : Engine snow)
    (handshakeId : SessionId)
    (message : Bytes)
    (source : SocketAddr)
    (draws : PeerName → Draw snow)
    (clock : Instant) :
    (engine.processHandshakeInit handshakeId message source draws
      clock).2.sessions.sessions = engine.sessions.sessions := by
  unfold processHandshakeInit
  cases engine.decodeHandshakeInit handshakeId message draws clock with
  | none =>
      rfl
  | some answer =>
      simp only
      split
      · simp
      · split
        · simp
        · split <;> simp

theorem processHandshakeResponse_activeOrigin
    {engine : Engine snow}
    {frame : Bytes}
    {handshakeId : SessionId}
    {message : Bytes}
    {source : SocketAddr}
    {clock : Instant}
    {peerName : PeerName}
    {session : Session snow}
    (decoded :
      Auth.decodePacket frame =
        some (.handshake .handshakeResponse handshakeId message))
    (now : Instant)
    (active :
      (engine.processHandshakeResponse handshakeId message source
        clock).2.sessions.sessions.lookup peerName = some session) :
    engine.ActiveOrigin frame now clock peerName session := by
  obtain ⟨acts, execution, outcome⟩ :=
    engine.sessions.finalizeInitiator_execution handshakeId message clock
  have sameSessions :
      (engine.processHandshakeResponse handshakeId message source
          clock).2.sessions =
        (engine.sessions.finalizeInitiator handshakeId message clock).2 := by
    unfold processHandshakeResponse
    simp only
    split <;> rfl
  rw [sameSessions] at active
  rcases execution.active_cases active with
    ⟨earlier, held, continues⟩ |
    ⟨negotiated, response, time, member, continues⟩ |
    ⟨candidate, counter, ciphertext, time, member, _⟩
  · exact .kept held continues
  · generalize
      (engine.sessions.finalizeInitiator handshakeId message clock).1 = result
      at outcome
    cases outcome with
    | unknown =>
        cases member
    | abandoned =>
        simp at member
    | completed matched verified =>
        simp only [List.mem_singleton, Prod.mk.injEq,
          PeerEvent.finalize.injEq] at member
        obtain ⟨rfl, rfl, rfl, rfl⟩ := member
        exact .response decoded matched.stored matched.sameId verified
          continues
  · generalize
      (engine.sessions.finalizeInitiator handshakeId message clock).1 = result
      at outcome
    cases outcome <;> simp at member

/-- A packet that is processed encrypts at most one message in reply. -/
theorem processTransport_sessions
    (engine : Engine snow)
    (sessionId : SessionId)
    (counter : UInt64)
    (ciphertext : Bytes)
    (source : SocketAddr)
    (now clock : Instant) :
    (engine.processTransport sessionId counter ciphertext source now
          clock).2.sessions =
        (engine.sessions.decryptTransport sessionId counter ciphertext
          now).2 ∨
      ∃ peerName,
        (engine.processTransport sessionId counter ciphertext source now
            clock).2.sessions =
          ((engine.sessions.decryptTransport sessionId counter ciphertext
            now).2.encryptForPeer peerName .keepalive
              Auth.keepaliveAckPayload now).2 := by
  unfold processTransport processKeepalive processData
  simp only
  split
  · exact Or.inl rfl
  · exact Or.inl rfl
  · rename_i decrypted _
    split
    · split
      · right
        refine ⟨decrypted.peerName, ?_⟩
        split <;> rfl
      · exact Or.inl rfl
    · left
      split <;> rfl

theorem processTransport_activeOrigin
    {engine : Engine snow}
    {frame : Bytes}
    {sessionId : SessionId}
    {counter : UInt64}
    {ciphertext : Bytes}
    {source : SocketAddr}
    {now clock : Instant}
    {peerName : PeerName}
    {session : Session snow}
    (decoded :
      Auth.decodePacket frame =
        some (.transport sessionId counter ciphertext))
    (active :
      (engine.processTransport sessionId counter ciphertext source now
        clock).2.sessions.sessions.lookup peerName = some session) :
    engine.ActiveOrigin frame now clock peerName session := by
  obtain ⟨drops, acts, execution, onlyDrops, outcome⟩ :=
    engine.sessions.decryptTransport_execution sessionId counter ciphertext
      now
  have afterDecrypt {later : Session snow}
      (held :
        (engine.sessions.decryptTransport sessionId counter ciphertext
          now).2.sessions.lookup peerName = some later) :
      engine.ActiveOrigin frame now clock peerName later := by
    generalize
      (engine.sessions.decryptTransport sessionId counter ciphertext
        now).1 = result
      at outcome
    rcases execution.active_cases held with
      ⟨earlier, atStart, continues⟩ |
      ⟨negotiated, response, time, member, _⟩ |
      ⟨candidate, used, packet, time, member, continues⟩
    · exact .kept atStart continues
    · rcases List.mem_append.mp member with drop | act
      · obtain ⟨slot, isExpire⟩ := onlyDrops _ drop
        cases isExpire
      · cases outcome <;> simp at act
    · rcases List.mem_append.mp member with drop | act
      · obtain ⟨slot, isExpire⟩ := onlyDrops _ drop
        cases isExpire
      · cases outcome with
        | unknown =>
            cases act
        | inPlace =>
            simp at act
        | promoted stored unexpired sameId located opened =>
            simp only [List.mem_singleton, Prod.mk.injEq,
              PeerEvent.promote.injEq] at act
            obtain ⟨rfl, rfl, rfl, rfl, rfl⟩ := act
            obtain ⟨plaintext, authentic⟩ :=
              Session.authenticates_of_decrypt opened
            exact .candidate decoded stored unexpired authentic continues
  rcases engine.processTransport_sessions sessionId counter ciphertext source
      now clock with same | ⟨recipient, same⟩
  · rw [same] at active
    exact afterDecrypt active
  · rw [same] at active
    obtain ⟨expiries, seals, sealRun, onlyExpiries, sealed⟩ :=
      (engine.sessions.decryptTransport sessionId counter ciphertext
        now).2.encryptForPeer_execution recipient .keepalive
          Auth.keepaliveAckPayload now
    have sealEvents :
        ∀ event ∈ expiries ++ seals,
          (∃ slot, event.2 = .expire slot now) ∨
            ∃ used msgType payload,
              event.2 = .encrypt used msgType payload now := by
      intro event member
      rcases List.mem_append.mp member with expiry | encryption
      · rcases onlyExpiries event expiry with isExpire | isExpire
        · exact Or.inl ⟨_, isExpire⟩
        · exact Or.inl ⟨_, by rw [isExpire]⟩
      · rcases sealed with ⟨_, rfl, _⟩ | ⟨used, _, _, rfl, _⟩
        · cases encryption
        · rw [List.mem_singleton.mp encryption]
          exact Or.inr ⟨_, _, _, rfl⟩
    rcases sealRun.active_cases active with
      ⟨earlier, held, continues⟩ |
      ⟨negotiated, response, time, member, _⟩ |
      ⟨candidate, used, packet, time, member, _⟩
    · have origin := afterDecrypt held
      cases origin with
      | kept stored kept =>
          exact .kept stored (continues.trans kept)
      | response decoded pending sameId verified kept =>
          exact .response decoded pending sameId verified
            (continues.trans kept)
      | candidate decoded stored unexpired authentic kept =>
          exact .candidate decoded stored unexpired authentic
            (continues.trans kept)
    · rcases sealEvents _ member with ⟨_, impossible⟩ | ⟨_, _, _, impossible⟩ <;>
        cases impossible
    · rcases sealEvents _ member with ⟨_, impossible⟩ | ⟨_, _, _, impossible⟩ <;>
        cases impossible

/-- An active session is replaced by a frame that verifies for its peer. -/
theorem processInboundTransport_activeOrigin
    {engine : Engine snow}
    {frame : Bytes}
    {source : SocketAddr}
    {draws : PeerName → Draw snow}
    {now clock : Instant}
    {peerName : PeerName}
    {session : Session snow}
    (active :
      (engine.processInboundTransport frame source draws now
        clock).2.sessions.sessions.lookup peerName = some session) :
    engine.ActiveOrigin frame now clock peerName session := by
  unfold processInboundTransport at active
  cases decoded : Auth.decodePacket frame with
  | none =>
      rw [decoded] at active
      exact .of_sessions_eq rfl active
  | some packet =>
      rw [decoded] at active
      cases packet with
      | transport sessionId counter ciphertext =>
          exact processTransport_activeOrigin decoded active
      | handshake kind handshakeId message =>
          cases kind with
          | transport =>
              exact .of_sessions_eq rfl active
          | handshakeInit =>
              exact .of_sessions_eq
                (processHandshakeInit_sessions engine handshakeId message
                  source draws clock) active
          | handshakeResponse =>
              exact processHandshakeResponse_activeOrigin decoded now active

/--
In every engine state, frames that do not verify and all handshake initiations
leave every link alone, and whatever the frame, an active session is replaced
only by a frame that verifies for its peer.
-/
theorem inbound_frames_cannot_move_link
    (engine : Engine snow)
    (frame : Bytes)
    (source : SocketAddr)
    (draws : PeerName → Draw snow)
    (now clock : Instant) :
    ((IsInitiation frame ∨
        ∀ peerName, ¬ engine.VerifiesAs frame draws now clock peerName) →
      engine.LeavesLink now
        (engine.processInboundTransport frame source draws now clock)) ∧
      ∀ peerName session,
        (engine.processInboundTransport frame source draws now
          clock).2.sessions.sessions.lookup peerName = some session →
        engine.ActiveOrigin frame now clock peerName session :=
  ⟨fun ignorable => processInboundTransport_leavesLink ignorable source,
    fun _ _ active => processInboundTransport_activeOrigin active⟩

namespace LinkExample

/-- The keys of a link's own end. -/
def keys : PlainNoise.Transport where
  isInitiator := false
  initiatorEphemeral := 4
  responderEphemeral := 5

/-- The first packet of the other end. -/
def packet : Bytes :=
  [1, 1] ++ PlainNoise.tag keys.flip 0

/-- The link's session, which has opened the packet. -/
def session : Session PlainNoise.snow :=
  ((Session.new (.fill 8) keys 0).decrypt (.fill 8) 0 packet).2

/-- An engine with the link. -/
def engine : Engine PlainNoise.snow :=
  { (withRouter (.fill 1) ⟨[], []⟩ : Engine PlainNoise.snow) with
    sessions :=
      { SessionState.new with
        sessions := AList.insert "peer" session ∅ } }

/-- The frame of a packet under a counter. -/
def frame (counter : UInt64) : Bytes :=
  Auth.encodeTransport (.fill 8) counter packet

/-- The session that the frame is for does not open it. -/
theorem not_verifiesAs
    {counter : UInt64}
    {draws : PeerName → Draw PlainNoise.snow}
    (rejects :
      (engine.sessions.located (.fill 8) 0).all (fun found =>
        !found.2.replay.wouldAccept counter ||
          !(PlainNoise.readMessage found.2.transport counter packet
            (packet.length - aeadTagSize)).isOk) = true)
    (peerName : PeerName) :
    ¬ engine.VerifiesAs (frame counter) draws 0 0 peerName := by
  have decodes :
      Auth.decodePacket (frame counter) =
        some (.transport (.fill 8) counter packet) :=
    Auth.decodePacket_encodeTransport (.fill 8) counter (by decide)
  intro verifies
  cases verifies with
  | initiation decoded =>
      rw [decodes] at decoded
      cases decoded
  | response decoded =>
      rw [decodes] at decoded
      cases decoded
  | transport decoded located authentic =>
      rw [decodes] at decoded
      cases decoded
      obtain ⟨-, accepted, -, opened⟩ := authentic
      have opened :
          PlainNoise.readMessage _ counter packet
              (packet.length - aeadTagSize) =
            .ok _ :=
        opened
      rw [located, Option.all_some, accepted, opened] at rejects
      cases rejects

end LinkExample

open LinkExample in
/--
The packet that was opened leaves the link alone when it comes again, and so it
does under another counter.
-/
theorem inbound_frames_cannot_move_link_example :
    (engine.sessions.sessions.lookup "peer").isSome = true ∧
      ∀ source draws,
        engine.LeavesLink 0
            (engine.processInboundTransport (frame 0) source draws 0 0) ∧
          engine.LeavesLink 0
            (engine.processInboundTransport (frame 1) source draws 0 0) := by
  refine ⟨by decide +kernel, fun source draws => ⟨?_, ?_⟩⟩
  · exact
      (inbound_frames_cannot_move_link engine (frame 0) source draws 0 0).1
        (.inr (not_verifiesAs (by decide +kernel)))
  · exact
      (inbound_frames_cannot_move_link engine (frame 1) source draws 0 0).1
        (.inr (not_verifiesAs (by decide +kernel)))

end Engine

end HushWire

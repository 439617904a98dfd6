import HushWire.Agreement
import HushWire.Nonces
import HushWire.ReachableEngine

namespace HushWire

open Noise

/-!
# Announcing the sessions that become active

An inbound frame installs a session when it completes a pending initiation or
confirms a candidate, and the caller learns of it by an event.  The event is
returned with the output of the call, so it is lost when a later step of the
same call fails; `InboundTurn.announced_iff` says for which frames.
-/

variable {snow : Snow}

/-- A frame that an engine receives. -/
structure InboundTurn (snow : Snow) where
  before : Engine snow
  frame : Bytes
  source : SocketAddr
  draws : PeerName → Draw snow
  now : Instant
  clock : Instant

namespace InboundTurn

/-- What the engine returns, and the engine afterwards. -/
def outcome (turn : InboundTurn snow) :
    Except (EngineError snow) EngineOutput × Engine snow :=
  turn.before.processInboundTransport turn.frame turn.source turn.draws
    turn.now turn.clock

def after (turn : InboundTurn snow) : Engine snow :=
  turn.outcome.2

/-- A session becomes the active one of a peer. -/
def Installs (turn : InboundTurn snow) (peerName : PeerName) : Prop :=
  turn.after.sessions.activeSessionId peerName ≠ none ∧
    turn.after.sessions.activeSessionId peerName ≠
      turn.before.sessions.activeSessionId peerName

end InboundTurn

/-- The events for a peer that are returned to the caller. -/
def announcementsFor
    (peerName : PeerName) :
    Except (EngineError snow) EngineOutput → List EngineEvent
  | .ok output =>
      output.events.filter fun
        | .handshakeCompleted completed _ _ => completed = peerName
  | .error _ => []

/-- Frames that an engine receives one after the other. -/
inductive InboundStep : Engine snow → InboundTurn snow → Engine snow → Prop where
  | receive (turn : InboundTurn snow) :
      InboundStep turn.before turn turn.after

namespace InboundTurn

/-- Exactly the sessions that become active are announced, each once. -/
def Announced (turn : InboundTurn snow) : Prop :=
  ∀ peerName,
    (turn.Installs peerName →
        (announcementsFor peerName turn.outcome.1).length = 1) ∧
      (¬ turn.Installs peerName →
        announcementsFor peerName turn.outcome.1 = [])

/--
The frame is the first packet under a candidate, but its contents are no IPv4
packet, or a probe for which the acknowledgement cannot be encrypted.
-/
inductive MalformedConfirmation (turn : InboundTurn snow) : Prop where
  | data
      {sessionId : SessionId}
      {counter : UInt64}
      {ciphertext payload : Bytes}
      {peerName : PeerName}
      {candidate : Session snow}
      {error : PacketError} :
      Auth.decodePacket turn.frame =
        some (.transport sessionId counter ciphertext) →
      turn.before.sessions.responderCandidates.lookup peerName =
        some candidate →
      candidate.sessionId = sessionId →
      candidate.isExpired turn.now = false →
      (candidate.decrypt sessionId counter ciphertext).1 =
        .ok (.data, payload) →
      Ipv4Packet.parse payload = .error error →
      MalformedConfirmation turn
  | probe
      {sessionId : SessionId}
      {counter : UInt64}
      {ciphertext : Bytes}
      {peerName : PeerName}
      {candidate : Session snow}
      {error : NoiseError snow} :
      Auth.decodePacket turn.frame =
        some (.transport sessionId counter ciphertext) →
      turn.before.sessions.responderCandidates.lookup peerName =
        some candidate →
      candidate.sessionId = sessionId →
      candidate.isExpired turn.now = false →
      (candidate.decrypt sessionId counter ciphertext).1 =
        .ok (.keepalive, Auth.keepaliveProbePayload) →
      ((candidate.decrypt sessionId counter ciphertext).2.encrypt .keepalive
        Auth.keepaliveAckPayload).1 = .error error →
      MalformedConfirmation turn

end InboundTurn

/-- An event that installs an active session. -/
def PeerEvent.Activates : PeerEvent snow → Prop
  | .finalize _ _ _ => True
  | .promote _ _ _ _ => True
  | _ => False

namespace SessionState

/-- The active session of a peer, by its identifier. -/
theorem activeSessionId_eq_some
    {state : SessionState snow}
    {peerName : PeerName}
    {sessionId : SessionId} :
    state.activeSessionId peerName = some sessionId ↔
      ∃ session,
        state.sessions.lookup peerName = some session ∧
          session.sessionId = sessionId :=
  Option.map_eq_some_iff

/-- A peer for which nothing is installed keeps its session or loses it. -/
theorem activeSessionId_of_execution
    {before after : SessionState snow}
    {events : List (PeerName × PeerEvent snow)}
    (execution : TableExecution before.table events after.table)
    {peerName : PeerName}
    (quiet : ∀ event, (peerName, event) ∈ events → ¬ event.Activates)
    {sessionId : SessionId}
    (active : after.activeSessionId peerName = some sessionId) :
    before.activeSessionId peerName = some sessionId := by
  obtain ⟨session, held, sameId⟩ := activeSessionId_eq_some.mp active
  rcases execution.active_cases held with
    ⟨earlier, atStart, continues⟩ |
    ⟨negotiated, response, clock, member, _⟩ |
    ⟨candidate, counter, ciphertext, now, member, _⟩
  · exact activeSessionId_eq_some.mpr
      ⟨earlier, atStart, continues.sessionId.symm.trans sameId⟩
  · exact absurd trivial (quiet _ member)
  · exact absurd trivial (quiet _ member)

/-- Encrypting installs nothing. -/
theorem activeSessionId_of_encryptForPeer
    {state : SessionState snow}
    {recipient peerName : PeerName}
    {msgType : Auth.MsgType}
    {payload : Bytes}
    {now : Instant}
    {sessionId : SessionId}
    (active :
      (state.encryptForPeer recipient msgType payload
        now).2.activeSessionId peerName = some sessionId) :
    state.activeSessionId peerName = some sessionId := by
  obtain ⟨drops, acts, execution, onlyDrops, outcome⟩ :=
    state.encryptForPeer_execution recipient msgType payload now
  refine activeSessionId_of_execution execution ?_ active
  intro event member activates
  rcases List.mem_append.mp member with drop | act
  · rcases onlyDrops _ drop with isExpire | isExpire
    · cases isExpire
      exact activates
    · cases isExpire
      exact activates
  · rcases outcome with ⟨_, noAct, _⟩ | ⟨session, _, _, isAct, _⟩
    · rw [noAct] at act
      cases act
    · rw [isAct, List.mem_singleton] at act
      cases act
      exact activates

/-- What a packet that is decrypted does to the active sessions. -/
inductive DecryptInstalls
    (state : SessionState snow)
    (sessionId : SessionId)
    (counter : UInt64)
    (ciphertext : Bytes)
    (now : Instant) :
    Except (NoiseError snow) (Option DecryptedTransport) → Prop where
  /-- No session is installed. -/
  | nothing
      {result : Except (NoiseError snow) (Option DecryptedTransport)} :
      (∀ decrypted,
        result = .ok (some decrypted) →
        decrypted.promotedResponderSession = false) →
      (∀ peerName installed,
        (state.decryptTransport sessionId counter ciphertext
            now).2.activeSessionId peerName = some installed →
        state.activeSessionId peerName = some installed) →
      DecryptInstalls state sessionId counter ciphertext now result
  /-- The candidate of a peer is installed for it, and nothing else. -/
  | candidate
      {peerName : PeerName}
      {candidate : Session snow}
      {msgType : Auth.MsgType}
      {payload : Bytes} :
      state.responderCandidates.lookup peerName = some candidate →
      candidate.sessionId = sessionId →
      candidate.isExpired now = false →
      (candidate.decrypt sessionId counter ciphertext).1 =
        .ok (msgType, payload) →
      state.activeSessionId peerName ≠ some sessionId →
      (state.decryptTransport sessionId counter ciphertext
          now).2.sessions.lookup peerName =
        some (candidate.decrypt sessionId counter ciphertext).2 →
      (∀ other installed,
        other ≠ peerName →
        (state.decryptTransport sessionId counter ciphertext
            now).2.activeSessionId other = some installed →
        state.activeSessionId other = some installed) →
      DecryptInstalls state sessionId counter ciphertext now
        (.ok
          (some
            { peerName, msgType, payload, promotedResponderSession := true }))

theorem decryptTransport_installs
    {state : SessionState snow}
    (distinct : state.table.DistinctBy Session.sessionId)
    (sessionId : SessionId)
    (counter : UInt64)
    (ciphertext : Bytes)
    (now : Instant) :
    DecryptInstalls state sessionId counter ciphertext now
      (state.decryptTransport sessionId counter ciphertext now).1 := by
  obtain ⟨drops, acts, execution, onlyDrops, outcome⟩ :=
    state.decryptTransport_execution sessionId counter ciphertext now
  have quietDrops
      {peerName : PeerName}
      {event : PeerEvent snow}
      (drop : (peerName, event) ∈ drops) :
      ¬ event.Activates := by
    obtain ⟨slot, isExpire⟩ := onlyDrops _ drop
    cases isExpire
    exact id
  generalize
    (state.decryptTransport sessionId counter ciphertext now).1 = result
    at outcome
  cases outcome with
  | unknown =>
      refine .nothing (by rintro _ ⟨⟩) ?_
      intro peerName installed active
      refine activeSessionId_of_execution execution ?_ active
      intro event member
      rcases List.mem_append.mp member with drop | act
      · exact quietDrops drop
      · cases act
  | @inPlace _ _ session held unexpired sameId located notCandidate =>
      refine .nothing ?_ ?_
      · intro decrypted isResult
        unfold decryptedInPlace at isResult
        cases opened : (session.decrypt sessionId counter ciphertext).1 with
        | error error =>
            rw [opened] at isResult
            cases isResult
        | ok content =>
            rw [opened] at isResult
            cases isResult
            rfl
      · intro peerName installed active
        refine activeSessionId_of_execution execution ?_ active
        intro event member
        rcases List.mem_append.mp member with drop | act
        · exact quietDrops drop
        · cases List.mem_singleton.mp act
          exact id
  | @promoted peerName session msgType payload held unexpired sameId located
      opened =>
      refine .candidate held sameId unexpired opened ?_ ?_ ?_
      · intro active
        obtain ⟨other, otherHeld, otherId⟩ := activeSessionId_eq_some.mp active
        have samePlace :=
          @distinct _ .active _ _ _ _ otherHeld held
            (otherId.trans sameId.symm)
        cases samePlace.2
      · obtain ⟨middle, _, actRun⟩ := execution.split
        have step := actRun.step_of_singleton.peerStep
        obtain ⟨_, _, _, isInstalled⟩ := step.promote_inv
        have isActive := congrArg PeerEntry.session isInstalled
        rw [sameId] at isActive
        exact isActive
      · intro other installed different active
        refine activeSessionId_of_execution execution ?_ active
        intro event member
        rcases List.mem_append.mp member with drop | act
        · exact quietDrops drop
        · cases List.mem_singleton.mp act
          exact absurd rfl different

/-- A packet under a candidate is decrypted by this candidate. -/
theorem decryptTransport_of_candidate
    {state : SessionState snow}
    (distinct : state.table.DistinctBy Session.sessionId)
    {peerName : PeerName}
    {candidate : Session snow}
    {counter : UInt64}
    {ciphertext payload : Bytes}
    {now : Instant}
    {msgType : Auth.MsgType}
    (held : state.responderCandidates.lookup peerName = some candidate)
    (unexpired : candidate.isExpired now = false)
    (opened :
      (candidate.decrypt candidate.sessionId counter ciphertext).1 =
        .ok (msgType, payload)) :
    (state.decryptTransport candidate.sessionId counter ciphertext now).1 =
      .ok
        (some
          { peerName, msgType, payload,
            promotedResponderSession := true }) := by
  obtain ⟨_, acts, _, _, outcome⟩ :=
    state.decryptTransport_execution candidate.sessionId counter ciphertext
      now
  have isHeld : state.table.Holds peerName .candidate candidate := held
  generalize
    (state.decryptTransport candidate.sessionId counter ciphertext now).1 =
      result
    at outcome
  cases outcome with
  | unknown unused =>
      exact absurd rfl
        (unused (holds_dropExpired.mpr ⟨isHeld, unexpired⟩))
  | inPlace otherHeld _ sameId _ notCandidate =>
      obtain ⟨rfl, rfl⟩ := distinct otherHeld isHeld sameId
      obtain rfl := Option.some.inj (otherHeld.symm.trans isHeld)
      obtain ⟨error, refused⟩ := notCandidate rfl
      rw [refused] at opened
      cases opened
  | promoted otherHeld _ sameId _ otherOpened =>
      obtain ⟨rfl, _⟩ := distinct otherHeld isHeld sameId
      obtain rfl := Option.some.inj (otherHeld.symm.trans isHeld)
      rw [otherOpened] at opened
      cases opened
      rfl

end SessionState

namespace InboundTurn

variable {turn : InboundTurn snow}

/-- Where nothing is installed nothing has to be announced. -/
theorem announced_of_quiet
    (quiet :
      ∀ peerName installed,
        turn.after.sessions.activeSessionId peerName = some installed →
        turn.before.sessions.activeSessionId peerName = some installed)
    (silent : ∀ peerName, announcementsFor peerName turn.outcome.1 = []) :
    turn.Announced := by
  intro peerName
  refine ⟨?_, fun _ => silent peerName⟩
  rintro ⟨isActive, changed⟩
  obtain ⟨installed, active⟩ := Option.ne_none_iff_exists'.mp isActive
  exact absurd (active.trans (quiet peerName installed active).symm) changed

/-- A session that is installed for one peer is announced once. -/
theorem announced_of_installed
    {peerName : PeerName}
    (installed : SessionId)
    (active : turn.after.sessions.activeSessionId peerName = some installed)
    (fresh :
      turn.before.sessions.activeSessionId peerName ≠ some installed)
    (others :
      ∀ other sessionId,
        other ≠ peerName →
        turn.after.sessions.activeSessionId other = some sessionId →
        turn.before.sessions.activeSessionId other = some sessionId)
    {output : EngineOutput}
    (succeeded : turn.outcome.1 = .ok output)
    {endpoint : SocketAddr}
    {role : HandshakeRole}
    (announced :
      output.events = [.handshakeCompleted peerName endpoint role]) :
    turn.Announced := by
  intro queried
  rw [succeeded]
  unfold announcementsFor
  by_cases isPeer : queried = peerName
  · subst isPeer
    refine ⟨fun _ => by simp [announced], fun notInstalled => ?_⟩
    exact absurd ⟨by simp [active], by rw [active]; exact fresh.symm⟩
      notInstalled
  · refine ⟨?_, fun _ => by simp [announced, Ne.symm isPeer]⟩
    rintro ⟨isActive, changed⟩
    obtain ⟨sessionId, otherActive⟩ := Option.ne_none_iff_exists'.mp isActive
    exact absurd
      (otherActive.trans (others queried sessionId isPeer otherActive).symm)
      changed

/-- A session that is installed by a call that fails is not announced. -/
theorem not_announced_of_error
    {peerName : PeerName}
    (installed : SessionId)
    (active : turn.after.sessions.activeSessionId peerName = some installed)
    (fresh :
      turn.before.sessions.activeSessionId peerName ≠ some installed)
    {error : EngineError snow}
    (failed : turn.outcome.1 = .error error) :
    ¬ turn.Announced := by
  intro announced
  have single :=
    (announced peerName).1
      ⟨by simp [active], by rw [active]; exact fresh.symm⟩
  rw [failed] at single
  cases single

/-- A response announces the session that it completes. -/
theorem announced_response
    {handshakeId : SessionId}
    {message : Bytes}
    (decoded :
      Auth.decodePacket turn.frame =
        some (.handshake .handshakeResponse handshakeId message)) :
    turn.Announced := by
  have isOutcome :
      turn.outcome =
        turn.before.processHandshakeResponse handshakeId message turn.source
          turn.clock := by
    unfold outcome Engine.processInboundTransport
    rw [decoded]
  obtain ⟨acts, execution, finalized⟩ :=
    turn.before.sessions.finalizeInitiator_execution handshakeId message
      turn.clock
  unfold Engine.processHandshakeResponse at isOutcome
  rcases isResult :
    turn.before.sessions.finalizeInitiator handshakeId message turn.clock with
    ⟨result, sessions⟩
  rw [isResult] at isOutcome execution finalized
  cases finalized with
  | unknown =>
      refine announced_of_quiet ?_ ?_
      · intro peerName installed active
        unfold after at active
        rw [isOutcome] at active
        exact SessionState.activeSessionId_of_execution execution
          (by simp) active
      · intro peerName
        rw [isOutcome]
        rfl
  | abandoned =>
      refine announced_of_quiet ?_ ?_
      · intro peerName installed active
        unfold after at active
        rw [isOutcome] at active
        refine SessionState.activeSessionId_of_execution execution ?_ active
        intro event member
        cases List.mem_singleton.mp member
        exact id
      · intro peerName
        rw [isOutcome]
        rfl
  | @completed peerName pending session confirmation _ _ unused _ =>
      have step := execution.step_of_singleton.peerStep
      obtain ⟨_, _, isInstalled⟩ := step.finalize_inv
      have isActive := congrArg PeerEntry.session isInstalled
      refine announced_of_installed session.sessionId ?_ ?_ ?_
        (congrArg Prod.fst isOutcome) rfl
      · unfold after
        rw [isOutcome]
        refine SessionState.activeSessionId_eq_some.mpr ⟨_, isActive, ?_⟩
        simp
      · intro earlier
        obtain ⟨other, held, sameId⟩ :=
          SessionState.activeSessionId_eq_some.mp earlier
        exact @unused _ .active _ held sameId
      · intro other sessionId different active
        unfold after at active
        rw [isOutcome] at active
        refine SessionState.activeSessionId_of_execution execution ?_ active
        intro event member
        cases List.mem_singleton.mp member
        exact absurd rfl different

/-- A frame that carries a packet is processed as the packet. -/
theorem outcome_transport
    {sessionId : SessionId}
    {counter : UInt64}
    {ciphertext : Bytes}
    (decoded :
      Auth.decodePacket turn.frame =
        some (.transport sessionId counter ciphertext)) :
    turn.outcome =
      turn.before.processTransport sessionId counter ciphertext turn.source
        turn.now turn.clock := by
  unfold outcome Engine.processInboundTransport
  rw [decoded]

/-- What a packet returns when it is not refused. -/
theorem announcements_transport
    {engine : Engine snow}
    {sessionId : SessionId}
    {counter : UInt64}
    {ciphertext : Bytes}
    {source : SocketAddr}
    {now clock : Instant}
    {output : EngineOutput}
    (succeeded :
      (engine.processTransport sessionId counter ciphertext source now
        clock).1 = .ok output) :
    output.events =
      match
        (engine.sessions.decryptTransport sessionId counter ciphertext
          now).1 with
      | .ok (some decrypted) =>
          if decrypted.promotedResponderSession then
            [.handshakeCompleted decrypted.peerName source .responder]
          else
            []
      | _ => [] := by
  unfold Engine.processTransport Engine.processKeepalive Engine.processData
    at succeeded
  dsimp only at succeeded
  cases isResult :
      (engine.sessions.decryptTransport sessionId counter ciphertext now).1
    with
  | error error =>
      rw [isResult] at succeeded
      cases succeeded
  | ok packet =>
      rw [isResult] at succeeded
      cases packet with
      | none =>
          cases succeeded
          rfl
      | some decrypted =>
          dsimp only at succeeded ⊢
          split at succeeded
          · split at succeeded
            · split at succeeded
              · cases succeeded
              · cases succeeded
                rfl
            · cases succeeded
              rfl
          · split at succeeded
            · cases succeeded
            · cases succeeded
              rfl

/-- A packet that installs nothing announces nothing. -/
theorem announced_transport_of_nothing
    {sessionId : SessionId}
    {counter : UInt64}
    {ciphertext : Bytes}
    (decoded :
      Auth.decodePacket turn.frame =
        some (.transport sessionId counter ciphertext))
    (notPromoted :
      ∀ decrypted,
        (turn.before.sessions.decryptTransport sessionId counter ciphertext
            turn.now).1 = .ok (some decrypted) →
        decrypted.promotedResponderSession = false)
    (kept :
      ∀ peerName installed,
        (turn.before.sessions.decryptTransport sessionId counter ciphertext
            turn.now).2.activeSessionId peerName = some installed →
        turn.before.sessions.activeSessionId peerName = some installed) :
    turn.Announced := by
  refine announced_of_quiet ?_ ?_
  · intro peerName installed active
    unfold after at active
    rw [outcome_transport decoded] at active
    rcases turn.before.processTransport_sessions sessionId counter ciphertext
        turn.source turn.now turn.clock with same | ⟨recipient, same⟩
    · rw [same] at active
      exact kept peerName installed active
    · rw [same] at active
      exact kept peerName installed
        (SessionState.activeSessionId_of_encryptForPeer active)
  · intro peerName
    rw [outcome_transport decoded]
    cases returned :
        (turn.before.processTransport sessionId counter ciphertext turn.source
          turn.now turn.clock).1 with
    | error error =>
        rfl
    | ok output =>
        have isEvents := announcements_transport returned
        have noEvents : output.events = [] := by
          rw [isEvents]
          split
          · rename_i decrypted isDecrypted
            rw [notPromoted decrypted isDecrypted]
            rfl
          · rfl
        simp [announcementsFor, noEvents]

/-- A candidate that is confirmed is announced unless the call fails. -/
theorem announced_transport_iff_ok
    {sessionId : SessionId}
    {counter : UInt64}
    {ciphertext : Bytes}
    (decoded :
      Auth.decodePacket turn.frame =
        some (.transport sessionId counter ciphertext))
    {decrypted : DecryptedTransport}
    (isDecrypted :
      (turn.before.sessions.decryptTransport sessionId counter ciphertext
          turn.now).1 = .ok (some decrypted))
    (promoted : decrypted.promotedResponderSession = true)
    (active :
      turn.after.sessions.activeSessionId decrypted.peerName =
        some sessionId)
    (fresh :
      turn.before.sessions.activeSessionId decrypted.peerName ≠
        some sessionId)
    (others :
      ∀ other installed,
        other ≠ decrypted.peerName →
        turn.after.sessions.activeSessionId other = some installed →
        turn.before.sessions.activeSessionId other = some installed) :
    turn.Announced ↔ ∃ output, turn.outcome.1 = .ok output := by
  constructor
  · intro announced
    cases returned : turn.outcome.1 with
    | error error =>
        exact absurd announced (not_announced_of_error _ active fresh returned)
    | ok output =>
        exact ⟨output, rfl⟩
  · rintro ⟨output, returned⟩
    have isEvents :=
      announcements_transport (outcome_transport decoded ▸ returned)
    rw [isDecrypted] at isEvents
    dsimp only at isEvents
    rw [if_pos promoted] at isEvents
    exact announced_of_installed _ active fresh others returned isEvents

/-- The sessions after a packet that was decrypted. -/
theorem after_sessions_of_decrypted
    {sessionId : SessionId}
    {counter : UInt64}
    {ciphertext : Bytes}
    (decoded :
      Auth.decodePacket turn.frame =
        some (.transport sessionId counter ciphertext))
    {decrypted : DecryptedTransport}
    {sessions : SessionState snow}
    (isDecrypted :
      turn.before.sessions.decryptTransport sessionId counter ciphertext
          turn.now =
        (.ok (some decrypted), sessions)) :
    turn.after.sessions = sessions ∨
      turn.after.sessions =
        (sessions.encryptForPeer decrypted.peerName .keepalive
          Auth.keepaliveAckPayload turn.now).2 := by
  unfold after
  rw [outcome_transport decoded]
  unfold Engine.processTransport Engine.processKeepalive Engine.processData
  rw [isDecrypted]
  dsimp only
  split
  · split
    · right
      split <;> rfl
    · exact Or.inl rfl
  · left
    split <;> rfl

/-- A packet that was decrypted is handled unless its contents are bad. -/
theorem outcome_isOk_iff_of_decrypted
    {sessionId : SessionId}
    {counter : UInt64}
    {ciphertext : Bytes}
    (decoded :
      Auth.decodePacket turn.frame =
        some (.transport sessionId counter ciphertext))
    {decrypted : DecryptedTransport}
    {sessions : SessionState snow}
    (isDecrypted :
      turn.before.sessions.decryptTransport sessionId counter ciphertext
          turn.now =
        (.ok (some decrypted), sessions)) :
    (∃ output, turn.outcome.1 = .ok output) ↔
      (decrypted.msgType = .data →
          ∀ error, Ipv4Packet.parse decrypted.payload ≠ .error error) ∧
        (decrypted.msgType = .keepalive →
          decrypted.payload = Auth.keepaliveProbePayload →
          ∀ error,
            (sessions.encryptForPeer decrypted.peerName .keepalive
              Auth.keepaliveAckPayload turn.now).1 ≠ .error error) := by
  rw [outcome_transport decoded]
  unfold Engine.processTransport Engine.processKeepalive Engine.processData
  rw [isDecrypted]
  dsimp only
  cases decrypted.msgType with
  | keepalive =>
      by_cases isProbe : decrypted.payload = Auth.keepaliveProbePayload
      · cases encrypted :
            (sessions.encryptForPeer decrypted.peerName .keepalive
              Auth.keepaliveAckPayload turn.now).1 with
        | error error =>
            simp [isProbe]
        | ok frame =>
            simp [isProbe]
      · simp [isProbe]
  | data =>
      cases parsed : Ipv4Packet.parse decrypted.payload with
      | error error =>
          simp
      | ok packet =>
          simp

/-- A candidate that is confirmed is announced if its contents are handled. -/
theorem announced_iff_of_candidate
    {sessionId : SessionId}
    {counter : UInt64}
    {ciphertext payload : Bytes}
    {peerName : PeerName}
    {candidate : Session snow}
    {msgType : Auth.MsgType}
    (distinct : turn.before.sessions.table.DistinctBy Session.sessionId)
    (decoded :
      Auth.decodePacket turn.frame =
        some (.transport sessionId counter ciphertext))
    (held :
      turn.before.sessions.responderCandidates.lookup peerName =
        some candidate)
    (sameId : candidate.sessionId = sessionId)
    (unexpired : candidate.isExpired turn.now = false)
    (opened :
      (candidate.decrypt sessionId counter ciphertext).1 =
        .ok (msgType, payload))
    (fresh : turn.before.sessions.activeSessionId peerName ≠ some sessionId)
    (installed :
      (turn.before.sessions.decryptTransport sessionId counter ciphertext
          turn.now).2.sessions.lookup peerName =
        some (candidate.decrypt sessionId counter ciphertext).2)
    (others :
      ∀ other installed,
        other ≠ peerName →
        (turn.before.sessions.decryptTransport sessionId counter ciphertext
            turn.now).2.activeSessionId other = some installed →
        turn.before.sessions.activeSessionId other = some installed) :
    turn.Announced ↔ ¬ turn.MalformedConfirmation := by
  have confirmed
      {other : PeerName}
      {otherCandidate : Session snow}
      {otherType : Auth.MsgType}
      {otherPayload : Bytes}
      (otherHeld :
        turn.before.sessions.responderCandidates.lookup other =
          some otherCandidate)
      (otherId : otherCandidate.sessionId = sessionId)
      (otherUnexpired : otherCandidate.isExpired turn.now = false)
      (otherOpened :
        (otherCandidate.decrypt sessionId counter ciphertext).1 =
          .ok (otherType, otherPayload)) :
      (turn.before.sessions.decryptTransport sessionId counter ciphertext
          turn.now).1 =
        .ok
          (some
            { peerName := other, msgType := otherType
              payload := otherPayload
              promotedResponderSession := true }) := by
    subst otherId
    exact SessionState.decryptTransport_of_candidate distinct otherHeld
      otherUnexpired otherOpened
  have isDecrypted := confirmed held sameId unexpired opened
  have openedUnexpired :
      (candidate.decrypt sessionId counter ciphertext).2.isExpired turn.now =
        false := by
    simpa [Session.isExpired] using unexpired
  have openedId :
      (candidate.decrypt sessionId counter ciphertext).2.sessionId =
        sessionId := by
    simpa using sameId
  rcases result :
    turn.before.sessions.decryptTransport sessionId counter ciphertext
      turn.now with ⟨opening, sessions⟩
  rw [result] at isDecrypted installed others
  obtain rfl : opening = _ := isDecrypted
  have acknowledging :=
    SessionState.encryptForPeer_active installed openedUnexpired .keepalive
      Auth.keepaliveAckPayload
  have active :
      turn.after.sessions.activeSessionId peerName = some sessionId := by
    rcases after_sessions_of_decrypted decoded result with same | same
    · rw [same]
      exact SessionState.activeSessionId_eq_some.mpr ⟨_, installed, openedId⟩
    · rw [same]
      refine SessionState.activeSessionId_eq_some.mpr
        ⟨_, acknowledging.2, ?_⟩
      simpa using openedId
  have othersAfter (other : PeerName) (otherId : SessionId)
      (different : other ≠ peerName)
      (otherActive :
        turn.after.sessions.activeSessionId other = some otherId) :
      turn.before.sessions.activeSessionId other = some otherId := by
    rcases after_sessions_of_decrypted decoded result with same | same
    · exact others other otherId different (same ▸ otherActive)
    · rw [same] at otherActive
      exact others other otherId different
        (SessionState.activeSessionId_of_encryptForPeer otherActive)
  rw [announced_transport_iff_ok decoded (congrArg Prod.fst result) rfl active
    fresh othersAfter, outcome_isOk_iff_of_decrypted decoded result]
  rw [result] at confirmed
  constructor
  · rintro ⟨dataHandled, probeHandled⟩ malformed
    cases malformed with
    | data otherDecoded otherHeld otherId otherUnexpired otherOpened
        notParsed =>
        cases otherDecoded.symm.trans decoded
        cases confirmed otherHeld otherId otherUnexpired otherOpened
        exact dataHandled rfl _ notParsed
    | probe otherDecoded otherHeld otherId otherUnexpired otherOpened
        notEncrypted =>
        cases otherDecoded.symm.trans decoded
        cases confirmed otherHeld otherId otherUnexpired otherOpened
        obtain rfl := Option.some.inj (otherHeld.symm.trans held)
        have refused := acknowledging.1
        rw [notEncrypted] at refused
        exact probeHandled rfl rfl _ refused
  · intro wellFormed
    refine ⟨?_, ?_⟩
    · rintro rfl error notParsed
      exact wellFormed
        (.data decoded held sameId unexpired opened notParsed)
    · rintro rfl rfl error notEncrypted
      cases refused :
          ((candidate.decrypt sessionId counter ciphertext).2.encrypt
            .keepalive Auth.keepaliveAckPayload).1 with
      | error cause =>
          exact wellFormed
            (.probe decoded held sameId unexpired opened refused)
      | ok frame =>
          have encrypted := acknowledging.1.symm.trans notEncrypted
          rw [refused] at encrypted
          cases encrypted

/-- A frame that is ignored installs and announces nothing. -/
theorem announced_of_ignored
    (ignored : turn.outcome = (.ok .empty, turn.before)) :
    turn.Announced := by
  refine announced_of_quiet ?_ ?_
  · intro peerName installed active
    unfold after at active
    rwa [ignored] at active
  · intro peerName
    rw [ignored]
    rfl

/-- An initiation installs and announces nothing. -/
theorem announced_initiation
    {handshakeId : SessionId}
    {message : Bytes}
    (decoded :
      Auth.decodePacket turn.frame =
        some (.handshake .handshakeInit handshakeId message)) :
    turn.Announced := by
  have isOutcome :
      turn.outcome =
        turn.before.processHandshakeInit handshakeId message turn.source
          turn.draws turn.clock := by
    unfold outcome Engine.processInboundTransport
    rw [decoded]
  refine announced_of_quiet ?_ ?_
  · intro peerName installed active
    unfold after SessionState.activeSessionId at active
    rwa [isOutcome, Engine.processHandshakeInit_sessions] at active
  · intro peerName
    rw [isOutcome]
    cases verified :
        turn.before.decodeHandshakeInit handshakeId message turn.draws
          turn.clock with
    | none =>
        unfold Engine.processHandshakeInit
        rw [verified]
        rfl
    | some answer =>
        obtain ⟨initiator, handshake⟩ := answer
        rw [Engine.processHandshakeInit_answer verified]
        rfl

/-- A malformed confirmation promotes the candidate. -/
theorem MalformedConfirmation.promotes
    {sessionId : SessionId}
    {counter : UInt64}
    {ciphertext : Bytes}
    (malformed : turn.MalformedConfirmation)
    (distinct : turn.before.sessions.table.DistinctBy Session.sessionId)
    (decoded :
      Auth.decodePacket turn.frame =
        some (.transport sessionId counter ciphertext)) :
    ∃ decrypted,
      (turn.before.sessions.decryptTransport sessionId counter ciphertext
          turn.now).1 = .ok (some decrypted) ∧
        decrypted.promotedResponderSession = true := by
  cases malformed with
  | data otherDecoded held sameId unexpired opened =>
      cases otherDecoded.symm.trans decoded
      subst sameId
      exact ⟨_,
        SessionState.decryptTransport_of_candidate distinct held unexpired
          opened, rfl⟩
  | probe otherDecoded held sameId unexpired opened =>
      cases otherDecoded.symm.trans decoded
      subst sameId
      exact ⟨_,
        SessionState.decryptTransport_of_candidate distinct held unexpired
          opened, rfl⟩

/-- A malformed confirmation is a packet. -/
theorem MalformedConfirmation.isTransport
    (malformed : turn.MalformedConfirmation) :
    ∃ sessionId counter ciphertext,
      Auth.decodePacket turn.frame =
        some (.transport sessionId counter ciphertext) := by
  cases malformed with
  | data decoded =>
      exact ⟨_, _, _, decoded⟩
  | probe decoded =>
      exact ⟨_, _, _, decoded⟩

/-- A frame announces what it installs unless it is a malformed confirmation. -/
theorem announced_iff
    (distinct : turn.before.sessions.table.DistinctBy Session.sessionId) :
    turn.Announced ↔ ¬ turn.MalformedConfirmation := by
  have notMalformed
      (notTransport :
        ∀ sessionId counter ciphertext,
          Auth.decodePacket turn.frame ≠
            some (.transport sessionId counter ciphertext)) :
      ¬ turn.MalformedConfirmation := by
    intro malformed
    obtain ⟨sessionId, counter, ciphertext, isTransport⟩ :=
      malformed.isTransport
    exact notTransport sessionId counter ciphertext isTransport
  cases decoded : Auth.decodePacket turn.frame with
  | none =>
      refine iff_of_true (announced_of_ignored ?_)
        (notMalformed (by simp [decoded]))
      unfold outcome Engine.processInboundTransport
      rw [decoded]
  | some packet =>
      cases packet with
      | handshake kind handshakeId message =>
          refine iff_of_true ?_ (notMalformed (by simp [decoded]))
          cases kind with
          | handshakeInit =>
              exact announced_initiation decoded
          | handshakeResponse =>
              exact announced_response decoded
          | transport =>
              refine announced_of_ignored ?_
              unfold outcome Engine.processInboundTransport
              rw [decoded]
      | transport sessionId counter ciphertext =>
          have installs :=
            SessionState.decryptTransport_installs distinct sessionId counter
              ciphertext turn.now
          generalize isResult :
            (turn.before.sessions.decryptTransport sessionId counter
              ciphertext turn.now).1 = result at installs
          cases installs with
          | nothing notPromoted kept =>
              subst isResult
              refine iff_of_true
                (announced_transport_of_nothing decoded notPromoted kept) ?_
              intro malformed
              obtain ⟨decrypted, isDecrypted, promoted⟩ :=
                malformed.promotes distinct decoded
              rw [notPromoted decrypted isDecrypted] at promoted
              cases promoted
          | candidate held sameId unexpired opened fresh installed others =>
              exact announced_iff_of_candidate distinct decoded held sameId
                unexpired opened fresh installed others

end InboundTurn

/-- Receiving frames leads from one reachable engine to another. -/
theorem InboundStep.reachable
    {localStatic : Key}
    {router : Router}
    {before after : Engine snow}
    {turn : InboundTurn snow}
    (step : InboundStep before turn after)
    (reachable : Engine.Reachable localStatic router before) :
    Engine.Reachable localStatic router after := by
  cases step with
  | receive =>
      exact reachable.perform
        (.processInboundTransport turn.frame turn.source turn.draws turn.now
          turn.clock)

/-- Where no confirmation is malformed every installed session is announced. -/
theorem inbound_frames_announced_iff
    {localStatic : Key}
    {router : Router}
    {engine final : Engine snow}
    {turns : List (InboundTurn snow)}
    (reachable : Engine.Reachable localStatic router engine)
    (execution : Execution InboundStep engine turns final) :
    (∀ turn ∈ turns, turn.Announced) ↔
      ∀ turn ∈ turns, ¬ turn.MalformedConfirmation := by
  have invariant :
      Engine.Reachable localStatic router final ∧
        ∀ turn ∈ turns,
          (turn.Announced ↔ ¬ turn.MalformedConfirmation) := by
    refine execution.invariant
      (fun turns state =>
        Engine.Reachable localStatic router state ∧
          ∀ turn ∈ turns,
            (turn.Announced ↔ ¬ turn.MalformedConfirmation))
      ⟨reachable, by simp⟩ ?_
    rintro events middle event next _ ⟨middleReachable, earlier⟩ step
    refine ⟨step.reachable middleReachable, ?_⟩
    intro turn member
    rcases List.mem_append.mp member with before | isLast
    · exact earlier turn before
    · cases List.mem_singleton.mp isLast
      cases step
      exact InboundTurn.announced_iff middleReachable.distinctIds
  exact forall₂_congr invariant.2

namespace AnnouncementExample

open AgreementExample

/-- The first packet of the initiator, which is data but no IPv4 packet. -/
def frame : Bytes :=
  Auth.encodeTransport (.fill 8) 0
    ([Auth.MsgType.data.toU8] ++
      PlainNoise.tag NonceExample.key.flip 0)

/-- The responder receives it after it answered the initiation. -/
def turn : InboundTurn PlainNoise.snow where
  before := answered
  frame := frame
  source := endpoint
  draws := draws
  now := 0
  clock := 0

theorem before_reachable :
    Engine.Reachable (localStatic .second) (router .second) turn.before := by
  have reachable :
      Engine.Reachable (localStatic .second) (router .second) answered :=
    Engine.Reachable.start.perform answer
  simpa only [turn] using reachable

/-- The session becomes active and the call fails. -/
theorem turn_installs :
    turn.before.sessions.activeSessionId "first" = none ∧
      turn.after.sessions.activeSessionId "first" = some (.fill 8) ∧
      announcementsFor "first" turn.outcome.1 = [] := by
  decide +kernel

end AnnouncementExample

open AnnouncementExample in
/-- A frame that is received alone is announced unless it is malformed. -/
theorem inbound_frames_announced_iff_example :
    (∀ received ∈ [turn], received.Announced) ↔
      ∀ received ∈ [turn], ¬ received.MalformedConfirmation :=
  inbound_frames_announced_iff before_reachable (.single (.receive turn))

open AnnouncementExample in
/-- A session is installed by a frame whose call announces nothing. -/
theorem inbound_frame_unannounced :
    ∃ localStatic router,
      Engine.Reachable localStatic router turn.before ∧
        Execution InboundStep turn.before [turn] turn.after ∧
        turn.Installs "first" ∧
        announcementsFor "first" turn.outcome.1 = [] ∧
        ¬ turn.Announced := by
  obtain ⟨idle, installed, silent⟩ := turn_installs
  have installs : turn.Installs "first" := by
    unfold InboundTurn.Installs
    rw [idle, installed]
    simp
  refine ⟨_, _, before_reachable, .single (.receive turn), installs, silent,
    ?_⟩
  intro announced
  have single := (announced "first").1 installs
  rw [silent] at single
  cases single

end HushWire

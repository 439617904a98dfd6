import HushWire.Authentication
import HushWire.EndpointSelection
import HushWire.LinkRun

namespace HushWire

open Noise

/-!
# Redelivered initiations

An initiation that was answered is answered alike as long as its response is
cached.  `PeerEntry.Paired` says of every reachable entry that a cached
response which can still be returned has its candidate beside it;
`PeerEntry.Repeats` is the state of a peer whose initiation was answered, and
every operation that does not end the exchange preserves it.
-/

variable {snow : Snow}

/-! ## A redelivered initiation verifies as before -/

/--
Whether a response can be written, and ends the handshake, does not depend on
the key pair and the identifier that are drawn for it.
-/
def Snow.AnswersAlike (snow : Snow) : Prop :=
  ∀ {state final : snow.HandshakeState}
    {ephemeral other : snow.Ephemeral}
    {sessionId otherId : SessionId}
    {response : Bytes}
    {transport : snow.StatelessTransportState},
    snow.writeHandshake state ephemeral sessionId.bytes maxNoiseMessageSize =
        .ok (response, final) →
      snow.intoStatelessTransportMode final = .ok transport →
      ∃ otherResponse otherFinal otherTransport,
        snow.writeHandshake state other otherId.bytes maxNoiseMessageSize =
            .ok (otherResponse, otherFinal) ∧
          snow.intoStatelessTransportMode otherFinal = .ok otherTransport

theorem responderRespond_alike
    (alike : snow.AnswersAlike)
    {localStatic expectedRemoteStatic psk : Key}
    {handshakeId : SessionId}
    {message : Bytes}
    {draw : Draw snow}
    {clock : Instant}
    {answer : ResponderHandshake snow}
    (answered :
      responderRespond localStatic expectedRemoteStatic psk handshakeId
        message draw clock = .ok answer)
    (otherDraw : Draw snow)
    (otherClock : Instant) :
    ∃ other,
      responderRespond localStatic expectedRemoteStatic psk handshakeId
        message otherDraw otherClock = .ok other := by
  obtain ⟨fresh, opened, final, response, transport, built, read, remote,
    written, ended, _⟩ := responderRespond_ok answered
  obtain ⟨otherResponse, otherFinal, otherTransport, otherWritten,
    otherEnded⟩ :=
    @alike _ _ _ otherDraw.ephemeral _ otherDraw.id _ _ written ended
  refine ⟨
    { message := otherResponse
      session := Session.new otherDraw.id otherTransport otherClock }, ?_⟩
  simp [responderRespond, fromSnow, built, read, remote, otherWritten,
    otherEnded, bind, Except.bind, pure, Except.pure]

namespace Engine

theorem decodeHandshakeInitFrom_alike
    (alike : snow.AnswersAlike)
    {engine other : Engine snow}
    (sameKey : other.localStatic = engine.localStatic)
    {handshakeId : SessionId}
    {message : Bytes}
    {draws : PeerName → Draw snow}
    {clock : Instant}
    {routes : List Route}
    {checked : List PeerName}
    {peerName : PeerName}
    {handshake : ResponderHandshake snow}
    (decoded :
      engine.decodeHandshakeInitFrom handshakeId message draws clock routes
        checked = some (peerName, handshake))
    (otherDraws : PeerName → Draw snow)
    (otherClock : Instant) :
    ∃ otherHandshake,
      other.decodeHandshakeInitFrom handshakeId message otherDraws otherClock
        routes checked = some (peerName, otherHandshake) := by
  induction routes generalizing checked with
  | nil =>
      cases decoded
  | cons route rest inductionHypothesis =>
      unfold decodeHandshakeInitFrom at decoded ⊢
      by_cases isChecked : route.peer.name ∈ checked
      · rw [if_pos isChecked] at decoded ⊢
        exact inductionHypothesis decoded
      · rw [if_neg isChecked] at decoded ⊢
        rw [sameKey]
        cases responded :
            responderRespond engine.localStatic route.peer.publicKey
              route.peer.psk handshakeId message (draws route.peer.name)
              clock with
        | ok answer =>
            obtain ⟨otherAnswer, otherResponded⟩ :=
              responderRespond_alike alike responded
                (otherDraws route.peer.name) otherClock
            rw [responded] at decoded
            rw [otherResponded]
            cases decoded
            exact ⟨otherAnswer, rfl⟩
        | error error =>
            rw [responded] at decoded
            cases otherResponded :
                responderRespond engine.localStatic route.peer.publicKey
                  route.peer.psk handshakeId message
                  (otherDraws route.peer.name) otherClock with
            | ok otherAnswer =>
                obtain ⟨answer, succeeded⟩ :=
                  responderRespond_alike alike otherResponded
                    (draws route.peer.name) clock
                cases responded.symm.trans succeeded
            | error otherError =>
                exact inductionHypothesis decoded

/-- The initiation verifies for the same peer, whatever is drawn. -/
theorem decodeHandshakeInit_alike
    (alike : snow.AnswersAlike)
    {engine other : Engine snow}
    (sameKey : other.localStatic = engine.localStatic)
    (sameRouter : other.router = engine.router)
    {handshakeId : SessionId}
    {message : Bytes}
    {draws : PeerName → Draw snow}
    {clock : Instant}
    {peerName : PeerName}
    {handshake : ResponderHandshake snow}
    (decoded :
      engine.decodeHandshakeInit handshakeId message draws clock =
        some (peerName, handshake))
    (otherDraws : PeerName → Draw snow)
    (otherClock : Instant) :
    ∃ otherHandshake,
      other.decodeHandshakeInit handshakeId message otherDraws otherClock =
        some (peerName, otherHandshake) := by
  unfold decodeHandshakeInit at decoded ⊢
  rw [sameRouter]
  exact decodeHandshakeInitFrom_alike alike sameKey decoded otherDraws
    otherClock

end Engine

/-! ## A cached response and its candidate -/

/-- The candidate that was stored with a cached response. -/
def CachedResponderHandshake.HeldBy
    (cached : CachedResponderHandshake)
    (candidate : Option (Session snow)) :
    Prop :=
  ∃ session,
    candidate = some session ∧
      session.createdAt = cached.createdAt ∧
      session.sendCounter ≠ u64Max

/-- A cached response that can no longer be returned. -/
def CachedResponderHandshake.Stale
    (cached : CachedResponderHandshake)
    (time : Instant) :
    Prop :=
  handshakeCacheLifetime ≤ time - cached.createdAt

/-- A candidate outlives the response that is cached for it. -/
theorem CachedResponderHandshake.not_isExpired
    {cached : CachedResponderHandshake}
    {session : Session snow}
    {time : Instant}
    (sameAge : session.createdAt = cached.createdAt)
    (unused : session.sendCounter ≠ u64Max)
    (young : ¬ cached.Stale time) :
    session.isExpired time = false := by
  have outlives : handshakeCacheLifetime ≤ rejectAfterTime := by decide
  have notRejected : ¬ rejectAfterTime ≤ time - session.createdAt := by
    rw [sameAge]
    exact fun rejected => young (outlives.trans rejected)
  simp [Session.isExpired, notRejected, unused]

/-- Nothing that is dropped takes a candidate from a usable response. -/
theorem Drops.keeps_candidate
    {peerName : PeerName}
    {operation : Operation snow}
    {before after : PeerEntry snow}
    {cached : CachedResponderHandshake}
    (drops : Drops peerName operation before after)
    (isCached : before.cached = some cached)
    (held : cached.HeldBy before.candidate)
    (young : ∀ time, operation.time = some time → ¬ cached.Stale time) :
    after.candidate = before.candidate := by
  obtain ⟨session, isCandidate, sameAge, unused⟩ := held
  rcases drops.candidate with
    same | ⟨now, isTime, expired, isExpired, gone⟩ |
      ⟨_, clock, stored, isTime, isStored, lapsed⟩
  · exact same
  · cases isCandidate.symm.trans isExpired
    rw [cached.not_isExpired sameAge unused (young now isTime)] at gone
    cases gone.1
  · cases isCached.symm.trans isStored
    exact absurd lapsed (young clock isTime)

/-- What was stale stays stale. -/
theorem CachedResponderHandshake.Stale.mono
    {cached : CachedResponderHandshake}
    {earlier later : Instant}
    (stale : cached.Stale earlier)
    (notEarlier : earlier ≤ later) :
    cached.Stale later :=
  le_trans stale (Nat.sub_le_sub_right notEarlier cached.createdAt)

/-- A candidate that is stored was made by the answer that stores it. -/
def Operation.AnswersFresh (operation : Operation snow) : Prop :=
  ∀ {peerName handshake handshakeId message passivePeer clock},
    operation =
        .answer peerName handshake handshakeId message passivePeer clock →
      handshake.session.createdAt = clock ∧
        handshake.session.sendCounter ≠ u64Max

theorem responderRespond_fresh
    {localStatic expectedRemoteStatic psk : Key}
    {handshakeId : SessionId}
    {message : Bytes}
    {draw : Draw snow}
    {clock : Instant}
    {answer : ResponderHandshake snow}
    (answered :
      responderRespond localStatic expectedRemoteStatic psk handshakeId
        message draw clock = .ok answer) :
    answer.session.createdAt = clock ∧
      answer.session.sendCounter ≠ u64Max := by
  obtain ⟨_, _, _, _, _, _, _, _, _, _, rfl⟩ := responderRespond_ok answered
  exact ⟨rfl, show (0 : UInt64) ≠ u64Max by decide⟩

theorem Engine.operations_answersFresh
    {engine : Engine snow}
    {call : EngineCall snow}
    {operation : Operation snow}
    (member : operation ∈ engine.operations call) :
    operation.AnswersFresh := by
  intro peerName handshake handshakeId message passivePeer clock isAnswer
  obtain ⟨_, _, _, _, responded⟩ :=
    operations_computed member .first engine.sessions _ _ _ _ _ _ isAnswer
  exact responderRespond_fresh responded

namespace PeerEntry

/-- A cached response that can be returned by `bound` has its candidate. -/
def Paired (entry : PeerEntry snow) (bound : Instant) : Prop :=
  ∀ cached,
    entry.cached = some cached →
    ¬ cached.Stale bound →
    cached.HeldBy entry.candidate

variable
  {peerName : PeerName}
  {operation : Operation snow}
  {before after : PeerEntry snow}
  {bound : Instant}

theorem Paired.drops
    (paired : before.Paired bound)
    (drops : Drops peerName operation before after)
    (notLater : ∀ time, operation.time = some time → time ≤ bound) :
    after.Paired bound := by
  intro cached isCached young
  have wasCached := drops.cached_some isCached
  have held := paired cached wasCached young
  rw [drops.keeps_candidate wasCached held]
  · exact held
  · intro time isTime stale
    exact young (stale.mono (notLater time isTime))

/-- Decrypting with the candidate keeps it the candidate of its response. -/
theorem heldBy_decrypt
    {cached : CachedResponderHandshake}
    {session : Session snow}
    {entry : PeerEntry snow}
    (isCandidate : entry.candidate = some session)
    (held : cached.HeldBy entry.candidate)
    (sessionId : SessionId)
    (counter : UInt64)
    (ciphertext : Bytes) :
    cached.HeldBy (some (session.decrypt sessionId counter ciphertext).2) := by
  obtain ⟨_, isHeld, sameAge, unused⟩ := held
  cases isCandidate.symm.trans isHeld
  exact ⟨_, rfl, by simpa using sameAge, by simpa using unused⟩

theorem Paired.does
    {state : SessionState snow}
    {event : PeerEvent snow}
    (paired : before.Paired bound)
    (fresh : operation.AnswersFresh)
    (does : state.Does peerName operation event)
    (taken : PeerStep before event after) :
    after.Paired bound := by
  cases does with
  | encrypt | start | retransmit | abandon =>
      cases taken
      exact paired
  | @decrypt slot =>
      cases taken with
      | decrypt held =>
          intro cached isCached young
          cases slot with
          | active | previous =>
              exact paired cached isCached young
          | candidate =>
              exact heldBy_decrypt held (paired cached isCached young) _ _ _
  | promote | finalize | invalidate =>
      cases taken
      rintro cached ⟨⟩
  | store =>
      cases taken
      rintro cached ⟨⟩ _
      exact ⟨_, rfl, fresh rfl⟩

end PeerEntry

/-- Every operation keeps cached responses and candidates together. -/
theorem SessionState.paired_afterOperation
    {state : SessionState snow}
    {peerName : PeerName}
    {operation : Operation snow}
    {bound : Instant}
    (paired : (state.entry peerName).Paired bound)
    (fresh : operation.AnswersFresh)
    (notLater : ∀ time, operation.time = some time → time ≤ bound) :
    ((state.afterOperation operation).entry peerName).Paired bound := by
  generalize isAfter : (state.afterOperation operation).entry peerName = after
  have effect := state.operate_effect operation peerName
  rw [isAfter] at effect
  cases effect with
  | rest drops =>
      exact paired.drops drops notLater
  | event drops does taken _ =>
      exact (paired.drops drops notLater).does fresh does taken

/-! ## A peer whose initiation was answered -/

/-- The exchange with a peer after its initiation was answered. -/
structure PeerEntry.Repeats
    (entry : PeerEntry snow)
    (cached : CachedResponderHandshake)
    (passivePeer : Bool) :
    Prop where
  stored : entry.cached = some cached
  held : cached.HeldBy entry.candidate
  pending : entry.pending = none
  unpreferred : ¬ (passivePeer = true ∧ entry.prefersInbound)

/--
What ends the exchange that answered an initiation of a peer: its candidate is
confirmed, another initiation of the peer is accepted, an exchange that was
started with the peer is completed, or the peer is discarded.
-/
def Operation.Ends
    (state : SessionState snow)
    (peerName : PeerName)
    (handshakeId : SessionId)
    (message : Bytes) :
    Operation snow → Prop
  | .decrypt sessionId counter ciphertext now =>
      ∃ msgType payload,
        (state.decryptTransport sessionId counter ciphertext now).1 =
          .ok
            (some
              { peerName, msgType, payload,
                promotedResponderSession := true })
  | .answer sender _ otherId otherMessage passivePeer clock =>
      sender = peerName ∧
        (otherId, otherMessage) ≠ (handshakeId, message) ∧
        (state.acceptInboundInitiation peerName otherId passivePeer
          clock).1 = true
  | .finalize otherId response clock =>
      ∃ confirmation,
        (state.finalizeInitiator otherId response clock).1 =
          .ok (some (peerName, confirmation))
  | .invalidate discarded => discarded = peerName
  | .encrypt _ _ _ _ | .start _ _ _ _ _ _ => False

namespace SessionState

variable
  {state : SessionState snow}
  {peerName : PeerName}
  {cached : CachedResponderHandshake}
  {passivePeer : Bool}

/-- Without an attempt of its own a peer accepts every initiation. -/
theorem acceptInboundInitiation_of_repeats
    (repeats : (state.entry peerName).Repeats cached passivePeer)
    (handshakeId : SessionId)
    (clock : Instant) :
    state.acceptInboundInitiation peerName handshakeId passivePeer clock =
      (true, state) := by
  have noAttempt : state.pendingInit.lookup peerName = none :=
    repeats.pending
  have unpreferred :
      ¬ (passivePeer = true ∧
        peerName ∈ state.inboundRecoveryPreference) :=
    repeats.unpreferred
  unfold acceptInboundInitiation dropExpiredPending
  rw [noAttempt]
  dsimp only
  rw [if_neg unpreferred, noAttempt]

/-- The cached response is what a repeated initiation is answered with. -/
theorem answerInitiation_of_repeats
    (repeats : (state.entry peerName).Repeats cached passivePeer)
    {clock : Instant}
    (young : ¬ cached.Stale clock)
    (handshake : ResponderHandshake snow) :
    state.answerInitiation peerName handshake cached.handshakeId
        cached.request passivePeer clock =
      (some cached.response, state) := by
  have isCached : state.responderCache.lookup peerName = some cached :=
    repeats.stored
  have recent : ¬ handshakeCacheLifetime ≤ clock - cached.createdAt := young
  have found :
      state.cachedResponderResponse peerName cached.handshakeId
          cached.request clock =
        (some cached.response, state) := by
    unfold cachedResponderResponse
    rw [isCached]
    dsimp only
    rw [if_neg recent, if_pos ⟨rfl, rfl⟩]
  unfold answerInitiation
  rw [acceptInboundInitiation_of_repeats repeats]
  dsimp only
  rw [if_neg (by decide), found]

end SessionState

namespace PeerEntry

variable
  {peerName : PeerName}
  {operation : Operation snow}
  {before after : PeerEntry snow}
  {cached : CachedResponderHandshake}
  {passivePeer : Bool}

theorem Repeats.drops
    (repeats : before.Repeats cached passivePeer)
    (drops : Drops peerName operation before after)
    (young : ∀ time, operation.time = some time → ¬ cached.Stale time) :
    after.Repeats cached passivePeer := by
  have sameCandidate :=
    drops.keeps_candidate repeats.stored repeats.held young
  obtain ⟨session, isCandidate, _⟩ := repeats.held
  refine ⟨?_, sameCandidate ▸ repeats.held, ?_, ?_⟩
  · exact (drops.cached_of_candidate
      (sameCandidate.trans isCandidate)).trans repeats.stored
  · rcases drops.pending with same | ⟨gone, _⟩
    · exact same.trans repeats.pending
    · exact gone
  · exact fun preferred =>
      repeats.unpreferred ⟨preferred.1, drops.prefersInbound preferred.2⟩

theorem Repeats.does
    {state : SessionState snow}
    {event : PeerEvent snow}
    (repeats : before.Repeats cached passivePeer)
    (idle : (state.entry peerName).pending = none)
    (notAnswer :
      ∀ handshake handshakeId message passive clock,
        operation ≠
          .answer peerName handshake handshakeId message passive clock)
    (goesOn :
      ¬ operation.Ends state peerName cached.handshakeId cached.request)
    (does : state.Does peerName operation event)
    (taken : PeerStep before event after) :
    after.Repeats cached passivePeer := by
  obtain ⟨isCached, held, noAttempt, unpreferred⟩ := repeats
  cases does with
  | encrypt =>
      cases taken
      exact ⟨isCached, held, noAttempt, unpreferred⟩
  | @decrypt slot =>
      cases taken with
      | decrypt isHeld =>
          cases slot with
          | active | previous =>
              exact ⟨isCached, held, noAttempt, unpreferred⟩
          | candidate =>
              exact
                ⟨isCached, heldBy_decrypt isHeld held _ _ _, noAttempt,
                  unpreferred⟩
  | promote _ _ _ promoted =>
      exact absurd ⟨_, _, promoted⟩ goesOn
  | start =>
      obtain ⟨session, isCandidate, _⟩ := held
      cases taken with
      | start _ noCandidate =>
          cases isCandidate.symm.trans noCandidate
  | retransmit =>
      cases taken with
      | retransmit pending =>
          cases noAttempt.symm.trans pending
  | store =>
      exact absurd rfl (notAnswer _ _ _ _ _)
  | finalize matched =>
      cases idle.symm.trans matched.stored
  | abandon matched =>
      cases idle.symm.trans matched.stored
  | invalidate =>
      exact absurd rfl goesOn

end PeerEntry

/-- An operation that does not end the exchange leaves it as it is. -/
theorem SessionState.repeats_afterOperation
    {state : SessionState snow}
    {peerName : PeerName}
    {cached : CachedResponderHandshake}
    {passivePeer : Bool}
    {operation : Operation snow}
    (repeats : (state.entry peerName).Repeats cached passivePeer)
    (young : ∀ time, operation.time = some time → ¬ cached.Stale time)
    (samePassive :
      ∀ handshake handshakeId message passive clock,
        operation =
            .answer peerName handshake handshakeId message passive clock →
          passive = passivePeer)
    (goesOn :
      ¬ operation.Ends state peerName cached.handshakeId cached.request) :
    ((state.afterOperation operation).entry peerName).Repeats cached
      passivePeer := by
  by_cases isAnswer :
      ∃ handshake handshakeId message passive clock,
        operation =
          .answer peerName handshake handshakeId message passive clock
  · obtain ⟨handshake, handshakeId, message, passive, clock, rfl⟩ :=
      isAnswer
    cases samePassive _ _ _ _ _ rfl
    have isSame :
        (handshakeId, message) = (cached.handshakeId, cached.request) := by
      by_contra isOther
      exact goesOn
        ⟨rfl, isOther,
          congrArg Prod.fst (acceptInboundInitiation_of_repeats repeats _ _)⟩
    cases isSame
    have same :
        state.afterOperation
            (.answer peerName handshake cached.handshakeId cached.request
              passivePeer clock) =
          state :=
      congrArg Prod.snd
        (answerInitiation_of_repeats repeats (young clock rfl) handshake)
    rw [same]
    exact repeats
  · have notAnswer :
        ∀ handshake handshakeId message passive clock,
          operation ≠
            .answer peerName handshake handshakeId message passive clock :=
      fun _ _ _ _ _ same => isAnswer ⟨_, _, _, _, _, same⟩
    generalize isAfter :
      (state.afterOperation operation).entry peerName = after
    have effect := state.operate_effect operation peerName
    rw [isAfter] at effect
    cases effect with
    | rest drops =>
        exact repeats.drops drops young
    | event drops does taken _ =>
        exact (repeats.drops drops young).does repeats.pending notAnswer goesOn
          does taken

/-! ## The answer that begins an exchange -/

namespace SessionState

variable
  {state : SessionState snow}
  {peerName : PeerName}
  {handshake : ResponderHandshake snow}
  {handshakeId : SessionId}
  {message response : Bytes}
  {passivePeer : Bool}
  {clock : Instant}

/-- Accepting an initiation leaves neither an attempt nor a preference. -/
theorem entry_of_accepted
    {accepted : SessionState snow}
    (accepts :
      state.acceptInboundInitiation peerName handshakeId passivePeer clock =
        (true, accepted)) :
    (accepted.entry peerName).pending = none ∧
      ¬ (passivePeer = true ∧ (accepted.entry peerName).prefersInbound) ∧
      (accepted.entry peerName).cached = (state.entry peerName).cached ∧
      (accepted.entry peerName).candidate =
        (state.entry peerName).candidate := by
  have idle :=
    state.acceptInboundInitiation_pending peerName handshakeId passivePeer
      clock (congrArg Prod.fst accepts)
  rw [accepts] at idle
  refine ⟨idle, ?_⟩
  have same :
      ∀ time,
        (state.dropExpiredPending peerName time).responderCache =
            state.responderCache ∧
          (state.dropExpiredPending peerName time).responderCandidates =
            state.responderCandidates := by
    intro time
    unfold dropExpiredPending
    split
    · exact ⟨rfl, rfl⟩
    · split <;> exact ⟨rfl, rfl⟩
  obtain ⟨sameCache, sameCandidates⟩ := same clock
  unfold entry
  unfold acceptInboundInitiation at accepts
  dsimp only at accepts
  split at accepts
  · cases accepts
    exact
      ⟨by simp, congrArg (AList.lookup peerName) sameCache,
        congrArg (AList.lookup peerName) sameCandidates⟩
  · rename_i unpreferred
    split at accepts
    · cases accepts
      exact
        ⟨unpreferred, congrArg (AList.lookup peerName) sameCache,
          congrArg (AList.lookup peerName) sameCandidates⟩
    · split at accepts
      · cases accepts
      · cases accepts
        exact
          ⟨unpreferred, congrArg (AList.lookup peerName) sameCache,
            congrArg (AList.lookup peerName) sameCandidates⟩

theorem cachedResponderResponse_preference
    (state : SessionState snow)
    (peerName : PeerName)
    (handshakeId : SessionId)
    (request : Bytes)
    (clock : Instant) :
    (state.cachedResponderResponse peerName handshakeId request
      clock).2.inboundRecoveryPreference =
      state.inboundRecoveryPreference := by
  unfold cachedResponderResponse
  split
  · rfl
  · split
    · rfl
    · split <;> rfl

/-- An answered initiation is repeated from then on. -/
theorem repeats_of_answered
    (paired : (state.entry peerName).Paired clock)
    (fresh :
      handshake.session.createdAt = clock ∧
        handshake.session.sendCounter ≠ u64Max)
    (answered :
      (state.answerInitiation peerName handshake handshakeId message
        passivePeer clock).1 = some response) :
    ∃ createdAt,
      ((state.answerInitiation peerName handshake handshakeId message
          passivePeer clock).2.entry peerName).Repeats
        { handshakeId, request := message, response, createdAt }
        passivePeer := by
  unfold answerInitiation at answered ⊢
  rcases accepts :
    state.acceptInboundInitiation peerName handshakeId passivePeer clock with
    ⟨_ | _, accepted⟩
  · rw [accepts] at answered
    cases answered
  · rw [accepts] at answered
    obtain ⟨idle, unpreferred, sameCached, sameCandidate⟩ :=
      entry_of_accepted accepts
    dsimp only at answered ⊢
    rw [if_neg (by decide)] at answered ⊢
    rcases accepted.cachedResponderResponse_execution peerName handshakeId
        message clock with
      ⟨cached, isCached, rfl, rfl, young, isFound⟩ | ⟨noneFound, _⟩
    · rw [isFound] at answered ⊢
      cases answered
      have held :=
        paired cached (sameCached.symm.trans isCached)
          (Nat.not_le_of_lt young)
      rw [← sameCandidate] at held
      exact ⟨cached.createdAt, isCached, held, idle, unpreferred⟩
    · have samePreference :=
        accepted.cachedResponderResponse_preference peerName handshakeId
          message clock
      rcases looked :
        accepted.cachedResponderResponse peerName handshakeId message clock
        with ⟨found, afterCache⟩
      rw [looked] at answered noneFound samePreference
      cases noneFound
      dsimp only at answered samePreference ⊢
      unfold storeResponderCandidate at answered ⊢
      split at answered
      · cases answered
      · rename_i unused
        cases answered
        rw [if_neg unused]
        refine ⟨clock, ?_, ⟨_, ?_, fresh⟩, ?_, ?_⟩
        · simp [entry]
        · simp [entry]
        · simp [entry]
        · unfold entry
          dsimp only
          rw [samePreference]
          exact unpreferred

end SessionState

/-- The instants that a call reads. -/
def EngineCall.times : EngineCall snow → List Instant
  | .processOutboundIp _ _ now => [now]
  | .processInboundTransport _ _ _ now clock => [now, clock]
  | .initiateHandshake _ _ now => [now]
  | .createKeepalive _ _ _ now => [now]
  | .recordTransportSent _ _ | .invalidatePeer _
  | .updateResolvedEndpoint _ _ => []

/-- An operation reads instants of its call and knows who is passive. -/
structure Operation.Of
    (operation : Operation snow)
    (engine : Engine snow)
    (times : List Instant) :
    Prop where
  time : ∀ time, operation.time = some time → time ∈ times
  passive :
    ∀ peerName handshake handshakeId message passivePeer clock,
      operation =
          .answer peerName handshake handshakeId message passivePeer clock →
        passivePeer = engine.isPassive peerName

namespace Engine

variable {engine : Engine snow} {operation : Operation snow}

theorem initiateOperations_of
    {peer : Peer}
    {draw : Draw snow}
    {now : Instant}
    (member : operation ∈ engine.initiateOperations peer draw now) :
    operation.Of engine [now] := by
  unfold initiateOperations at member
  split at member
  · cases List.mem_singleton.mp member
    exact ⟨fun time isTime => by cases isTime; simp, nofun⟩
  · cases member

theorem outboundOperations_of
    {peer : Peer}
    {msgType : Auth.MsgType}
    {payload : Bytes}
    {draw : Draw snow}
    {now : Instant}
    (member :
      operation ∈ engine.outboundOperations peer msgType payload draw now) :
    operation.Of engine [now] := by
  rcases List.mem_append.mp member with first | inInitiate
  · rcases List.mem_append.mp first with isEncrypt | isInvalidate
    · cases List.mem_singleton.mp isEncrypt
      exact ⟨fun time isTime => by cases isTime; simp, nofun⟩
    · split at isInvalidate
      · cases List.mem_singleton.mp isInvalidate
        exact ⟨nofun, nofun⟩
      · cases isInvalidate
  · exact initiateOperations_of inInitiate

theorem inboundOperations_of
    {draws : PeerName → Draw snow}
    {now clock : Instant}
    {packet : Auth.ParsedPacket}
    (member :
      operation ∈ engine.inboundOperations draws now clock packet) :
    operation.Of engine [now, clock] := by
  cases packet with
  | transport sessionId counter ciphertext =>
      rcases List.mem_append.mp member with isDecrypt | isAcknowledge
      · cases List.mem_singleton.mp isDecrypt
        exact ⟨fun time isTime => by cases isTime; simp, nofun⟩
      · unfold acknowledgeOperations at isAcknowledge
        split at isAcknowledge
        · split at isAcknowledge
          · cases List.mem_singleton.mp isAcknowledge
            exact ⟨fun time isTime => by cases isTime; simp, nofun⟩
          · cases isAcknowledge
        · cases isAcknowledge
  | handshake kind handshakeId message =>
      cases kind with
      | transport =>
          cases member
      | handshakeResponse =>
          cases List.mem_singleton.mp member
          exact ⟨fun time isTime => by cases isTime; simp, nofun⟩
      | handshakeInit =>
          unfold inboundOperations at member
          dsimp only at member
          split at member
          · cases member
          · cases List.mem_singleton.mp member
            refine ⟨fun time isTime => by cases isTime; simp, ?_⟩
            rintro _ _ _ _ _ _ ⟨⟩
            rfl

/-- Every operation of a call is one of it. -/
theorem operations_of
    {call : EngineCall snow}
    (member : operation ∈ engine.operations call) :
    operation.Of engine call.times := by
  cases call with
  | processOutboundIp packet draw now =>
      unfold operations at member
      dsimp only at member
      split at member
      · cases member
      · split at member
        · cases member
        · exact outboundOperations_of member
  | processInboundTransport frame source draws now clock =>
      unfold operations at member
      dsimp only at member
      split at member
      · cases member
      · exact inboundOperations_of member
  | recordTransportSent peerName bytes =>
      cases member
  | invalidatePeer peerName =>
      cases List.mem_singleton.mp member
      exact ⟨nofun, nofun⟩
  | updateResolvedEndpoint peerName endpoint =>
      unfold operations at member
      dsimp only at member
      split at member
      · cases List.mem_singleton.mp member
        exact ⟨nofun, nofun⟩
      · cases member
  | initiateHandshake peerName draw now =>
      unfold operations at member
      dsimp only at member
      split at member
      · cases member
      · exact initiateOperations_of member
  | createKeepalive peerName payload draw now =>
      unfold operations at member
      dsimp only at member
      split at member
      · cases member
      · exact outboundOperations_of member

end Engine

/-! ## Runs -/

namespace SessionState

variable
  {engine : Engine snow}
  {times : List Instant}
  {peerName : PeerName}
  {bound : Instant}

theorem paired_afterOperations
    {state : SessionState snow}
    {operations : List (Operation snow)}
    (ofCall :
      ∀ operation ∈ operations,
        operation.AnswersFresh ∧ operation.Of engine times)
    (notLater : ∀ time ∈ times, time ≤ bound)
    (paired : (state.entry peerName).Paired bound) :
    ((state.afterOperations operations).entry peerName).Paired bound := by
  induction operations generalizing state with
  | nil =>
      exact paired
  | cons operation rest inductionHypothesis =>
      obtain ⟨fresh, isOf⟩ := ofCall operation List.mem_cons_self
      apply inductionHypothesis
      · exact fun other member => ofCall other (List.mem_cons_of_mem _ member)
      · exact paired_afterOperation paired fresh fun time isTime =>
          notLater time (isOf.time time isTime)

theorem repeats_afterOperations
    {state : SessionState snow}
    {cached : CachedResponderHandshake}
    {operations : List (Operation snow)}
    (ofCall : ∀ operation ∈ operations, operation.Of engine times)
    (young : ∀ time ∈ times, ¬ cached.Stale time)
    (goesOn :
      ∀ earlier operation later,
        operations = earlier ++ operation :: later →
        ¬ operation.Ends (state.afterOperations earlier) peerName
          cached.handshakeId cached.request)
    (repeats :
      (state.entry peerName).Repeats cached (engine.isPassive peerName)) :
    ((state.afterOperations operations).entry peerName).Repeats cached
      (engine.isPassive peerName) := by
  induction operations generalizing state with
  | nil =>
      exact repeats
  | cons operation rest inductionHypothesis =>
      have isOf := ofCall operation List.mem_cons_self
      apply inductionHypothesis
      · exact fun other member => ofCall other (List.mem_cons_of_mem _ member)
      · intro earlier other later isRest
        exact goesOn (operation :: earlier) other later (by rw [isRest]; rfl)
      · exact repeats_afterOperation repeats
          (fun time isTime => young time (isOf.time time isTime))
          (fun _ _ _ _ _ isAnswer => isOf.passive _ _ _ _ _ _ isAnswer)
          (goesOn [] operation rest rfl)

end SessionState

/-- The clock does not go back in a run of an engine. -/
def MonotoneClock (turns : List (EngineTurn snow)) : Prop :=
  (turns.flatMap fun turn => turn.call.times).Pairwise (· ≤ ·)

namespace EngineTurn

variable {turn : EngineTurn snow} {peerName : PeerName}

/-- The call ends the exchange that answered an initiation of the peer. -/
def Ends
    (turn : EngineTurn snow)
    (peerName : PeerName)
    (handshakeId : SessionId)
    (message : Bytes) :
    Prop :=
  ∃ earlier operation later,
    turn.before.operations turn.call = earlier ++ operation :: later ∧
      operation.Ends (turn.before.sessions.afterOperations earlier) peerName
        handshakeId message

/-- The call answers an initiation of the peer with a response, and no more. -/
def Answers
    (turn : EngineTurn snow)
    (source : SocketAddr)
    (peerName : PeerName)
    (response : Bytes) :
    Prop :=
  turn.result =
    .ok { actions := [.sendTransport peerName source response], events := [] }

theorem after_router (turn : EngineTurn snow) :
    turn.after.router = turn.before.router :=
  (turn.before.perform_hears turn.call).router

theorem after_localStatic (turn : EngineTurn snow) :
    turn.after.localStatic = turn.before.localStatic :=
  (turn.before.perform_hears turn.call).localStatic

theorem after_isPassive (turn : EngineTurn snow) (peerName : PeerName) :
    turn.after.isPassive peerName = turn.before.isPassive peerName := by
  unfold Engine.isPassive Engine.peer
  rw [turn.after_router]

theorem paired
    {bound : Instant}
    (notLater : ∀ time ∈ turn.call.times, time ≤ bound)
    (paired : (turn.before.sessions.entry peerName).Paired bound) :
    (turn.after.sessions.entry peerName).Paired bound := by
  unfold after
  rw [turn.before.perform_sessions]
  exact SessionState.paired_afterOperations
    (fun operation member =>
      ⟨Engine.operations_answersFresh member, Engine.operations_of member⟩)
    notLater paired

theorem repeats
    {cached : CachedResponderHandshake}
    (young : ∀ time ∈ turn.call.times, ¬ cached.Stale time)
    (goesOn : ¬ turn.Ends peerName cached.handshakeId cached.request)
    (repeats :
      (turn.before.sessions.entry peerName).Repeats cached
        (turn.before.isPassive peerName)) :
    (turn.after.sessions.entry peerName).Repeats cached
      (turn.after.isPassive peerName) := by
  rw [turn.after_isPassive]
  unfold after
  rw [turn.before.perform_sessions]
  refine SessionState.repeats_afterOperations
    (fun operation member => Engine.operations_of member) young ?_ repeats
  intro earlier operation later isOperations ends
  exact goesOn ⟨earlier, operation, later, isOperations, ends⟩

end EngineTurn

/-- Responses that can still be returned have their candidates in every run. -/
theorem paired_of_execution
    {localStatic : Key}
    {router : Router}
    {turns : List (EngineTurn snow)}
    {engine : Engine snow}
    (execution :
      Execution EngineStep (.withRouter localStatic router) turns engine)
    {bound : Instant}
    (notLater :
      ∀ turn ∈ turns, ∀ time ∈ turn.call.times, time ≤ bound)
    (peerName : PeerName) :
    (engine.sessions.entry peerName).Paired bound := by
  refine execution.preserves
    (fun engine => (engine.sessions.entry peerName).Paired bound) ?_ ?_
  · rintro cached ⟨⟩
  · intro middle turn next member paired taken
    cases taken with
    | perform turn =>
        exact turn.paired (notLater turn member) paired

/-- A call reads nothing later than a call after it. -/
theorem MonotoneClock.le
    {earlier later : List (EngineTurn snow)}
    {turn next : EngineTurn snow}
    (monotone : MonotoneClock (earlier ++ next :: later))
    (member : turn ∈ earlier)
    {time bound : Instant}
    (isTime : time ∈ turn.call.times)
    (isBound : bound ∈ next.call.times) :
    time ≤ bound := by
  unfold MonotoneClock at monotone
  rw [List.flatMap_append, List.flatMap_cons, List.pairwise_append] at monotone
  have inEarlier : time ∈ earlier.flatMap fun turn => turn.call.times :=
    List.mem_flatMap.mpr ⟨turn, member, isTime⟩
  exact monotone.2.2 time inEarlier bound (List.mem_append_left _ isBound)

/-- Since when the response that is cached for a peer is cached. -/
def Engine.cachedSince (engine : Engine snow) (peerName : PeerName) :
    Instant :=
  ((engine.sessions.responderCache.lookup peerName).map
    CachedResponderHandshake.createdAt).getD 0

namespace EngineTurn

variable
  {turn : EngineTurn snow}
  {frame message response : Bytes}
  {source : SocketAddr}
  {draws : PeerName → Draw snow}
  {now clock : Instant}
  {handshakeId : SessionId}
  {peerName : PeerName}

/-- An initiation is answered by the peer for which it verifies. -/
theorem Answers.decoded
    (isCall : turn.call = .processInboundTransport frame source draws now clock)
    (isInitiation :
      Auth.decodePacket frame =
        some (.handshake .handshakeInit handshakeId message))
    (answers : turn.Answers source peerName response) :
    ∃ handshake,
      turn.before.decodeHandshakeInit handshakeId message draws clock =
          some (peerName, handshake) ∧
        turn.before.sessions.answerInitiation peerName handshake handshakeId
            message (turn.before.isPassive peerName) clock =
          (some response, turn.after.sessions) := by
  obtain ⟨before, call⟩ := turn
  dsimp only at isCall
  subst isCall
  unfold Answers result at answers
  unfold after
  unfold Engine.perform Engine.processInboundTransport at answers ⊢
  dsimp only at answers ⊢
  rw [isInitiation] at answers ⊢
  dsimp only at answers ⊢
  cases decoded :
      before.decodeHandshakeInit handshakeId message draws clock with
  | none =>
      unfold Engine.processHandshakeInit at answers
      rw [decoded] at answers
      cases answers
  | some found =>
      obtain ⟨sender, handshake⟩ := found
      rw [Engine.processHandshakeInit_answer decoded] at answers
      dsimp only at answers
      rw [Except.ok.injEq, EngineOutput.mk.injEq] at answers
      obtain ⟨action, isAction, isSend⟩ :=
        List.map_eq_singleton_iff.mp answers.1
      cases isSend
      rw [Option.toList_eq_singleton_iff] at isAction
      refine ⟨handshake, rfl, Prod.ext isAction ?_⟩
      rw [Engine.processHandshakeInit_answer decoded]

/-- A peer that repeats its response is answered with it and left alone. -/
theorem answers_of_repeats
    {cached : CachedResponderHandshake}
    (isCall : turn.call = .processInboundTransport frame source draws now clock)
    (isInitiation :
      Auth.decodePacket frame =
        some (.handshake .handshakeInit cached.handshakeId cached.request))
    {handshake : ResponderHandshake snow}
    (decoded :
      turn.before.decodeHandshakeInit cached.handshakeId cached.request draws
        clock = some (peerName, handshake))
    (repeats :
      (turn.before.sessions.entry peerName).Repeats cached
        (turn.before.isPassive peerName))
    (young : ¬ cached.Stale clock) :
    turn.Answers source peerName cached.response ∧
      turn.after = turn.before := by
  obtain ⟨before, call⟩ := turn
  dsimp only at isCall
  subst isCall
  unfold Answers result after Engine.perform Engine.processInboundTransport
  dsimp only at decoded repeats ⊢
  rw [isInitiation]
  dsimp only
  rw [Engine.processHandshakeInit_answer decoded,
    SessionState.answerInitiation_of_repeats repeats young]
  exact ⟨rfl, rfl⟩

end EngineTurn

/-- A peer that repeats its response, in an engine that is still the same. -/
structure Engine.Repeats
    (engine first : Engine snow)
    (peerName : PeerName)
    (cached : CachedResponderHandshake) :
    Prop where
  router : engine.router = first.router
  localStatic : engine.localStatic = first.localStatic
  entry :
    (engine.sessions.entry peerName).Repeats cached
      (engine.isPassive peerName)

/-- As long as the exchange goes on, the peer repeats its response. -/
theorem Engine.Repeats.of_execution
    {first engine final : Engine snow}
    {turns : List (EngineTurn snow)}
    {peerName : PeerName}
    {cached : CachedResponderHandshake}
    (execution : Execution EngineStep engine turns final)
    (young :
      ∀ turn ∈ turns, ∀ time ∈ turn.call.times, ¬ cached.Stale time)
    (goesOn :
      ∀ turn ∈ turns,
        ¬ turn.Ends peerName cached.handshakeId cached.request)
    (repeats : engine.Repeats first peerName cached) :
    final.Repeats first peerName cached := by
  refine execution.preserves
    (fun engine => engine.Repeats first peerName cached) repeats ?_
  intro middle turn next member repeats taken
  cases taken with
  | perform turn =>
      exact
        { router := turn.after_router.trans repeats.router
          localStatic := turn.after_localStatic.trans repeats.localStatic
          entry :=
            turn.repeats (young turn member) (goesOn turn member)
              repeats.entry }

/--
An initiation that was answered is answered alike, to wherever it comes from,
until its exchange ends or the cached response reaches its lifetime; nothing
changes by that.
-/
theorem redelivered_initiation_idempotent
    (alike : snow.AnswersAlike)
    {localStatic : Key}
    {router : Router}
    {earlier later : List (EngineTurn snow)}
    {answering redelivery : EngineTurn snow}
    {frame message response : Bytes}
    {handshakeId : SessionId}
    {peerName : PeerName}
    {firstSource source : SocketAddr}
    {firstDraws draws : PeerName → Draw snow}
    {firstNow firstClock now clock : Instant}
    (isInitiation :
      Auth.decodePacket frame =
        some (.handshake .handshakeInit handshakeId message))
    (execution :
      Execution EngineStep (.withRouter localStatic router)
        (earlier ++ answering :: later) redelivery.before)
    (monotone : MonotoneClock (earlier ++ answering :: later ++ [redelivery]))
    (delivers :
      answering.call =
        .processInboundTransport frame firstSource firstDraws firstNow
          firstClock)
    (answers : answering.Answers firstSource peerName response)
    (goesOn : ∀ turn ∈ later, ¬ turn.Ends peerName handshakeId message)
    (redelivers :
      redelivery.call =
        .processInboundTransport frame source draws now clock)
    (young :
      clock - answering.after.cachedSince peerName <
        handshakeCacheLifetime) :
    redelivery.Answers source peerName response ∧
      redelivery.after = redelivery.before := by
  obtain ⟨handshake, decoded, answered⟩ :=
    answers.decoded delivers isInitiation
  obtain ⟨first, firstRun, rest⟩ := execution.split
  rw [← List.singleton_append] at rest
  obtain ⟨next, answeringRun, laterRun⟩ := rest.split
  cases answeringRun.step_of_singleton
  have firstTimes : firstClock ∈ answering.call.times := by
    rw [delivers]
    simp [EngineCall.times]
  have paired :
      (answering.before.sessions.entry peerName).Paired firstClock := by
    refine paired_of_execution firstRun ?_ peerName
    intro turn member time isTime
    rw [List.append_assoc, List.cons_append] at monotone
    exact monotone.le member isTime firstTimes
  obtain ⟨_, _, _, responded⟩ := Engine.decodeHandshakeInitFrom_some decoded
  obtain ⟨createdAt, begins⟩ :=
    SessionState.repeats_of_answered paired (responderRespond_fresh responded)
      (congrArg Prod.fst answered)
  rw [answered, ← answering.after_isPassive] at begins
  let cached : CachedResponderHandshake :=
    { handshakeId, request := message, response, createdAt }
  have isSince : answering.after.cachedSince peerName = createdAt := by
    have isCached :
        answering.after.sessions.responderCache.lookup peerName =
          some cached :=
      begins.stored
    unfold Engine.cachedSince
    rw [isCached]
    rfl
  rw [isSince] at young
  have recent : ¬ cached.Stale clock := Nat.not_le_of_lt young
  have lastTimes : clock ∈ redelivery.call.times := by
    rw [redelivers]
    simp [EngineCall.times]
  have stillRepeats :
      redelivery.before.Repeats answering.before peerName cached := by
    refine .of_execution laterRun ?_ goesOn
      { router := answering.after_router
        localStatic := answering.after_localStatic
        entry := begins }
    intro turn member time isTime stale
    have inRun : turn ∈ earlier ++ answering :: later :=
      List.mem_append_right _ (List.mem_cons_of_mem _ member)
    exact recent (stale.mono (monotone.le inRun isTime lastTimes))
  obtain ⟨otherHandshake, redecoded⟩ :=
    Engine.decodeHandshakeInit_alike alike stillRepeats.localStatic
      stillRepeats.router decoded draws clock
  exact EngineTurn.answers_of_repeats redelivers isInitiation redecoded
    stillRepeats.entry recent

namespace RedeliveryExample

open AgreementExample
open RoamingExample (roamed)

/-- In the stand-in only the sizes of what is written matter. -/
theorem answersAlike : PlainNoise.snow.AnswersAlike := by
  intro state final ephemeral other sessionId otherId response transport
    written ended
  have sameSize : otherId.bytes.length = sessionId.bytes.length := by
    rw [otherId.size, sessionId.size]
  obtain ⟨isInitiator, localStatic, remoteStatic, psk, prologue,
    initiatorEphemeral, responderEphemeral, request⟩ := state
  cases isInitiator with
  | true =>
      cases remoteStatic with
      | none => cases written
      | some remoteStatic =>
          simp only [PlainNoise.writeHandshake, ↓reduceIte] at written
          split at written
          · rename_i fits
            cases written
            cases responderEphemeral with
            | none => cases ended
            | some responderEphemeral =>
                refine ⟨_, _, _, if_pos ?_, rfl⟩
                simpa [sameSize] using fits
          · cases written
  | false =>
      cases initiatorEphemeral with
      | none => cases written
      | some initiatorEphemeral =>
          simp only [PlainNoise.writeHandshake, Bool.false_eq_true,
            ↓reduceIte, Option.isNone_some] at written
          split at written
          · rename_i fits
            refine ⟨_, _, _, if_pos ?_, rfl⟩
            simpa [sameSize] using fits
          · cases written

def frame : Bytes :=
  sentFrame ((idle .first).perform initiate)

/-- A second later the responder would start a handshake of its own. -/
def retry : EngineCall PlainNoise.snow :=
  .initiateHandshake "first" { id := .fill 9, ephemeral := (6 : UInt8) }
    (fromSecs 1)

def waited : Engine PlainNoise.snow :=
  (answered.perform retry).2

def answering : EngineTurn PlainNoise.snow :=
  ⟨idle .second, answer⟩

def waiting : EngineTurn PlainNoise.snow :=
  ⟨answered, retry⟩

/-- After another second the initiation comes again, from elsewhere. -/
def redelivery : EngineTurn PlainNoise.snow where
  before := waited
  call :=
    .processInboundTransport frame roamed
      (fun _ => { id := .fill 10, ephemeral := (7 : UInt8) }) (fromSecs 2)
      (fromSecs 2)

theorem waited_run :
    Execution EngineStep (idle .second) [answering, waiting] waited :=
  .snoc (.single (.of_call (idle .second) answer)) (.of_call answered retry)

theorem run :
    Execution EngineStep (.withRouter (localStatic .second) (router .second))
      ([] ++ answering :: [waiting]) redelivery.before := by
  simpa only [redelivery, idle, List.nil_append] using waited_run

theorem monotone :
    MonotoneClock ([] ++ answering :: [waiting] ++ [redelivery]) := by
  unfold MonotoneClock
  decide

/-- Starting a handshake ends no exchange. -/
theorem waiting_goesOn
    (handshakeId : SessionId)
    (message : Bytes) :
    ¬ waiting.Ends "first" handshakeId message := by
  rintro ⟨earlier, operation, later, isOperations, ends⟩
  have member : operation ∈ waiting.before.operations retry := by
    have inOperations : operation ∈ earlier ++ operation :: later := by simp
    exact isOperations ▸ inOperations
  unfold retry Engine.operations at member
  dsimp only at member
  split at member
  · cases member
  · unfold Engine.initiateOperations at member
    split at member
    · rw [List.mem_singleton.mp member] at ends
      exact ends
    · cases member

theorem answering_answers :
    answering.Answers endpoint "first"
      (sentFrame ((idle .second).perform answer)) := by
  have succeeds :
      answering.result.toOption =
        some
          { actions :=
              [.sendTransport "first" endpoint
                (sentFrame ((idle .second).perform answer))]
            events := [] } := by
    decide +kernel
  unfold EngineTurn.Answers
  cases isResult : answering.result with
  | error error =>
      rw [isResult] at succeeds
      cases succeeds
  | ok output =>
      rw [isResult] at succeeds
      exact congrArg Except.ok (Option.some.inj succeeds)

end RedeliveryExample

open RedeliveryExample AgreementExample RoamingExample in
/-- The response goes to where the initiation came from the second time. -/
theorem redelivered_initiation_idempotent_example :
    redelivery.Answers roamed "first"
        (sentFrame ((idle .second).perform answer)) ∧
      redelivery.after = redelivery.before := by
  have isInitiation :
      Auth.decodePacket frame =
        some (.handshake .handshakeInit (.fill 7) request) := by
    decide +kernel
  have delivers :
      answering.call = .processInboundTransport frame endpoint draws 0 0 :=
    rfl
  have redelivers :
      redelivery.call =
        .processInboundTransport frame roamed
          (fun _ => { id := .fill 10, ephemeral := (7 : UInt8) })
          (fromSecs 2) (fromSecs 2) :=
    rfl
  have young :
      fromSecs 2 - answering.after.cachedSince "first" <
        handshakeCacheLifetime := by
    decide +kernel
  have goesOn :
      ∀ turn ∈ [waiting], ¬ turn.Ends "first" (.fill 7) request := by
    intro turn member
    rw [List.mem_singleton.mp member]
    exact waiting_goesOn _ _
  exact redelivered_initiation_idempotent answersAlike isInitiation run
    monotone delivers answering_answers goesOn redelivers young

end HushWire

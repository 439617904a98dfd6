import HushWire.Accounts
import HushWire.TickInitiations

namespace HushWire

open Noise

/-!
# When initiations are sent, sent again and replaced

A peer has at most one pending initiation.  It is sent again, byte for byte,
until its lifetime is over or an exchange with the peer ends it, and only then
may another one take its place.  `PendingChange` lists what a call can do to
the pending initiation of a peer; the discipline follows from it over every
run whose clock does not go back and whose identifiers are fresh.
-/

variable {snow : Snow}

/-- The bytes of a framed handshake message that hold its identifier. -/
def Auth.handshakeIdBytes (frame : Bytes) : Bytes :=
  (frame.drop 2).take sessionIdSize

theorem Auth.handshakeIdBytes_encodeHandshake
    (kind : PacketKind)
    (handshakeId : SessionId)
    (message : Bytes) :
    handshakeIdBytes (encodeHandshake kind handshakeId message) =
      handshakeId.bytes := by
  have size : handshakeId.bytes.length = sessionIdSize := handshakeId.size
  exact List.take_left' size

/-! ## What the calls of a run send -/

/-- An initiation that `start_or_retry_handshake` returned, and when. -/
structure SentInitiation where
  time : Instant
  packet : Bytes

namespace Transition

/-- The initiation that the call returns for a peer. -/
def initiation
    (transition : Transition snow)
    (peerName : PeerName) :
    Option SentInitiation :=
  match transition.call, transition.outcome with
  | .startOrRetryHandshake started _ _ _ _ now, .started (.ok (some packet)) =>
      if started = peerName then some ⟨now, packet⟩ else none
  | _, _ => none

/-- The identifier that the call draws for a new initiation of a peer. -/
def drawnId
    (transition : Transition snow)
    (peerName : PeerName) :
    Option SessionId :=
  match transition.call, transition.outcome with
  | .startOrRetryHandshake started _ _ _ draw now,
      .started (.ok (some _)) =>
      if started = peerName ∧
          (transition.before.livePending started now).isNone then
        some draw.id
      else
        none
  | _, _ => none

/--
An answer to the peer, a response of it, the confirmation of a candidate or an
invalidation ends the pending initiation of the peer with an identifier.
-/
def Ends
    (transition : Transition snow)
    (peerName : PeerName)
    (handshakeId : SessionId) :
    Prop :=
  (∃ pending,
      (transition.before.entry peerName).pending = some pending ∧
        pending.handshakeId = handshakeId) ∧
    (transition.after.entry peerName).pending = none ∧
    match transition.call, transition.outcome with
    | .acceptInboundInitiation accepted _ _ _, _ => accepted = peerName
    | .storeResponderCandidate stored _ _ _ _ _, _ => stored = peerName
    | .finalizeInitiator _ _ _, _ => True
    | .decryptTransport _ _ _ _, .decrypted (.ok (some decrypted)) =>
        decrypted.peerName = peerName ∧
          decrypted.promotedResponderSession = true
    | .invalidatePeer invalidated, _ => invalidated = peerName
    | _, _ => False

end Transition

section Starts

variable
  {transition : Transition snow}
  {peerName : PeerName}
  (queried : PeerName)
  {localStatic remoteStaticPub psk : Key}
  {draw : Draw snow}
  {now : Instant}

/-- A start that returns a packet returns it for its own peer. -/
theorem Transition.starts_packet
    {packet : Bytes}
    (isCall :
      transition.call =
        .startOrRetryHandshake peerName localStatic remoteStaticPub psk draw
          now)
    (isOutcome : transition.outcome = .started (.ok (some packet))) :
    transition.initiation queried =
        (if peerName = queried then some ⟨now, packet⟩ else none) ∧
      transition.drawnId queried =
        if peerName = queried ∧
            (transition.before.livePending peerName now).isNone then
          some draw.id
        else
          none := by
  unfold initiation drawnId
  rw [isCall, isOutcome]
  exact ⟨rfl, rfl⟩

/-- A start that returns no packet starts nothing. -/
theorem Transition.starts_nothing
    {result : Except (NoiseError snow) (Option Bytes)}
    (isCall :
      transition.call =
        .startOrRetryHandshake peerName localStatic remoteStaticPub psk draw
          now)
    (isOutcome : transition.outcome = .started result)
    (noPacket : ∀ packet, result ≠ .ok (some packet)) :
    transition.initiation queried = none ∧
      transition.drawnId queried = none := by
  unfold initiation drawnId
  rw [isCall, isOutcome]
  cases result with
  | error error =>
      exact ⟨rfl, rfl⟩
  | ok frame =>
      cases frame with
      | none =>
          exact ⟨rfl, rfl⟩
      | some packet =>
          exact absurd rfl (noPacket packet)

end Starts

/-- The initiations that a run sends to a peer, in order. -/
def initiationsTo
    (run : List (Transition snow))
    (peerName : PeerName) :
    List SentInitiation :=
  run.filterMap fun transition => transition.initiation peerName

/-- The identifiers that a run draws for a peer, in order. -/
def drawnIds
    (run : List (Transition snow))
    (peerName : PeerName) :
    List SessionId :=
  run.filterMap fun transition => transition.drawnId peerName

/-- No identifier is drawn twice for the peer. -/
def FreshIds (run : List (Transition snow)) (peerName : PeerName) : Prop :=
  (drawnIds run peerName).Nodup

/-- The instants that the calls of a run read. -/
def timesOf (run : List (Transition snow)) : List Instant :=
  run.filterMap fun transition => transition.call.time

/-- The clock of a run does not go back. -/
def ClockMonotone (run : List (Transition snow)) : Prop :=
  (timesOf run).Pairwise (· ≤ ·)

/-! ## What a call does to a pending initiation -/

/-- The pending initiation of a peer before and after a call. -/
inductive PendingChange
    (transition : Transition snow)
    (peerName : PeerName) :
    Option (PendingInitiator snow) →
    Option SentInitiation →
    Option (PendingInitiator snow) →
    Prop where
  | kept
      {slot : Option (PendingInitiator snow)} :
      transition.drawnId peerName = none →
      PendingChange transition peerName slot none slot
  /-- The same packet is sent again. -/
  | retransmitted
      {pending : PendingInitiator snow}
      {now : Instant} :
      transition.call.time = some now →
      transition.drawnId peerName = none →
      handshakeRetryInterval ≤ now - pending.lastSent →
      now - pending.createdAt < handshakeAttemptLifetime →
      PendingChange transition peerName (some pending)
        (some ⟨now, pending.packet⟩) (some { pending with lastSent := now })
  /-- A new initiation is sent, with a new identifier. -/
  | started
      {slot : Option (PendingInitiator snow)}
      {handshake : InitiatorHandshake snow}
      {now : Instant} :
      transition.call.time = some now →
      transition.drawnId peerName = some handshake.handshakeId →
      (∀ pending,
        slot = some pending →
        handshakeAttemptLifetime ≤ now - pending.createdAt) →
      PendingChange transition peerName slot
        (some ⟨now, (PendingInitiator.ofHandshake handshake now).packet⟩)
        (some (.ofHandshake handshake now))
  | lapsed
      {pending : PendingInitiator snow}
      {time : Instant} :
      transition.call.time = some time →
      transition.drawnId peerName = none →
      handshakeAttemptLifetime ≤ time - pending.createdAt →
      PendingChange transition peerName (some pending) none none
  | ended
      {pending : PendingInitiator snow} :
      transition.drawnId peerName = none →
      transition.Ends peerName pending.handshakeId →
      PendingChange transition peerName (some pending) none none

/-- A call that is no start either keeps the pending initiation or ends it. -/
theorem PendingChange.of_kept_or_ended
    {transition : Transition snow}
    {peerName : PeerName}
    {slot next : Option (PendingInitiator snow)}
    (silent : transition.initiation peerName = none)
    (noDraw : transition.drawnId peerName = none)
    (change :
      next = slot ∨
        next = none ∧
          ∀ pending,
            slot = some pending →
            transition.Ends peerName pending.handshakeId) :
    PendingChange transition peerName slot (transition.initiation peerName)
      next := by
  rw [silent]
  rcases change with rfl | ⟨rfl, ends⟩
  · exact .kept noDraw
  · cases slot with
    | none =>
        exact .kept noDraw
    | some pending =>
        exact .ended noDraw (ends pending rfl)

namespace SessionState

/-- A new exchange is pending once its first message was written. -/
theorem startHandshake_cases
    (state : SessionState snow)
    {peerName : PeerName}
    {localStatic remoteStaticPub psk : Key}
    {draw : Draw snow}
    {now : Instant}
    {result : Except (NoiseError snow) (Option Bytes) × SessionState snow}
    (isResult :
      state.startHandshake peerName localStatic remoteStaticPub psk draw now =
        result) :
    (∃ error, result = (.error error, state)) ∨
      ∃ handshake,
        initiatorStart localStatic remoteStaticPub psk draw =
            .ok handshake ∧
          result.1 =
            .ok (some (PendingInitiator.ofHandshake handshake now).packet) ∧
          (result.2.entry peerName).pending =
            some (.ofHandshake handshake now) := by
  subst isResult
  unfold startHandshake
  cases drawn : initiatorStart localStatic remoteStaticPub psk draw with
  | error error =>
      exact Or.inl ⟨error, rfl⟩
  | ok handshake =>
      exact Or.inr ⟨handshake, rfl, rfl, by simp [entry]⟩

/-- Where nothing is pending an exchange starts, or nothing happens. -/
theorem startOrRetryHandshake_of_none
    {state : SessionState snow}
    {peerName : PeerName}
    {now : Instant}
    (noPending : state.livePending peerName now = none)
    (localStatic remoteStaticPub psk : Key)
    (draw : Draw snow)
    {result : Except (NoiseError snow) (Option Bytes) × SessionState snow}
    (isResult :
      state.startOrRetryHandshake peerName localStatic remoteStaticPub psk
        draw now = result) :
    ((∀ packet, result.1 ≠ .ok (some packet)) ∧
        (result.2.entry peerName).pending = none) ∨
      ∃ handshake,
        initiatorStart localStatic remoteStaticPub psk draw =
            .ok handshake ∧
          result.1 =
            .ok (some (PendingInitiator.ofHandshake handshake now).packet) ∧
          (result.2.entry peerName).pending =
            some (.ofHandshake handshake now) := by
  have kept := state.entry_dropExpiredPending peerName now peerName
  rw [if_pos rfl] at kept
  have noneKept :
      (state.dropExpiredPending peerName now).pendingInit.lookup peerName =
        none :=
    (congrArg PeerEntry.pending kept).trans noPending
  have started
      {later : SessionState snow}
      (same : later.pendingInit.lookup peerName = none)
      (isStarted :
        later.startHandshake peerName localStatic remoteStaticPub psk draw
          now = result) :
      ((∀ packet, result.1 ≠ .ok (some packet)) ∧
          (result.2.entry peerName).pending = none) ∨
        ∃ handshake,
          initiatorStart localStatic remoteStaticPub psk draw =
              .ok handshake ∧
            result.1 =
              .ok (some (PendingInitiator.ofHandshake handshake now).packet) ∧
            (result.2.entry peerName).pending =
              some (.ofHandshake handshake now) := by
    rcases later.startHandshake_cases isStarted with ⟨error, rfl⟩ | isNew
    · exact Or.inl ⟨by simp, same⟩
    · exact Or.inr isNew
  unfold startOrRetryHandshake at isResult
  dsimp only at isResult
  rw [noneKept] at isResult
  dsimp only at isResult
  split at isResult
  · subst isResult
    exact Or.inl ⟨by simp, by simpa [entry] using noneKept⟩
  · split at isResult
    · exact started (by simpa using noneKept) isResult
    · split at isResult
      · exact started (by simpa using noneKept) isResult
      · subst isResult
        exact Or.inl ⟨by simp, by simpa [entry] using noneKept⟩

/-- What is pending is sent again once the retry interval has passed. -/
theorem startOrRetryHandshake_of_some
    {state : SessionState snow}
    {peerName : PeerName}
    {now : Instant}
    {pending : PendingInitiator snow}
    (live : state.livePending peerName now = some pending)
    (localStatic remoteStaticPub psk : Key)
    (draw : Draw snow)
    {result : Except (NoiseError snow) (Option Bytes) × SessionState snow}
    (isResult :
      state.startOrRetryHandshake peerName localStatic remoteStaticPub psk
        draw now = result) :
    (result.1 = .ok none ∧
        (result.2.entry peerName).pending = some pending) ∨
      handshakeRetryInterval ≤ now - pending.lastSent ∧
        result.1 = .ok (some pending.packet) ∧
        (result.2.entry peerName).pending =
          some { pending with lastSent := now } := by
  have kept := state.entry_dropExpiredPending peerName now peerName
  rw [if_pos rfl] at kept
  have pendingKept :
      (state.dropExpiredPending peerName now).pendingInit.lookup peerName =
        some pending :=
    (congrArg PeerEntry.pending kept).trans live
  unfold startOrRetryHandshake at isResult
  dsimp only at isResult
  rw [pendingKept] at isResult
  dsimp only at isResult
  split at isResult
  · subst isResult
    exact Or.inl ⟨rfl, pendingKept⟩
  · rename_i late
    subst isResult
    exact Or.inr ⟨Nat.not_lt.mp late, rfl, by simp [entry]⟩

/-- What `start_or_retry_handshake` does to the pending initiation. -/
theorem startOrRetryHandshake_pendingChange
    (state : SessionState snow)
    (peerName : PeerName)
    (localStatic remoteStaticPub psk : Key)
    (draw : Draw snow)
    (now : Instant)
    (queried : PeerName) :
    let transition :=
      state.transition
        (.startOrRetryHandshake peerName localStatic remoteStaticPub psk draw
          now)
    PendingChange transition queried (state.entry queried).pending
      (transition.initiation queried)
      (transition.after.entry queried).pending := by
  intro transition
  rcases isResult :
    state.startOrRetryHandshake peerName localStatic remoteStaticPub psk draw
      now with ⟨result, after⟩
  have isOutcome : transition.outcome = .started result := by
    simp [transition, SessionState.transition, perform, isResult]
  have isAfter : transition.after = after := by
    simp [transition, SessionState.transition, afterCall, perform, isResult]
  by_cases isPeer : queried = peerName
  · subst isPeer
    rw [isAfter]
    cases live : state.livePending queried now with
    | some pending =>
        obtain ⟨isPending, young⟩ := Option.filter_eq_some_iff.mp live
        rw [isPending]
        rcases state.startOrRetryHandshake_of_some live localStatic
          remoteStaticPub psk draw isResult with
          ⟨rfl, isKept⟩ | ⟨late, rfl, isKept⟩
        · obtain ⟨silent, noDraw⟩ :=
            Transition.starts_nothing queried rfl isOutcome
              (by simp)
          exact .of_kept_or_ended silent noDraw (Or.inl isKept)
        · obtain ⟨isSent, noDraw⟩ :=
            Transition.starts_packet queried rfl isOutcome
          rw [isSent, isKept, if_pos rfl]
          refine .retransmitted rfl ?_ late (of_decide_eq_true young)
          rw [noDraw]
          simp [transition, SessionState.transition, live]
    | none =>
        have lapsed :
            ∀ pending,
              (state.entry queried).pending = some pending →
              handshakeAttemptLifetime ≤ now - pending.createdAt := by
          intro pending isPending
          unfold livePending at live
          rw [isPending, Option.filter_some] at live
          split at live
          · cases live
          · rename_i old
            exact Nat.not_lt.mp (of_decide_eq_false (Bool.eq_false_of_not_eq_true old))
        rcases state.startOrRetryHandshake_of_none live localStatic
          remoteStaticPub psk draw isResult with
          ⟨noPacket, isNone⟩ | ⟨handshake, drawn, rfl, isNew⟩
        · obtain ⟨silent, noDraw⟩ :=
            Transition.starts_nothing queried rfl isOutcome
              noPacket
          rw [silent, isNone]
          cases isPending : (state.entry queried).pending with
          | none =>
              exact .kept noDraw
          | some pending =>
              exact .lapsed rfl noDraw (lapsed pending isPending)
        · obtain ⟨isSent, isDraw⟩ :=
            Transition.starts_packet queried rfl isOutcome
          rw [isSent, isNew, if_pos rfl]
          refine .started rfl ?_ lapsed
          obtain ⟨_, _, _, _, _, rfl⟩ := initiatorStart_ok drawn
          rw [isDraw]
          simp [transition, SessionState.transition, live]
  · have silent :
        transition.initiation queried = none ∧
          transition.drawnId queried = none := by
      have different : peerName ≠ queried := Ne.symm isPeer
      by_cases noPacket : ∀ packet, result ≠ .ok (some packet)
      · exact Transition.starts_nothing queried rfl isOutcome noPacket
      · push Not at noPacket
        obtain ⟨packet, rfl⟩ := noPacket
        obtain ⟨isSent, isDraw⟩ :=
          Transition.starts_packet queried rfl isOutcome
        rw [isSent, isDraw]
        simp [different]
    refine .of_kept_or_ended silent.1 silent.2 (Or.inl ?_)
    exact congrArg PeerEntry.pending
      (state.startOrRetryHandshake_entry_of_ne isPeer localStatic
        remoteStaticPub psk draw now)

/-- Only the promotion of a candidate touches what is pending. -/
theorem decryptTransport_pendingInit
    (state : SessionState snow)
    (sessionId : SessionId)
    (counter : UInt64)
    (ciphertext : Bytes)
    (now : Instant) :
    (state.decryptTransport sessionId counter ciphertext now).2.pendingInit =
        state.pendingInit ∨
      ∃ decrypted,
        (state.decryptTransport sessionId counter ciphertext now).1 =
            .ok (some decrypted) ∧
          decrypted.promotedResponderSession = true ∧
          (state.decryptTransport sessionId counter ciphertext
              now).2.pendingInit =
            state.pendingInit.erase decrypted.peerName := by
  unfold decryptTransport
  dsimp only
  split
  · exact Or.inl rfl
  · split
    · exact Or.inl rfl
    · split
      · exact Or.inl rfl
      · split
        · exact Or.inl rfl
        · exact Or.inr ⟨_, rfl, rfl, rfl⟩

/-- An answer keeps the pending initiation of its peer or ends it. -/
theorem acceptInboundInitiation_keepsOrEnds
    (state : SessionState snow)
    (peerName : PeerName)
    (remoteHandshakeId : SessionId)
    (passivePeer : Bool)
    (clock : Instant) :
    (∀ queried,
        queried ≠ peerName →
        ((state.acceptInboundInitiation peerName remoteHandshakeId passivePeer
            clock).2.entry queried).pending =
          (state.entry queried).pending) ∧
      (((state.acceptInboundInitiation peerName remoteHandshakeId passivePeer
            clock).2.entry peerName).pending =
          (state.entry peerName).pending ∨
        ((state.acceptInboundInitiation peerName remoteHandshakeId passivePeer
            clock).2.entry peerName).pending =
          none) := by
  have others {queried : PeerName} (different : queried ≠ peerName) :
      (state.dropExpiredPending peerName clock).pendingInit.lookup queried =
        state.pendingInit.lookup queried := by
    have kept := state.entry_dropExpiredPending peerName clock queried
    rw [if_neg different] at kept
    exact congrArg PeerEntry.pending kept
  have kept := state.entry_dropExpiredPending peerName clock peerName
  rw [if_pos rfl] at kept
  have keptPending :
      (state.dropExpiredPending peerName clock).pendingInit.lookup peerName =
        state.livePending peerName clock :=
    congrArg PeerEntry.pending kept
  have lessPending :
      state.livePending peerName clock = (state.entry peerName).pending ∨
        state.livePending peerName clock = none := by
    unfold livePending
    cases (state.entry peerName).pending with
    | none =>
        exact Or.inl rfl
    | some pending =>
        rw [Option.filter_some]
        split
        · exact Or.inl rfl
        · exact Or.inr rfl
  unfold acceptInboundInitiation
  dsimp only
  split
  · exact ⟨fun queried different => by
      simpa [entry, different] using others different,
      Or.inr (by simp [entry])⟩
  · split
    · exact ⟨fun queried different => others different,
        Or.inr (by simpa [entry])⟩
    · split
      · refine ⟨fun queried different => others different, ?_⟩
        simp only [entry]
        rw [keptPending]
        exact lessPending
      · exact ⟨fun queried different => by
          simpa [entry, different] using others different,
          Or.inr (by simp [entry])⟩

/-- A response uses up the pending initiation of one peer at most. -/
theorem finalizeInitiator_pendingInit
    (state : SessionState snow)
    (handshakeId : SessionId)
    (response : Bytes)
    (clock : Instant) :
    (state.finalizeInitiator handshakeId response clock).2.pendingInit =
        state.pendingInit ∨
      ∃ peerName,
        (state.finalizeInitiator handshakeId response clock).2.pendingInit =
          state.pendingInit.erase peerName := by
  unfold finalizeInitiator
  split
  · exact Or.inl rfl
  · rename_i peerName pending _
    refine Or.inr ⟨peerName, ?_⟩
    split
    · rfl
    · dsimp only
      split
      · rfl
      · split <;> rfl

/-- What any call does to the pending initiation of a peer. -/
theorem perform_pendingChange
    (state : SessionState snow)
    (call : Call snow)
    (peerName : PeerName) :
    PendingChange (state.transition call) peerName
      (state.entry peerName).pending
      ((state.transition call).initiation peerName)
      ((state.transition call).after.entry peerName).pending := by
  cases call with
  | startOrRetryHandshake started localStatic remoteStaticPub psk draw now =>
      exact state.startOrRetryHandshake_pendingChange started localStatic
        remoteStaticPub psk draw now peerName
  | encryptForPeer encrypted msgType payload now =>
      refine .of_kept_or_ended rfl rfl (Or.inl ?_)
      simp [transition, afterCall, perform, entry]
  | cachedResponderResponse answered handshakeId request clock =>
      refine .of_kept_or_ended rfl rfl (Or.inl ?_)
      simp [transition, afterCall, perform, entry]
  | decryptTransport sessionId counter ciphertext now =>
      refine .of_kept_or_ended rfl rfl ?_
      rcases state.decryptTransport_pendingInit sessionId counter ciphertext
        now with
        same | ⟨decrypted, isResult, promoted, erased⟩
      · left
        simp [transition, afterCall, perform, entry, same]
      · by_cases isPeer : decrypted.peerName = peerName
        · right
          have isNone :
              ((state.transition
                  (.decryptTransport sessionId counter ciphertext
                    now)).after.entry peerName).pending =
                none := by
            simp [transition, afterCall, perform, entry, erased, isPeer]
          refine ⟨isNone, ?_⟩
          intro pending isPending
          refine ⟨⟨pending, isPending, rfl⟩, isNone, ?_⟩
          simp [transition, perform, isResult, isPeer, promoted]
        · left
          have different : peerName ≠ decrypted.peerName := Ne.symm isPeer
          simp [transition, afterCall, perform, entry, erased, different]
  | storeResponderCandidate stored session handshakeId request response
        clock =>
      refine .of_kept_or_ended rfl rfl ?_
      simp only [transition, afterCall, perform, storeResponderCandidate]
      split
      · exact Or.inl rfl
      · by_cases isPeer : stored = peerName
        · subst isPeer
          have isNone :
              (state.pendingInit.erase stored).lookup stored = none := by
            simp
          exact Or.inr ⟨isNone, fun pending isPending =>
            ⟨⟨pending, isPending, rfl⟩, by simp [entry], rfl⟩⟩
        · have different : peerName ≠ stored := Ne.symm isPeer
          exact Or.inl (by simp [entry, different])
  | acceptInboundInitiation accepted remoteHandshakeId passivePeer clock =>
      refine .of_kept_or_ended rfl rfl ?_
      obtain ⟨others, keepsOrEnds⟩ :=
        state.acceptInboundInitiation_keepsOrEnds accepted remoteHandshakeId
          passivePeer clock
      by_cases isPeer : accepted = peerName
      · subst isPeer
        rcases keepsOrEnds with same | isNone
        · exact Or.inl same
        · exact Or.inr ⟨isNone, fun pending isPending =>
            ⟨⟨pending, isPending, rfl⟩, isNone, rfl⟩⟩
      · exact Or.inl (others peerName (Ne.symm isPeer))
  | finalizeInitiator handshakeId response clock =>
      refine .of_kept_or_ended rfl rfl ?_
      rcases state.finalizeInitiator_pendingInit handshakeId response clock with
        same | ⟨finalized, erased⟩
      · left
        simp [transition, afterCall, perform, entry, same]
      · by_cases isPeer : finalized = peerName
        · subst isPeer
          have isNone :
              ((state.transition
                  (.finalizeInitiator handshakeId response
                    clock)).after.entry finalized).pending =
                none := by
            simp [transition, afterCall, perform, entry, erased]
          exact Or.inr ⟨isNone, fun pending isPending =>
            ⟨⟨pending, isPending, rfl⟩, isNone, trivial⟩⟩
        · have different : peerName ≠ finalized := Ne.symm isPeer
          left
          simp [transition, afterCall, perform, entry, erased, different]
  | invalidatePeer invalidated =>
      refine .of_kept_or_ended rfl rfl ?_
      by_cases isPeer : invalidated = peerName
      · subst isPeer
        have isNone :
            ((state.transition (.invalidatePeer invalidated)).after.entry
                invalidated).pending =
              none := by
          simp [transition, afterCall, perform, entry, invalidatePeer]
        exact Or.inr ⟨isNone, fun pending isPending =>
          ⟨⟨pending, isPending, rfl⟩, isNone, rfl⟩⟩
      · have different : peerName ≠ invalidated := Ne.symm isPeer
        left
        simp [transition, afterCall, perform, entry, invalidatePeer,
          different]

end SessionState

/-- What a step of a run does to the pending initiation of a peer. -/
theorem ManagerStep.pendingChange
    {state next : SessionState snow}
    {transition : Transition snow}
    (step : ManagerStep state transition next)
    (peerName : PeerName) :
    PendingChange transition peerName (state.entry peerName).pending
      (transition.initiation peerName) (next.entry peerName).pending := by
  have sameEntry :
      state.entry peerName = transition.before.entry peerName :=
    congrFun step.sameEntries.table_eq peerName
  have isTransition :
      transition.before.transition transition.call = transition := by
    obtain ⟨before, call, outcome, after⟩ := transition
    have isResult : before.perform call = (outcome, after) := step.performed
    simp [SessionState.transition, SessionState.afterCall, isResult]
  have change :=
    transition.before.perform_pendingChange transition.call peerName
  rw [isTransition] at change
  rw [sameEntry, step.next_eq]
  exact change

/-! ## The discipline over a run -/

/-- Two initiations with one identifier are the same packet, sent in time. -/
def SentInitiation.Spaced (earlier later : SentInitiation) : Prop :=
  Auth.handshakeIdBytes earlier.packet =
      Auth.handshakeIdBytes later.packet →
    earlier.packet = later.packet ∧
      earlier.time + handshakeRetryInterval ≤ later.time ∧
      later.time < earlier.time + handshakeAttemptLifetime

/-- The identifier of an initiation is never pending again. -/
def Retired
    (run : List (Transition snow))
    (peerName : PeerName)
    (sent : SentInitiation) :
    Prop :=
  (∃ transition ∈ run, ∃ handshakeId,
      handshakeId.bytes = Auth.handshakeIdBytes sent.packet ∧
        transition.Ends peerName handshakeId) ∨
    ∃ first ∈ initiationsTo run peerName, ∃ time ∈ timesOf run,
      first.packet = sent.packet ∧
        first.time + handshakeAttemptLifetime ≤ time

/-- The pending initiation of a peer is the one that was sent last. -/
structure PendingRecord
    (sent : List SentInitiation)
    (pending : PendingInitiator snow) :
    Prop where
  identifier :
    Auth.handshakeIdBytes pending.packet = pending.handshakeId.bytes
  first : ⟨pending.createdAt, pending.packet⟩ ∈ sent
  within :
    ∀ initiation ∈ sent,
      initiation.packet = pending.packet →
      pending.createdAt ≤ initiation.time ∧
        initiation.time ≤ pending.lastSent

/-- What the initiations of a run to a peer say of what is pending for it. -/
structure RetryInvariant
    (run : List (Transition snow))
    (peerName : PeerName)
    (slot : Option (PendingInitiator snow)) :
    Prop where
  spaced : (initiationsTo run peerName).Pairwise SentInitiation.Spaced
  drawn :
    ∀ sent ∈ initiationsTo run peerName,
      ∃ handshakeId ∈ drawnIds run peerName,
        Auth.handshakeIdBytes sent.packet = handshakeId.bytes
  pending :
    ∀ pending,
      slot = some pending →
      PendingRecord (initiationsTo run peerName) pending
  others :
    ∀ sent ∈ initiationsTo run peerName,
      (∃ pending, slot = some pending ∧ pending.packet = sent.packet) ∨
        Retired run peerName sent

/-- What has waited for an interval was sent an interval ago. -/
theorem add_le_of_waited
    {sent interval now : Nat}
    (positive : 0 < interval)
    (waited : interval ≤ now - sent) :
    sent + interval ≤ now := by
  omega

theorem lt_add_of_young
    {created lifetime now : Nat}
    (young : now - created < lifetime) :
    now < created + lifetime := by
  omega

section Snoc

variable
  (run : List (Transition snow))
  (transition : Transition snow)
  (peerName : PeerName)

theorem initiationsTo_snoc :
    initiationsTo (run ++ [transition]) peerName =
      initiationsTo run peerName ++
        (transition.initiation peerName).toList := by
  simp only [initiationsTo, List.filterMap_append, List.filterMap_cons,
    List.filterMap_nil]
  cases transition.initiation peerName <;> rfl

theorem drawnIds_snoc :
    drawnIds (run ++ [transition]) peerName =
      drawnIds run peerName ++ (transition.drawnId peerName).toList := by
  simp only [drawnIds, List.filterMap_append, List.filterMap_cons,
    List.filterMap_nil]
  cases transition.drawnId peerName <;> rfl

theorem timesOf_snoc :
    timesOf (run ++ [transition]) =
      timesOf run ++ transition.call.time.toList := by
  simp only [timesOf, List.filterMap_append, List.filterMap_cons,
    List.filterMap_nil]
  cases transition.call.time <;> rfl

end Snoc

/-- What is retired stays retired. -/
theorem Retired.snoc
    {run : List (Transition snow)}
    {peerName : PeerName}
    {sent : SentInitiation}
    (retired : Retired run peerName sent)
    (transition : Transition snow) :
    Retired (run ++ [transition]) peerName sent := by
  rcases retired with
    ⟨ending, member, ended⟩ | ⟨first, isFirst, time, isTime, late⟩
  · exact Or.inl ⟨ending, List.mem_append_left _ member, ended⟩
  · refine Or.inr ⟨first, ?_, time, ?_, late⟩
    · rw [initiationsTo_snoc]
      exact List.mem_append_left _ isFirst
    · rw [timesOf_snoc]
      exact List.mem_append_left _ isTime

namespace RetryInvariant

variable
  {run : List (Transition snow)}
  {transition : Transition snow}
  {peerName : PeerName}
  {slot next : Option (PendingInitiator snow)}

theorem start (peerName : PeerName) :
    RetryInvariant ([] : List (Transition snow)) peerName none where
  spaced := .nil
  drawn := by
    rintro _ ⟨⟩
  pending := by
    rintro _ ⟨⟩
  others := by
    rintro _ ⟨⟩

/-- Initiations with one identifier are one packet. -/
theorem samePacket
    (invariant : RetryInvariant run peerName slot)
    {first second : SentInitiation}
    (isFirst : first ∈ initiationsTo run peerName)
    (isSecond : second ∈ initiationsTo run peerName)
    (sameId :
      Auth.handshakeIdBytes first.packet =
        Auth.handshakeIdBytes second.packet) :
    first.packet = second.packet := by
  let same (one other : SentInitiation) : Prop :=
    Auth.handshakeIdBytes one.packet = Auth.handshakeIdBytes other.packet →
      one.packet = other.packet
  have symmetric : Std.Symm same :=
    ⟨fun _ _ held sameId => (held sameId.symm).symm⟩
  have pairwise : (initiationsTo run peerName).Pairwise same :=
    invariant.spaced.imp fun spaced sameId => (spaced sameId).1
  exact pairwise.forall_of_forall (fun _ _ _ => rfl) isFirst isSecond sameId

/-- A call that sends nothing to the peer. -/
theorem silent
    (invariant : RetryInvariant run peerName slot)
    (isSilent : transition.initiation peerName = none)
    (kept : next = slot ∨ next = none)
    (retires :
      ∀ pending,
        slot = some pending →
        next = none →
        ∀ sent,
          sent.packet = pending.packet →
          Retired (run ++ [transition]) peerName sent) :
    RetryInvariant (run ++ [transition]) peerName next := by
  have sameSent :
      initiationsTo (run ++ [transition]) peerName =
        initiationsTo run peerName := by
    rw [initiationsTo_snoc, isSilent]
    exact List.append_nil _
  refine
    { spaced := sameSent ▸ invariant.spaced
      drawn := ?_
      pending := ?_
      others := ?_ }
  · intro sent member
    rw [sameSent] at member
    obtain ⟨handshakeId, isDrawn, isId⟩ := invariant.drawn sent member
    refine ⟨handshakeId, ?_, isId⟩
    rw [drawnIds_snoc]
    exact List.mem_append_left _ isDrawn
  · intro pending isPending
    rw [sameSent]
    rcases kept with rfl | rfl
    · exact invariant.pending pending isPending
    · cases isPending
  · intro sent member
    rw [sameSent] at member
    rcases invariant.others sent member with
      ⟨pending, isPending, isPacket⟩ | retired
    · rcases kept with rfl | rfl
      · exact Or.inl ⟨pending, isPending, isPacket⟩
      · exact Or.inr (retires pending isPending rfl sent isPacket.symm)
    · exact Or.inr (retired.snoc transition)

/-- A call that sends the peer an initiation, which is pending afterwards. -/
theorem sends
    (invariant : RetryInvariant run peerName slot)
    {sent : SentInitiation}
    {pending : PendingInitiator snow}
    (isSent : transition.initiation peerName = some sent)
    (isPacket : sent.packet = pending.packet)
    (spaced :
      ∀ earlier ∈ initiationsTo run peerName, earlier.Spaced sent)
    (drawn :
      ∃ handshakeId ∈ drawnIds (run ++ [transition]) peerName,
        Auth.handshakeIdBytes sent.packet = handshakeId.bytes)
    (record :
      PendingRecord (initiationsTo run peerName ++ [sent]) pending)
    (others :
      ∀ earlier ∈ initiationsTo run peerName,
        pending.packet = earlier.packet ∨
          Retired (run ++ [transition]) peerName earlier) :
    RetryInvariant (run ++ [transition]) peerName (some pending) := by
  have isAll :
      initiationsTo (run ++ [transition]) peerName =
        initiationsTo run peerName ++ [sent] := by
    rw [initiationsTo_snoc, isSent]
    rfl
  refine
    { spaced := ?_
      drawn := ?_
      pending := ?_
      others := ?_ }
  · rw [isAll, List.pairwise_append]
    refine ⟨invariant.spaced, List.pairwise_singleton _ _, ?_⟩
    intro earlier member later isLast
    rw [List.mem_singleton.mp isLast]
    exact spaced earlier member
  · rw [isAll]
    intro earlier member
    rcases List.mem_append.mp member with before | isLast
    · obtain ⟨handshakeId, isDrawn, isId⟩ := invariant.drawn earlier before
      refine ⟨handshakeId, ?_, isId⟩
      rw [drawnIds_snoc]
      exact List.mem_append_left _ isDrawn
    · rw [List.mem_singleton.mp isLast]
      exact drawn
  · rintro _ ⟨⟩
    rw [isAll]
    exact record
  · rw [isAll]
    intro earlier member
    rcases List.mem_append.mp member with before | isLast
    · rcases others earlier before with isPending | retired
      · exact Or.inl ⟨pending, rfl, isPending⟩
      · exact Or.inr retired
    · rw [List.mem_singleton.mp isLast]
      exact Or.inl ⟨pending, rfl, isPacket.symm⟩

/-- The pending initiation is sent again. -/
theorem retransmits
    {pending : PendingInitiator snow}
    {now : Instant}
    (invariant : RetryInvariant run peerName (some pending))
    (isSent : transition.initiation peerName = some ⟨now, pending.packet⟩)
    (late : handshakeRetryInterval ≤ now - pending.lastSent)
    (young : now - pending.createdAt < handshakeAttemptLifetime) :
    RetryInvariant (run ++ [transition]) peerName
      (some { pending with lastSent := now }) := by
  have record := invariant.pending pending rfl
  have later : pending.lastSent + handshakeRetryInterval ≤ now :=
    add_le_of_waited (by decide) late
  have within : now < pending.createdAt + handshakeAttemptLifetime :=
    lt_add_of_young young
  have advanced : pending.lastSent ≤ now :=
    Nat.le_trans (Nat.le_add_right _ _) later
  have notEarly : pending.createdAt ≤ now :=
    Nat.le_trans (record.within _ record.first rfl).2 advanced
  refine invariant.sends isSent rfl ?_ ?_ ⟨record.identifier, ?_, ?_⟩ ?_
  · intro earlier member sameId
    have samePacket := invariant.samePacket member record.first sameId
    obtain ⟨notBefore, notAfter⟩ := record.within earlier member samePacket
    refine ⟨samePacket, ?_, ?_⟩
    · exact Nat.le_trans (Nat.add_le_add_right notAfter _) later
    · exact Nat.lt_of_lt_of_le within (Nat.add_le_add_right notBefore _)
  · obtain ⟨handshakeId, isDrawn, isId⟩ := invariant.drawn _ record.first
    refine ⟨handshakeId, ?_, isId⟩
    rw [drawnIds_snoc]
    exact List.mem_append_left _ isDrawn
  · exact List.mem_append_left _ record.first
  · intro initiation member samePacket
    rcases List.mem_append.mp member with before | isLast
    · obtain ⟨notBefore, notAfter⟩ :=
        record.within initiation before samePacket
      exact ⟨notBefore, Nat.le_trans notAfter advanced⟩
    · rw [List.mem_singleton.mp isLast]
      exact ⟨notEarly, Nat.le_refl _⟩
  · intro earlier member
    rcases invariant.others earlier member with
      ⟨_, ⟨⟩, isPacket⟩ | retired
    · exact Or.inl isPacket
    · exact Or.inr (retired.snoc transition)

/-- An identifier that was not drawn before starts a new initiation. -/
theorem starts
    {handshake : InitiatorHandshake snow}
    {now : Instant}
    (invariant : RetryInvariant run peerName slot)
    (isSent :
      transition.initiation peerName =
        some ⟨now, (PendingInitiator.ofHandshake handshake now).packet⟩)
    (isTime : transition.call.time = some now)
    (isDrawn : transition.drawnId peerName = some handshake.handshakeId)
    (fresh : FreshIds (run ++ [transition]) peerName)
    (lapsed :
      ∀ pending,
        slot = some pending →
        handshakeAttemptLifetime ≤ now - pending.createdAt) :
    RetryInvariant (run ++ [transition]) peerName
      (some (.ofHandshake handshake now)) := by
  have isId :
      Auth.handshakeIdBytes
          (PendingInitiator.ofHandshake handshake now).packet =
        handshake.handshakeId.bytes :=
    Auth.handshakeIdBytes_encodeHandshake .handshakeInit _ _
  have unused {earlier : SentInitiation}
      (member : earlier ∈ initiationsTo run peerName) :
      Auth.handshakeIdBytes earlier.packet ≠
        handshake.handshakeId.bytes := by
    intro sameId
    obtain ⟨handshakeId, wasDrawn, isEarlierId⟩ :=
      invariant.drawn earlier member
    rw [isEarlierId] at sameId
    have same : handshakeId = handshake.handshakeId :=
      SessionId.ext sameId
    rw [FreshIds, drawnIds_snoc, isDrawn] at fresh
    exact (List.nodup_append.mp fresh).2.2 handshakeId wasDrawn
      handshake.handshakeId (by simp) same
  refine invariant.sends isSent rfl ?_ ?_ ⟨isId, ?_, ?_⟩ ?_
  · intro earlier member sameId
    exact absurd (sameId.trans isId) (unused member)
  · refine ⟨handshake.handshakeId, ?_, isId⟩
    rw [drawnIds_snoc, isDrawn]
    exact List.mem_append_right _ (by simp)
  · exact List.mem_append_right _ (List.mem_singleton_self _)
  · intro initiation member samePacket
    rcases List.mem_append.mp member with before | isLast
    · rw [← samePacket] at isId
      exact absurd isId (unused before)
    · rw [List.mem_singleton.mp isLast]
      exact ⟨Nat.le_refl _, Nat.le_refl _⟩
  · intro earlier member
    right
    rcases invariant.others earlier member with
      ⟨pending, isPending, isPacket⟩ | retired
    · have record := invariant.pending pending isPending
      refine Or.inr ⟨⟨pending.createdAt, pending.packet⟩, ?_, now, ?_,
        isPacket, add_le_of_waited (by decide) (lapsed pending isPending)⟩
      · rw [initiationsTo_snoc]
        exact List.mem_append_left _ record.first
      · rw [timesOf_snoc, isTime]
        exact List.mem_append_right _ (by simp)
    · exact retired.snoc transition

/-- Every call keeps the invariant. -/
theorem step
    (invariant : RetryInvariant run peerName slot)
    (fresh : FreshIds (run ++ [transition]) peerName)
    (change :
      PendingChange transition peerName slot
        (transition.initiation peerName) next) :
    RetryInvariant (run ++ [transition]) peerName next := by
  generalize isSent : transition.initiation peerName = sent at change
  cases change with
  | kept =>
      refine invariant.silent isSent (Or.inl rfl) ?_
      rintro pending rfl ⟨⟩
  | retransmitted _ _ late young =>
      exact invariant.retransmits isSent late young
  | started isTime isDrawn lapsed =>
      exact invariant.starts isSent isTime isDrawn fresh lapsed
  | @lapsed pending time isTime _ old =>
      refine invariant.silent isSent (Or.inr rfl) ?_
      rintro _ ⟨⟩ _ sent isPacket
      have record := invariant.pending pending rfl
      refine Or.inr ⟨⟨pending.createdAt, pending.packet⟩, ?_, time, ?_,
        isPacket.symm, add_le_of_waited (by decide) old⟩
      · rw [initiationsTo_snoc]
        exact List.mem_append_left _ record.first
      · rw [timesOf_snoc, isTime]
        exact List.mem_append_right _ (List.mem_singleton_self _)
  | ended _ ends =>
      refine invariant.silent isSent (Or.inr rfl) ?_
      rintro _ ⟨⟩ _ sent isPacket
      have record := invariant.pending _ rfl
      refine Or.inl ⟨transition,
        List.mem_append_right _ (List.mem_singleton_self _), _, ?_, ends⟩
      rw [isPacket]
      exact record.identifier.symm

/-- The invariant holds after every run with fresh identifiers. -/
theorem of_execution
    {final : SessionState snow}
    (execution : ManagerRun run final)
    {peerName : PeerName}
    (fresh : FreshIds run peerName) :
    RetryInvariant run peerName (final.entry peerName).pending := by
  have preserved :
      FreshIds run peerName →
        RetryInvariant run peerName (final.entry peerName).pending := by
    refine execution.invariant
      (fun events state =>
        FreshIds events peerName →
          RetryInvariant events peerName (state.entry peerName).pending)
      (fun _ => start peerName) ?_
    intro events middle event next _ held taken freshNext
    have freshBefore : FreshIds events peerName := by
      unfold FreshIds at freshNext ⊢
      rw [drawnIds_snoc] at freshNext
      exact freshNext.of_append_left
    exact (held freshBefore).step freshNext (taken.pendingChange peerName)
  exact preserved fresh

end RetryInvariant

/-- The clock of a run has not passed the instant that its last call reads. -/
theorem ClockMonotone.time_le
    {earlier later : List (Transition snow)}
    {transition : Transition snow}
    (monotone : ClockMonotone (earlier ++ transition :: later))
    {time now : Instant}
    (isTime : time ∈ timesOf earlier)
    (isNow : transition.call.time = some now) :
    time ≤ now := by
  have isLater : now ∈ timesOf (transition :: later) :=
    List.mem_filterMap.mpr ⟨transition, List.mem_cons_self, isNow⟩
  unfold ClockMonotone at monotone
  have isAll :
      timesOf (earlier ++ transition :: later) =
        timesOf earlier ++ timesOf (transition :: later) :=
    List.filterMap_append
  rw [isAll, List.pairwise_append] at monotone
  exact monotone.2.2 time isTime now isLater

/-- `finalize_initiator` finds the pending initiation of the peer. -/
def SessionState.Finalizable
    (state : SessionState snow)
    (peerName : PeerName)
    (handshakeId : SessionId) :
    Prop :=
  ∃ pending, state.Matches handshakeId peerName pending

/--
Initiations of a peer with one identifier are the same bytes, at least a retry
interval apart and within a lifetime.  Another identifier is sent only when the
earlier initiation has reached its lifetime or was ended, and at no time can
two identifiers of a peer be finalized.
-/
theorem handshake_retry_discipline
    {run : List (Transition snow)}
    {final : SessionState snow}
    (execution : ManagerRun run final)
    (monotone : ClockMonotone run)
    {peerName : PeerName}
    (fresh : FreshIds run peerName) :
    (initiationsTo run peerName).Pairwise SentInitiation.Spaced ∧
      (∀ earlier transition later sent previous,
        run = earlier ++ transition :: later →
        transition.initiation peerName = some sent →
        previous ∈ initiationsTo earlier peerName →
        Auth.handshakeIdBytes previous.packet ≠
          Auth.handshakeIdBytes sent.packet →
        (∃ first ∈ initiationsTo earlier peerName,
            first.packet = previous.packet ∧
              first.time + handshakeAttemptLifetime ≤ sent.time) ∨
          ∃ ending ∈ earlier, ∃ handshakeId,
            handshakeId.bytes = Auth.handshakeIdBytes previous.packet ∧
              ending.Ends peerName handshakeId) ∧
      ∀ first second firstId secondId,
        SessionState.SameEntries final first →
        SessionState.SameEntries final second →
        first.Finalizable peerName firstId →
        second.Finalizable peerName secondId →
        firstId = secondId := by
  refine ⟨(RetryInvariant.of_execution execution fresh).spaced, ?_, ?_⟩
  · rintro earlier transition later sent previous rfl isSent isPrevious
      otherId
    rw [List.append_cons] at execution
    obtain ⟨next, upTo, _⟩ := execution.split
    obtain ⟨middle, before, taken⟩ := upTo.last_step
    have freshBefore : FreshIds earlier peerName := by
      unfold FreshIds drawnIds at fresh ⊢
      rw [List.filterMap_append] at fresh
      exact fresh.of_append_left
    have invariant := RetryInvariant.of_execution before freshBefore
    have change := taken.pendingChange peerName
    rw [isSent] at change
    have retired
        {now : Instant}
        (isNow : transition.call.time = some now)
        (isRetired : Retired earlier peerName previous) :
        (∃ first ∈ initiationsTo earlier peerName,
            first.packet = previous.packet ∧
              first.time + handshakeAttemptLifetime ≤ now) ∨
          ∃ ending ∈ earlier, ∃ handshakeId,
            handshakeId.bytes = Auth.handshakeIdBytes previous.packet ∧
              ending.Ends peerName handshakeId := by
      rcases isRetired with ending | ⟨first, isFirst, time, isTime, same, old⟩
      · exact Or.inr ending
      · exact Or.inl ⟨first, isFirst, same,
          Nat.le_trans old (monotone.time_le isTime isNow)⟩
    generalize (next.entry peerName).pending = slot at change
    generalize isSlot : (middle.entry peerName).pending = held at change
    rw [isSlot] at invariant
    cases change with
    | retransmitted isNow =>
        rcases invariant.others previous isPrevious with
          ⟨_, ⟨⟩, isPacket⟩ | isRetired
        · rw [← isPacket] at otherId
          exact absurd rfl otherId
        · exact retired isNow isRetired
    | started isNow _ lapsed =>
        rcases invariant.others previous isPrevious with
          ⟨pending, isPending, isPacket⟩ | isRetired
        · have record := invariant.pending pending isPending
          exact Or.inl ⟨⟨pending.createdAt, pending.packet⟩, record.first,
            isPacket,
            add_le_of_waited (by decide) (lapsed pending isPending)⟩
        · exact retired isNow isRetired
  · rintro first second firstId secondId sameFirst sameSecond
      ⟨firstPending, firstMatches⟩ ⟨secondPending, secondMatches⟩
    have isFirst :
        (final.entry peerName).pending = some firstPending :=
      (congrArg PeerEntry.pending
        (congrFun sameFirst.table_eq peerName)).trans firstMatches.stored
    have isSecond :
        (final.entry peerName).pending = some secondPending :=
      (congrArg PeerEntry.pending
        (congrFun sameSecond.table_eq peerName)).trans secondMatches.stored
    cases isFirst.symm.trans isSecond
    exact firstMatches.sameId.symm.trans secondMatches.sameId

namespace RetryExample

/-- Start or retry a handshake, with an identifier and a key pair. -/
def start (byte : UInt8) (seconds : Nat) : Call PlainNoise.snow :=
  .startOrRetryHandshake "peer" (.fill 1) (.fill 2) (.fill 3)
    { id := .fill byte, ephemeral := byte } (fromSecs seconds)

def first : SessionState PlainNoise.snow :=
  SessionState.new.afterCall (start 7 0)

def second : SessionState PlainNoise.snow :=
  first.afterCall (start 8 5)

/-- An initiation, its repetition and its replacement. -/
def run : List (Transition PlainNoise.snow) :=
  [SessionState.new.transition (start 7 0), first.transition (start 8 5),
    second.transition (start 9 30)]

theorem run_execution : ManagerRun run (second.afterCall (start 9 30)) :=
  .snoc
    (.snoc (.single (.of_perform .new (start 7 0)))
      (.of_perform first (start 8 5)))
    (.of_perform second (start 9 30))

theorem run_monotone : ClockMonotone run := by
  unfold ClockMonotone
  decide +kernel

theorem run_fresh : FreshIds run "peer" := by
  unfold FreshIds
  decide +kernel

end RetryExample

open RetryExample in
/-- The first two of three initiations are one packet. -/
theorem handshake_retry_discipline_example :
    (initiationsTo run "peer").length = 3 ∧
      (initiationsTo run "peer").Pairwise SentInitiation.Spaced := by
  obtain ⟨spaced, _⟩ :=
    handshake_retry_discipline run_execution run_monotone run_fresh
  exact ⟨by decide +kernel, spaced⟩

end HushWire

import HushWire.InboundFrames
import HushWire.Operations

namespace HushWire

open Noise

/-!
# What an operation does to one peer

An operation first drops what has run out and then performs at most one peer
event.  `Drops` bounds the first part, `SessionState.Does` relates the event
to the operation, and `SessionState.operate_effect` joins them.
-/

variable {snow : Snow}

/-- A session whose deadline an operation noticed is gone. -/
def Operation.Expires
    (operation : Operation snow)
    (before after : Option (Session snow)) :
    Prop :=
  ∃ now,
    operation.time = some now ∧
      ∃ session,
        before = some session ∧
          session.isExpired now = true ∧
          after = none

/-- Why an operation gives up a pending initiation before it acts. -/
inductive Releases
    (peerName : PeerName)
    (operation : Operation snow)
    (entry : PeerEntry snow)
    (pending : PendingInitiator snow) :
    Prop where
  | lapsed
      {time : Instant} :
      operation.time = some time →
      handshakeAttemptLifetime ≤ time - pending.createdAt →
      Releases peerName operation entry pending
  | yielded
      {handshake : ResponderHandshake snow}
      {handshakeId : SessionId}
      {message : Bytes}
      {passivePeer : Bool}
      {clock : Instant} :
      operation =
        .answer peerName handshake handshakeId message passivePeer clock →
      ¬ pending.handshakeId ≤ handshakeId →
      Releases peerName operation entry pending
  | recovered
      {handshake : ResponderHandshake snow}
      {handshakeId : SessionId}
      {message : Bytes}
      {clock : Instant} :
      operation = .answer peerName handshake handshakeId message true clock →
      entry.prefersInbound →
      Releases peerName operation entry pending

/-- What an operation may remove from an entry before it acts. -/
structure Drops
    (peerName : PeerName)
    (operation : Operation snow)
    (before after : PeerEntry snow) :
    Prop where
  session :
    after.session = before.session ∨
      operation.Expires before.session after.session
  previous :
    after.previous = before.previous ∨
      operation.Expires before.previous after.previous
  candidate :
    after.candidate = before.candidate ∨
      operation.Expires before.candidate after.candidate ∨
      after.candidate = none ∧
        ∃ clock cached,
          operation.time = some clock ∧
            before.cached = some cached ∧
            handshakeCacheLifetime ≤ clock - cached.createdAt
  cached :
    after.cached = before.cached ∨
      after.cached = none ∧ after.candidate = none
  pending :
    after.pending = before.pending ∨
      after.pending = none ∧
        ∃ pending,
          before.pending = some pending ∧
            Releases peerName operation before pending
  prefersInbound : after.prefersInbound → before.prefersInbound

namespace Drops

variable
  {peerName : PeerName}
  {operation : Operation snow}
  {before after : PeerEntry snow}

theorem refl
    (peerName : PeerName)
    (operation : Operation snow)
    (entry : PeerEntry snow) :
    Drops peerName operation entry entry where
  session := Or.inl rfl
  previous := Or.inl rfl
  candidate := Or.inl rfl
  cached := Or.inl rfl
  pending := Or.inl rfl
  prefersInbound := id

/-- Sessions are removed and never changed. -/
theorem slot_some
    (drops : Drops peerName operation before after)
    (slot : Slot)
    {session : Session snow}
    (held : after.slot slot = some session) :
    before.slot slot = some session := by
  cases slot with
  | active =>
      rcases drops.session with same | ⟨_, _, _, _, _, gone⟩
      · exact same.symm.trans held
      · exact absurd (gone.symm.trans held) (by simp)
  | previous =>
      rcases drops.previous with same | ⟨_, _, _, _, _, gone⟩
      · exact same.symm.trans held
      · exact absurd (gone.symm.trans held) (by simp)
  | candidate =>
      rcases drops.candidate with same | ⟨_, _, _, _, _, gone⟩ | ⟨gone, _⟩
      · exact same.symm.trans held
      · exact absurd (gone.symm.trans held) (by simp)
      · exact absurd (gone.symm.trans held) (by simp)

theorem pending_some
    (drops : Drops peerName operation before after)
    {pending : PendingInitiator snow}
    (stored : after.pending = some pending) :
    before.pending = some pending := by
  rcases drops.pending with same | ⟨gone, _⟩
  · exact same.symm.trans stored
  · exact absurd (gone.symm.trans stored) (by simp)

theorem cached_some
    (drops : Drops peerName operation before after)
    {cached : CachedResponderHandshake}
    (stored : after.cached = some cached) :
    before.cached = some cached := by
  rcases drops.cached with same | ⟨gone, _⟩
  · exact same.symm.trans stored
  · exact absurd (gone.symm.trans stored) (by simp)

/-- A candidate that is still there is still cached. -/
theorem cached_of_candidate
    (drops : Drops peerName operation before after)
    {candidate : Session snow}
    (held : after.candidate = some candidate) :
    after.cached = before.cached := by
  rcases drops.cached with same | ⟨_, gone⟩
  · exact same
  · exact absurd (gone.symm.trans held) (by simp)

end Drops

/-- The events by which an operation drops what has run out. -/
def PeerEvent.DropsIn
    (peerName : PeerName)
    (operation : Operation snow) :
    PeerEvent snow → Prop
  | .expire _ now => operation.time = some now
  | .forgetCached => True
  | .expireCached clock => operation.time = some clock
  | .lapse time => operation.time = some time
  | .yield remoteHandshakeId =>
      ∃ handshake message passivePeer clock,
        operation =
          .answer peerName handshake remoteHandshakeId message passivePeer
            clock
  | .recover =>
      ∃ handshake handshakeId message clock,
        operation =
          .answer peerName handshake handshakeId message true clock
  | _ => False

namespace Drops

/-- A further dropping event keeps within the bounds. -/
theorem step
    {peerName : PeerName}
    {operation : Operation snow}
    {before middle after : PeerEntry snow}
    {event : PeerEvent snow}
    (drops : Drops peerName operation before middle)
    (dropping : event.DropsIn peerName operation)
    (taken : PeerStep middle event after) :
    Drops peerName operation before after := by
  cases taken with
  | @expire slot session now held expired =>
      have gone : operation.Expires (before.slot slot) none :=
        ⟨_, dropping, _, drops.slot_some _ held, expired, rfl⟩
      cases slot with
      | active =>
          exact { drops with session := Or.inr gone }
      | previous =>
          exact { drops with previous := Or.inr gone }
      | candidate =>
          exact
            { drops with
              candidate := Or.inr (Or.inl gone)
              cached := drops.cached.imp_right fun gone => ⟨gone.1, rfl⟩ }
  | forgetCached noCandidate =>
      exact { drops with cached := Or.inr ⟨rfl, noCandidate⟩ }
  | expireCached stored expired =>
      exact
        { drops with
          candidate :=
            Or.inr (Or.inr
              ⟨rfl, _, _, dropping, drops.cached_some stored, expired⟩)
          cached := Or.inr ⟨rfl, rfl⟩ }
  | lapse stored lapsed =>
      exact
        { drops with
          pending :=
            Or.inr
              ⟨rfl, _, drops.pending_some stored, .lapsed dropping lapsed⟩ }
  | yield stored larger =>
      obtain ⟨_, _, _, _, isAnswer⟩ := dropping
      exact
        { drops with
          pending :=
            Or.inr
              ⟨rfl, _, drops.pending_some stored,
                .yielded isAnswer larger⟩ }
  | recover preferred =>
      obtain ⟨_, _, _, _, isAnswer⟩ := dropping
      refine { drops with pending := ?_, prefersInbound := False.elim }
      rcases drops.pending with same | ⟨_, released⟩
      · cases stored : before.pending with
        | none =>
            exact Or.inl rfl
        | some pending =>
            exact Or.inr
              ⟨rfl, pending, rfl,
                .recovered isAnswer (drops.prefersInbound preferred)⟩
      · exact Or.inr ⟨rfl, released⟩
  | start | retransmit | store | finalize | abandon | encrypt | decrypt
  | promote | invalidate =>
      exact dropping.elim

/-- The dropping part of an execution keeps within the bounds. -/
theorem of_execution
    {peerName : PeerName}
    {operation : Operation snow}
    {entry entry' : PeerEntry snow}
    {events : List (PeerEvent snow)}
    (execution : PeerExecution entry events entry')
    (dropping : ∀ event ∈ events, event.DropsIn peerName operation) :
    Drops peerName operation entry entry' :=
  execution.preserves (Drops peerName operation entry)
    (.refl peerName operation entry)
    fun member drops taken => drops.step (dropping _ member) taken

end Drops

namespace SessionState

/-- The event for a peer in which an operation on a state results. -/
inductive Does
    (state : SessionState snow)
    (peerName : PeerName) :
    Operation snow → PeerEvent snow → Prop where
  | encrypt
      {session : Session snow}
      {msgType : Auth.MsgType}
      {payload : Bytes}
      {now : Instant} :
      (state.entry peerName).session = some session →
      session.isExpired now = false →
      Does state peerName (.encrypt peerName msgType payload now)
        (.encrypt session msgType payload now)
  | decrypt
      {slot : Slot}
      {session : Session snow}
      {sessionId : SessionId}
      {counter : UInt64}
      {ciphertext : Bytes}
      {now : Instant} :
      (state.entry peerName).slot slot = some session →
      session.sessionId = sessionId →
      state.located sessionId now = some (peerName, session) →
      Does state peerName (.decrypt sessionId counter ciphertext now)
        (.decrypt slot session counter ciphertext now)
  | promote
      {session : Session snow}
      {sessionId : SessionId}
      {counter : UInt64}
      {ciphertext : Bytes}
      {now : Instant}
      {msgType : Auth.MsgType}
      {payload : Bytes} :
      (state.entry peerName).candidate = some session →
      session.sessionId = sessionId →
      state.located sessionId now = some (peerName, session) →
      (state.decryptTransport sessionId counter ciphertext now).1 =
        .ok
          (some
            { peerName, msgType, payload,
              promotedResponderSession := true }) →
      Does state peerName (.decrypt sessionId counter ciphertext now)
        (.promote session counter ciphertext now)
  | start
      {localStatic remoteStaticPub psk : Key}
      {draw : Draw snow}
      {now : Instant} :
      Does state peerName
        (.start peerName localStatic remoteStaticPub psk draw now)
        (.start localStatic remoteStaticPub psk draw now)
  | retransmit
      {localStatic remoteStaticPub psk : Key}
      {draw : Draw snow}
      {now : Instant} :
      Does state peerName
        (.start peerName localStatic remoteStaticPub psk draw now)
        (.retransmit now)
  | store
      {handshake : ResponderHandshake snow}
      {handshakeId : SessionId}
      {message : Bytes}
      {passivePeer : Bool}
      {clock : Instant} :
      Does state peerName
        (.answer peerName handshake handshakeId message passivePeer clock)
        (.store handshake.session handshakeId message
          (Auth.encodeHandshake .handshakeResponse handshakeId
            handshake.message) clock)
  | finalize
      {handshakeId : SessionId}
      {response : Bytes}
      {clock : Instant}
      {pending : PendingInitiator snow}
      {session : Session snow}
      {confirmation : Bytes} :
      state.Matches handshakeId peerName pending →
      initiatorFinalize pending.state response clock = .ok session →
      (state.finalizeInitiator handshakeId response clock).1 =
        .ok (some (peerName, confirmation)) →
      Does state peerName (.finalize handshakeId response clock)
        (.finalize session response clock)
  | abandon
      {handshakeId : SessionId}
      {response : Bytes}
      {clock : Instant}
      {pending : PendingInitiator snow} :
      state.Matches handshakeId peerName pending →
      Does state peerName (.finalize handshakeId response clock) .abandon
  | invalidate :
      Does state peerName (.invalidate peerName) .invalidate

/-- The entry of a peer after an operation, by what happened to it. -/
inductive Effect
    (state : SessionState snow)
    (operation : Operation snow)
    (peerName : PeerName) :
    PeerEntry snow → Prop where
  /-- Nothing happened but removals. -/
  | rest
      {entry : PeerEntry snow} :
      Drops peerName operation (state.entry peerName) entry →
      Effect state operation peerName entry
  /-- An event followed the removals; a candidate is stored without attempt. -/
  | event
      {middle entry : PeerEntry snow}
      {event : PeerEvent snow} :
      Drops peerName operation (state.entry peerName) middle →
      state.Does peerName operation event →
      PeerStep middle event entry →
      (∀ session handshakeId request response clock,
        event = .store session handshakeId request response clock →
        middle.pending = none) →
      Effect state operation peerName entry

/-- Drops, and after them at most one event, have an effect. -/
theorem Effect.of_drops
    {state after : SessionState snow}
    {operation : Operation snow}
    {peerName : PeerName}
    {drops : List (PeerName × PeerEvent snow)}
    {middle : PeerTable snow}
    (dropRun : TableExecution state.table drops middle)
    (dropping :
      ∀ event ∈ drops,
        event.1 = peerName → event.2.DropsIn peerName operation)
    (acting :
      after.table = middle ∨
        ∃ event,
          TableStep middle event after.table ∧
            (event.1 = peerName →
              state.Does peerName operation event.2 ∧
                ∀ session handshakeId request response clock,
                  event.2 =
                    .store session handshakeId request response clock →
                  (middle peerName).pending = none)) :
    state.Effect operation peerName (after.entry peerName) := by
  have drops :
      Drops peerName operation (state.entry peerName) (middle peerName) := by
    refine .of_execution
      (TableExecution.peerExecution dropRun peerName) ?_
    intro event member
    rw [List.mem_filterMap] at member
    obtain ⟨⟨actor, taken⟩, member, same⟩ := member
    split at same
    · rename_i isPeer
      cases same
      exact dropping _ member isPeer
    · cases same
  rcases acting with rfl | ⟨⟨actor, event⟩, step, does⟩
  · exact .rest drops
  · by_cases isPeer : actor = peerName
    · subst isPeer
      obtain ⟨does, noAttempt⟩ := does rfl
      exact .event drops does step.peerStep noAttempt
    · have same : middle peerName = after.entry peerName :=
        (step.frame (Ne.symm isPeer)).symm
      exact .rest (same ▸ drops)

/-- An execution of drops and at most one event has an effect. -/
theorem Effect.of_execution
    {state after : SessionState snow}
    {operation : Operation snow}
    {peerName : PeerName}
    {drops acts : List (PeerName × PeerEvent snow)}
    (execution : TableExecution state.table (drops ++ acts) after.table)
    (dropping :
      ∀ event ∈ drops,
        event.1 = peerName → event.2.DropsIn peerName operation)
    (acting :
      acts = [] ∨
        ∃ event,
          acts = [event] ∧
            (event.1 = peerName →
              state.Does peerName operation event.2 ∧
                ∀ session handshakeId request response clock,
                  event.2 ≠
                    .store session handshakeId request response clock)) :
    state.Effect operation peerName (after.entry peerName) := by
  obtain ⟨middle, dropRun, actRun⟩ := execution.split
  refine .of_drops dropRun dropping ?_
  rcases acting with rfl | ⟨event, rfl, does⟩
  · exact Or.inl actRun.eq_of_nil
  · refine Or.inr ⟨event, actRun.step_of_singleton, fun isPeer => ?_⟩
    obtain ⟨does, notStore⟩ := does isPeer
    exact ⟨does, fun _ _ _ _ _ isStore =>
      absurd isStore (notStore _ _ _ _ _)⟩

theorem encrypt_effect
    (state : SessionState snow)
    (recipient : PeerName)
    (msgType : Auth.MsgType)
    (payload : Bytes)
    (now : Instant)
    (peerName : PeerName) :
    state.Effect (.encrypt recipient msgType payload now) peerName
      ((state.encryptForPeer recipient msgType payload now).2.entry
        peerName) := by
  obtain ⟨drops, acts, execution, onlyDrops, outcome⟩ :=
    state.encryptForPeer_execution recipient msgType payload now
  refine .of_execution execution ?_ ?_
  · rintro ⟨actor, event⟩ member isPeer
    rcases onlyDrops _ member with isExpire | isExpire
    · cases isExpire
      rfl
    · cases isExpire
      rfl
  · rcases outcome with ⟨_, noAct, _⟩ | ⟨session, active, unexpired, act, _⟩
    · exact Or.inl noAct
    · refine Or.inr ⟨_, act, ?_⟩
      rintro rfl
      exact ⟨.encrypt active unexpired, by simp⟩

theorem decrypt_effect
    (state : SessionState snow)
    (sessionId : SessionId)
    (counter : UInt64)
    (ciphertext : Bytes)
    (now : Instant)
    (peerName : PeerName) :
    state.Effect (.decrypt sessionId counter ciphertext now) peerName
      ((state.decryptTransport sessionId counter ciphertext now).2.entry
        peerName) := by
  obtain ⟨drops, acts, execution, onlyDrops, outcome⟩ :=
    state.decryptTransport_execution sessionId counter ciphertext now
  generalize isResult :
    (state.decryptTransport sessionId counter ciphertext now).1 = result
    at outcome
  refine .of_execution execution ?_ ?_
  · rintro ⟨actor, event⟩ member _
    obtain ⟨slot, isExpire⟩ := onlyDrops _ member
    cases isExpire
    rfl
  · cases outcome with
    | unknown =>
        exact Or.inl rfl
    | inPlace held unexpired sameId located =>
        refine Or.inr ⟨_, rfl, ?_⟩
        rintro rfl
        exact ⟨.decrypt held sameId located, by simp⟩
    | promoted held unexpired sameId located opened =>
        refine Or.inr ⟨_, rfl, ?_⟩
        rintro rfl
        exact ⟨.promote held sameId located isResult, by simp⟩

theorem start_effect
    (state : SessionState snow)
    (recipient : PeerName)
    (localStatic remoteStaticPub psk : Key)
    (draw : Draw snow)
    (now : Instant)
    (peerName : PeerName) :
    state.Effect
      (.start recipient localStatic remoteStaticPub psk draw now) peerName
      ((state.startOrRetryHandshake recipient localStatic remoteStaticPub psk
        draw now).2.entry peerName) := by
  obtain ⟨drops, acts, execution, onlyDrops, outcome⟩ :=
    state.startOrRetryHandshake_execution recipient localStatic
      remoteStaticPub psk draw now
  generalize
    (state.startOrRetryHandshake recipient localStatic remoteStaticPub psk
      draw now).1 = result
    at outcome
  refine .of_execution execution ?_ ?_
  · rintro ⟨actor, event⟩ member _
    rcases onlyDrops _ member with ⟨isLapse, _⟩ | isExpire | isForget | isExpire
    · cases isLapse
      rfl
    · cases isExpire
      rfl
    · cases isForget
      trivial
    · cases isExpire
      rfl
  · cases outcome with
    | waiting | confirming | current =>
        exact Or.inl rfl
    | retransmitted =>
        refine Or.inr ⟨_, rfl, ?_⟩
        rintro rfl
        exact ⟨.retransmit, by simp⟩
    | due _ _ _ started =>
        rcases started with ⟨_, _, noAct, _⟩ | ⟨_, _, act, _⟩
        · exact Or.inl noAct
        · refine Or.inr ⟨_, act, ?_⟩
          rintro rfl
          exact ⟨.start, by simp⟩

theorem finalize_effect
    (state : SessionState snow)
    (handshakeId : SessionId)
    (response : Bytes)
    (clock : Instant)
    (peerName : PeerName) :
    state.Effect (.finalize handshakeId response clock) peerName
      ((state.finalizeInitiator handshakeId response clock).2.entry
        peerName) := by
  obtain ⟨acts, execution, outcome⟩ :=
    state.finalizeInitiator_execution handshakeId response clock
  generalize isResult :
    (state.finalizeInitiator handshakeId response clock).1 = result
    at outcome
  have whole :
      TableExecution state.table ([] ++ acts)
        (state.finalizeInitiator handshakeId response clock).2.table :=
    execution
  refine .of_execution whole (by simp) ?_
  cases outcome with
  | unknown =>
      exact Or.inl rfl
  | abandoned matched =>
      refine Or.inr ⟨_, rfl, ?_⟩
      rintro rfl
      exact ⟨.abandon matched, by simp⟩
  | completed matched completed =>
      refine Or.inr ⟨_, rfl, ?_⟩
      rintro rfl
      exact ⟨.finalize matched completed isResult, by simp⟩

/-- An accepted initiation finds no competing attempt any more. -/
theorem acceptInboundInitiation_pending
    (state : SessionState snow)
    (peerName : PeerName)
    (remoteHandshakeId : SessionId)
    (passivePeer : Bool)
    (clock : Instant)
    (accepted :
      (state.acceptInboundInitiation peerName remoteHandshakeId passivePeer
        clock).1 = true) :
    (state.acceptInboundInitiation peerName remoteHandshakeId passivePeer
      clock).2.pendingInit.lookup peerName = none := by
  unfold acceptInboundInitiation at accepted ⊢
  simp only at accepted ⊢
  split
  · simp
  · rename_i notPreferred
    rw [if_neg notPreferred] at accepted
    split
    · assumption
    · rename_i pending stored
      rw [stored] at accepted
      split
      · rename_i smaller
        simp [smaller] at accepted
      · simp

@[simp] theorem cachedResponderResponse_pendingInit
    (state : SessionState snow)
    (peerName : PeerName)
    (handshakeId : SessionId)
    (request : Bytes)
    (clock : Instant) :
    (state.cachedResponderResponse peerName handshakeId request
      clock).2.pendingInit = state.pendingInit := by
  grind [cachedResponderResponse]

/-- Accepting an initiation gives up an attempt or nothing. -/
theorem accept_drops
    (state : SessionState snow)
    (recipient : PeerName)
    (handshake : ResponderHandshake snow)
    (handshakeId : SessionId)
    (message : Bytes)
    (passivePeer : Bool)
    (clock : Instant) :
    ∃ drops,
      TableExecution state.table drops
          (state.acceptInboundInitiation recipient handshakeId passivePeer
            clock).2.table ∧
        ∀ event ∈ drops,
          event.1 = recipient ∧
            event.2.DropsIn recipient
              (.answer recipient handshake handshakeId message passivePeer
                clock) := by
  obtain ⟨lapses, acts, execution, onlyLapses, outcome⟩ :=
    state.acceptInboundInitiation_execution recipient handshakeId passivePeer
      clock
  refine ⟨_, execution, ?_⟩
  intro event member
  rcases List.mem_append.mp member with lapse | act
  · rw [(onlyLapses _ lapse).1]
    exact ⟨rfl, rfl⟩
  · generalize
      (state.acceptInboundInitiation recipient handshakeId passivePeer
        clock).1 = accepted
      at outcome
    cases outcome with
    | recovered passive =>
        rw [List.mem_singleton.mp act]
        exact ⟨rfl, handshake, handshakeId, message, clock, by rw [passive]⟩
    | uncontested | refused =>
        cases act
    | yielded =>
        rw [List.mem_singleton.mp act]
        exact ⟨rfl, _, _, _, _, rfl⟩

/-- Looking for a cached response drops an expired one or nothing. -/
theorem cached_drops
    (state : SessionState snow)
    (recipient : PeerName)
    (handshake : ResponderHandshake snow)
    (handshakeId : SessionId)
    (message : Bytes)
    (passivePeer : Bool)
    (clock : Instant) :
    ∃ drops,
      TableExecution state.table drops
          (state.cachedResponderResponse recipient handshakeId message
            clock).2.table ∧
        ∀ event ∈ drops,
          event.1 = recipient ∧
            event.2.DropsIn recipient
              (.answer recipient handshake handshakeId message passivePeer
                clock) := by
  rcases state.cachedResponderResponse_execution recipient handshakeId message
      clock with
    ⟨cached, _, _, _, _, hit⟩ | ⟨_, ⟨cached, _, _, execution⟩ | ⟨_, same⟩⟩
  · exact ⟨[], by rw [hit]; exact .nil, by simp⟩
  · refine ⟨_, execution, ?_⟩
    intro event member
    rw [List.mem_singleton.mp member]
    exact ⟨rfl, rfl⟩
  · exact ⟨[], by rw [same]; exact .nil, by simp⟩

/-- An answer gives up an attempt, and then stores a candidate or nothing. -/
theorem answer_drops
    (state : SessionState snow)
    (recipient : PeerName)
    (handshake : ResponderHandshake snow)
    (handshakeId : SessionId)
    (message : Bytes)
    (passivePeer : Bool)
    (clock : Instant) :
    ∃ drops middle,
      TableExecution state.table drops middle ∧
        (∀ event ∈ drops,
          event.1 = recipient ∧
            event.2.DropsIn recipient
              (.answer recipient handshake handshakeId message passivePeer
                clock)) ∧
        ((state.answerInitiation recipient handshake handshakeId message
              passivePeer clock).2.table = middle ∨
          TableStep middle
              (recipient,
                .store handshake.session handshakeId message
                  (Auth.encodeHandshake .handshakeResponse handshakeId
                    handshake.message) clock)
              (state.answerInitiation recipient handshake handshakeId message
                passivePeer clock).2.table ∧
            (middle recipient).pending = none) := by
  obtain ⟨acceptDrops, acceptRun, onlyAccept⟩ :=
    state.accept_drops recipient handshake handshakeId message passivePeer
      clock
  have noAttempt :=
    state.acceptInboundInitiation_pending recipient handshakeId passivePeer
      clock
  unfold answerInitiation
  rcases accepting :
    state.acceptInboundInitiation recipient handshakeId passivePeer clock with
    ⟨accepted, afterAccept⟩
  rw [accepting] at acceptRun noAttempt
  cases accepted with
  | false =>
      exact ⟨acceptDrops, _, acceptRun, onlyAccept, Or.inl rfl⟩
  | true =>
      obtain ⟨cacheDrops, cacheRun, onlyCache⟩ :=
        afterAccept.cached_drops recipient handshake handshakeId message
          passivePeer clock
      refine ⟨acceptDrops ++ cacheDrops, _, acceptRun.append cacheRun, ?_, ?_⟩
      · intro event member
        rcases List.mem_append.mp member with accept | cache
        · exact onlyAccept event accept
        · exact onlyCache event cache
      · have noPending :
            (afterAccept.cachedResponderResponse recipient handshakeId message
              clock).2.pendingInit.lookup recipient = none := by
          rw [cachedResponderResponse_pendingInit]
          exact noAttempt rfl
        simp only [Bool.true_eq_false, ↓reduceIte]
        rcases caching :
          afterAccept.cachedResponderResponse recipient handshakeId message
            clock with ⟨_ | response, afterCache⟩
        · rw [caching] at noPending
          rcases afterCache.storeResponderCandidate_execution recipient
              handshake.session handshakeId message
              (Auth.encodeHandshake .handshakeResponse handshakeId
                handshake.message) clock with
            ⟨_, refused⟩ | ⟨_, _, storeRun⟩
          · simp only [refused]
            exact Or.inl trivial
          · exact Or.inr ⟨storeRun.step_of_singleton, noPending⟩
        · exact Or.inl rfl

theorem answer_effect
    (state : SessionState snow)
    (recipient : PeerName)
    (handshake : ResponderHandshake snow)
    (handshakeId : SessionId)
    (message : Bytes)
    (passivePeer : Bool)
    (clock : Instant)
    (peerName : PeerName) :
    state.Effect
      (.answer recipient handshake handshakeId message passivePeer clock)
      peerName
      ((state.answerInitiation recipient handshake handshakeId message
        passivePeer clock).2.entry peerName) := by
  obtain ⟨drops, middle, dropRun, onlyDrops, same | ⟨step, noPending⟩⟩ :=
    state.answer_drops recipient handshake handshakeId message passivePeer
      clock
  · refine .of_drops dropRun ?_ (Or.inl same)
    rintro event member rfl
    obtain ⟨isRecipient, dropping⟩ := onlyDrops event member
    rw [isRecipient]
    exact dropping
  · refine .of_drops dropRun ?_ (Or.inr ⟨_, step, ?_⟩)
    · rintro event member rfl
      obtain ⟨isRecipient, dropping⟩ := onlyDrops event member
      rw [isRecipient]
      exact dropping
    · rintro rfl
      exact ⟨.store, fun _ _ _ _ _ _ => noPending⟩

/-- Every operation drops what has run out and does at most one event. -/
theorem operate_effect
    (state : SessionState snow)
    (operation : Operation snow)
    (peerName : PeerName) :
    state.Effect operation peerName
      ((state.afterOperation operation).entry peerName) := by
  cases operation with
  | encrypt recipient msgType payload now =>
      exact state.encrypt_effect recipient msgType payload now peerName
  | decrypt sessionId counter ciphertext now =>
      exact state.decrypt_effect sessionId counter ciphertext now peerName
  | start recipient localStatic remoteStaticPub psk draw now =>
      exact state.start_effect recipient localStatic remoteStaticPub psk draw
        now peerName
  | answer recipient handshake handshakeId message passivePeer clock =>
      exact state.answer_effect recipient handshake handshakeId message
        passivePeer clock peerName
  | finalize handshakeId response clock =>
      exact state.finalize_effect handshakeId response clock peerName
  | invalidate recipient =>
      have whole :
          TableExecution state.table ([] ++ [(recipient, .invalidate)])
            (state.invalidatePeer recipient).2.table :=
        state.invalidatePeer_execution recipient
      refine .of_execution whole (by simp) (Or.inr ⟨_, rfl, ?_⟩)
      rintro rfl
      exact ⟨.invalidate, by simp⟩

end SessionState

end HushWire

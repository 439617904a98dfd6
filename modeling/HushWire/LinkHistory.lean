import HushWire.IdealNoise
import HushWire.LinkRun

namespace HushWire

open Noise

/-!
# Where attempts, candidates and frames come from

In every run of two ends, what an end holds for the other was put there by an
act of the run, and every frame between them was first produced when an
attempt started, when it was answered or when a session sealed a message.
-/

variable {snow : Snow}

/-- A pending initiation of a started handshake, whenever it was last sent. -/
structure PendingInitiator.Records
    (pending : PendingInitiator snow)
    (handshake : InitiatorHandshake snow)
    (now : Instant) :
    Prop where
  handshakeId : pending.handshakeId = handshake.handshakeId
  state : pending.state = handshake.state
  packet :
    pending.packet =
      Auth.encodeHandshake .handshakeInit handshake.handshakeId
        handshake.message
  createdAt : pending.createdAt = now

theorem PendingInitiator.records_ofHandshake
    (handshake : InitiatorHandshake snow)
    (now : Instant) :
    (PendingInitiator.ofHandshake handshake now).Records handshake now :=
  ⟨rfl, rfl, rfl, rfl⟩

namespace PeerStep

variable {entry entry' : PeerEntry snow} {event : PeerEvent snow}

/-- An attempt is the old one, sent again perhaps, or has just started. -/
theorem pending_cases
    (step : PeerStep entry event entry')
    {pending : PendingInitiator snow}
    (stored : entry'.pending = some pending) :
    (∃ earlier lastSent,
      entry.pending = some earlier ∧
        pending = { earlier with lastSent }) ∨
      ∃ localStatic remoteStaticPub psk draw now handshake,
        event = .start localStatic remoteStaticPub psk draw now ∧
          initiatorStart localStatic remoteStaticPub psk draw =
            .ok handshake ∧
          pending = .ofHandshake handshake now := by
  cases step with
  | start _ _ _ started =>
      cases stored
      exact Or.inr ⟨_, _, _, _, _, _, rfl, started, rfl⟩
  | retransmit before =>
      cases stored
      exact Or.inl ⟨_, _, before, rfl⟩
  | lapse | yield | recover | store | finalize | abandon | promote
  | invalidate =>
      cases stored
  | @expire slot =>
      exact Or.inl ⟨pending, pending.lastSent, by cases slot <;> exact stored,
        rfl⟩
  | @decrypt slot =>
      exact Or.inl ⟨pending, pending.lastSent, by cases slot <;> exact stored,
        rfl⟩
  | forgetCached | expireCached | encrypt =>
      exact Or.inl ⟨pending, pending.lastSent, stored, rfl⟩

/-- A candidate is the old one with its cached response or was just stored. -/
theorem candidate_cases
    (step : PeerStep entry event entry')
    {candidate : Session snow}
    (held : entry'.candidate = some candidate) :
    (∃ earlier,
      entry.candidate = some earlier ∧
        candidate.Continues earlier ∧
        entry'.cached = entry.cached) ∨
      ∃ handshakeId request response clock,
        event = .store candidate handshakeId request response clock ∧
          entry'.cached =
            some
              { handshakeId, request, response, createdAt := clock } := by
  cases step with
  | store =>
      cases held
      exact Or.inr ⟨_, _, _, _, rfl, rfl⟩
  | expireCached | finalize | promote | invalidate =>
      cases held
  | forgetCached noCandidate =>
      exact absurd (noCandidate.symm.trans held) (by simp)
  | @expire slot =>
      cases slot with
      | candidate =>
          cases held
      | active | previous =>
          exact Or.inl ⟨candidate, held, .refl candidate, rfl⟩
  | @decrypt slot session _ _ _ before =>
      cases slot with
      | candidate =>
          cases held
          exact Or.inl
            ⟨session, before, Session.decrypt_continues _ _ _ _, rfl⟩
      | active | previous =>
          exact Or.inl ⟨candidate, held, .refl candidate, rfl⟩
  | lapse | yield | recover | start | retransmit | abandon | encrypt =>
      exact Or.inl ⟨candidate, held, .refl candidate, rfl⟩

/-- A cached response is the old one or was just stored. -/
theorem cached_cases
    (step : PeerStep entry event entry')
    {cached : CachedResponderHandshake}
    (stored : entry'.cached = some cached) :
    entry.cached = some cached ∨
      ∃ session,
        event =
          .store session cached.handshakeId cached.request cached.response
            cached.createdAt := by
  cases step with
  | store =>
      cases stored
      exact Or.inr ⟨_, rfl⟩
  | forgetCached | expireCached | finalize | promote | invalidate =>
      cases stored
  | @expire slot =>
      exact Or.inl (by cases slot <;> exact stored)
  | @decrypt slot =>
      exact Or.inl (by cases slot <;> exact stored)
  | lapse | yield | recover | start | retransmit | abandon | encrypt =>
      exact Or.inl stored

/-- A session continues one that was held or that the event brought in. -/
theorem slot_continues
    (step : PeerStep entry event entry')
    {slot : Slot}
    {session : Session snow}
    (held : entry'.slot slot = some session) :
    (∃ source earlier,
      entry.slot source = some earlier ∧ session.Continues earlier) ∨
      ∃ introduced,
        event.introduced = some introduced ∧
          session.Continues introduced := by
  rcases step.slot_cases held with
    ⟨_, entered⟩ | ⟨source, earlier, _, before, rfl⟩
  · obtain ⟨introduced, isIntroduced, sameId, sameTransport, sameAge, _⟩ :=
      PeerEvent.entered_eq_some entered
    exact Or.inr
      ⟨introduced, isIntroduced, sameId, sameTransport, sameAge⟩
  · exact Or.inl
      ⟨source, earlier, before, by simp, by simp, by simp⟩

end PeerStep

namespace Act

/-- The act brings a session into the state of its end. -/
def Introduces
    (act : Act snow)
    (peerName : PeerName)
    (session : Session snow) :
    Prop :=
  (∃ handshake handshakeId request,
    act.Stores peerName handshake handshakeId request ∧
      session = handshake.session) ∨
    ∃ pending, act.Finalizes peerName pending session

/-- The act seals a message of the active session into a frame. -/
def Seals
    (act : Act snow)
    (peerName : PeerName)
    (session : Session snow)
    (msgType : Auth.MsgType)
    (payload frame : Bytes) :
    Prop :=
  (session.encrypt msgType payload).1 = .ok frame ∧
    ((∃ now,
        act.operation = .encrypt peerName msgType payload now ∧
          (act.before.entry peerName).session = some session) ∨
      msgType = .keepalive ∧
        payload = Auth.keepaliveProbePayload ∧
        ∃ pending, act.Finalizes peerName pending session)

/-- The state of an act changes as its operation says. -/
theorem effect (act : Act snow) (peerName : PeerName) :
    act.before.Effect act.operation peerName (act.after.entry peerName) :=
  act.before.operate_effect act.operation peerName

/-- A start event is the beginning of an attempt. -/
theorem starts_of_does
    {act : Act snow}
    {peerName : PeerName}
    {localStatic remoteStaticPub psk : Key}
    {draw : Draw snow}
    {now : Instant}
    {handshake : InitiatorHandshake snow}
    (does :
      act.before.Does peerName act.operation
        (.start localStatic remoteStaticPub psk draw now))
    (started :
      initiatorStart localStatic remoteStaticPub psk draw = .ok handshake)
    (pending :
      (act.after.entry peerName).pending =
        some (.ofHandshake handshake now)) :
    act.Starts peerName handshake now := by
  generalize isOperation : act.operation = operation at does
  cases does with
  | start =>
      exact ⟨_, _, _, _, isOperation, started, pending⟩

/-- A store event answers an initiation. -/
theorem stores_of_does
    {act : Act snow}
    {peerName : PeerName}
    {session : Session snow}
    {handshakeId : SessionId}
    {request response : Bytes}
    {clock : Instant}
    (does :
      act.before.Does peerName act.operation
        (.store session handshakeId request response clock))
    (candidate : (act.after.entry peerName).candidate = some session) :
    ∃ handshake,
      act.Stores peerName handshake handshakeId request ∧
        session = handshake.session ∧
        response =
          Auth.encodeHandshake .handshakeResponse handshakeId
            handshake.message := by
  generalize isOperation : act.operation = operation at does
  cases does with
  | @store handshake =>
      exact ⟨handshake, ⟨_, _, isOperation, candidate⟩, rfl, rfl⟩

/-- A finalize event completes an attempt. -/
theorem finalizes_of_does
    {act : Act snow}
    {peerName : PeerName}
    {session : Session snow}
    {response : Bytes}
    {clock : Instant}
    (does :
      act.before.Does peerName act.operation
        (.finalize session response clock)) :
    ∃ pending, act.Finalizes peerName pending session := by
  generalize isOperation : act.operation = operation at does
  cases does with
  | finalize matched completed result =>
      exact ⟨_, _, _, _, _, isOperation, matched, completed, result⟩

end Act

/-- What an end holds for the other was put there by its acts. -/
structure EndHistory
    (side : Side)
    (peerName : PeerName)
    (initial : PeerEntry snow)
    (log : List (Act snow))
    (entry : PeerEntry snow) :
    Prop where
  pending :
    ∀ {pending},
      entry.pending = some pending →
      ∃ act ∈ log,
        act.side = side ∧
          ∃ handshake now,
            act.Starts peerName handshake now ∧
              pending.Records handshake now
  candidate :
    ∀ {candidate},
      entry.candidate = some candidate →
      ∃ cached,
        entry.cached = some cached ∧
          ∃ act ∈ log,
            act.side = side ∧
              ∃ handshake,
                act.Stores peerName handshake cached.handshakeId
                    cached.request ∧
                  candidate.Continues handshake.session
  cached :
    ∀ {cached},
      entry.cached = some cached →
      ∃ act ∈ log,
        act.side = side ∧
          ∃ handshake,
            act.Stores peerName handshake cached.handshakeId
                cached.request ∧
              cached.response =
                Auth.encodeHandshake .handshakeResponse cached.handshakeId
                  handshake.message
  slot :
    ∀ {slot session},
      entry.slot slot = some session →
      (∃ source earlier,
        initial.slot source = some earlier ∧
          session.Continues earlier) ∨
        ∃ act ∈ log,
          act.side = side ∧
            ∃ introduced,
              act.Introduces peerName introduced ∧
                session.Continues introduced

/-- A peer with which no handshake has begun. -/
structure PeerEntry.NoHandshake (entry : PeerEntry snow) : Prop where
  pending : entry.pending = none
  candidate : entry.candidate = none
  cached : entry.cached = none

namespace EndHistory

variable
  {side : Side}
  {peerName : PeerName}
  {initial entry : PeerEntry snow}
  {log : List (Act snow)}

theorem nil (fresh : initial.NoHandshake) :
    EndHistory side peerName initial [] initial where
  pending stored := by
    rw [fresh.pending] at stored
    cases stored
  candidate held := by
    rw [fresh.candidate] at held
    cases held
  cached stored := by
    rw [fresh.cached] at stored
    cases stored
  slot held := Or.inl ⟨_, _, held, .refl _⟩

theorem append
    (history : EndHistory side peerName initial log entry)
    (later : List (Act snow)) :
    EndHistory side peerName initial (log ++ later) entry where
  pending stored := by
    obtain ⟨act, member, rest⟩ := history.pending stored
    exact ⟨act, List.mem_append_left _ member, rest⟩
  candidate held := by
    obtain ⟨cached, stored, act, member, rest⟩ := history.candidate held
    exact ⟨cached, stored, act, List.mem_append_left _ member, rest⟩
  cached stored := by
    obtain ⟨act, member, rest⟩ := history.cached stored
    exact ⟨act, List.mem_append_left _ member, rest⟩
  slot held := by
    rcases history.slot held with atStart | ⟨act, member, rest⟩
    · exact Or.inl atStart
    · exact Or.inr ⟨act, List.mem_append_left _ member, rest⟩

/-- Removals leave nothing that was not there. -/
theorem drops
    {operation : Operation snow}
    {after : PeerEntry snow}
    (history : EndHistory side peerName initial log entry)
    (drops : Drops peerName operation entry after) :
    EndHistory side peerName initial log after where
  pending stored := history.pending (drops.pending_some stored)
  candidate held := by
    obtain ⟨cached, stored, rest⟩ :=
      history.candidate (drops.slot_some .candidate held)
    exact ⟨cached, (drops.cached_of_candidate held).trans stored, rest⟩
  cached stored := history.cached (drops.cached_some stored)
  slot held := history.slot (drops.slot_some _ held)

/-- An event puts in place only what its act accounts for. -/
theorem event
    {act : Act snow}
    {event : PeerEvent snow}
    (history : EndHistory side peerName initial log entry)
    (isSide : act.side = side)
    (does : act.before.Does peerName act.operation event)
    (step : PeerStep entry event (act.after.entry peerName)) :
    EndHistory side peerName initial (log ++ [act])
      (act.after.entry peerName) where
  pending stored := by
    rcases step.pending_cases stored with
      ⟨earlier, lastSent, before, rfl⟩ |
      ⟨_, _, _, _, now, handshake, rfl, started, rfl⟩
    · obtain ⟨origin, member, ofSide, handshake, now, starts, records⟩ :=
        history.pending before
      exact ⟨origin, List.mem_append_left _ member, ofSide, handshake, now,
        starts,
        ⟨records.handshakeId, records.state, records.packet,
          records.createdAt⟩⟩
    · exact ⟨act, by simp, isSide, handshake, now,
        Act.starts_of_does does started stored,
        PendingInitiator.records_ofHandshake handshake now⟩
  candidate held := by
    rcases step.candidate_cases held with
      ⟨earlier, before, continues, sameCached⟩ |
      ⟨handshakeId, request, response, clock, rfl, isCached⟩
    · obtain ⟨cached, stored, origin, member, ofSide, handshake, stores,
        origins⟩ := history.candidate before
      exact ⟨cached, sameCached.trans stored, origin,
        List.mem_append_left _ member, ofSide, handshake, stores,
        continues.trans origins⟩
    · obtain ⟨handshake, stores, rfl, _⟩ := Act.stores_of_does does held
      exact ⟨_, isCached, act, by simp, isSide, handshake, stores, .refl _⟩
  cached {cached} stored := by
    rcases step.cached_cases stored with before | ⟨session, rfl⟩
    · obtain ⟨origin, member, rest⟩ := history.cached before
      exact ⟨origin, List.mem_append_left _ member, rest⟩
    · have held : (act.after.entry peerName).candidate = some session := by
        generalize act.after.entry peerName = final at step
        cases step
        rfl
      obtain ⟨handshake, stores, _, isResponse⟩ :=
        Act.stores_of_does does held
      exact ⟨act, by simp, isSide, handshake, stores, isResponse⟩
  slot held := by
    rcases step.slot_continues held with
      ⟨source, earlier, before, continues⟩ |
      ⟨introduced, isIntroduced, continues⟩
    · rcases history.slot before with
        ⟨source, first, atStart, origins⟩ |
        ⟨origin, member, ofSide, introduced, introduces, origins⟩
      · exact Or.inl ⟨source, first, atStart, continues.trans origins⟩
      · exact Or.inr
          ⟨origin, List.mem_append_left _ member, ofSide, introduced,
            introduces, continues.trans origins⟩
    · refine Or.inr ⟨act, by simp, isSide, introduced, ?_, continues⟩
      cases event with
      | store session handshakeId request response clock =>
          cases isIntroduced
          have stored :
              (act.after.entry peerName).candidate = some introduced := by
            generalize act.after.entry peerName = final at step
            cases step
            rfl
          obtain ⟨handshake, stores, rfl, _⟩ := Act.stores_of_does does stored
          exact Or.inl ⟨handshake, _, _, stores, rfl⟩
      | finalize session response clock =>
          cases isIntroduced
          exact Or.inr (Act.finalizes_of_does does)
      | _ =>
          cases isIntroduced

/-- The history of an end grows with its own acts. -/
theorem snoc
    {act : Act snow}
    (history :
      EndHistory side peerName initial log (act.before.entry peerName))
    (isSide : act.side = side) :
    EndHistory side peerName initial (log ++ [act])
      (act.after.entry peerName) := by
  have effect := act.effect peerName
  generalize isAfter : act.after.entry peerName = after at effect
  cases effect with
  | rest dropped =>
      exact (history.drops dropped).append [act]
  | event dropped does step =>
      rw [← isAfter] at step ⊢
      exact (history.drops dropped).event isSide does step

end EndHistory

namespace LinkRun

variable
  {names : Side → PeerName}
  {initial ends : Side → SessionState snow}
  {log : List (Act snow)}

/-- In every run both ends have the history of their acts. -/
theorem history
    (run : LinkRun names initial log ends)
    (fresh : ∀ side, ((initial side).entry (names side)).NoHandshake)
    (side : Side) :
    EndHistory side (names side) ((initial side).entry (names side)) log
      ((ends side).entry (names side)) := by
  induction run with
  | nil =>
      exact .nil (fresh side)
  | @snoc log ends act run isBefore computed genuine inductionHypothesis =>
      by_cases isSide : side = act.side
      · subst isSide
        rw [Function.update_self]
        exact (isBefore ▸ inductionHypothesis).snoc rfl
      · rw [Function.update_of_ne isSide]
        exact inductionHypothesis.append [act]

end LinkRun

/-- Where a frame that an act produces comes from. -/
inductive FrameOrigin
    (act : Act snow)
    (peerName : PeerName)
    (frame : Bytes) :
    Prop where
  | sealed
      {session : Session snow}
      {msgType : Auth.MsgType}
      {payload : Bytes} :
      act.Seals peerName session msgType payload frame →
      FrameOrigin act peerName frame
  | started
      {handshake : InitiatorHandshake snow}
      {now : Instant} :
      act.Starts peerName handshake now →
      frame =
        Auth.encodeHandshake .handshakeInit handshake.handshakeId
          handshake.message →
      FrameOrigin act peerName frame
  | pending
      {pending : PendingInitiator snow} :
      (act.before.entry peerName).pending = some pending →
      frame = pending.packet →
      FrameOrigin act peerName frame
  | stored
      {handshake : ResponderHandshake snow}
      {handshakeId : SessionId}
      {request : Bytes} :
      act.Stores peerName handshake handshakeId request →
      frame =
        Auth.encodeHandshake .handshakeResponse handshakeId
          handshake.message →
      FrameOrigin act peerName frame
  | cached
      {cached : CachedResponderHandshake} :
      (act.before.entry peerName).cached = some cached →
      frame = cached.response →
      FrameOrigin act peerName frame

namespace SessionState

@[simp] theorem acceptInboundInitiation_responderCache
    (state : SessionState snow)
    (peerName : PeerName)
    (remoteHandshakeId : SessionId)
    (passivePeer : Bool)
    (clock : Instant) :
    (state.acceptInboundInitiation peerName remoteHandshakeId passivePeer
      clock).2.responderCache = state.responderCache := by
  grind [acceptInboundInitiation, dropExpiredPending]

/-- An answer is a cached response or that of the candidate just stored. -/
theorem answerInitiation_some
    {state : SessionState snow}
    {peerName : PeerName}
    {handshake : ResponderHandshake snow}
    {handshakeId : SessionId}
    {message response : Bytes}
    {passivePeer : Bool}
    {clock : Instant}
    (answered :
      (state.answerInitiation peerName handshake handshakeId message
        passivePeer clock).1 = some response) :
    (∃ cached,
      (state.entry peerName).cached = some cached ∧
        response = cached.response) ∨
      ((state.answerInitiation peerName handshake handshakeId message
            passivePeer clock).2.entry peerName).candidate =
          some handshake.session ∧
        response =
          Auth.encodeHandshake .handshakeResponse handshakeId
            handshake.message := by
  have keptCache :=
    state.acceptInboundInitiation_responderCache peerName handshakeId
      passivePeer clock
  unfold answerInitiation at answered ⊢
  rcases accepting :
    state.acceptInboundInitiation peerName handshakeId passivePeer clock with
    ⟨_ | _, afterAccept⟩
  · simp [accepting] at answered
  · rw [accepting] at keptCache
    simp only [accepting, Bool.true_eq_false, ↓reduceIte] at answered ⊢
    rcases afterAccept.cachedResponderResponse_execution peerName handshakeId
        message clock with
      ⟨cached, stored, _, _, _, hit⟩ | ⟨missed, _⟩
    · simp only [hit, Option.some.injEq] at answered
      left
      refine ⟨cached, ?_, answered.symm⟩
      rw [← stored, entry, entry, ← keptCache]
    · rcases caching :
        afterAccept.cachedResponderResponse peerName handshakeId message
          clock with ⟨found, afterCache⟩
      rw [caching] at missed
      simp only at missed
      subst missed
      right
      simp only [caching] at answered ⊢
      unfold storeResponderCandidate at answered ⊢
      split at answered
      · simp at answered
      · rename_i notInUse
        simp only [↓reduceIte, Option.some.injEq] at answered
        exact ⟨by simp [notInUse, entry], answered.symm⟩

end SessionState

/-- Every frame of an act comes from one of five places. -/
theorem Act.frame_origin
    {act : Act snow}
    {peerName : PeerName}
    {frame : Bytes}
    (produced : (peerName, frame) ∈ act.frames) :
    FrameOrigin act peerName frame := by
  obtain ⟨side, before, operation⟩ := act
  cases operation with
  | encrypt recipient msgType payload now =>
      obtain ⟨drops, acts, _, _, outcome⟩ :=
        before.encryptForPeer_execution recipient msgType payload now
      simp only [Act.frames, SessionState.operate, Prod.map] at produced
      rcases outcome with
        ⟨_, _, result⟩ | ⟨session, active, _, _, result⟩
      · rw [result] at produced
        cases produced
      · rw [result] at produced
        cases sealed : (session.encrypt msgType payload).1 with
        | error error =>
            rw [sealed] at produced
            cases produced
        | ok ciphertext =>
            rw [sealed] at produced
            simp only [Except.map, SessionState.framesFor,
              List.mem_singleton, Prod.mk.injEq] at produced
            obtain ⟨rfl, rfl⟩ := produced
            exact .sealed ⟨sealed, Or.inl ⟨now, rfl, active⟩⟩
  | decrypt | invalidate =>
      cases produced
  | start recipient localStatic remoteStaticPub psk draw now =>
      obtain ⟨drops, acts, execution, _, outcome⟩ :=
        before.startOrRetryHandshake_execution recipient localStatic
          remoteStaticPub psk draw now
      simp only [Act.frames, SessionState.operate, Prod.map] at produced
      generalize
        (before.startOrRetryHandshake recipient localStatic remoteStaticPub
          psk draw now).1 = result
        at outcome produced
      cases outcome with
      | waiting | confirming | current =>
          cases produced
      | retransmitted live =>
          simp only [SessionState.framesFor, List.mem_singleton,
            Prod.mk.injEq] at produced
          obtain ⟨rfl, rfl⟩ := produced
          exact .pending (Option.filter_eq_some_iff.mp live).1 rfl
      | due _ _ _ started =>
          rcases started with
            ⟨error, _, _, rfl⟩ | ⟨handshake, started, rfl, rfl⟩
          · cases produced
          · simp only [SessionState.framesFor, List.mem_singleton,
              Prod.mk.injEq] at produced
            obtain ⟨rfl, rfl⟩ := produced
            obtain ⟨middle, _, actRun⟩ := execution.split
            have step := actRun.step_of_singleton.peerStep
            refine .started ⟨_, _, _, _, rfl, started, ?_⟩ rfl
            generalize isAfter :
              (before.startOrRetryHandshake peerName localStatic
                remoteStaticPub psk draw now).2.table peerName = final
              at step
            cases step with
            | start _ _ _ sameStart =>
                rw [started, Except.ok.injEq] at sameStart
                subst sameStart
                exact congrArg PeerEntry.pending isAfter
  | answer recipient handshake handshakeId message passivePeer clock =>
      simp only [Act.frames, SessionState.operate, Prod.map] at produced
      cases answered :
          (before.answerInitiation recipient handshake handshakeId message
            passivePeer clock).1 with
      | none =>
          rw [answered] at produced
          cases produced
      | some response =>
          rw [answered] at produced
          simp only [SessionState.framesFor, List.mem_singleton,
            Prod.mk.injEq] at produced
          obtain ⟨rfl, rfl⟩ := produced
          rcases SessionState.answerInitiation_some answered with
            ⟨cached, stored, rfl⟩ | ⟨candidate, rfl⟩
          · exact .cached stored rfl
          · exact .stored ⟨_, _, rfl, candidate⟩ rfl
  | finalize handshakeId response clock =>
      obtain ⟨acts, _, outcome⟩ :=
        before.finalizeInitiator_execution handshakeId response clock
      simp only [Act.frames, SessionState.operate, Prod.map] at produced
      generalize isResult :
        (before.finalizeInitiator handshakeId response clock).1 = result
        at outcome produced
      cases outcome with
      | unknown | abandoned =>
          cases produced
      | completed matched completed unused confirmed =>
          simp only [List.mem_singleton, Prod.mk.injEq] at produced
          obtain ⟨rfl, rfl⟩ := produced
          exact .sealed
            ⟨confirmed, Or.inr
              ⟨rfl, rfl, _, _, _, _, _, rfl, matched, completed, isResult⟩⟩

namespace LinkRun

variable
  {names : Side → PeerName}
  {initial ends : Side → SessionState snow}
  {log : List (Act snow)}

/-- A frame first started an attempt, first answered one or sealed a message. -/
theorem sent_cases
    (run : LinkRun names initial log ends)
    (fresh : ∀ side, ((initial side).entry (names side)).NoHandshake)
    {side : Side}
    {frame : Bytes}
    (sent : Sent names log side frame) :
    (∃ act ∈ log,
      act.side = side ∧
        ∃ handshake now,
          act.Starts (names side) handshake now ∧
            frame =
              Auth.encodeHandshake .handshakeInit handshake.handshakeId
                handshake.message) ∨
      (∃ act ∈ log,
        act.side = side ∧
          ∃ handshake handshakeId request,
            act.Stores (names side) handshake handshakeId request ∧
              frame =
                Auth.encodeHandshake .handshakeResponse handshakeId
                  handshake.message) ∨
      ∃ act ∈ log,
        act.side = side ∧
          ∃ session msgType payload,
            act.Seals (names side) session msgType payload frame := by
  obtain ⟨act, member, rfl, produced⟩ := sent
  obtain ⟨earlier, later, middle, rfl, before, isBefore, _⟩ :=
    run.exists_before member
  have history := before.history fresh act.side
  rw [← isBefore] at history
  cases Act.frame_origin produced with
  | sealed seals =>
      exact Or.inr (Or.inr ⟨act, member, rfl, _, _, _, seals⟩)
  | started starts isFrame =>
      exact Or.inl ⟨act, member, rfl, _, _, starts, isFrame⟩
  | pending stored isFrame =>
      obtain ⟨origin, inLog, ofSide, handshake, now, starts, records⟩ :=
        history.pending stored
      exact Or.inl
        ⟨origin, List.mem_append_left _ inLog, ofSide, handshake, now, starts,
          isFrame.trans records.packet⟩
  | stored stores isFrame =>
      exact Or.inr (Or.inl ⟨act, member, rfl, _, _, _, stores, isFrame⟩)
  | cached stored isFrame =>
      obtain ⟨origin, inLog, ofSide, handshake, stores, isResponse⟩ :=
        history.cached stored
      exact Or.inr (Or.inl
        ⟨origin, List.mem_append_left _ inLog, ofSide, handshake, _, _, stores,
          isFrame.trans isResponse⟩)

end LinkRun

end HushWire

import HushWire.LinkHistory

namespace HushWire

open Noise

/-!
# Responder completion implies initiator completion

In every run of two engines, a promoted candidate belongs to an attempt that
the other end started itself and has completed with the same keys, and a
completed attempt was answered and stored before.  Different promotions belong
to different completions.
-/

variable {snow : Snow}

/-- The two ends' sessions of one exchange. -/
structure IdealNoise.Opposite
    (ideal : IdealNoise snow)
    (initiator responder : Session snow) :
    Prop where
  sessionId : initiator.sessionId = responder.sessionId
  transport : initiator.transport = ideal.flip responder.transport

namespace Act

/-- A frame that a session seals is the framed ciphertext of its counter. -/
theorem Seals.written
    {act : Act snow}
    {peerName : PeerName}
    {session : Session snow}
    {msgType : Auth.MsgType}
    {payload frame : Bytes}
    (seals : act.Seals peerName session msgType payload frame) :
    ∃ ciphertext,
      snow.writeMessage session.transport session.sendCounter
          (Auth.encodeTransportPlaintext msgType payload)
          ((Auth.encodeTransportPlaintext msgType payload).length +
            aeadTagSize) =
        .ok ciphertext ∧
      frame =
        Auth.encodeTransport session.sessionId session.sendCounter
          ciphertext :=
  (Session.encrypt_ok seals.1).2

/-- An act stores at most one session. -/
theorem Stores.unique
    {act : Act snow}
    {peerName : PeerName}
    {first second : ResponderHandshake snow}
    {firstId secondId : SessionId}
    {firstRequest secondRequest : Bytes}
    (firstStores : act.Stores peerName first firstId firstRequest)
    (secondStores : act.Stores peerName second secondId secondRequest) :
    first = second ∧ firstId = secondId ∧ firstRequest = secondRequest := by
  obtain ⟨_, _, firstOperation, _⟩ := firstStores
  obtain ⟨_, _, secondOperation, _⟩ := secondStores
  rw [firstOperation, Operation.answer.injEq] at secondOperation
  exact ⟨secondOperation.2.1, secondOperation.2.2.1,
    secondOperation.2.2.2.1⟩

/-- An act completes at most one session. -/
theorem Finalizes.unique
    {act : Act snow}
    {firstPeer secondPeer : PeerName}
    {firstPending secondPending : PendingInitiator snow}
    {first second : Session snow}
    (firstFinalizes : act.Finalizes firstPeer firstPending first)
    (secondFinalizes : act.Finalizes secondPeer secondPending second) :
    first = second := by
  obtain ⟨_, _, _, _, firstOperation, firstMatched, firstCompleted, _⟩ :=
    firstFinalizes
  obtain ⟨_, _, _, _, secondOperation, secondMatched, secondCompleted, _⟩ :=
    secondFinalizes
  rw [firstOperation, Operation.finalize.injEq] at secondOperation
  obtain ⟨rfl, rfl, rfl⟩ := secondOperation
  have samePending := firstMatched.symm.trans secondMatched
  simp only [Option.some.injEq, Prod.mk.injEq] at samePending
  obtain ⟨rfl, rfl⟩ := samePending
  rw [firstCompleted, Except.ok.injEq] at secondCompleted
  exact secondCompleted

/-- A promotion opens a packet under the candidate it promotes. -/
theorem Promotes.opened
    {act : Act snow}
    {peerName : PeerName}
    {session : Session snow}
    (promotes : act.Promotes peerName session) :
    ∃ sessionId counter ciphertext now plaintext,
      act.operation = .decrypt sessionId counter ciphertext now ∧
        (act.before.entry peerName).candidate = some session ∧
        act.before.located sessionId now = some (peerName, session) ∧
        session.Authenticates sessionId counter ciphertext plaintext ∧
        ((act.after.entry peerName)).candidate = none := by
  obtain ⟨sessionId, counter, ciphertext, now, decrypted, isOperation, result,
    promoted, rfl, candidate⟩ := promotes
  obtain ⟨drops, acts, execution, _, outcome⟩ :=
    act.before.decryptTransport_execution sessionId counter ciphertext now
  have isAfter :
      (act.before.decryptTransport sessionId counter ciphertext now).2 =
        act.after := by
    rw [Act.after, isOperation]
    rfl
  rw [result] at outcome
  rw [isAfter] at execution
  generalize isResult : Except.ok (some decrypted) = returned at outcome
  cases outcome with
  | unknown =>
      simp at isResult
  | @inPlace located _ session held _ _ _ _ =>
      cases opened : (session.decrypt sessionId counter ciphertext).1 with
      | error error =>
          simp [SessionState.decryptedInPlace, opened, Except.map]
            at isResult
      | ok content =>
          simp only [SessionState.decryptedInPlace, opened, Except.map,
            Except.ok.injEq, Option.some.injEq] at isResult
          rw [isResult] at promoted
          cases promoted
  | @promoted located found _ _ held _ _ isLocated opened =>
      simp only [Except.ok.injEq, Option.some.injEq] at isResult
      subst isResult
      have sameCandidate : found = session :=
        Option.some.inj (held.symm.trans candidate)
      subst sameCandidate
      obtain ⟨plaintext, authentic⟩ :=
        Session.authenticates_of_decrypt opened
      refine ⟨_, _, _, _, plaintext, isOperation, candidate, isLocated,
        authentic, ?_⟩
      obtain ⟨middle, _, actRun⟩ := execution.split
      have step := actRun.step_of_singleton.peerStep
      exact congrArg PeerEntry.candidate step.promote_inv.2.2.2

end Act

namespace LinkRun

variable
  {names : Side → PeerName}
  {initial ends : Side → SessionState snow}
  {log : List (Act snow)}

/-- A stored session is what `responder_respond` negotiated. -/
theorem stores_computed
    (run : LinkRun names initial log ends)
    {act : Act snow}
    (member : act ∈ log)
    {peerName : PeerName}
    {handshake : ResponderHandshake snow}
    {handshakeId : SessionId}
    {request : Bytes}
    (stores : act.Stores peerName handshake handshakeId request) :
    ∃ localStatic remoteStatic psk draw clock,
      responderRespond localStatic remoteStatic psk handshakeId request draw
        clock = .ok handshake := by
  obtain ⟨_, _, _, _, _, _, computed, _⟩ := run.exists_before member
  obtain ⟨_, _, isOperation, _⟩ := stores
  obtain ⟨_, _, _, _, responded⟩ := computed _ _ _ _ _ _ isOperation
  exact ⟨_, _, _, _, _, responded⟩

/-- Two acts that store the same keys are one act. -/
theorem stores_unique
    (run : LinkRun names initial log ends)
    {first second : Act snow}
    (firstMember : first ∈ log)
    (secondMember : second ∈ log)
    {firstHandshake secondHandshake : ResponderHandshake snow}
    {firstId secondId : SessionId}
    {firstRequest secondRequest : Bytes}
    (firstStores :
      first.Stores (names first.side) firstHandshake firstId firstRequest)
    (secondStores :
      second.Stores (names second.side) secondHandshake secondId
        secondRequest)
    (sameKeys :
      firstHandshake.session.transport =
        secondHandshake.session.transport) :
    first = second := by
  induction run with
  | nil =>
      cases firstMember
  | @snoc log ends last run isBefore computed genuine inductionHypothesis =>
      rcases List.mem_append.mp firstMember with firstEarlier | firstLast
      · rcases List.mem_append.mp secondMember with secondEarlier | secondLast
        · exact inductionHypothesis firstEarlier secondEarlier
        · rw [List.mem_singleton] at secondLast
          subst secondLast
          exact absurd sameKeys
            (genuine.freshSession _ _ _ secondStores _ firstEarlier _ _ _
              firstStores)
      · rw [List.mem_singleton] at firstLast
        subst firstLast
        rcases List.mem_append.mp secondMember with secondEarlier | secondLast
        · exact absurd sameKeys.symm
            (genuine.freshSession _ _ _ firstStores _ secondEarlier _ _ _
              secondStores)
        · exact (List.mem_singleton.mp secondLast).symm

/-- An attempt of one end that the other has answered, and with what. -/
structure Answered
    (names : Side → PeerName)
    (log : List (Act snow))
    (initiator : Side)
    (handshakeId : SessionId)
    (answer : ResponderHandshake snow) :
    Prop where
  attempt :
    ∃ request,
      (∃ act ∈ log,
        act.side = initiator ∧
          ∃ handshake now,
            act.Starts (names initiator) handshake now ∧
              handshake.handshakeId = handshakeId ∧
              handshake.message = request) ∧
        ∃ act ∈ log,
          act.side = initiator.other ∧
            act.Stores (names initiator.other) answer handshakeId request

/-- A completed attempt was answered with the keys that it completed with. -/
theorem finalizes_answered
    (ideal : IdealNoise snow)
    (run : LinkRun names initial log ends)
    (fresh : ∀ side, ((initial side).entry (names side)).NoHandshake)
    {act : Act snow}
    (isBefore : act.before = ends act.side)
    (genuine : Genuine names log act)
    {pending : PendingInitiator snow}
    {session : Session snow}
    (finalizes : act.Finalizes (names act.side) pending session) :
    ∃ answer,
      Answered names log act.side pending.handshakeId answer ∧
        ideal.Opposite session answer.session := by
  obtain ⟨handshakeId, response, clock, _, isOperation, matched, completed,
    _⟩ := finalizes
  have history := run.history fresh act.side
  rw [← isBefore] at history
  obtain ⟨starting, startMember, startSide, handshake, now, starts, records⟩ :=
    history.pending matched.stored
  have sent :=
    genuine.response _ _ _ _ _ isOperation matched completed
  rcases run.sent_cases fresh sent with
    ⟨_, _, _, _, _, _, isInitiation⟩ |
    ⟨storing, storeMember, storeSide, answer, answeredId, request, stores,
      isResponse⟩ |
    ⟨_, _, _, _, _, _, seals⟩
  · cases (Auth.encodeHandshake_inj isInitiation).1
  · obtain ⟨_, rfl, rfl⟩ := Auth.encodeHandshake_inj isResponse
    obtain ⟨_, _, _, _, _, responded⟩ := run.stores_computed storeMember stores
    rw [records.state] at completed
    obtain ⟨_, _, _, _, _, started, _⟩ := id starts
    obtain ⟨sameId, sameRequest, sameSession, opposite⟩ :=
      ideal.response_binds started responded completed
    subst sameRequest
    rw [records.handshakeId, ← sameId]
    exact ⟨answer,
      ⟨_, ⟨starting, startMember, startSide, handshake, now, starts,
        sameId.symm, rfl⟩, storing, storeMember, storeSide, stores⟩,
      sameSession, opposite⟩
  · obtain ⟨ciphertext, _, isTransport⟩ := seals.written
    exact absurd isTransport
      (Auth.encodeHandshake_ne_encodeTransport rfl _ _ _ _ _)

theorem Answered.append
    {initiator : Side}
    {handshakeId : SessionId}
    {answer : ResponderHandshake snow}
    (answered : Answered names log initiator handshakeId answer)
    (later : List (Act snow)) :
    Answered names (log ++ later) initiator handshakeId answer := by
  obtain ⟨request, ⟨starting, startMember, starts⟩,
    storing, storeMember, stores⟩ := answered.attempt
  exact ⟨request,
    ⟨starting, List.mem_append_left _ startMember, starts⟩,
    storing, List.mem_append_left _ storeMember, stores⟩

/-- What promotes a candidate was sealed by the other end of its keys. -/
theorem promotes_sealed
    (ideal : IdealNoise snow)
    (run : LinkRun names initial log ends)
    (fresh : ∀ side, ((initial side).entry (names side)).NoHandshake)
    {act : Act snow}
    (genuine : Genuine names log act)
    {session : Session snow}
    (promotes : act.Promotes (names act.side) session) :
    ∃ sealing ∈ log,
      sealing.side = act.side.other ∧
        ∃ sealed msgType payload frame,
          sealing.Seals (names act.side.other) sealed msgType payload frame ∧
            sealed.transport = ideal.flip session.transport := by
  obtain ⟨sessionId, counter, ciphertext, now, plaintext, isOperation,
    candidate, located, authentic, _⟩ := promotes.opened
  have sent := genuine.packet _ _ _ _ _ _ isOperation located authentic
  rcases run.sent_cases fresh sent with
    ⟨_, _, _, _, _, _, isInitiation⟩ |
    ⟨_, _, _, _, _, _, _, isResponse⟩ |
    ⟨sealing, member, sameSide, sealed, msgType, payload, seals⟩
  · exact absurd isInitiation.symm
      (Auth.encodeHandshake_ne_encodeTransport rfl _ _ _ _ _)
  · exact absurd isResponse.symm
      (Auth.encodeHandshake_ne_encodeTransport rfl _ _ _ _ _)
  · obtain ⟨written, isWritten, isFrame⟩ := seals.written
    obtain ⟨_, _, rfl⟩ := Auth.encodeTransport_inj isFrame
    obtain ⟨opposite, _⟩ := ideal.message_binds isWritten authentic.2.2.2
    exact ⟨sealing, member, sameSide, sealed, msgType, payload, _, seals,
      by rw [opposite, ideal.flip_flip]⟩

/-- Keys of a responder are not those of an initiator. -/
theorem stores_isInitiator
    (ideal : IdealNoise snow)
    (run : LinkRun names initial log ends)
    {act : Act snow}
    (member : act ∈ log)
    {peerName : PeerName}
    {handshake : ResponderHandshake snow}
    {handshakeId : SessionId}
    {request : Bytes}
    (stores : act.Stores peerName handshake handshakeId request) :
    ideal.isInitiator handshake.session.transport = false := by
  obtain ⟨_, _, _, _, _, responded⟩ := run.stores_computed member stores
  exact ideal.isInitiator_respond responded

/-- A session that seals with an initiator's keys was completed before. -/
theorem seals_finalized
    (ideal : IdealNoise snow)
    (run : LinkRun names initial log ends)
    (fresh : ∀ side, ((initial side).entry (names side)).NoHandshake)
    {sealing : Act snow}
    (member : sealing ∈ log)
    (noSession :
      ∀ slot,
        ((initial sealing.side).entry (names sealing.side)).slot slot = none)
    {sealed : Session snow}
    {msgType : Auth.MsgType}
    {payload frame : Bytes}
    (seals :
      sealing.Seals (names sealing.side) sealed msgType payload frame)
    (initiates : ideal.isInitiator sealed.transport = true) :
    ∃ finalizing ∈ log,
      finalizing.side = sealing.side ∧
        ∃ pending completed,
          finalizing.Finalizes (names sealing.side) pending completed ∧
            sealed.Continues completed := by
  rcases seals.2 with ⟨now, _, active⟩ | ⟨_, _, pending, finalizes⟩
  · obtain ⟨earlier, later, middle, rfl, before, isBefore, _⟩ :=
      run.exists_before member
    have history := before.history fresh sealing.side
    rw [← isBefore] at history
    rcases @EndHistory.slot _ _ _ _ _ _ history .active _ active with
      ⟨source, first, atStart, _⟩ |
      ⟨origin, inLog, ofSide, introduced, introduces, continues⟩
    · rw [noSession source] at atStart
      cases atStart
    · rcases introduces with
        ⟨handshake, handshakeId, request, stores, rfl⟩ | ⟨pending, finalizes⟩
      · have responder := before.stores_isInitiator ideal inLog stores
        rw [← continues.transport, initiates] at responder
        cases responder
      · exact ⟨origin, List.mem_append_left _ inLog, ofSide, pending,
          introduced, finalizes, continues⟩
  · exact ⟨sealing, member, rfl, pending, sealed, finalizes, .refl sealed⟩

/-- Completed keys that oppose a candidate's are those of its own exchange. -/
theorem candidate_answered
    (ideal : IdealNoise snow)
    (run : LinkRun names initial log ends)
    (fresh : ∀ side, ((initial side).entry (names side)).NoHandshake)
    {side : Side}
    {candidate completed : Session snow}
    {handshakeId : SessionId}
    {answer : ResponderHandshake snow}
    (held :
      ((ends side).entry (names side)).candidate = some candidate)
    (answered : Answered names log side.other handshakeId answer)
    (opposite : ideal.Opposite completed answer.session)
    (sameKeys : completed.transport = ideal.flip candidate.transport) :
    candidate.Continues answer.session ∧
      ideal.Opposite completed candidate ∧
      ((ends side).entry (names side)).cached.map
          CachedResponderHandshake.handshakeId = some handshakeId := by
  obtain ⟨cached, isCached, storing, storeMember, rfl, handshake, stores,
    continues⟩ := (run.history fresh side).candidate held
  obtain ⟨request, _, answering, answerMember, answerSide, answers⟩ :=
    answered.attempt
  rw [Side.other_other] at answerSide answers
  have sameAnswer :
      answer.session.transport = handshake.session.transport := by
    rw [← continues.transport, ← ideal.flip_flip answer.session.transport,
      ← opposite.transport, sameKeys, ideal.flip_flip]
  rw [← answerSide] at answers
  have sameAct : answering = storing :=
    run.stores_unique answerMember storeMember answers stores sameAnswer
  subst sameAct
  obtain ⟨rfl, rfl, _⟩ := answers.unique stores
  exact ⟨continues,
    ⟨opposite.sessionId.trans continues.sessionId.symm, sameKeys⟩,
    by rw [isCached, Option.map_some]⟩

end LinkRun

/-- The guarantees of a run to both ends about completed handshakes. -/
structure LinkAgreement
    (ideal : IdealNoise snow)
    (names : Side → PeerName)
    (log : List (Act snow)) :
    Prop where
  /-- A completed attempt was started here and stored there before. -/
  finalized :
    ∀ earlier act later pending session,
      log = earlier ++ act :: later →
      act.Finalizes (names act.side) pending session →
      ∃ answer,
        LinkRun.Answered names earlier act.side pending.handshakeId answer ∧
          ideal.Opposite session answer.session
  /-- A promoted candidate's attempt was completed by the other end before. -/
  promoted :
    ∀ earlier act later session,
      log = earlier ++ act :: later →
      act.Promotes (names act.side) session →
      ∃ between finalizing rest pending completed answer,
        earlier = between ++ finalizing :: rest ∧
          finalizing.side = act.side.other ∧
          finalizing.Finalizes (names act.side.other) pending completed ∧
          ideal.Opposite completed session ∧
          LinkRun.Answered names between act.side.other pending.handshakeId
            answer ∧
          session.Continues answer.session
  /-- Different promotions belong to different completions. -/
  distinct :
    ∀ earlier first between second later firstSession secondSession,
      log = earlier ++ first :: (between ++ second :: later) →
      first.Promotes (names first.side) firstSession →
      second.Promotes (names second.side) secondSession →
      firstSession.transport ≠ secondSession.transport ∧
        ∀ (finalizing : Act snow) firstPending secondPending firstCompleted
          secondCompleted,
          finalizing.Finalizes (names first.side.other) firstPending
            firstCompleted →
          finalizing.Finalizes (names second.side.other) secondPending
            secondCompleted →
          ¬ (ideal.Opposite firstCompleted firstSession ∧
            ideal.Opposite secondCompleted secondSession)

namespace LinkRun

variable
  {names : Side → PeerName}
  {initial ends : Side → SessionState snow}
  {log : List (Act snow)}

/-- A promoted session is a stored one. -/
theorem promotes_stored
    (run : LinkRun names initial log ends)
    (fresh : ∀ side, ((initial side).entry (names side)).NoHandshake)
    {act : Act snow}
    (isBefore : act.before = ends act.side)
    {session : Session snow}
    (promotes : act.Promotes (names act.side) session) :
    ∃ storing ∈ log,
      storing.side = act.side ∧
        ∃ handshake handshakeId request,
          storing.Stores (names act.side) handshake handshakeId request ∧
            session.Continues handshake.session := by
  obtain ⟨_, _, _, _, _, _, candidate, _⟩ := promotes.opened
  rw [isBefore] at candidate
  obtain ⟨cached, _, storing, member, ofSide, handshake, stores, continues⟩ :=
    (run.history fresh act.side).candidate candidate
  exact ⟨storing, member, ofSide, handshake, _, _, stores, continues⟩

/-- Once promoted, a session is never a candidate again. -/
theorem promoted_gone
    (run : LinkRun names initial log ends)
    (fresh : ∀ side, ((initial side).entry (names side)).NoHandshake)
    {act : Act snow}
    (member : act ∈ log)
    {session : Session snow}
    (promotes : act.Promotes (names act.side) session)
    {candidate : Session snow}
    (held :
      ((ends act.side).entry (names act.side)).candidate =
        some candidate) :
    candidate.transport ≠ session.transport := by
  induction run generalizing candidate with
  | nil =>
      cases member
  | @snoc log ends last run isBefore computed genuine inductionHypothesis =>
      rcases List.mem_append.mp member with earlier | isLast
      · by_cases isSide : act.side = last.side
        · rw [isSide, Function.update_self] at held
          rw [isSide, ← isBefore] at inductionHypothesis
          have effect := last.effect (names last.side)
          generalize isAfter : last.after.entry (names last.side) = after
            at effect held
          cases effect with
          | rest drops =>
              exact inductionHypothesis earlier
                (drops.slot_some .candidate held)
          | event drops does step =>
              rcases step.candidate_cases held with
                ⟨before, stored, continues, _⟩ | ⟨_, _, _, _, rfl, _⟩
              · rw [continues.transport]
                exact inductionHypothesis earlier
                  (drops.slot_some .candidate stored)
              · obtain ⟨handshake, stores, rfl, _⟩ :=
                  Act.stores_of_does does (isAfter ▸ held)
                obtain ⟨before, _, middle, rfl, beforeRun, wasBefore, _⟩ :=
                  run.exists_before earlier
                obtain ⟨storing, storeMember, ofSide, _, _, _, storesFirst,
                  continues⟩ :=
                  beforeRun.promotes_stored fresh wasBefore promotes
                rw [← ofSide] at storesFirst
                rw [continues.transport]
                exact (genuine.freshSession _ _ _ stores _
                  (List.mem_append_left _ storeMember) _ _ _
                  storesFirst).symm
        · rw [Function.update_of_ne isSide] at held
          exact inductionHypothesis earlier held
      · rw [List.mem_singleton] at isLast
        subst isLast
        obtain ⟨_, _, _, _, _, _, _, _, _, gone⟩ := promotes.opened
        rw [Function.update_self] at held
        exact absurd (gone.symm.trans held) (by simp)

/-- In every run of two ends that begin without sessions there is agreement. -/
theorem agreement
    (ideal : IdealNoise snow)
    (run : LinkRun names initial log ends)
    (empty : ∀ side, (initial side).entry (names side) = .empty False) :
    LinkAgreement ideal names log := by
  have fresh (side : Side) :
      ((initial side).entry (names side)).NoHandshake := by
    rw [empty]
    exact ⟨rfl, rfl, rfl⟩
  have noSession (side : Side) (slot : Slot) :
      ((initial side).entry (names side)).slot slot = none := by
    rw [empty]
    cases slot <;> rfl
  refine ⟨?_, ?_, ?_⟩
  · intro earlier act later pending session order finalizes
    obtain ⟨middle, before, isBefore, _, genuine⟩ := run.before order
    exact before.finalizes_answered ideal fresh isBefore genuine finalizes
  · intro earlier act later session order promotes
    obtain ⟨middle, before, isBefore, _, genuine⟩ := run.before order
    obtain ⟨sealing, sealMember, sealSide, sealed, _, _, _, seals,
      sealedKeys⟩ := before.promotes_sealed ideal fresh genuine promotes
    obtain ⟨storing, storeMember, ofSide, handshake, _, _, stores,
      continues⟩ := before.promotes_stored fresh isBefore promotes
    have initiates : ideal.isInitiator sealed.transport = true := by
      rw [sealedKeys, ideal.isInitiator_flip, continues.transport,
        before.stores_isInitiator ideal storeMember stores]
      rfl
    rw [← sealSide] at seals
    obtain ⟨finalizing, finalMember, finalSide, pending, completed, finalizes,
      sealedContinues⟩ :=
      before.seals_finalized ideal fresh sealMember (noSession _) seals
        initiates
    rw [sealSide] at finalSide finalizes
    obtain ⟨between, rest, middle, rfl, finalRun, finalBefore, _,
      finalGenuine⟩ := before.exists_before finalMember
    rw [← finalSide] at finalizes
    obtain ⟨answer, answered, opposite⟩ :=
      finalRun.finalizes_answered ideal fresh finalBefore finalGenuine
        finalizes
    obtain ⟨_, _, _, _, _, _, candidate, _⟩ := promotes.opened
    rw [isBefore] at candidate
    rw [finalSide] at answered finalizes
    obtain ⟨origin, completedOpposite, _⟩ :=
      before.candidate_answered ideal fresh candidate
        (answered.append (finalizing :: rest)) opposite
        (by rw [← sealedContinues.transport, sealedKeys])
    exact ⟨between, finalizing, rest, pending, completed, answer, rfl,
      finalSide, finalizes, completedOpposite, answered, origin⟩
  · intro earlier first between second later firstSession secondSession order
      firstPromotes secondPromotes
    have distinct : firstSession.transport ≠ secondSession.transport := by
      have secondOrder :
          log = (earlier ++ first :: between) ++ second :: later := by
        rw [order]
        simp
      obtain ⟨middle, secondRun, secondBefore, _⟩ := run.before secondOrder
      by_cases sameSide : second.side = first.side
      · obtain ⟨_, _, _, _, _, _, candidate, _⟩ := secondPromotes.opened
        rw [secondBefore, sameSide] at candidate
        exact (secondRun.promoted_gone fresh (by simp) firstPromotes
          candidate).symm
      · intro sameKeys
        obtain ⟨_, firstRun, firstBefore, _⟩ := run.before order
        obtain ⟨firstStoring, firstMember, firstSide, _, _, _, firstStores,
          firstContinues⟩ :=
          firstRun.promotes_stored fresh firstBefore firstPromotes
        obtain ⟨secondStoring, secondMember, secondSide, _, _, _,
          secondStores, secondContinues⟩ :=
          secondRun.promotes_stored fresh secondBefore secondPromotes
        rw [← firstSide] at firstStores
        rw [← secondSide] at secondStores
        have sameAct : firstStoring = secondStoring :=
          secondRun.stores_unique (List.mem_append_left _ firstMember)
            secondMember firstStores secondStores
            (by rw [← firstContinues.transport, sameKeys,
              secondContinues.transport])
        exact sameSide
          (secondSide.symm.trans
            ((congrArg Act.side sameAct.symm).trans firstSide))
    refine ⟨distinct, ?_⟩
    rintro finalizing _ _ firstCompleted secondCompleted firstFinal
      secondFinal ⟨firstOpposite, secondOpposite⟩
    have sameCompleted := firstFinal.unique secondFinal
    subst sameCompleted
    apply distinct
    rw [← ideal.flip_flip firstSession.transport, ← firstOpposite.transport,
      secondOpposite.transport, ideal.flip_flip]

end LinkRun

/--
In every run of two engines a promoted session was completed before by the
other end in a handshake that it started, and a completed session was stored
before as the answer to that handshake; different promotions belong to
different completions.
-/
theorem engine_promotion_implies_completion
    (ideal : IdealNoise snow)
    {names : Side → PeerName}
    {log : List (Act snow)}
    {engines : Side → Engine snow}
    (run : EngineLinkRun names log engines) :
    LinkAgreement ideal names log :=
  run.linkRun.agreement ideal fun _ => by
    simp [SessionState.entry, SessionState.new, PeerEntry.empty]

namespace GenuineAll

variable
  {names : Side → PeerName}
  {log : List (Act snow)}

theorem nil : GenuineAll names log [] := by
  intro earlier act later order
  simp at order

/-- A sequence is genuine act by act. -/
theorem cons
    {act : Act snow}
    {rest : List (Act snow)}
    (genuine : Genuine names log act)
    (following : GenuineAll names (log ++ [act]) rest) :
    GenuineAll names log (act :: rest) := by
  intro earlier found later order
  cases earlier with
  | nil =>
      simp only [List.nil_append, List.cons.injEq] at order
      rw [← order.1, List.append_nil]
      exact genuine
  | cons first earlier =>
      simp only [List.cons_append, List.cons.injEq] at order
      obtain ⟨rfl, order⟩ := order
      simpa using following earlier found later order

end GenuineAll

namespace AgreementExample

def names : Side → PeerName
  | .first => "second"
  | .second => "first"

def endpoint : SocketAddr where
  ip := .v4 0x0A000001
  port := 4000

def localStatic : Side → Key
  | .first => .fill 1
  | .second => .fill 2

/-- Each end routes everything to the other. -/
def router (side : Side) : Router where
  routes :=
    [{ net := { address := 0, prefixLen := 0 }
       peer :=
        { name := names side
          endpoint
          configuredEndpoint := .ofSocketAddr "10.0.0.1" endpoint
          excludedIps := []
          psk := .fill 3
          publicKey := localStatic side.other
          persistentKeepalive := 0
          udpRebindAfter := 0
          sessionTimeout := 0 } }]
  excludedRoutes := []

def idle (side : Side) : Engine PlainNoise.snow :=
  .withRouter (localStatic side) (router side)

/-- The first frame that a call sends. -/
def sentFrame
    (result :
      Except (EngineError PlainNoise.snow) EngineOutput ×
        Engine PlainNoise.snow) :
    Bytes :=
  match result.1 with
  | .ok { actions := .sendTransport _ _ frame :: _, .. } => frame
  | _ => []

def draws (_ : PeerName) : Draw PlainNoise.snow where
  id := .fill 8
  ephemeral := (5 : UInt8)

def initiate : EngineCall PlainNoise.snow :=
  .initiateHandshake "second" { id := .fill 7, ephemeral := (4 : UInt8) } 0

def answer : EngineCall PlainNoise.snow :=
  .processInboundTransport (sentFrame ((idle .first).perform initiate))
    endpoint draws 0 0

def started : Engine PlainNoise.snow :=
  ((idle .first).perform initiate).2

def answered : Engine PlainNoise.snow :=
  ((idle .second).perform answer).2

def complete : EngineCall PlainNoise.snow :=
  .processInboundTransport (sentFrame ((idle .second).perform answer))
    endpoint draws 0 0

def confirm : EngineCall PlainNoise.snow :=
  .processInboundTransport (sentFrame (started.perform complete)) endpoint
    draws 0 0

def request : Bytes :=
  (sentFrame ((idle .first).perform initiate)).drop Auth.handshakeHeaderSize

def response : Bytes :=
  (sentFrame ((idle .second).perform answer)).drop Auth.handshakeHeaderSize

def confirmation : Bytes :=
  (sentFrame (started.perform complete)).drop Auth.transportHeaderSize

def startAct : Act PlainNoise.snow where
  side := .first
  before := (idle .first).sessions
  operation :=
    .start "second" (.fill 1) (.fill 2) (.fill 3)
      { id := .fill 7, ephemeral := (4 : UInt8) } 0

def answerAct (handshake : ResponderHandshake PlainNoise.snow) :
    Act PlainNoise.snow where
  side := .second
  before := (idle .second).sessions
  operation := .answer "first" handshake (.fill 7) request false 0

def finalizeAct : Act PlainNoise.snow where
  side := .first
  before := started.sessions
  operation := .finalize (.fill 7) response 0

def decryptAct : Act PlainNoise.snow where
  side := .second
  before := answered.sessions
  operation := .decrypt (.fill 8) 0 confirmation 0

def encryptAct : Act PlainNoise.snow where
  side := .second
  before := decryptAct.after
  operation := .encrypt "first" .keepalive Auth.keepaliveAckPayload 0

set_option maxRecDepth 8000 in
theorem initiate_operations :
    (idle .first).operations initiate = [startAct.operation] :=
  rfl

set_option maxRecDepth 8000 in
theorem answer_operations :
    ∃ handshake,
      (idle .second).operations answer = [(answerAct handshake).operation] :=
  ⟨_, rfl⟩

set_option maxRecDepth 8000 in
theorem complete_operations :
    started.operations complete = [finalizeAct.operation] :=
  rfl

set_option maxRecDepth 8000 in
theorem confirm_operations :
    answered.operations confirm =
      [decryptAct.operation, encryptAct.operation] :=
  rfl

theorem startAct_genuine : Genuine names [] startAct where
  freshAttempt := by
    rintro _ _ _ _ ⟨⟩
  freshSession := by
    rintro _ _ _ ⟨_, _, impossible, _⟩
    cases impossible
  initiation := by
    rintro _ _ _ _ _ ⟨⟩
  response := by
    rintro _ _ _ _ _ ⟨⟩
  packet := by
    rintro _ _ _ _ _ _ ⟨⟩

theorem answerAct_genuine (handshake : ResponderHandshake PlainNoise.snow) :
    Genuine names [startAct] (answerAct handshake) where
  freshAttempt := by
    rintro _ _ ⟨_, _, _, _, impossible, _⟩
    cases impossible
  freshSession := by
    intro _ _ _ _ earlier member _ _ _ stores
    rw [List.mem_singleton.mp member] at stores
    obtain ⟨_, _, impossible, _⟩ := stores
    cases impossible
  initiation := by
    rintro _ _ _ _ _ ⟨⟩
    have sent :
        ("second", Auth.encodeHandshake .handshakeInit (.fill 7) request) ∈
          startAct.frames := by
      decide +kernel
    exact ⟨startAct, by simp, rfl, sent⟩
  response := by
    rintro _ _ _ _ _ ⟨⟩
  packet := by
    rintro _ _ _ _ _ _ ⟨⟩

/-- The answer to the initiation is sent back. -/
theorem answerAct_frames
    {handshake : ResponderHandshake PlainNoise.snow}
    (performed :
      (idle .second).operations answer =
        [(answerAct handshake).operation]) :
    ("first",
        Auth.encodeHandshake .handshakeResponse (.fill 7) response) ∈
      (answerAct handshake).frames := by
  have isFrames :
      (answerAct handshake).frames =
        (idle .second).sessions.framesOf
          ((idle .second).operations answer) := by
    rw [performed]
    simp [SessionState.framesOf, Act.frames, answerAct]
  rw [isFrames]
  decide +kernel

theorem finalizeAct_genuine
    {handshake : ResponderHandshake PlainNoise.snow}
    (performed :
      (idle .second).operations answer =
        [(answerAct handshake).operation]) :
    Genuine names [startAct, answerAct handshake] finalizeAct where
  freshAttempt := by
    rintro _ _ ⟨_, _, _, _, impossible, _⟩
    cases impossible
  freshSession := by
    rintro _ _ _ ⟨_, _, impossible, _⟩
    cases impossible
  initiation := by
    rintro _ _ _ _ _ ⟨⟩
  response := by
    rintro _ _ _ _ _ ⟨⟩ _ _
    exact ⟨answerAct handshake, by simp, rfl, answerAct_frames performed⟩
  packet := by
    rintro _ _ _ _ _ _ ⟨⟩

theorem decryptAct_genuine (handshake : ResponderHandshake PlainNoise.snow) :
    Genuine names [startAct, answerAct handshake, finalizeAct]
      decryptAct where
  freshAttempt := by
    rintro _ _ ⟨_, _, _, _, impossible, _⟩
    cases impossible
  freshSession := by
    rintro _ _ _ ⟨_, _, impossible, _⟩
    cases impossible
  initiation := by
    rintro _ _ _ _ _ ⟨⟩
  response := by
    rintro _ _ _ _ _ ⟨⟩
  packet := by
    rintro _ _ _ _ _ _ ⟨⟩ _ _
    exact ⟨finalizeAct, by simp, rfl, by decide +kernel⟩

theorem encryptAct_genuine (log : List (Act PlainNoise.snow)) :
    Genuine names log encryptAct where
  freshAttempt := by
    rintro _ _ ⟨_, _, _, _, impossible, _⟩
    cases impossible
  freshSession := by
    rintro _ _ _ ⟨_, _, impossible, _⟩
    cases impossible
  initiation := by
    rintro _ _ _ _ _ ⟨⟩
  response := by
    rintro _ _ _ _ _ ⟨⟩
  packet := by
    rintro _ _ _ _ _ _ ⟨⟩

/-- A call whose operations are known extends a run. -/
theorem perform
    {log : List (Act PlainNoise.snow)}
    {engines : Side → Engine PlainNoise.snow}
    (side : Side)
    {engine : Engine PlainNoise.snow}
    (call : EngineCall PlainNoise.snow)
    {operations : List (Operation PlainNoise.snow)}
    (run : EngineLinkRun names log engines)
    (isEngine : engines side = engine)
    (performed : engine.operations call = operations)
    (genuine :
      GenuineAll names log (actsOf side engine.sessions operations)) :
    EngineLinkRun names (log ++ actsOf side engine.sessions operations)
      (Function.update engines side (engine.perform call).2) := by
  subst isEngine performed
  exact .perform run genuine

set_option maxRecDepth 8000 in
/-- A whole handshake: initiation, answer, completion and confirmation. -/
theorem handshake_run :
    ∃ handshake engines,
      EngineLinkRun names
        [startAct, answerAct handshake, finalizeAct, decryptAct, encryptAct]
        engines := by
  obtain ⟨handshake, performed⟩ := answer_operations
  have run :=
    perform .first initiate
      (@EngineLinkRun.start _ _ localStatic router)
      rfl initiate_operations (.cons startAct_genuine .nil)
  have run :=
    perform .second answer run rfl performed
      (.cons (answerAct_genuine handshake) .nil)
  have run :=
    perform .first complete run rfl complete_operations
      (.cons (finalizeAct_genuine performed) .nil)
  have run :=
    perform .second confirm run rfl confirm_operations
      (.cons (decryptAct_genuine handshake) (.cons (encryptAct_genuine _) .nil))
  exact ⟨handshake, _, run⟩

set_option maxRecDepth 8000 in
/-- The confirmation promotes the candidate of the second end. -/
theorem decryptAct_promotes : ∃ session, decryptAct.Promotes "first" session :=
  ⟨_, _, _, _, _, _, rfl, rfl, rfl, rfl, rfl⟩

end AgreementExample

open AgreementExample in
/-- A whole handshake of two engines ends in a promotion. -/
theorem engine_promotion_implies_completion_example :
    ∃ log : List (Act PlainNoise.snow),
      LinkAgreement PlainNoise.ideal names log ∧
        ∃ act ∈ log, ∃ session, act.Promotes (names act.side) session := by
  obtain ⟨handshake, engines, run⟩ := handshake_run
  exact ⟨_, engine_promotion_implies_completion PlainNoise.ideal run,
    decryptAct, by simp, decryptAct_promotes⟩

end HushWire

import HushWire.PeerTable

namespace HushWire

open Noise

/-!
# Manager methods as peer events

Every method of the session manager is an execution of peer events on the
table of all peers: first the removals of expired entries, then at most one
event with the values the method returns.
-/

variable {snow : Snow}

namespace TableExecution

/-- Expired sessions of one slot are dropped for all peers of a map. -/
theorem dropExpiredSlot
    (table : PeerTable snow)
    (slot : Slot)
    (now : Instant)
    (map : AssociationMap PeerName (Session snow))
    (isSlot : ∀ peerName, (table peerName).slot slot = map.lookup peerName) :
    ∃ events,
      TableExecution table events
          (fun peerName => (table peerName).withoutExpired slot now) ∧
        ∀ event ∈ events, event.2 = .expire slot now := by
  obtain ⟨events, execution, onlyExpire⟩ :=
    dropExpired table slot now map.keys
  refine ⟨events, ?_, onlyExpire⟩
  convert execution using 2 with peerName
  by_cases member : peerName ∈ map.keys
  · simp [member]
  · have absent : map.lookup peerName = none :=
      AList.lookup_eq_none.mpr member
    simp only [member, ↓reduceIte, PeerEntry.withoutExpired, isSlot, absent,
      Option.filter_none]
    rw [← absent, ← isSlot, PeerEntry.setSlot_slot]

/-- An event that brings no session in is one step of the table. -/
theorem single
    {table : PeerTable snow}
    {peerName : PeerName}
    {event : PeerEvent snow}
    {entry : PeerEntry snow}
    (step : PeerStep (table peerName) event entry)
    (nothingEnters : event.introduced = none) :
    TableExecution table [(peerName, event)]
      (Function.update table peerName entry) :=
  Execution.single (.intro step (by simp [nothingEnters]))

/-- An event that brings in a session with a free identifier is one step. -/
theorem entering
    {table : PeerTable snow}
    {peerName : PeerName}
    {event : PeerEvent snow}
    {entry : PeerEntry snow}
    {session : Session snow}
    (step : PeerStep (table peerName) event entry)
    (enters : event.introduced = some session)
    (unused : table.Unused session.sessionId) :
    TableExecution table [(peerName, event)]
      (Function.update table peerName entry) := by
  refine Execution.single (.intro step fun introduced sameEvent => ?_)
  rw [enters, Option.some.injEq] at sameEvent
  exact sameEvent ▸ unused

end TableExecution

namespace SessionState

theorem dropExpiredPrevious_execution
    (state : SessionState snow)
    (now : Instant) :
    ∃ events,
      TableExecution state.table events (state.dropExpiredPrevious now).table ∧
        ∀ event ∈ events, event.2 = .expire .previous now := by
  obtain ⟨events, execution, onlyExpire⟩ :=
    TableExecution.dropExpiredSlot state.table .previous now
      state.previousSessions (fun _ => rfl)
  refine ⟨events, ?_, onlyExpire⟩
  convert execution using 1
  funext peerName
  simp [dropExpiredPrevious, table, entry, PeerEntry.withoutExpired]

theorem dropExpired_execution
    (state : SessionState snow)
    (now : Instant) :
    ∃ events,
      TableExecution state.table events (state.dropExpired now).table ∧
        ∀ event ∈ events, ∃ slot, event.2 = .expire slot now := by
  obtain ⟨activeEvents, activeRun, onlyActive⟩ :=
    TableExecution.dropExpiredSlot state.table .active now
      state.sessions (fun _ => rfl)
  obtain ⟨previousEvents, previousRun, onlyPrevious⟩ :=
    TableExecution.dropExpiredSlot
      (fun peerName => (state.table peerName).withoutExpired .active now)
      .previous now state.previousSessions (fun _ => rfl)
  obtain ⟨candidateEvents, candidateRun, onlyCandidate⟩ :=
    TableExecution.dropExpiredSlot
      (fun peerName =>
        ((state.table peerName).withoutExpired .active now).withoutExpired
          .previous now)
      .candidate now state.responderCandidates (fun _ => rfl)
  refine ⟨activeEvents ++ previousEvents ++ candidateEvents, ?_, ?_⟩
  · convert (activeRun.append previousRun).append candidateRun using 1
    funext peerName
    simp [dropExpired, table, entry, PeerEntry.withoutExpired]
  · intro event member
    simp only [List.mem_append] at member
    rcases member with (active | previous) | candidate
    · exact ⟨_, onlyActive event active⟩
    · exact ⟨_, onlyPrevious event previous⟩
    · exact ⟨_, onlyCandidate event candidate⟩

theorem dropExpiredSession_execution
    (state : SessionState snow)
    (peerName : PeerName)
    (now : Instant) :
    ∃ events,
      TableExecution state.table events
          (state.dropExpiredSession peerName now).table ∧
        ∀ event ∈ events, event = (peerName, .expire .active now) := by
  unfold dropExpiredSession
  cases stored : state.sessions.lookup peerName with
  | none =>
      exact ⟨[], .nil, by simp⟩
  | some session =>
      cases expired : session.isExpired now with
      | false =>
          exact ⟨[], by simpa [expired] using Execution.nil, by simp⟩
      | true =>
          refine ⟨[(peerName, .expire .active now)], ?_, by simp⟩
          have step :
              PeerStep (state.table peerName) (.expire .active now) _ :=
            .expire stored expired
          convert TableExecution.single step rfl using 1
          funext queried
          by_cases isPeer : queried = peerName
          · subst isPeer
            simp [expired, table, entry]
          · simp [expired, table, entry, isPeer]

/-- A state that differs at one peer has an updated table. -/
theorem table_eq_update
    (before : SessionState snow)
    {after : SessionState snow}
    (peerName : PeerName)
    (same :
      ∀ queried, queried ≠ peerName →
        after.entry queried = before.entry queried) :
    after.table =
      Function.update before.table peerName (after.entry peerName) := by
  funext queried
  by_cases isPeer : queried = peerName
  · subst isPeer
    simp [table]
  · simpa [isPeer, table] using same queried isPeer

/-- Expiry leaves an unexpired active session only. -/
theorem sessions_dropExpiredSession
    (state : SessionState snow)
    (peerName : PeerName)
    (now : Instant)
    (session : Session snow) :
    (state.dropExpiredSession peerName now).sessions.lookup peerName =
        some session ↔
      state.sessions.lookup peerName = some session ∧
        session.isExpired now = false := by
  unfold dropExpiredSession
  cases stored : state.sessions.lookup peerName with
  | none =>
      simp [stored]
  | some active =>
      cases expired : active.isExpired now <;>
        simp +contextual [stored, expired]
      · rintro rfl
        exact expired
      · grind

/--
`encrypt_for_peer` drops expired sessions and lets the active session, if it
has not expired, encrypt.
-/
theorem encryptForPeer_execution
    (state : SessionState snow)
    (peerName : PeerName)
    (msgType : Auth.MsgType)
    (payload : Bytes)
    (now : Instant) :
    ∃ drops acts,
      TableExecution state.table (drops ++ acts)
          (state.encryptForPeer peerName msgType payload now).2.table ∧
        (∀ event ∈ drops,
          event.2 = .expire .previous now ∨
            event = (peerName, .expire .active now)) ∧
        (((∀ session,
              state.sessions.lookup peerName = some session →
              session.isExpired now = true) ∧
            acts = [] ∧
            (state.encryptForPeer peerName msgType payload now).1 =
              .ok none) ∨
          ∃ session,
            state.sessions.lookup peerName = some session ∧
              session.isExpired now = false ∧
              acts = [(peerName, .encrypt session msgType payload now)] ∧
              (state.encryptForPeer peerName msgType payload now).1 =
                (session.encrypt msgType payload).1.map some) := by
  obtain ⟨previousEvents, previousRun, onlyPrevious⟩ :=
    state.dropExpiredPrevious_execution now
  obtain ⟨activeEvents, activeRun, onlyActive⟩ :=
    (state.dropExpiredPrevious now).dropExpiredSession_execution peerName now
  have dropRun := previousRun.append activeRun
  have onlyDrops :
      ∀ event ∈ previousEvents ++ activeEvents,
        event.2 = .expire .previous now ∨
          event = (peerName, .expire .active now) := by
    intro event member
    rcases List.mem_append.mp member with previous | active
    · exact Or.inl (onlyPrevious event previous)
    · exact Or.inr (onlyActive event active)
  refine ⟨previousEvents ++ activeEvents, ?_⟩
  unfold encryptForPeer
  simp only
  cases stored :
      ((state.dropExpiredPrevious now).dropExpiredSession peerName
        now).sessions.lookup peerName with
  | none =>
      refine ⟨[], by simpa using dropRun, onlyDrops, Or.inl ⟨?_, rfl, rfl⟩⟩
      intro session active
      by_contra unexpired
      have kept :=
        (sessions_dropExpiredSession _ _ _ _).mpr
          ⟨(show (state.dropExpiredPrevious now).sessions.lookup peerName =
              some session from active),
            Bool.not_eq_true _ ▸ unexpired⟩
      rw [stored] at kept
      cases kept
  | some session =>
      obtain ⟨active, unexpired⟩ := (sessions_dropExpiredSession _ _ _ _).mp stored
      refine ⟨[(peerName, .encrypt session msgType payload now)], ?_,
        onlyDrops, Or.inr ⟨session, active, unexpired, rfl, rfl⟩⟩
      have step :
          PeerStep
            (((state.dropExpiredPrevious now).dropExpiredSession peerName
              now).table peerName)
            (.encrypt session msgType payload now) _ :=
        .encrypt stored unexpired
      convert dropRun.append (TableExecution.single step rfl) using 1
      rw [table_eq_update
        ((state.dropExpiredPrevious now).dropExpiredSession peerName now)
        peerName]
      · simp [entry, table]
      · intro queried different
        simp [entry, different]

/-- A session that survives the removal of expired ones is unexpired. -/
theorem holds_dropExpired
    {state : SessionState snow}
    {now : Instant}
    {peerName : PeerName}
    {slot : Slot}
    {session : Session snow} :
    (state.dropExpired now).table.Holds peerName slot session ↔
      state.table.Holds peerName slot session ∧
        session.isExpired now = false := by
  cases slot <;>
    simp [PeerTable.Holds, table, entry, dropExpired,
      Option.filter_eq_some_iff]

/-- The peer and the session to which `decrypt_transport` routes a packet. -/
def located
    (state : SessionState snow)
    (sessionId : SessionId)
    (now : Instant) :
    Option (PeerName × Session snow) :=
  let state := state.dropExpired now
  ((state.sessions.findFirst? fun session =>
      session.sessionId = sessionId).or
    (state.previousSessions.findFirst? fun session =>
      session.sessionId = sessionId)).or
    (state.responderCandidates.findFirst? fun session =>
      session.sessionId = sessionId)

/-- The result of a packet that a session decrypted where it is. -/
def decryptedInPlace
    (peerName : PeerName)
    (decrypted : Except (NoiseError snow) (Auth.MsgType × Bytes)) :
    Except (NoiseError snow) (Option DecryptedTransport) :=
  decrypted.map fun (msgType, payload) =>
    some { peerName, msgType, payload, promotedResponderSession := false }

/-- What `decrypt_transport` did with a packet. -/
inductive DecryptOutcome
    (state : SessionState snow)
    (sessionId : SessionId)
    (counter : UInt64)
    (ciphertext : Bytes)
    (now : Instant) :
    List (PeerName × PeerEvent snow) →
    Except (NoiseError snow) (Option DecryptedTransport) →
    Prop where
  /-- No unexpired session has the identifier. -/
  | unknown :
      (state.dropExpired now).table.Unused sessionId →
      state.located sessionId now = none →
      DecryptOutcome state sessionId counter ciphertext now [] (.ok none)
  /-- The session of the identifier decrypts or rejects the packet. -/
  | inPlace
      {peerName : PeerName}
      {slot : Slot}
      {session : Session snow} :
      state.table.Holds peerName slot session →
      session.isExpired now = false →
      session.sessionId = sessionId →
      state.located sessionId now = some (peerName, session) →
      (slot = .candidate →
        ∃ error,
          (session.decrypt sessionId counter ciphertext).1 =
            .error error) →
      DecryptOutcome state sessionId counter ciphertext now
        [(peerName, .decrypt slot session counter ciphertext now)]
        (decryptedInPlace peerName
          (session.decrypt sessionId counter ciphertext).1)
  /-- The candidate of the identifier authenticates the packet. -/
  | promoted
      {peerName : PeerName}
      {session : Session snow}
      {msgType : Auth.MsgType}
      {payload : Bytes} :
      state.table.Holds peerName .candidate session →
      session.isExpired now = false →
      session.sessionId = sessionId →
      state.located sessionId now = some (peerName, session) →
      (session.decrypt sessionId counter ciphertext).1 =
        .ok (msgType, payload) →
      DecryptOutcome state sessionId counter ciphertext now
        [(peerName, .promote session counter ciphertext now)]
        (.ok
          (some
            { peerName, msgType, payload, promotedResponderSession := true }))

/-- A packet that reaches a session changes this session only. -/
theorem decrypt_step
    {state after : SessionState snow}
    {sessionId : SessionId}
    {counter : UInt64}
    {ciphertext : Bytes}
    {now : Instant}
    {peerName : PeerName}
    {slot : Slot}
    {session : Session snow}
    (held : (state.dropExpired now).table.Holds peerName slot session)
    (sameId : session.sessionId = sessionId)
    (updated :
      ∀ queried,
        after.entry queried =
          if queried = peerName then
            ((state.dropExpired now).entry queried).setSlot slot
              (some (session.decrypt sessionId counter ciphertext).2)
          else
            (state.dropExpired now).entry queried) :
    TableExecution (state.dropExpired now).table
      [(peerName, .decrypt slot session counter ciphertext now)]
      after.table := by
  obtain ⟨_, unexpired⟩ := holds_dropExpired.mp held
  subst sameId
  have step :
      PeerStep ((state.dropExpired now).table peerName)
        (.decrypt slot session counter ciphertext now) _ :=
    .decrypt held unexpired
  convert TableExecution.single step rfl using 1
  rw [table_eq_update (state.dropExpired now) peerName]
  · simp [updated, table]
  · intro queried different
    simp [updated, different]

/-- Installing a session changes three fields of one entry. -/
theorem entry_installActiveSession
    (state : SessionState snow)
    (peerName : PeerName)
    (session : Session snow)
    (queried : PeerName) :
    (state.installActiveSession peerName session).entry queried =
      if queried = peerName then
        { state.entry queried with
          session := some session
          previous :=
            (state.entry queried).session.or (state.entry queried).previous
          prefersInbound := False }
      else
        state.entry queried := by
  unfold installActiveSession
  by_cases isPeer : queried = peerName
  · subst isPeer
    cases stored : state.sessions.lookup queried <;>
      simp [entry, stored]
  · cases stored : state.sessions.lookup peerName <;>
      simp [entry, isPeer]

/-- What remains of the entry once its handshake state is discarded. -/
theorem table_install
    {before after : SessionState snow}
    (cleared : SessionState snow)
    {peerName : PeerName}
    {session : Session snow}
    (clearedEntry :
      ∀ queried,
        (cleared.entry queried).session = (before.entry queried).session ∧
          (cleared.entry queried).previous =
            (before.entry queried).previous ∧
          (queried ≠ peerName →
            cleared.entry queried = before.entry queried))
    (afterEntry :
      ∀ queried,
        after.entry queried =
          if queried = peerName then
            { (cleared.installActiveSession peerName session).entry queried with
              candidate := none
              pending := none
              cached := none }
          else
            (cleared.installActiveSession peerName session).entry queried) :
    after.table =
      Function.update before.table peerName
        ((before.entry peerName).install session) := by
  obtain ⟨sameActive, samePrevious, _⟩ := clearedEntry peerName
  rw [table_eq_update before peerName]
  · simp [afterEntry, entry_installActiveSession, PeerEntry.install,
      sameActive, samePrevious]
  · intro queried different
    simp [afterEntry, entry_installActiveSession, different,
      (clearedEntry queried).2.2 different]

/-- `decrypt_transport` drops expired sessions and uses at most one other. -/
theorem decryptTransport_execution
    (state : SessionState snow)
    (sessionId : SessionId)
    (counter : UInt64)
    (ciphertext : Bytes)
    (now : Instant) :
    ∃ drops acts,
      TableExecution state.table (drops ++ acts)
          (state.decryptTransport sessionId counter ciphertext now).2.table ∧
        (∀ event ∈ drops, ∃ slot, event.2 = .expire slot now) ∧
        DecryptOutcome state sessionId counter ciphertext now acts
          (state.decryptTransport sessionId counter ciphertext now).1 := by
  obtain ⟨drops, dropRun, onlyDrops⟩ := state.dropExpired_execution now
  refine ⟨drops, ?_⟩
  unfold decryptTransport
  simp only
  cases inSessions :
      (state.dropExpired now).sessions.findFirst? fun session =>
        session.sessionId = sessionId with
  | some found =>
      obtain ⟨peerName, session⟩ := found
      obtain ⟨stored, sameId⟩ := AssociationMap.findFirst?_some inSessions
      have held :
          (state.dropExpired now).table.Holds peerName .active session :=
        stored
      obtain ⟨heldBefore, unexpired⟩ := holds_dropExpired.mp held
      have sameId := of_decide_eq_true sameId
      refine ⟨_, dropRun.append (decrypt_step held sameId ?_), onlyDrops,
        .inPlace heldBefore unexpired sameId
          (by simp [located, inSessions]) (by simp)⟩
      intro queried
      by_cases isPeer : queried = peerName
      · subst isPeer
        simp [entry]
      · simp [entry, isPeer]
  | none =>
      cases inPrevious :
          (state.dropExpired now).previousSessions.findFirst? fun session =>
            session.sessionId = sessionId with
      | some found =>
          obtain ⟨peerName, session⟩ := found
          obtain ⟨stored, sameId⟩ :=
            AssociationMap.findFirst?_some inPrevious
          have held :
              (state.dropExpired now).table.Holds peerName .previous
                session :=
            stored
          obtain ⟨heldBefore, unexpired⟩ := holds_dropExpired.mp held
          have sameId := of_decide_eq_true sameId
          refine ⟨_, dropRun.append (decrypt_step held sameId ?_), onlyDrops,
            .inPlace heldBefore unexpired sameId
              (by simp [located, inSessions, inPrevious]) (by simp)⟩
          intro queried
          by_cases isPeer : queried = peerName
          · subst isPeer
            simp [entry]
          · simp [entry, isPeer]
      | none =>
          cases inCandidates :
              (state.dropExpired now).responderCandidates.findFirst?
                fun session => session.sessionId = sessionId with
          | none =>
              refine ⟨[], by simpa using dropRun, onlyDrops,
                .unknown ?_
                  (by simp [located, inSessions, inPrevious, inCandidates])⟩
              intro peerName slot session held
              rw [AssociationMap.findFirst?_eq_none] at inSessions
              rw [AssociationMap.findFirst?_eq_none] at inPrevious
              rw [AssociationMap.findFirst?_eq_none] at inCandidates
              cases slot with
              | active =>
                  exact of_decide_eq_false (inSessions peerName session held)
              | previous =>
                  exact of_decide_eq_false (inPrevious peerName session held)
              | candidate =>
                  exact of_decide_eq_false
                    (inCandidates peerName session held)
          | some found =>
              obtain ⟨peerName, session⟩ := found
              obtain ⟨stored, sameId⟩ :=
                AssociationMap.findFirst?_some inCandidates
              have held :
                  (state.dropExpired now).table.Holds peerName .candidate
                    session :=
                stored
              obtain ⟨heldBefore, unexpired⟩ := holds_dropExpired.mp held
              have sameId := of_decide_eq_true sameId
              simp only
              rcases opened : session.decrypt sessionId counter ciphertext with
                ⟨error | ⟨msgType, payload⟩, updated⟩
              · have outcome :=
                  @DecryptOutcome.inPlace _ state sessionId counter ciphertext
                    now _ _ _ heldBefore unexpired sameId
                    (by simp [located, inSessions, inPrevious, inCandidates])
                    (fun _ => ⟨error, by rw [opened]⟩)
                rw [opened] at outcome
                refine ⟨_, dropRun.append (decrypt_step held sameId ?_),
                  onlyDrops, outcome⟩
                intro queried
                by_cases isPeer : queried = peerName
                · subst isPeer
                  simp [entry, opened]
                · simp [entry, isPeer]
              · have outcome :=
                  @DecryptOutcome.promoted _ state sessionId counter
                    ciphertext now _ _ msgType payload heldBefore unexpired
                    sameId
                    (by simp [located, inSessions, inPrevious, inCandidates])
                    (by rw [opened])
                refine ⟨_, dropRun.append ?_, onlyDrops, outcome⟩
                have step :
                    PeerStep ((state.dropExpired now).table peerName)
                      (.promote session counter ciphertext now) _ :=
                  .promote held unexpired (by rw [sameId, opened])
                convert TableExecution.single step rfl using 1
                rw [sameId, opened]
                refine table_install
                  { state.dropExpired now with
                    responderCandidates :=
                      (state.dropExpired now).responderCandidates.erase
                        peerName }
                  (fun queried => ⟨rfl, rfl, fun different => ?_⟩)
                  (fun queried => ?_)
                · simp [entry, different]
                · by_cases isPeer : queried = peerName
                  · subst isPeer
                    simp [entry, installActiveSession]
                  · simp [entry, isPeer]

/-- An identifier is free exactly when no slot of any peer uses it. -/
theorem sessionIdInUse_eq_false
    {state : SessionState snow}
    {sessionId : SessionId} :
    state.sessionIdInUse sessionId = false ↔
      state.table.Unused sessionId := by
  simp only [sessionIdInUse, List.any_append, Bool.or_eq_false_iff,
    List.any_eq_false, decide_eq_true_eq]
  constructor
  · rintro ⟨⟨notActive, notPrevious⟩, notCandidate⟩ peerName slot session held
    cases slot with
    | active =>
        exact notActive ⟨peerName, session⟩
          (AssociationMap.mem_entries_iff_lookup.mpr held)
    | previous =>
        exact notPrevious ⟨peerName, session⟩
          (AssociationMap.mem_entries_iff_lookup.mpr held)
    | candidate =>
        exact notCandidate ⟨peerName, session⟩
          (AssociationMap.mem_entries_iff_lookup.mpr held)
  · intro unused
    refine ⟨⟨?_, ?_⟩, ?_⟩ <;> rintro ⟨peerName, session⟩ member
    · exact @unused _ .active _
        (AssociationMap.mem_entries_iff_lookup.mp member)
    · exact @unused _ .previous _
        (AssociationMap.mem_entries_iff_lookup.mp member)
    · exact @unused _ .candidate _
        (AssociationMap.mem_entries_iff_lookup.mp member)

/-- A session is stored unless its identifier is in use. -/
theorem storeResponderCandidate_execution
    (state : SessionState snow)
    (peerName : PeerName)
    (session : Session snow)
    (handshakeId : SessionId)
    (request response : Bytes)
    (clock : Instant) :
    (¬ state.table.Unused session.sessionId ∧
      state.storeResponderCandidate peerName session handshakeId request
          response clock =
        (false, state)) ∨
    (state.table.Unused session.sessionId ∧
      (state.storeResponderCandidate peerName session handshakeId request
          response clock).1 = true ∧
      TableExecution state.table
        [(peerName, .store session handshakeId request response clock)]
        (state.storeResponderCandidate peerName session handshakeId request
          response clock).2.table) := by
  unfold storeResponderCandidate
  cases inUse : state.sessionIdInUse session.sessionId with
  | true =>
      refine Or.inl ⟨fun unused => ?_, rfl⟩
      rw [sessionIdInUse_eq_false.mpr unused] at inUse
      cases inUse
  | false =>
      have unused := sessionIdInUse_eq_false.mp inUse
      refine Or.inr ⟨unused, rfl, ?_⟩
      have step :
          PeerStep (state.table peerName)
            (.store session handshakeId request response clock) _ :=
        .store
      convert TableExecution.entering step rfl unused using 1
      rw [table_eq_update state peerName]
      · simp [entry, table]
      · intro queried different
        simp [entry, different]

/-- What `cached_responder_response` did with a handshake initiation. -/
theorem cachedResponderResponse_execution
    (state : SessionState snow)
    (peerName : PeerName)
    (handshakeId : SessionId)
    (request : Bytes)
    (clock : Instant) :
    (∃ cached,
      (state.entry peerName).cached = some cached ∧
        cached.handshakeId = handshakeId ∧
        cached.request = request ∧
        clock - cached.createdAt < handshakeCacheLifetime ∧
        state.cachedResponderResponse peerName handshakeId request clock =
          (some cached.response, state)) ∨
    ((state.cachedResponderResponse peerName handshakeId request clock).1 =
        none ∧
      ((∃ cached,
          (state.entry peerName).cached = some cached ∧
            handshakeCacheLifetime ≤ clock - cached.createdAt ∧
            TableExecution state.table [(peerName, .expireCached clock)]
              (state.cachedResponderResponse peerName handshakeId request
                clock).2.table) ∨
        ((∀ cached,
            (state.entry peerName).cached = some cached →
            clock - cached.createdAt < handshakeCacheLifetime ∧
              ¬ (cached.handshakeId = handshakeId ∧
                cached.request = request)) ∧
          (state.cachedResponderResponse peerName handshakeId request
            clock).2 = state))) := by
  unfold cachedResponderResponse
  cases stored : state.responderCache.lookup peerName with
  | none =>
      exact Or.inr ⟨rfl, Or.inr ⟨by simp [entry, stored], rfl⟩⟩
  | some cached =>
      by_cases expired : handshakeCacheLifetime ≤ clock - cached.createdAt
      · refine Or.inr ⟨by simp [expired],
          Or.inl ⟨cached, stored, expired, ?_⟩⟩
        have step :
            PeerStep (state.table peerName) (.expireCached clock) _ :=
          .expireCached stored expired
        convert TableExecution.single step rfl using 1
        rw [table_eq_update state peerName]
        · simp [entry, table, expired]
        · intro queried different
          simp [entry, expired, different]
      · by_cases same :
            cached.handshakeId = handshakeId ∧ cached.request = request
        · exact Or.inl ⟨cached, stored, same.1, same.2,
            Nat.not_le.mp expired, by simp [expired, same]⟩
        · refine Or.inr ⟨by simp [expired, same], Or.inr ⟨?_, ?_⟩⟩
          · intro found foundStored
            rw [entry, stored] at foundStored
            cases foundStored
            exact ⟨Nat.not_le.mp expired, same⟩
          · simp [expired, same]

end SessionState

end HushWire

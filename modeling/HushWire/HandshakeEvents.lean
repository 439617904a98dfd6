import HushWire.ManagerEvents

namespace HushWire

open Noise

/-!
# Handshake methods as peer events

The methods that start, accept, finish or discard handshakes, as executions of
peer events.  Each statement relates the events to the value returned.
-/

variable {snow : Snow}

namespace SessionState

/-- The pending initiation of an entry, unless it reached its lifetime. -/
def livePending
    (state : SessionState snow)
    (peerName : PeerName)
    (time : Instant) :
    Option (PendingInitiator snow) :=
  (state.entry peerName).pending.filter fun pending =>
    time - pending.createdAt < handshakeAttemptLifetime

/-- Only the pending initiation of the peer can be dropped. -/
theorem entry_dropExpiredPending
    (state : SessionState snow)
    (peerName : PeerName)
    (time : Instant)
    (queried : PeerName) :
    (state.dropExpiredPending peerName time).entry queried =
      if queried = peerName then
        { state.entry queried with
          pending := state.livePending peerName time }
      else
        state.entry queried := by
  unfold dropExpiredPending livePending
  cases stored : state.pendingInit.lookup peerName with
  | none =>
      by_cases isPeer : queried = peerName
      · subst isPeer
        simp [entry, stored]
      · simp [isPeer]
  | some pending =>
      by_cases lapsed : handshakeAttemptLifetime ≤ time - pending.createdAt
      · by_cases isPeer : queried = peerName
        · subst isPeer
          simp [entry, stored, lapsed, Option.filter_some, Nat.not_lt.mpr]
        · simp [entry, lapsed, isPeer]
      · by_cases isPeer : queried = peerName
        · subst isPeer
          simp [entry, stored, lapsed, Option.filter_some,
            Nat.not_le.mp lapsed]
        · simp [lapsed, isPeer]

theorem dropExpiredPending_execution
    (state : SessionState snow)
    (peerName : PeerName)
    (time : Instant) :
    ∃ events,
      TableExecution state.table events
          (state.dropExpiredPending peerName time).table ∧
        ∀ event ∈ events,
          event = (peerName, .lapse time) ∧
            ∃ pending,
              (state.entry peerName).pending = some pending ∧
                handshakeAttemptLifetime ≤ time - pending.createdAt := by
  cases stored : (state.entry peerName).pending with
  | none =>
      refine ⟨[], ?_, by simp⟩
      unfold dropExpiredPending
      rw [show state.pendingInit.lookup peerName = none from stored]
      exact .nil
  | some pending =>
      by_cases lapsed : handshakeAttemptLifetime ≤ time - pending.createdAt
      · refine ⟨[(peerName, .lapse time)], ?_, by simpa using lapsed⟩
        have step : PeerStep (state.table peerName) (.lapse time) _ :=
          .lapse stored lapsed
        convert TableExecution.single step rfl using 1
        rw [table_eq_update state peerName]
        · simp [entry_dropExpiredPending, livePending, stored, lapsed,
            Option.filter_some, table, Nat.not_lt.mpr]
        · intro queried different
          simp [entry_dropExpiredPending, different]
      · refine ⟨[], ?_, by simp⟩
        unfold dropExpiredPending
        rw [show state.pendingInit.lookup peerName = some pending from stored]
        simpa [lapsed] using Execution.nil

/-- What `accept_inbound_initiation` decided, after a lapsed attempt is gone. -/
inductive AcceptOutcome
    (state : SessionState snow)
    (peerName : PeerName)
    (remoteHandshakeId : SessionId)
    (passivePeer : Bool)
    (clock : Instant) :
    List (PeerName × PeerEvent snow) → Bool → Prop where
  /-- A passive peer wins once after invalidation. -/
  | recovered :
      passivePeer = true →
      (state.entry peerName).prefersInbound →
      AcceptOutcome state peerName remoteHandshakeId passivePeer clock
        [(peerName, .recover)] true
  /-- There is no competing attempt. -/
  | uncontested :
      ¬ (passivePeer = true ∧ (state.entry peerName).prefersInbound) →
      state.livePending peerName clock = none →
      AcceptOutcome state peerName remoteHandshakeId passivePeer clock
        [] true
  /-- The local attempt has the smaller identifier. -/
  | refused
      {pending : PendingInitiator snow} :
      ¬ (passivePeer = true ∧ (state.entry peerName).prefersInbound) →
      state.livePending peerName clock = some pending →
      pending.handshakeId ≤ remoteHandshakeId →
      AcceptOutcome state peerName remoteHandshakeId passivePeer clock
        [] false
  /-- The remote attempt has the smaller identifier. -/
  | yielded
      {pending : PendingInitiator snow} :
      ¬ (passivePeer = true ∧ (state.entry peerName).prefersInbound) →
      state.livePending peerName clock = some pending →
      ¬ pending.handshakeId ≤ remoteHandshakeId →
      AcceptOutcome state peerName remoteHandshakeId passivePeer clock
        [(peerName, .yield remoteHandshakeId)] true

/-- `accept_inbound_initiation` touches the attempt and the preference only. -/
theorem acceptInboundInitiation_execution
    (state : SessionState snow)
    (peerName : PeerName)
    (remoteHandshakeId : SessionId)
    (passivePeer : Bool)
    (clock : Instant) :
    ∃ drops acts,
      TableExecution state.table (drops ++ acts)
          (state.acceptInboundInitiation peerName remoteHandshakeId
            passivePeer clock).2.table ∧
        (∀ event ∈ drops,
          event = (peerName, .lapse clock) ∧
            ∃ pending,
              (state.entry peerName).pending = some pending ∧
                handshakeAttemptLifetime ≤ clock - pending.createdAt) ∧
        AcceptOutcome state peerName remoteHandshakeId passivePeer clock acts
          (state.acceptInboundInitiation peerName remoteHandshakeId
            passivePeer clock).1 := by
  obtain ⟨drops, dropRun, onlyLapse⟩ :=
    state.dropExpiredPending_execution peerName clock
  have kept := state.entry_dropExpiredPending peerName clock peerName
  rw [if_pos rfl] at kept
  have keptPending :
      (state.dropExpiredPending peerName clock).pendingInit.lookup peerName =
        state.livePending peerName clock :=
    congrArg PeerEntry.pending kept
  have keptPreference :
      (peerName ∈ (state.dropExpiredPending peerName
          clock).inboundRecoveryPreference) =
        (state.entry peerName).prefersInbound :=
    congrArg PeerEntry.prefersInbound kept
  refine ⟨drops, ?_⟩
  unfold acceptInboundInitiation
  simp only
  by_cases preferred :
      passivePeer = true ∧ (state.entry peerName).prefersInbound
  · rw [if_pos (by rwa [keptPreference])]
    refine ⟨[(peerName, .recover)], dropRun.append ?_, onlyLapse,
      .recovered preferred.1 preferred.2⟩
    have step :
        PeerStep ((state.dropExpiredPending peerName clock).table peerName)
          .recover _ :=
      .recover (Eq.mpr keptPreference preferred.2)
    convert TableExecution.single step rfl using 1
    rw [table_eq_update (state.dropExpiredPending peerName clock) peerName]
    · simp [entry, table]
    · intro queried different
      simp [entry, different]
  · rw [if_neg (by rwa [keptPreference]), keptPending]
    cases live : state.livePending peerName clock with
    | none =>
        exact ⟨[], by simpa using dropRun, onlyLapse,
          .uncontested preferred live⟩
    | some pending =>
        by_cases smaller : pending.handshakeId ≤ remoteHandshakeId
        · refine ⟨[], ?_, onlyLapse, ?_⟩
          · simpa [smaller] using dropRun
          · simpa [smaller] using .refused preferred live smaller
        · refine ⟨[(peerName, .yield remoteHandshakeId)], ?_, onlyLapse, ?_⟩
          · have step :
                PeerStep
                  ((state.dropExpiredPending peerName clock).table peerName)
                  (.yield remoteHandshakeId) _ :=
              .yield (keptPending.trans live) smaller
            convert dropRun.append (TableExecution.single step rfl) using 1
            rw [table_eq_update (state.dropExpiredPending peerName clock) peerName]
            · simp [entry, table, smaller]
            · intro queried different
              simp [entry, smaller, different]
          · simpa [smaller] using .yielded preferred live smaller

/-- Expiry leaves an unexpired candidate only. -/
theorem candidates_dropExpiredCandidate
    (state : SessionState snow)
    (peerName : PeerName)
    (now : Instant) :
    (state.dropExpiredCandidate peerName now).responderCandidates.lookup
        peerName =
      (state.responderCandidates.lookup peerName).filter
        fun session => !session.isExpired now := by
  unfold dropExpiredCandidate
  cases stored : state.responderCandidates.lookup peerName with
  | none =>
      simp [stored]
  | some candidate =>
      cases expired : candidate.isExpired now <;>
        simp [stored, expired, Option.filter_some]

theorem dropExpiredCandidate_execution
    (state : SessionState snow)
    (peerName : PeerName)
    (now : Instant) :
    ∃ events,
      TableExecution state.table events
          (state.dropExpiredCandidate peerName now).table ∧
        ∀ event ∈ events,
          event = (peerName, .expire .candidate now) ∨
            event = (peerName, .forgetCached) := by
  unfold dropExpiredCandidate
  cases stored : state.responderCandidates.lookup peerName with
  | none =>
      exact ⟨[], .nil, by simp⟩
  | some candidate =>
      cases expired : candidate.isExpired now with
      | false =>
          exact ⟨[], by simpa [expired] using Execution.nil, by simp⟩
      | true =>
          refine ⟨[(peerName, .expire .candidate now)] ++
              [(peerName, .forgetCached)],
            ?_, by simp⟩
          have dropStep :
              PeerStep (state.table peerName) (.expire .candidate now) _ :=
            .expire stored expired
          have forgetStep :
              PeerStep
                ((Function.update state.table peerName
                  ((state.table peerName).setSlot .candidate none)) peerName)
                .forgetCached _ :=
            .forgetCached (by simp)
          convert (TableExecution.single dropStep rfl).append
            (TableExecution.single forgetStep rfl) using 1
          rw [table_eq_update state peerName]
          · simp [entry, table, expired]
          · intro queried different
            simp [entry, expired, different]

/-- What `start_or_retry_handshake` did. -/
inductive StartOutcome
    (state : SessionState snow)
    (peerName : PeerName)
    (localStatic remoteStaticPub psk : Key)
    (draw : Draw snow)
    (now : Instant) :
    List (PeerName × PeerEvent snow) →
    Except (NoiseError snow) (Option Bytes) →
    Prop where
  /-- The pending initiation was sent less than a retry interval ago. -/
  | waiting
      {pending : PendingInitiator snow} :
      state.livePending peerName now = some pending →
      now - pending.lastSent < handshakeRetryInterval →
      StartOutcome state peerName localStatic remoteStaticPub psk draw now
        [] (.ok none)
  /-- The pending initiation is sent again, byte for byte. -/
  | retransmitted
      {pending : PendingInitiator snow} :
      state.livePending peerName now = some pending →
      handshakeRetryInterval ≤ now - pending.lastSent →
      StartOutcome state peerName localStatic remoteStaticPub psk draw now
        [(peerName, .retransmit now)] (.ok (some pending.packet))
  /-- An unexpired candidate waits for its confirmation. -/
  | confirming
      {candidate : Session snow} :
      state.livePending peerName now = none →
      (state.entry peerName).candidate = some candidate →
      candidate.isExpired now = false →
      StartOutcome state peerName localStatic remoteStaticPub psk draw now
        [] (.ok none)
  /-- The active session needs no replacement. -/
  | current
      {session : Session snow} :
      state.livePending peerName now = none →
      (∀ candidate,
        (state.entry peerName).candidate = some candidate →
        candidate.isExpired now = true) →
      (state.entry peerName).session = some session →
      session.isExpired now = false →
      session.shouldRekey now = false →
      StartOutcome state peerName localStatic remoteStaticPub psk draw now
        [] (.ok none)
  /-- A new exchange was due. -/
  | due
      {acts : List (PeerName × PeerEvent snow)}
      {result : Except (NoiseError snow) (Option Bytes)} :
      state.livePending peerName now = none →
      (∀ candidate,
        (state.entry peerName).candidate = some candidate →
        candidate.isExpired now = true) →
      (∀ session,
        (state.entry peerName).session = some session →
        session.isExpired now = false →
        session.shouldRekey now = true) →
      ((∃ error,
          initiatorStart localStatic remoteStaticPub psk draw =
              .error error ∧
            acts = [] ∧
            result = .error error) ∨
        ∃ handshake,
          initiatorStart localStatic remoteStaticPub psk draw =
              .ok handshake ∧
            acts =
              [(peerName,
                .start localStatic remoteStaticPub psk draw now)] ∧
            result =
              .ok (some (PendingInitiator.ofHandshake handshake now).packet)) →
      StartOutcome state peerName localStatic remoteStaticPub psk draw now
        acts result

/-- Beginning a new exchange is one event, unless `snow` fails. -/
theorem startHandshake_execution
    (state : SessionState snow)
    (peerName : PeerName)
    (localStatic remoteStaticPub psk : Key)
    (draw : Draw snow)
    (now : Instant)
    (noPending : (state.entry peerName).pending = none)
    (noCandidate : (state.entry peerName).candidate = none)
    (rekeyDue :
      ∀ session,
        (state.entry peerName).session = some session →
        session.isExpired now = false ∧ session.shouldRekey now = true) :
    ∃ acts,
      TableExecution state.table acts
          (state.startHandshake peerName localStatic remoteStaticPub psk draw
            now).2.table ∧
        ((∃ error,
            initiatorStart localStatic remoteStaticPub psk draw =
                .error error ∧
              acts = [] ∧
              (state.startHandshake peerName localStatic remoteStaticPub psk
                draw now).1 = .error error) ∨
          ∃ handshake,
            initiatorStart localStatic remoteStaticPub psk draw =
                .ok handshake ∧
              acts =
                [(peerName,
                  .start localStatic remoteStaticPub psk draw now)] ∧
              (state.startHandshake peerName localStatic remoteStaticPub psk
                draw now).1 =
                .ok
                  (some (PendingInitiator.ofHandshake handshake now).packet)) := by
  unfold startHandshake
  cases drawn : initiatorStart localStatic remoteStaticPub psk draw with
  | error error =>
      exact ⟨[], .nil, Or.inl ⟨error, rfl, rfl, rfl⟩⟩
  | ok handshake =>
      refine ⟨_, ?_, Or.inr ⟨handshake, rfl, rfl, rfl⟩⟩
      have step :
          PeerStep (state.table peerName)
            (.start localStatic remoteStaticPub psk draw now) _ :=
        .start noPending noCandidate rekeyDue drawn
      convert TableExecution.single step rfl using 1
      rw [table_eq_update state peerName]
      · simp [entry, table]
      · intro queried different
        simp [entry, different]

@[simp] theorem dropExpiredCandidate_pendingInit
    (state : SessionState snow)
    (peerName : PeerName)
    (now : Instant) :
    (state.dropExpiredCandidate peerName now).pendingInit =
      state.pendingInit := by
  grind [dropExpiredCandidate]

@[simp] theorem dropExpiredCandidate_sessions
    (state : SessionState snow)
    (peerName : PeerName)
    (now : Instant) :
    (state.dropExpiredCandidate peerName now).sessions = state.sessions := by
  grind [dropExpiredCandidate]

@[simp] theorem dropExpiredSession_pendingInit
    (state : SessionState snow)
    (peerName : PeerName)
    (now : Instant) :
    (state.dropExpiredSession peerName now).pendingInit =
      state.pendingInit := by
  grind [dropExpiredSession]

@[simp] theorem dropExpiredSession_responderCandidates
    (state : SessionState snow)
    (peerName : PeerName)
    (now : Instant) :
    (state.dropExpiredSession peerName now).responderCandidates =
      state.responderCandidates := by
  grind [dropExpiredSession]

/-- Everything `start_or_retry_handshake` may remove concerns its peer. -/
def IsStartDrop
    (state : SessionState snow)
    (peerName : PeerName)
    (now : Instant)
    (event : PeerName × PeerEvent snow) :
    Prop :=
  (event = (peerName, .lapse now) ∧
    ∃ pending,
      (state.entry peerName).pending = some pending ∧
        handshakeAttemptLifetime ≤ now - pending.createdAt) ∨
  event = (peerName, .expire .candidate now) ∨
  event = (peerName, .forgetCached) ∨
  event = (peerName, .expire .active now)

/-- `start_or_retry_handshake` removes expired entries and acts at most once. -/
theorem startOrRetryHandshake_execution
    (state : SessionState snow)
    (peerName : PeerName)
    (localStatic remoteStaticPub psk : Key)
    (draw : Draw snow)
    (now : Instant) :
    ∃ drops acts,
      TableExecution state.table (drops ++ acts)
          (state.startOrRetryHandshake peerName localStatic remoteStaticPub
            psk draw now).2.table ∧
        (∀ event ∈ drops, state.IsStartDrop peerName now event) ∧
        StartOutcome state peerName localStatic remoteStaticPub psk draw now
          acts
          (state.startOrRetryHandshake peerName localStatic remoteStaticPub
            psk draw now).1 := by
  obtain ⟨lapses, lapseRun, onlyLapse⟩ :=
    state.dropExpiredPending_execution peerName now
  have kept := state.entry_dropExpiredPending peerName now peerName
  rw [if_pos rfl] at kept
  have keptPending :
      (state.dropExpiredPending peerName now).pendingInit.lookup peerName =
        state.livePending peerName now :=
    congrArg PeerEntry.pending kept
  have keptCandidate :
      (state.dropExpiredPending peerName now).responderCandidates.lookup
          peerName =
        (state.entry peerName).candidate :=
    congrArg PeerEntry.candidate kept
  have keptSession :
      (state.dropExpiredPending peerName now).sessions.lookup peerName =
        (state.entry peerName).session :=
    congrArg PeerEntry.session kept
  have onlyLapseDrop :
      ∀ event ∈ lapses, state.IsStartDrop peerName now event :=
    fun event member => Or.inl (onlyLapse event member)
  unfold startOrRetryHandshake
  simp only
  rw [keptPending]
  cases live : state.livePending peerName now with
  | some pending =>
      by_cases recent : now - pending.lastSent < handshakeRetryInterval
      · refine ⟨lapses, [], ?_, onlyLapseDrop, ?_⟩
        · simpa [recent] using lapseRun
        · simpa [recent] using .waiting live recent
      · refine ⟨lapses, [(peerName, .retransmit now)], ?_, onlyLapseDrop,
          ?_⟩
        · have alive : now - pending.createdAt < handshakeAttemptLifetime := by
            simp only [livePending, Option.filter_eq_some_iff,
              decide_eq_true_eq] at live
            exact live.2
          have step :
              PeerStep
                ((state.dropExpiredPending peerName now).table peerName)
                (.retransmit now) _ :=
            .retransmit (keptPending.trans live) (Nat.not_lt.mp recent) alive
          convert lapseRun.append (TableExecution.single step rfl) using 1
          rw [table_eq_update (state.dropExpiredPending peerName now) peerName]
          · simp [entry, table, recent]
          · intro queried different
            simp [entry, recent, different]
        · simpa [recent] using .retransmitted live (Nat.not_lt.mp recent)
  | none =>
      obtain ⟨candidateDrops, candidateRun, onlyCandidate⟩ :=
        (state.dropExpiredPending peerName now).dropExpiredCandidate_execution
          peerName now
      have candidateFiltered :=
        candidates_dropExpiredCandidate
          (state.dropExpiredPending peerName now) peerName now
      rw [keptCandidate] at candidateFiltered
      have onlyEarlyDrop :
          ∀ event ∈ lapses ++ candidateDrops,
            state.IsStartDrop peerName now event := by
        intro event member
        rcases List.mem_append.mp member with lapse | candidate
        · exact onlyLapseDrop event lapse
        · rcases onlyCandidate event candidate with expire | forget
          · exact Or.inr (Or.inl expire)
          · exact Or.inr (Or.inr (Or.inl forget))
      simp only
      cases waiting :
          ((state.dropExpiredPending peerName now).dropExpiredCandidate
            peerName now).responderCandidates.lookup peerName with
      | some candidate =>
          rw [waiting, eq_comm, Option.filter_eq_some_iff] at candidateFiltered
          refine ⟨lapses ++ candidateDrops, [],
            by simpa using lapseRun.append candidateRun, onlyEarlyDrop,
            .confirming live candidateFiltered.1
              (by simpa using candidateFiltered.2)⟩
      | none =>
          rw [waiting, eq_comm, Option.filter_eq_none_iff] at candidateFiltered
          have noCandidate :
              ∀ candidate,
                (state.entry peerName).candidate = some candidate →
                candidate.isExpired now = true := by
            intro candidate stored
            simpa using candidateFiltered candidate stored
          obtain ⟨sessionDrops, sessionRun, onlySession⟩ :=
            ((state.dropExpiredPending peerName now).dropExpiredCandidate
              peerName now).dropExpiredSession_execution peerName now
          have dropRun := (lapseRun.append candidateRun).append sessionRun
          have onlyDrop :
              ∀ event ∈ lapses ++ candidateDrops ++ sessionDrops,
                state.IsStartDrop peerName now event := by
            intro event member
            rcases List.mem_append.mp member with early | active
            · exact onlyEarlyDrop event early
            · exact Or.inr (Or.inr (Or.inr (onlySession event active)))
          have sessionKept (session : Session snow) :=
            sessions_dropExpiredSession
              ((state.dropExpiredPending peerName now).dropExpiredCandidate
                peerName now)
              peerName now session
          simp only [dropExpiredCandidate_sessions, keptSession]
            at sessionKept
          have startRun
              (rekeyDue :
                ∀ session,
                  (state.entry peerName).session = some session →
                  session.isExpired now = false →
                  session.shouldRekey now = true) :=
            startHandshake_execution
              (((state.dropExpiredPending peerName now).dropExpiredCandidate
                peerName now).dropExpiredSession peerName now)
              peerName localStatic remoteStaticPub psk draw now
              (by simpa [entry] using keptPending.trans live)
              (by simpa [entry] using waiting)
              (fun session stored =>
                have before := (sessionKept session).mp stored
                ⟨before.2, rekeyDue session before.1 before.2⟩)
          cases active :
              (((state.dropExpiredPending peerName now).dropExpiredCandidate
                peerName now).dropExpiredSession peerName
                  now).sessions.lookup peerName with
          | none =>
              have rekeyDue :
                  ∀ session,
                    (state.entry peerName).session = some session →
                    session.isExpired now = false →
                    session.shouldRekey now = true := by
                intro session stored unexpired
                rw [(sessionKept session).mpr ⟨stored, unexpired⟩] at active
                cases active
              obtain ⟨acts, actRun, outcome⟩ := startRun rekeyDue
              exact ⟨_, acts, dropRun.append actRun, onlyDrop,
                .due live noCandidate rekeyDue outcome⟩
          | some session =>
              obtain ⟨stored, unexpired⟩ := (sessionKept session).mp active
              cases due : session.shouldRekey now with
              | true =>
                  have rekeyDue :
                      ∀ other,
                        (state.entry peerName).session = some other →
                        other.isExpired now = false →
                        other.shouldRekey now = true := by
                    intro other otherStored _
                    rw [stored, Option.some.injEq] at otherStored
                    rwa [← otherStored]
                  obtain ⟨acts, actRun, outcome⟩ := startRun rekeyDue
                  refine ⟨_, acts, dropRun.append ?_, onlyDrop,
                    .due live noCandidate rekeyDue ?_⟩
                  · simpa [due] using actRun
                  · simpa [due] using outcome
              | false =>
                  refine ⟨_, [], ?_, onlyDrop, ?_⟩
                  · simpa [due] using dropRun
                  · simpa [due] using
                      .current live noCandidate stored unexpired due

/-- `start_or_retry_handshake` concerns one peer only. -/
theorem startOrRetryHandshake_entry_of_ne
    (state : SessionState snow)
    {peerName queried : PeerName}
    (different : queried ≠ peerName)
    (localStatic remoteStaticPub psk : Key)
    (draw : Draw snow)
    (now : Instant) :
    (state.startOrRetryHandshake peerName localStatic remoteStaticPub psk draw
        now).2.entry queried =
      state.entry queried := by
  obtain ⟨drops, acts, execution, onlyDrops, outcome⟩ :=
    state.startOrRetryHandshake_execution peerName localStatic
      remoteStaticPub psk draw now
  generalize
    (state.startOrRetryHandshake peerName localStatic remoteStaticPub psk
      draw now).1 = result
    at outcome
  refine execution.frame ?_
  intro event member
  rcases List.mem_append.mp member with drop | act
  · rcases onlyDrops event drop with ⟨rfl, _⟩ | rfl | rfl | rfl <;>
      exact different.symm
  · cases outcome with
    | waiting | confirming | current =>
        cases act
    | retransmitted =>
        rw [List.mem_singleton.mp act]
        exact different.symm
    | due _ _ _ due =>
        rcases due with ⟨_, _, rfl, _⟩ | ⟨_, _, rfl, _⟩
        · cases act
        · rw [List.mem_singleton.mp act]
          exact different.symm

/-- The pending initiation that `finalize_initiator` matches. -/
def Matches
    (state : SessionState snow)
    (handshakeId : SessionId)
    (peerName : PeerName)
    (pending : PendingInitiator snow) :
    Prop :=
  state.pendingInit.findFirst?
      (fun pending => pending.handshakeId = handshakeId) =
    some (peerName, pending)

/-- The matched initiation is pending and has the identifier. -/
theorem Matches.stored
    {state : SessionState snow}
    {handshakeId : SessionId}
    {peerName : PeerName}
    {pending : PendingInitiator snow}
    (matched : state.Matches handshakeId peerName pending) :
    (state.entry peerName).pending = some pending :=
  (AssociationMap.findFirst?_some matched).1

theorem Matches.sameId
    {state : SessionState snow}
    {handshakeId : SessionId}
    {peerName : PeerName}
    {pending : PendingInitiator snow}
    (matched : state.Matches handshakeId peerName pending) :
    pending.handshakeId = handshakeId :=
  of_decide_eq_true (AssociationMap.findFirst?_some matched).2

/-- What `finalize_initiator` did with a handshake response. -/
inductive FinalizeOutcome
    (state : SessionState snow)
    (handshakeId : SessionId)
    (response : Bytes)
    (clock : Instant) :
    List (PeerName × PeerEvent snow) →
    Except (NoiseError snow) (Option (PeerName × Bytes)) →
    Prop where
  /-- No pending initiation has the identifier. -/
  | unknown :
      (∀ peerName pending,
        (state.entry peerName).pending = some pending →
        pending.handshakeId ≠ handshakeId) →
      FinalizeOutcome state handshakeId response clock [] (.ok none)
  /-- The pending initiation is gone and there is no session. -/
  | abandoned
      {peerName : PeerName}
      {pending : PendingInitiator snow}
      {error : NoiseError snow} :
      state.Matches handshakeId peerName pending →
      FinalizeOutcome state handshakeId response clock
        [(peerName, .abandon)] (.error error)
  /-- The negotiated session is active and confirmed by a first message. -/
  | completed
      {peerName : PeerName}
      {pending : PendingInitiator snow}
      {session : Session snow}
      {confirmation : Bytes} :
      state.Matches handshakeId peerName pending →
      initiatorFinalize pending.state response clock = .ok session →
      state.table.Unused session.sessionId →
      (session.encrypt .keepalive Auth.keepaliveProbePayload).1 =
        .ok confirmation →
      FinalizeOutcome state handshakeId response clock
        [(peerName, .finalize session response clock)]
        (.ok (some (peerName, confirmation)))

/-- `finalize_initiator` uses up the pending initiation it matches. -/
theorem finalizeInitiator_execution
    (state : SessionState snow)
    (handshakeId : SessionId)
    (response : Bytes)
    (clock : Instant) :
    ∃ acts,
      TableExecution state.table acts
          (state.finalizeInitiator handshakeId response clock).2.table ∧
        FinalizeOutcome state handshakeId response clock acts
          (state.finalizeInitiator handshakeId response clock).1 := by
  unfold finalizeInitiator
  cases matched :
      state.pendingInit.findFirst? fun pending =>
        pending.handshakeId = handshakeId with
  | none =>
      rw [AssociationMap.findFirst?_eq_none] at matched
      exact ⟨[], .nil, .unknown fun peerName pending stored =>
        of_decide_eq_false (matched peerName pending stored)⟩
  | some found =>
      obtain ⟨peerName, pending⟩ := found
      have abandonRun :
          TableExecution state.table [(peerName, .abandon)]
            ({ state with
              pendingInit := state.pendingInit.erase peerName } :
                SessionState snow).table := by
        have step : PeerStep (state.table peerName) .abandon _ := .abandon
        convert TableExecution.single step rfl using 1
        rw [table_eq_update state peerName]
        · simp [entry, table]
        · intro queried different
          simp [entry, different]
      simp only
      cases completed : initiatorFinalize pending.state response clock with
      | error error =>
          exact ⟨_, abandonRun, .abandoned matched⟩
      | ok session =>
          simp only
          cases inUse :
              ({ state with
                pendingInit := state.pendingInit.erase peerName } :
                  SessionState snow).sessionIdInUse session.sessionId with
          | true =>
              exact ⟨_, abandonRun, .abandoned matched⟩
          | false =>
              have unused : state.table.Unused session.sessionId :=
                sessionIdInUse_eq_false.mp inUse
              simp only [Bool.false_eq_true, ↓reduceIte]
              rcases sealed :
                session.encrypt .keepalive Auth.keepaliveProbePayload with
                ⟨error | confirmation, confirmed⟩
              · exact ⟨_, abandonRun, .abandoned matched⟩
              · refine ⟨_, ?_, .completed matched completed unused
                  (by rw [sealed])⟩
                have step :
                    PeerStep (state.table peerName)
                      (.finalize session response clock) _ :=
                  .finalize (Matches.stored matched) completed (by rw [sealed])
                convert TableExecution.entering step rfl unused using 1
                rw [sealed]
                refine table_install
                  { state with
                    pendingInit := state.pendingInit.erase peerName }
                  (fun queried => ⟨rfl, rfl, fun different => ?_⟩)
                  (fun queried => ?_)
                · simp [entry, different]
                · by_cases isPeer : queried = peerName
                  · subst isPeer
                    simp [entry, installActiveSession]
                  · simp [entry, isPeer]

/-- `invalidate_peer` leaves nothing but the preference. -/
theorem invalidatePeer_execution
    (state : SessionState snow)
    (peerName : PeerName) :
    TableExecution state.table [(peerName, .invalidate)]
      (state.invalidatePeer peerName).2.table := by
  have step : PeerStep (state.table peerName) .invalidate _ := .invalidate
  convert TableExecution.single step rfl using 1
  rw [table_eq_update state peerName]
  · simp [entry, table, invalidatePeer, PeerEntry.empty]
  · intro queried different
    simp [entry, invalidatePeer, different]

end SessionState

end HushWire

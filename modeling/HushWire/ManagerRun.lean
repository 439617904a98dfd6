import HushWire.HandshakeEvents

namespace HushWire

open Noise

/-!
# Runs of the session manager

A run is a sequence of method calls with arbitrary arguments.  The iteration
order of the hash maps is unspecified, so every call works on some reordering
of the state the previous call left.

Every call is an execution of peer events, hence what holds of the empty
table and is kept by each event holds in every reachable state.
-/

/-- A method call with its arguments and the values it reads or draws. -/
inductive Call (snow : Snow) where
  | encryptForPeer
      (peerName : PeerName)
      (msgType : Auth.MsgType)
      (payload : Bytes)
      (now : Instant)
  | decryptTransport
      (sessionId : SessionId)
      (counter : UInt64)
      (ciphertext : Bytes)
      (now : Instant)
  | storeResponderCandidate
      (peerName : PeerName)
      (session : Session snow)
      (handshakeId : SessionId)
      (request response : Bytes)
      (clock : Instant)
  | cachedResponderResponse
      (peerName : PeerName)
      (handshakeId : SessionId)
      (request : Bytes)
      (clock : Instant)
  | acceptInboundInitiation
      (peerName : PeerName)
      (remoteHandshakeId : SessionId)
      (passivePeer : Bool)
      (clock : Instant)
  | startOrRetryHandshake
      (peerName : PeerName)
      (localStatic remoteStaticPub psk : Key)
      (draw : Draw snow)
      (now : Instant)
  | finalizeInitiator
      (handshakeId : SessionId)
      (response : Bytes)
      (clock : Instant)
  | invalidatePeer (peerName : PeerName)

/-- The value a method call returns. -/
inductive Outcome (snow : Snow) where
  | encrypted (result : Except (NoiseError snow) (Option Bytes))
  | decrypted (result : Except (NoiseError snow) (Option DecryptedTransport))
  | stored (result : Bool)
  | cached (result : Option Bytes)
  | accepted (result : Bool)
  | started (result : Except (NoiseError snow) (Option Bytes))
  | finalized
      (result : Except (NoiseError snow) (Option (PeerName × Bytes)))
  | invalidated (result : Bool)

variable {snow : Snow}

/-- The instant a method call reads. -/
def Call.time : Call snow → Option Instant
  | .encryptForPeer _ _ _ now => some now
  | .decryptTransport _ _ _ now => some now
  | .storeResponderCandidate _ _ _ _ _ clock => some clock
  | .cachedResponderResponse _ _ _ clock => some clock
  | .acceptInboundInitiation _ _ _ clock => some clock
  | .startOrRetryHandshake _ _ _ _ _ now => some now
  | .finalizeInitiator _ _ clock => some clock
  | .invalidatePeer _ => none

/-- The event of a peer is one that a call with its result brings about. -/
def PeerEvent.IssuedBy
    (peerName : PeerName)
    (call : Call snow)
    (outcome : Outcome snow) :
    PeerEvent snow → Prop
  | .expire _ now => call.time = some now
  | .forgetCached => True
  | .expireCached clock => call.time = some clock
  | .lapse time => call.time = some time
  | .yield remoteHandshakeId =>
      ∃ passivePeer clock,
        call =
          .acceptInboundInitiation peerName remoteHandshakeId passivePeer
            clock
  | .recover =>
      ∃ remoteHandshakeId clock,
        call = .acceptInboundInitiation peerName remoteHandshakeId true clock
  | .start localStatic remoteStaticPub psk draw now =>
      call =
        .startOrRetryHandshake peerName localStatic remoteStaticPub psk draw
          now
  | .retransmit now =>
      ∃ localStatic remoteStaticPub psk draw,
        call =
          .startOrRetryHandshake peerName localStatic remoteStaticPub psk draw
            now
  | .store session handshakeId request response clock =>
      call =
          .storeResponderCandidate peerName session handshakeId request
            response clock ∧
        outcome = .stored true
  | .finalize _ response clock =>
      ∃ handshakeId, call = .finalizeInitiator handshakeId response clock
  | .abandon =>
      ∃ handshakeId response clock,
        call = .finalizeInitiator handshakeId response clock
  | .encrypt _ msgType payload now =>
      call = .encryptForPeer peerName msgType payload now
  | .decrypt _ session counter ciphertext now =>
      call = .decryptTransport session.sessionId counter ciphertext now
  | .promote session counter ciphertext now =>
      call = .decryptTransport session.sessionId counter ciphertext now
  | .invalidate => call = .invalidatePeer peerName

namespace SessionState

/-- Carry out a method call. -/
def perform
    (state : SessionState snow) :
    Call snow → Outcome snow × SessionState snow
  | .encryptForPeer peerName msgType payload now =>
      (state.encryptForPeer peerName msgType payload now).map .encrypted id
  | .decryptTransport sessionId counter ciphertext now =>
      (state.decryptTransport sessionId counter ciphertext now).map
        .decrypted id
  | .storeResponderCandidate peerName session handshakeId request response
        clock =>
      (state.storeResponderCandidate peerName session handshakeId request
        response clock).map .stored id
  | .cachedResponderResponse peerName handshakeId request clock =>
      (state.cachedResponderResponse peerName handshakeId request clock).map
        .cached id
  | .acceptInboundInitiation peerName remoteHandshakeId passivePeer clock =>
      (state.acceptInboundInitiation peerName remoteHandshakeId passivePeer
        clock).map .accepted id
  | .startOrRetryHandshake peerName localStatic remoteStaticPub psk draw
        now =>
      (state.startOrRetryHandshake peerName localStatic remoteStaticPub psk
        draw now).map .started id
  | .finalizeInitiator handshakeId response clock =>
      (state.finalizeInitiator handshakeId response clock).map .finalized id
  | .invalidatePeer peerName =>
      (state.invalidatePeer peerName).map .invalidated id

/-- Two states whose maps differ in iteration order only. -/
structure SameEntries (first second : SessionState snow) : Prop where
  sessions :
    AssociationMap.SameEntries first.sessions second.sessions
  previousSessions :
    AssociationMap.SameEntries first.previousSessions second.previousSessions
  responderCandidates :
    AssociationMap.SameEntries first.responderCandidates
      second.responderCandidates
  pendingInit :
    AssociationMap.SameEntries first.pendingInit second.pendingInit
  responderCache :
    AssociationMap.SameEntries first.responderCache second.responderCache
  inboundRecoveryPreference :
    first.inboundRecoveryPreference = second.inboundRecoveryPreference

namespace SameEntries

theorem refl (state : SessionState snow) : SameEntries state state where
  sessions := .refl _
  previousSessions := .refl _
  responderCandidates := .refl _
  pendingInit := .refl _
  responderCache := .refl _
  inboundRecoveryPreference := rfl

/-- The table of entries does not observe the iteration order. -/
theorem table_eq
    {first second : SessionState snow}
    (same : SameEntries first second) :
    first.table = second.table := by
  funext peerName
  simp [table, entry, same.sessions.lookup_eq, same.previousSessions.lookup_eq,
    same.responderCandidates.lookup_eq, same.pendingInit.lookup_eq,
    same.responderCache.lookup_eq, same.inboundRecoveryPreference]

end SameEntries

end SessionState

/-- One call of a run: the state it works on, its arguments and its result. -/
structure Transition (snow : Snow) where
  before : SessionState snow
  call : Call snow
  outcome : Outcome snow
  after : SessionState snow

/-- The state that a call leaves behind. -/
def SessionState.afterCall
    (state : SessionState snow)
    (call : Call snow) :
    SessionState snow :=
  (state.perform call).2

/-- The transition of a call on a state in its own iteration order. -/
def SessionState.transition
    (state : SessionState snow)
    (call : Call snow) :
    Transition snow where
  before := state
  call := call
  outcome := (state.perform call).1
  after := state.afterCall call

/-- A call works on the current entries in some iteration order. -/
structure ManagerStep
    (state : SessionState snow)
    (transition : Transition snow)
    (next : SessionState snow) :
    Prop where
  sameEntries : SessionState.SameEntries state transition.before
  performed :
    transition.before.perform transition.call =
      (transition.outcome, transition.after)
  next_eq : next = transition.after

/-- A run of the manager from its initial state. -/
abbrev ManagerRun
    (run : List (Transition snow))
    (final : SessionState snow) :
    Prop :=
  Execution ManagerStep .new run final

namespace SessionState

/-- Every method call is an execution of peer events that it issues. -/
theorem perform_execution
    (state : SessionState snow)
    (call : Call snow) :
    ∃ events,
      TableExecution state.table events (state.perform call).2.table ∧
        ∀ event ∈ events,
          event.2.IssuedBy event.1 call (state.perform call).1 := by
  cases call with
  | encryptForPeer peerName msgType payload now =>
      obtain ⟨drops, acts, run, onlyDrops, outcome⟩ :=
        state.encryptForPeer_execution peerName msgType payload now
      refine ⟨_, run, fun event member => ?_⟩
      rcases List.mem_append.mp member with dropped | acted
      · rcases onlyDrops event dropped with previous | active
        · rw [previous]
          rfl
        · rw [active]
          rfl
      · rcases outcome with ⟨_, rfl, _⟩ | ⟨session, _, _, rfl, _⟩
        · cases acted
        · rw [List.mem_singleton.mp acted]
          rfl
  | decryptTransport sessionId counter ciphertext now =>
      obtain ⟨drops, acts, run, onlyDrops, outcome⟩ :=
        state.decryptTransport_execution sessionId counter ciphertext now
      refine ⟨_, run, fun event member => ?_⟩
      rcases List.mem_append.mp member with dropped | acted
      · obtain ⟨slot, expire⟩ := onlyDrops event dropped
        rw [expire]
        rfl
      · generalize
          (state.decryptTransport sessionId counter ciphertext now).1 = result
          at outcome
        cases outcome with
        | unknown =>
            cases acted
        | inPlace _ _ sameId | promoted _ _ sameId =>
            rw [List.mem_singleton.mp acted]
            exact congrArg (Call.decryptTransport · counter ciphertext now)
              sameId.symm
  | storeResponderCandidate peerName session handshakeId request response
        clock =>
      rcases state.storeResponderCandidate_execution peerName session
        handshakeId request response clock with
        ⟨_, refused⟩ | ⟨_, stored, run⟩
      · exact ⟨[], by simpa [perform, refused] using Execution.nil, by simp⟩
      · refine ⟨_, run, fun event member => ?_⟩
        rw [List.mem_singleton.mp member]
        exact ⟨rfl, congrArg Outcome.stored stored⟩
  | cachedResponderResponse peerName handshakeId request clock =>
      rcases state.cachedResponderResponse_execution peerName handshakeId
        request clock with
        ⟨_, _, _, _, _, found⟩ | ⟨_, ⟨_, _, _, run⟩ | ⟨_, unchanged⟩⟩
      · exact ⟨[], by simpa [perform, found] using Execution.nil, by simp⟩
      · refine ⟨_, run, fun event member => ?_⟩
        rw [List.mem_singleton.mp member]
        rfl
      · exact ⟨[], by simpa [perform, unchanged] using Execution.nil, by simp⟩
  | acceptInboundInitiation peerName remoteHandshakeId passivePeer clock =>
      obtain ⟨drops, acts, run, onlyDrops, outcome⟩ :=
        state.acceptInboundInitiation_execution peerName remoteHandshakeId
          passivePeer clock
      refine ⟨_, run, fun event member => ?_⟩
      rcases List.mem_append.mp member with dropped | acted
      · rw [(onlyDrops event dropped).1]
        rfl
      · generalize
          (state.acceptInboundInitiation peerName remoteHandshakeId
            passivePeer clock).1 = result
          at outcome
        cases outcome with
        | uncontested | refused =>
            cases acted
        | recovered passive =>
            rw [List.mem_singleton.mp acted]
            exact ⟨remoteHandshakeId, clock, by rw [passive]⟩
        | yielded =>
            rw [List.mem_singleton.mp acted]
            exact ⟨passivePeer, clock, rfl⟩
  | startOrRetryHandshake peerName localStatic remoteStaticPub psk draw
        now =>
      obtain ⟨drops, acts, run, onlyDrops, outcome⟩ :=
        state.startOrRetryHandshake_execution peerName localStatic
          remoteStaticPub psk draw now
      refine ⟨_, run, fun event member => ?_⟩
      rcases List.mem_append.mp member with dropped | acted
      · rcases onlyDrops event dropped with
          ⟨lapse, _⟩ | candidate | forget | active
        · rw [lapse]
          rfl
        · rw [candidate]
          rfl
        · rw [forget]
          trivial
        · rw [active]
          rfl
      · generalize
          (state.startOrRetryHandshake peerName localStatic remoteStaticPub
            psk draw now).1 = result
          at outcome
        cases outcome with
        | waiting | confirming | current =>
            cases acted
        | retransmitted =>
            rw [List.mem_singleton.mp acted]
            exact ⟨_, _, _, _, rfl⟩
        | due _ _ _ started =>
            rcases started with ⟨_, _, rfl, _⟩ | ⟨_, _, rfl, _⟩
            · cases acted
            · rw [List.mem_singleton.mp acted]
              rfl
  | finalizeInitiator handshakeId response clock =>
      obtain ⟨acts, run, outcome⟩ :=
        state.finalizeInitiator_execution handshakeId response clock
      refine ⟨_, run, fun event acted => ?_⟩
      generalize
        (state.finalizeInitiator handshakeId response clock).1 = result
        at outcome
      cases outcome with
      | unknown =>
          cases acted
      | abandoned =>
          rw [List.mem_singleton.mp acted]
          exact ⟨_, _, _, rfl⟩
      | completed =>
          rw [List.mem_singleton.mp acted]
          exact ⟨_, rfl⟩
  | invalidatePeer peerName =>
      refine ⟨_, state.invalidatePeer_execution peerName,
        fun event member => ?_⟩
      rw [List.mem_singleton.mp member]
      rfl

end SessionState

namespace ManagerStep

/-- A call on a state, with the order of its maps left as it is. -/
theorem of_perform
    (state : SessionState snow)
    (call : Call snow) :
    ManagerStep state (state.transition call) (state.afterCall call) where
  sameEntries := .refl state
  performed := rfl
  next_eq := rfl

/-- The table changes by events that the call issues. -/
theorem tableExecution
    {state next : SessionState snow}
    {transition : Transition snow}
    (step : ManagerStep state transition next) :
    ∃ events,
      TableExecution state.table events next.table ∧
        ∀ event ∈ events,
          event.2.IssuedBy event.1 transition.call transition.outcome := by
  obtain ⟨events, run, issued⟩ :=
    transition.before.perform_execution transition.call
  rw [step.performed] at run issued
  rw [step.sameEntries.table_eq, step.next_eq]
  exact ⟨events, run, issued⟩

end ManagerStep

namespace SessionState

@[simp] theorem table_new (peerName : PeerName) :
    (new : SessionState snow).table peerName = .empty False := by
  simp [table, entry, new, PeerEntry.empty]

/-- Identifiers are pairwise distinct before the first call. -/
theorem distinctIds_new :
    (new : SessionState snow).table.DistinctBy Session.sessionId := by
  intro firstPeer firstSlot first _ _ _ held
  rw [PeerTable.Holds, table_new] at held
  cases firstSlot <;> cases held

end SessionState

namespace ManagerRun

/-- The calls of a run returned what `perform` returns. -/
theorem performed
    {run : List (Transition snow)}
    {final : SessionState snow}
    (execution : ManagerRun run final)
    {transition : Transition snow}
    (member : transition ∈ run) :
    transition.before.perform transition.call =
      (transition.outcome, transition.after) := by
  induction execution with
  | nil =>
      cases member
  | snoc _ taken inductionHypothesis =>
      rcases List.mem_append.mp member with earlier | last
      · exact inductionHypothesis earlier
      · rw [List.mem_singleton.mp last]
        exact taken.performed

/-- No two stored sessions share an identifier, in any reachable state. -/
theorem distinctIds
    {run : List (Transition snow)}
    {final : SessionState snow}
    (execution : ManagerRun run final) :
    final.table.DistinctBy Session.sessionId := by
  refine execution.preserves
    (fun state => state.table.DistinctBy Session.sessionId)
    SessionState.distinctIds_new ?_
  intro state transition next _ distinct step
  obtain ⟨events, eventRun, _⟩ := step.tableExecution
  refine eventRun.preserves
    (fun table => table.DistinctBy Session.sessionId) distinct ?_
  intro table event table' _ held taken
  exact taken.distinctIds held

end ManagerRun

end HushWire

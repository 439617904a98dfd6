import HushWire.ManagerRun
import HushWire.PlainNoise

namespace HushWire

open Noise

/-!
# Routing by session identifier

An inbound packet names a session by its identifier only.  Identifiers are
pairwise distinct over all peers and all three session maps in every reachable
state, so `decrypt_transport` finds the same session, and leaves the same
entries, in whatever order the hash maps are iterated.
-/

variable {snow : Snow}

namespace SessionState

/-- Removing expired sessions keeps two reorderings equal up to order. -/
theorem SameEntries.dropExpired
    {first second : SessionState snow}
    (same : SameEntries first second)
    (now : Instant) :
    SameEntries (first.dropExpired now) (second.dropExpired now) where
  sessions := same.sessions.retain _
  previousSessions := same.previousSessions.retain _
  responderCandidates := same.responderCandidates.retain _
  pendingInit := same.pendingInit
  responderCache := same.responderCache
  inboundRecoveryPreference := same.inboundRecoveryPreference

/-- Installing a session keeps two reorderings equal up to order. -/
theorem SameEntries.installActiveSession
    {first second : SessionState snow}
    (same : SameEntries first second)
    (peerName : PeerName)
    (session : Session snow) :
    SameEntries (first.installActiveSession peerName session)
      (second.installActiveSession peerName session) where
  sessions := same.sessions.insert peerName session
  previousSessions := by
    unfold SessionState.installActiveSession
    rw [same.sessions.lookup_eq]
    cases second.sessions.lookup peerName with
    | none =>
        exact same.previousSessions
    | some previous =>
        exact same.previousSessions.insert peerName previous
  responderCandidates := same.responderCandidates
  pendingInit := same.pendingInit
  responderCache := same.responderCache
  inboundRecoveryPreference :=
    congrArg (fun preference => preference.erase peerName)
      same.inboundRecoveryPreference

/-- Distinct identifiers make a search by identifier unambiguous. -/
theorem unique_of_distinctIds
    {state : SessionState snow}
    (distinct : state.table.DistinctBy Session.sessionId)
    {sessionId : SessionId}
    (slot : Slot)
    {firstPeer secondPeer : PeerName}
    {first second : Session snow}
    (firstHeld : state.table.Holds firstPeer slot first)
    (secondHeld : state.table.Holds secondPeer slot second)
    (firstSelected : decide (first.sessionId = sessionId) = true)
    (secondSelected : decide (second.sessionId = sessionId) = true) :
    firstPeer = secondPeer :=
  (distinct firstHeld secondHeld
    ((of_decide_eq_true firstSelected).trans
      (of_decide_eq_true secondSelected).symm)).1

/-- Distinct identifiers stay distinct when expired sessions are removed. -/
theorem distinctIds_dropExpired
    {state : SessionState snow}
    (distinct : state.table.DistinctBy Session.sessionId)
    (now : Instant) :
    (state.dropExpired now).table.DistinctBy Session.sessionId := by
  intro firstPeer firstSlot first secondPeer secondSlot second
    firstHeld secondHeld
  exact distinct (holds_dropExpired.mp firstHeld).1
    (holds_dropExpired.mp secondHeld).1

/-- With distinct identifiers a packet is processed alike in any order. -/
theorem decryptTransport_sameEntries
    {first second : SessionState snow}
    (distinct : first.table.DistinctBy Session.sessionId)
    (same : SameEntries first second)
    (sessionId : SessionId)
    (counter : UInt64)
    (ciphertext : Bytes)
    (now : Instant) :
    (first.decryptTransport sessionId counter ciphertext now).1 =
        (second.decryptTransport sessionId counter ciphertext now).1 ∧
      SameEntries
        (first.decryptTransport sessionId counter ciphertext now).2
        (second.decryptTransport sessionId counter ciphertext now).2 := by
  have kept := same.dropExpired now
  have keptDistinct := distinctIds_dropExpired distinct now
  unfold decryptTransport
  simp only
  rw [← kept.sessions.findFirst?_eq fun _ _ _ _ firstStored secondStored =>
      unique_of_distinctIds keptDistinct .active
        firstStored secondStored,
    ← kept.previousSessions.findFirst?_eq
      fun _ _ _ _ firstStored secondStored =>
        unique_of_distinctIds keptDistinct .previous
          firstStored secondStored,
    ← kept.responderCandidates.findFirst?_eq
      fun _ _ _ _ firstStored secondStored =>
        unique_of_distinctIds keptDistinct .candidate
          firstStored secondStored]
  cases (first.dropExpired now).sessions.findFirst? fun session =>
      session.sessionId = sessionId with
  | some found =>
      exact ⟨rfl, { kept with sessions := kept.sessions.insert _ _ }⟩
  | none =>
      cases (first.dropExpired now).previousSessions.findFirst? fun session =>
          session.sessionId = sessionId with
      | some found =>
          exact ⟨rfl,
            { kept with
              previousSessions := kept.previousSessions.insert _ _ }⟩
      | none =>
          cases (first.dropExpired now).responderCandidates.findFirst?
              fun session => session.sessionId = sessionId with
          | none =>
              exact ⟨rfl, kept⟩
          | some found =>
              obtain ⟨peerName, session⟩ := found
              simp only
              rcases session.decrypt sessionId counter ciphertext with
                ⟨error | decrypted, updated⟩
              · exact ⟨rfl,
                  { kept with
                    responderCandidates :=
                      kept.responderCandidates.insert _ _ }⟩
              · have withoutCandidate :
                    SameEntries
                      { first.dropExpired now with
                        responderCandidates :=
                          (first.dropExpired now).responderCandidates.erase
                            peerName }
                      { second.dropExpired now with
                        responderCandidates :=
                          (second.dropExpired now).responderCandidates.erase
                            peerName } :=
                  { kept with
                    responderCandidates :=
                      kept.responderCandidates.erase peerName }
                have installed :=
                  withoutCandidate.installActiveSession peerName updated
                exact ⟨rfl,
                  { installed with
                    pendingInit := installed.pendingInit.erase peerName
                    responderCache :=
                      installed.responderCache.erase peerName }⟩

end SessionState

/--
In every reachable state an identifier belongs to at most one session of one
peer, and a packet is attributed independently of the iteration order.
-/
theorem reachable_sessionId_routes_uniquely
    {run : List (Transition snow)}
    {state : SessionState snow}
    (execution : ManagerRun run state) :
    state.table.DistinctBy Session.sessionId ∧
      ∀ reordered,
        SessionState.SameEntries state reordered →
        ∀ sessionId counter ciphertext now,
          (state.decryptTransport sessionId counter ciphertext now).1 =
              (reordered.decryptTransport sessionId counter ciphertext
                now).1 ∧
            SessionState.SameEntries
              (state.decryptTransport sessionId counter ciphertext now).2
              (reordered.decryptTransport sessionId counter ciphertext
                now).2 := by
  have distinct := execution.distinctIds
  refine ⟨distinct, ?_⟩
  intro reordered same sessionId counter ciphertext now
  exact SessionState.decryptTransport_sameEntries distinct same sessionId
    counter ciphertext now

/-- Two peers answered: the stored candidates have distinct identifiers. -/
theorem reachable_sessionId_routes_uniquely_two_candidates :
    ∃ run state,
      @ManagerRun PlainNoise.snow run state ∧
        state.responderCandidates.keys = ["beta", "alpha"] ∧
        state.table.DistinctBy Session.sessionId := by
  let session (byte : UInt8) : Session PlainNoise.snow :=
    .new (.fill byte)
      { isInitiator := false
        initiatorEphemeral := byte
        responderEphemeral := byte } 0
  let store (peerName : PeerName) (byte : UInt8) : Call PlainNoise.snow :=
    .storeResponderCandidate peerName (session byte) (.fill byte) [1] [2] 0
  let first := SessionState.new.afterCall (store "alpha" 1)
  let second := first.afterCall (store "beta" 2)
  have execution :
      ManagerRun
        [SessionState.new.transition (store "alpha" 1),
          first.transition (store "beta" 2)]
        second :=
    .snoc (.single (.of_perform _ _)) (.of_perform _ _)
  exact ⟨_, _, execution, by decide,
    (reachable_sessionId_routes_uniquely execution).1⟩

end HushWire

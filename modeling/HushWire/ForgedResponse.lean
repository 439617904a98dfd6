import HushWire.ManagerRun
import HushWire.PlainNoise

namespace HushWire

open Noise

/-!
# Forged handshake responses

A handshake identifier travels in clear, so anyone can send a response that
names it.  `finalize_initiator` takes the pending initiation out of its map
before it verifies the response.  A response that fails verification therefore
always costs the attempt: the genuine response finds nothing to complete.
-/

variable {snow : Snow}

/-- The Noise layer rejects a response against a pending initiator state. -/
def FailsVerification
    (initiator : InitiatorState snow)
    (response : Bytes) :
    Prop :=
  ∃ error,
    snow.readHandshake initiator.state response
        (Auth.sessionIdSize + aeadTagSize) =
      .error error

/--
What a rejected response should do: report an error, change nothing, and let
any later response have the effect it would have had.
-/
structure LeavesHandshakeIntact
    (state : SessionState snow)
    (handshakeId : SessionId)
    (response : Bytes)
    (clock : Instant) :
    Prop where
  fails :
    ∃ error,
      (state.finalizeInitiator handshakeId response clock).1 = .error error
  unchanged :
    (state.finalizeInitiator handshakeId response clock).2 = state
  genuine :
    ∀ later laterClock,
      ((state.finalizeInitiator handshakeId response
          clock).2.finalizeInitiator handshakeId later laterClock).1 =
        (state.finalizeInitiator handshakeId later laterClock).1

/-- A response that fails verification does not complete the handshake. -/
theorem FailsVerification.initiatorFinalize
    {initiator : InitiatorState snow}
    {response : Bytes}
    (forged : FailsVerification initiator response)
    (clock : Instant) :
    ∃ error, Noise.initiatorFinalize initiator response clock =
      .error error := by
  obtain ⟨error, rejected⟩ := forged
  refine ⟨.snow error, ?_⟩
  rw [Noise.initiatorFinalize, rejected]
  rfl

/-- The rejected response removes the attempt and nothing else. -/
theorem finalizeInitiator_of_forged
    {state : SessionState snow}
    {handshakeId : SessionId}
    {peerName : PeerName}
    {pending : PendingInitiator snow}
    {response : Bytes}
    (matched : state.Matches handshakeId peerName pending)
    (forged : FailsVerification pending.state response)
    (clock : Instant) :
    ∃ error,
      state.finalizeInitiator handshakeId response clock =
        (.error error,
          { state with pendingInit := state.pendingInit.erase peerName }) := by
  obtain ⟨error, failed⟩ := forged.initiatorFinalize clock
  rw [SessionState.Matches] at matched
  exact ⟨error, by simp [SessionState.finalizeInitiator, matched, failed]⟩

/-- Once the attempt is gone, every later response is ignored. -/
theorem finalizeInitiator_after_forged
    {state : SessionState snow}
    {handshakeId : SessionId}
    {peerName : PeerName}
    {pending : PendingInitiator snow}
    {response : Bytes}
    (matched : state.Matches handshakeId peerName pending)
    (forged : FailsVerification pending.state response)
    (onlyAttempt :
      ∀ other otherPending,
        (state.entry other).pending = some otherPending →
        otherPending.handshakeId = handshakeId →
        other = peerName)
    (clock : Instant)
    (later : Bytes)
    (laterClock : Instant) :
    ((state.finalizeInitiator handshakeId response
        clock).2.finalizeInitiator handshakeId later laterClock).1 =
      .ok none := by
  obtain ⟨error, finalized⟩ :=
    finalizeInitiator_of_forged matched forged clock
  have nothingMatches :
      AssociationMap.findFirst?
          (fun pending : PendingInitiator snow =>
            decide (pending.handshakeId = handshakeId))
          (state.pendingInit.erase peerName) =
        none := by
    rw [AssociationMap.findFirst?_eq_none]
    intro other otherPending stored
    by_cases isPeer : other = peerName
    · subst isPeer
      simp at stored
    · rw [AList.lookup_erase_ne isPeer] at stored
      exact decide_eq_false fun sameId =>
        isPeer (onlyAttempt other otherPending stored sameId)
  rw [finalized]
  simp [SessionState.finalizeInitiator, nothingMatches]

/--
Whatever the state and the attempt, a response that fails verification does
not leave the handshake intact: it fails, the attempt is gone, and where no
other attempt has its identifier every later response is ignored, the genuine
one included.
-/
theorem forged_response_discards_attempt
    {state : SessionState snow}
    {handshakeId : SessionId}
    {peerName : PeerName}
    {pending : PendingInitiator snow}
    {response : Bytes}
    (matched : state.Matches handshakeId peerName pending)
    (forged : FailsVerification pending.state response)
    (clock : Instant) :
    ¬ LeavesHandshakeIntact state handshakeId response clock ∧
      (∃ error,
        (state.finalizeInitiator handshakeId response clock).1 =
          .error error) ∧
      ((state.finalizeInitiator handshakeId response clock).2.entry
        peerName).pending = none ∧
      ((∀ other otherPending,
          (state.entry other).pending = some otherPending →
          otherPending.handshakeId = handshakeId →
          other = peerName) →
        ∀ later laterClock,
          ((state.finalizeInitiator handshakeId response
              clock).2.finalizeInitiator handshakeId later laterClock).1 =
            .ok none) := by
  obtain ⟨error, finalized⟩ :=
    finalizeInitiator_of_forged matched forged clock
  have gone :
      ((state.finalizeInitiator handshakeId response clock).2.entry
        peerName).pending = none := by
    rw [finalized]
    simp [SessionState.entry]
  have present : (state.entry peerName).pending = some pending :=
    matched.stored
  refine
    ⟨fun intact => ?_, ⟨error, by rw [finalized]⟩, gone,
      (finalizeInitiator_after_forged matched forged · clock)⟩
  rw [intact.unchanged, present] at gone
  cases gone

namespace ForgedResponseExample

/-- The identifier and the ephemeral key of the attempt. -/
def draw : Draw PlainNoise.snow where
  id := .fill 7
  ephemeral := (4 : UInt8)

/-- The call that starts the handshake. -/
def start : Call PlainNoise.snow :=
  .startOrRetryHandshake "peer" (.fill 1) (.fill 2) (.fill 3) draw 0

/-- A manager that has just started a handshake with its only peer. -/
def waiting : SessionState PlainNoise.snow :=
  SessionState.new.afterCall start

/-- The first message of the attempt. -/
def request : Bytes :=
  [4] ++ (Key.fill 1).bytes ++
    PlainNoise.binding (.fill 2) (.fill 3) (Auth.handshakePrologue (.fill 7))

/-- The attempt as the manager keeps it. -/
def attempt : PendingInitiator PlainNoise.snow :=
  .ofHandshake
    { handshakeId := .fill 7
      message := request
      state :=
        { handshakeId := .fill 7
          state :=
            { isInitiator := true
              localStatic := .fill 1
              remoteStatic := some (.fill 2)
              psk := .fill 3
              prologue := Auth.handshakePrologue (.fill 7)
              initiatorEphemeral := some 4
              responderEphemeral := none
              request } } }
    0

/-- The response of the genuine peer to the attempt. -/
def genuine : Bytes :=
  [5] ++ request ++ (SessionId.fill 8).bytes

/-- The manager after the forged response `[0]`. -/
def disturbed : SessionState PlainNoise.snow :=
  (waiting.finalizeInitiator (.fill 7) [0] 0).2

set_option maxRecDepth 4000 in
theorem waiting_matches : waiting.Matches (.fill 7) "peer" attempt :=
  rfl

theorem attempt_failsVerification : FailsVerification attempt.state [0] :=
  ⟨_, rfl⟩

set_option maxRecDepth 4000 in
/-- The manager has no other attempt. -/
theorem waiting_pendingInit :
    waiting.pendingInit = AList.insert "peer" attempt ∅ :=
  rfl

end ForgedResponseExample

open ForgedResponseExample in
/-- One forged byte string discards the attempt of a fresh manager. -/
theorem forged_response_discards_attempt_example :
    ¬ LeavesHandshakeIntact waiting (.fill 7) [0] 0 ∧
      (disturbed.entry "peer").pending = none ∧
      (disturbed.finalizeInitiator (.fill 7) genuine 0).1 = .ok none := by
  obtain ⟨changes, -, gone, ignored⟩ :=
    forged_response_discards_attempt waiting_matches attempt_failsVerification
      0
  refine ⟨changes, gone, ignored ?_ genuine 0⟩
  intro other otherPending stored sameId
  by_contra isOther
  rw [SessionState.entry, waiting_pendingInit,
    AList.lookup_insert_ne isOther] at stored
  cases stored

open ForgedResponseExample in
/--
A reachable manager, a response that fails verification, and the genuine
response that would have completed the handshake and no longer does.
-/
theorem forged_response_counterexample :
    (∃ run, ManagerRun run waiting) ∧
      waiting.Matches (.fill 7) "peer" attempt ∧
      FailsVerification attempt.state [0] ∧
      (waiting.finalizeInitiator (.fill 7) [0] 0).1.toOption = none ∧
      waiting.hasPendingInit "peer" = true ∧
      disturbed.hasPendingInit "peer" = false ∧
      ((waiting.finalizeInitiator (.fill 7) genuine 0).1.toOption.map
        fun completed => completed.map Prod.fst) = some (some "peer") ∧
      (disturbed.finalizeInitiator (.fill 7) genuine 0).1.toOption =
        some none := by
  refine ⟨⟨_, .single (.of_perform .new start)⟩, waiting_matches,
    attempt_failsVerification, ?_⟩
  decide +kernel

end HushWire

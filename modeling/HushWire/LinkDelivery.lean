import HushWire.Agreement
import HushWire.Delivery
import Mathlib.Data.List.Perm.Subperm

namespace HushWire

open Noise

/-!
# What crosses a link

The acts of one end of a link are a run of its session manager.  With fresh
keys nothing is opened there twice, and with ideal Noise whatever is opened was
sealed by the other end under the same keys and counter.  So every payload is
opened at most as often as the other end was given it to seal, however the
network loses, delays, duplicates, reorders or forges frames.
-/

variable {snow : Snow}

namespace SessionState

/-- The transitions of calls that are made one after the other. -/
def transitions
    (state : SessionState snow) :
    List (Call snow) → List (Transition snow)
  | [] => []
  | call :: rest =>
      state.transition call :: (state.afterCall call).transitions rest

/-- The state that a sequence of calls leaves behind. -/
def afterCalls
    (state : SessionState snow)
    (calls : List (Call snow)) :
    SessionState snow :=
  calls.foldl afterCall state

/-- Calls that are made one after the other are a run. -/
theorem transitions_execution
    (state : SessionState snow)
    (calls : List (Call snow)) :
    Execution ManagerStep state (state.transitions calls)
      (state.afterCalls calls) := by
  induction calls generalizing state with
  | nil =>
      exact .nil
  | cons call rest inductionHypothesis =>
      have first :
          Execution ManagerStep state [state.transition call]
            (state.afterCall call) :=
        .single ⟨.refl state, rfl, rfl⟩
      exact first.append (inductionHypothesis (state.afterCall call))

/-- The calls that an operation makes. -/
def callsOf (state : SessionState snow) : Operation snow → List (Call snow)
  | .encrypt peerName msgType payload now =>
      [.encryptForPeer peerName msgType payload now]
  | .decrypt sessionId counter ciphertext now =>
      [.decryptTransport sessionId counter ciphertext now]
  | .start peerName localStatic remoteStaticPub psk draw now =>
      [.startOrRetryHandshake peerName localStatic remoteStaticPub psk draw
        now]
  | .answer peerName handshake handshakeId message passivePeer clock =>
      let accept :=
        Call.acceptInboundInitiation peerName handshakeId passivePeer clock
      let cached :=
        Call.cachedResponderResponse peerName handshakeId message clock
      let (accepted, afterAccept) :=
        state.acceptInboundInitiation peerName handshakeId passivePeer clock
      if accepted = false then
        [accept]
      else
        match (afterAccept.cachedResponderResponse peerName handshakeId
            message clock).1 with
        | some _ => [accept, cached]
        | none =>
            [accept, cached,
              .storeResponderCandidate peerName handshake.session handshakeId
                message
                (Auth.encodeHandshake .handshakeResponse handshakeId
                  handshake.message)
                clock]
  | .finalize handshakeId response clock =>
      [.finalizeInitiator handshakeId response clock]
  | .invalidate peerName => [.invalidatePeer peerName]

/-- The calls of an operation are all that it does to the sessions. -/
theorem afterCalls_callsOf
    (state : SessionState snow)
    (operation : Operation snow) :
    state.afterCalls (state.callsOf operation) =
      state.afterOperation operation := by
  cases operation with
  | answer peerName handshake handshakeId message passivePeer clock =>
      rcases isAccepted :
        state.acceptInboundInitiation peerName handshakeId passivePeer clock
        with ⟨accepted, afterAccept⟩
      rcases isCached :
        afterAccept.cachedResponderResponse peerName handshakeId message clock
        with ⟨cached, afterCached⟩
      cases accepted with
      | false =>
          simp [callsOf, afterCalls, afterCall, perform, afterOperation,
            operate, answerInitiation, isAccepted]
      | true =>
          cases cached <;>
            simp [callsOf, afterCalls, afterCall, perform, afterOperation,
              operate, answerInitiation, isAccepted, isCached]
  | _ =>
      rfl

end SessionState

/-- The transitions of the session manager in an act. -/
def Act.transitions (act : Act snow) : List (Transition snow) :=
  act.before.transitions (act.before.callsOf act.operation)

/-- The transitions of the session manager of one end. -/
def transitionsOf
    (side : Side)
    (log : List (Act snow)) :
    List (Transition snow) :=
  (log.filter fun act => act.side = side).flatMap Act.transitions

/-- The acts of an end are a run of its session manager. -/
theorem LinkRun.managerRun
    {names : Side → PeerName}
    {log : List (Act snow)}
    {ends : Side → SessionState snow}
    (run : LinkRun names (fun _ => .new) log ends)
    (side : Side) :
    ManagerRun (transitionsOf side log) (ends side) := by
  induction run with
  | nil =>
      exact .nil
  | @snoc log ends act run isBefore computed genuine inductionHypothesis =>
      rw [transitionsOf, List.filter_append, List.flatMap_append]
      by_cases isSide : act.side = side
      · subst isSide
        rw [Function.update_self, List.filter_singleton]
        have performed :=
          act.before.transitions_execution (act.before.callsOf act.operation)
        rw [act.before.afterCalls_callsOf, isBefore] at performed
        have whole := inductionHypothesis.append performed
        simpa [transitionsOf, Act.transitions, Act.after, isBefore] using whole
      · have otherSide : side ≠ act.side := fun same => isSide same.symm
        rw [Function.update_of_ne otherSide]
        simpa [isSide, transitionsOf] using inductionHypothesis

namespace Act

/-- The data that an act opens for a peer, with its keys and counter. -/
def opened? (act : Act snow) (peerName : PeerName) :
    Option ((snow.StatelessTransportState × UInt64) × Bytes) :=
  match act.operation with
  | .decrypt sessionId counter ciphertext now =>
      match (act.before.decryptTransport sessionId counter ciphertext now).1
        with
      | .ok (some decrypted) =>
          if decrypted.peerName = peerName ∧ decrypted.msgType = .data then
            (act.before.located sessionId now).map fun found =>
              ((found.2.transport, counter), decrypted.payload)
          else
            none
      | _ => none
  | _ => none

/-- The data that an act is given to seal, with the next keys and counter. -/
def given? (act : Act snow) (peerName : PeerName) :
    Option ((snow.StatelessTransportState × UInt64) × Bytes) :=
  match act.operation with
  | .encrypt recipient .data payload _ =>
      if recipient = peerName then
        (act.before.entry peerName).session.map fun session =>
          ((session.transport, session.sendCounter), payload)
      else
        none
  | _ => none

end Act

/-- What one end has opened of the other's data, in order. -/
def opened
    (names : Side → PeerName)
    (log : List (Act snow))
    (side : Side) :
    List ((snow.StatelessTransportState × UInt64) × Bytes) :=
  (log.filter fun act => act.side = side).filterMap fun act =>
    act.opened? (names side)

/-- The data that one end was given for the other, in order. -/
def given
    (names : Side → PeerName)
    (log : List (Act snow))
    (side : Side) :
    List ((snow.StatelessTransportState × UInt64) × Bytes) :=
  (log.filter fun act => act.side = side).filterMap fun act =>
    act.given? (names side)

/-- What an act opens came out of a packet of the peer's session. -/
theorem Act.opened_cases
    (act : Act snow)
    {peerName : PeerName}
    {key : snow.StatelessTransportState × UInt64}
    {payload : Bytes}
    (isOpened : act.opened? peerName = some (key, payload)) :
    ∃ sessionId counter ciphertext now decrypted session,
      act.operation = .decrypt sessionId counter ciphertext now ∧
        (act.before.decryptTransport sessionId counter ciphertext now).1 =
          .ok (some decrypted) ∧
        decrypted.peerName = peerName ∧
        decrypted.msgType = .data ∧
        decrypted.payload = payload ∧
        act.before.located sessionId now = some (peerName, session) ∧
        key = (session.transport, counter) := by
  obtain ⟨side, before, operation⟩ := act
  cases operation with
  | decrypt sessionId counter ciphertext now =>
      simp only [opened?] at isOpened
      split at isOpened
      next decrypted isDecrypted =>
        split at isOpened
        next isData =>
          obtain ⟨slot, session, _, located, _⟩ :=
            SessionState.decryptTransport_some isDecrypted
          rw [located, Option.map_some, Option.some.injEq,
            Prod.mk.injEq] at isOpened
          rw [isData.1] at located
          exact ⟨sessionId, counter, ciphertext, now, decrypted, session, rfl,
            isDecrypted, isData.1, isData.2, isOpened.2, located,
            isOpened.1.symm⟩
        · cases isOpened
      · cases isOpened
  | _ =>
      cases isOpened

/-- What an act opens it delivers, under the same keys and counter. -/
theorem Act.delivered_of_opened
    {act : Act snow}
    {peerName : PeerName}
    {key : snow.StatelessTransportState × UInt64}
    {payload : Bytes}
    (isOpened : act.opened? peerName = some (key, payload)) :
    act.transitions.filterMap Transition.delivered = [key] := by
  obtain ⟨sessionId, counter, ciphertext, now, decrypted, session,
    isOperation, isDecrypted, _, _, _, isLocated, isKey⟩ :=
    act.opened_cases isOpened
  have isDelivered :
      (act.before.transition
          (.decryptTransport sessionId counter ciphertext now)).delivered =
        some key := by
    simp only [Transition.delivered, SessionState.transition,
      SessionState.delivering, isDecrypted, isLocated, Option.map_some, isKey]
  rw [Act.transitions, isOperation]
  exact List.filterMap_cons_some isDelivered

/-- No keys and counter open anything twice. -/
theorem LinkRun.opened_nodup
    {names : Side → PeerName}
    {log : List (Act snow)}
    {ends : Side → SessionState snow}
    (run : LinkRun names (fun _ => .new) log ends)
    {side : Side}
    (fresh : FreshKeys (transitionsOf side log)) :
    ((opened names log side).map Prod.fst).Nodup := by
  refine ((run.managerRun side).deliveryInvariant fresh).once.sublist ?_
  rw [opened, transitionsOf]
  generalize (log.filter fun act => act.side = side) = acts
  induction acts with
  | nil =>
      exact .slnil
  | cons act rest inductionHypothesis =>
      rw [List.flatMap_cons, List.filterMap_append]
      cases isOpened : act.opened? (names side) with
      | none =>
          simp only [List.filterMap_cons, isOpened]
          exact inductionHypothesis.trans (List.sublist_append_right _ _)
      | some entry =>
          rw [Act.delivered_of_opened isOpened]
          simp only [List.filterMap_cons, isOpened, List.map_cons]
          exact inductionHypothesis.cons_cons entry.1

/-- What an end opens the other was given, for the opposite keys. -/
theorem LinkRun.opened_given
    (ideal : IdealNoise snow)
    {names : Side → PeerName}
    {log : List (Act snow)}
    {ends : Side → SessionState snow}
    (run : LinkRun names (fun _ => .new) log ends)
    {side : Side}
    {key : snow.StatelessTransportState × UInt64}
    {payload : Bytes}
    (isOpened : (key, payload) ∈ opened names log side) :
    ((ideal.flip key.1, key.2), payload) ∈ given names log side.other := by
  obtain ⟨act, member, isFound⟩ := List.mem_filterMap.mp isOpened
  obtain ⟨inLog, isSide⟩ := List.mem_filter.mp member
  have isSide := of_decide_eq_true isSide
  subst isSide
  obtain ⟨earlier, later, middle, rfl, before, isBefore, _, genuine⟩ :=
    run.exists_before inLog
  have fresh (side : Side) :
      ((SessionState.new : SessionState snow).entry (names side)).NoHandshake :=
    ⟨rfl, rfl, rfl⟩
  obtain ⟨sessionId, counter, ciphertext, now, decrypted, session,
    isOperation, returned, isPeer, isData, isPayload, located, isKey⟩ :=
    act.opened_cases isFound
  obtain ⟨_, found, _, alsoLocated, _, _, decrypts⟩ :=
    SessionState.decryptTransport_some returned
  rw [isPeer, located] at alsoLocated
  obtain ⟨plaintext, authentic, decoded⟩ := Session.decrypt_ok decrypts
  cases alsoLocated
  have sent := genuine.packet _ _ _ _ _ _ isOperation located authentic
  rcases before.sent_cases fresh sent with
    ⟨_, _, _, _, _, _, isInitiation⟩ |
    ⟨_, _, _, _, _, _, _, isResponse⟩ |
    ⟨sealing, sealMember, sealSide, sealed, msgType, message, seals⟩
  · exact absurd isInitiation.symm
      (Auth.encodeHandshake_ne_encodeTransport rfl _ _ _ _ _)
  · exact absurd isResponse.symm
      (Auth.encodeHandshake_ne_encodeTransport rfl _ _ _ _ _)
  · obtain ⟨written, isWritten, isFrame⟩ := seals.written
    obtain ⟨_, isCounter, isCiphertext⟩ := Auth.encodeTransport_inj isFrame
    rw [← isCiphertext] at isWritten
    obtain ⟨opposite, sameCounter, isPlaintext⟩ :=
      ideal.message_binds isWritten authentic.2.2.2
    rw [isPlaintext, Auth.decodeTransportPlaintext_encodeTransportPlaintext,
      Option.some.injEq, Prod.mk.injEq, isData, isPayload] at decoded
    obtain ⟨rfl, rfl⟩ := decoded
    rcases seals.2 with ⟨now, isGiven, active⟩ | ⟨isKeepalive, _⟩
    · refine List.mem_filterMap.mpr ⟨sealing, ?_, ?_⟩
      · exact List.mem_filter.mpr
          ⟨List.mem_append_left _ sealMember, decide_eq_true sealSide⟩
      · rw [Act.given?, isGiven]
        dsimp only
        rw [if_pos rfl, active, Option.map_some, isKey, opposite,
          ideal.flip_flip, isCounter]
    · cases isKeepalive

/--
Whatever the network does, no payload is opened at one end more often than the
other end was given it to seal.
-/
theorem link_opens_at_most_once
    (ideal : IdealNoise snow)
    {names : Side → PeerName}
    {log : List (Act snow)}
    {ends : Side → SessionState snow}
    (run : LinkRun names (fun _ => .new) log ends)
    {side : Side}
    (fresh : FreshKeys (transitionsOf side log)) :
    ((opened names log side).map Prod.snd).Subperm
      ((given names log side.other).map Prod.snd) := by
  have opposite :
      ((opened names log side).map fun entry =>
          ((ideal.flip entry.1.1, entry.1.2), entry.2)).Subperm
        (given names log side.other) := by
    refine List.Nodup.subperm ?_ ?_
    · refine (List.Nodup.of_map Prod.fst (run.opened_nodup fresh)).map ?_
      rintro ⟨⟨first, _⟩, _⟩ ⟨⟨second, _⟩, _⟩ same
      simp only [Prod.mk.injEq] at same
      have sameKeys := congrArg ideal.flip same.1.1
      rw [ideal.flip_flip, ideal.flip_flip] at sameKeys
      rw [sameKeys, same.1.2, same.2]
    · intro entry member
      obtain ⟨⟨key, payload⟩, isOpened, rfl⟩ := List.mem_map.mp member
      exact run.opened_given ideal isOpened
  obtain ⟨some, isPerm, isSublist⟩ := opposite
  have payloads := isPerm.map Prod.snd
  rw [List.map_map] at payloads
  exact ⟨some.map Prod.snd, payloads, isSublist.map Prod.snd⟩

end HushWire

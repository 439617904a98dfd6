import HushWire.Nonces

namespace HushWire

open Noise

/-!
# At-most-once authentic delivery

A packet is delivered under the keys of one negotiated session at one counter.
No pair of keys and counter is delivered twice in a run, wherever the session
has moved in the meantime: its replay window moves with it and records every
counter that was delivered under its keys.

What is delivered is what the remote end was given for that counter, if the
AEAD opens only what the remote end sealed.
-/

variable {snow : Snow}

namespace PeerEvent

/-- A packet changes the session it reaches and no other. -/
theorem advance_of_reached
    {event : PeerEvent snow}
    {used : Slot}
    {session : Session snow}
    {counter : UInt64}
    {ciphertext : Bytes}
    (reaches : event.reached = some (used, session, counter, ciphertext))
    (slot : Slot)
    (stored : Session snow) :
    event.advance slot stored =
      if slot = used then
        (stored.decrypt stored.sessionId counter ciphertext).2
      else
        stored := by
  cases event with
  | decrypt =>
      cases reaches
      rfl
  | promote =>
      cases reaches
      cases slot <;> rfl
  | _ =>
      cases reaches

/-- Other events leave the replay windows alone. -/
theorem advance_replay
    {event : PeerEvent snow}
    (unreached : event.reached = none)
    (slot : Slot)
    (stored : Session snow) :
    (event.advance slot stored).replay = stored.replay := by
  cases event with
  | encrypt =>
      cases slot <;> simp [advance]
  | decrypt =>
      cases unreached
  | promote =>
      cases unreached
  | _ =>
      rfl

end PeerEvent

/-- A packet reaches a session that is stored. -/
theorem PeerStep.reached_held
    {entry entry' : PeerEntry snow}
    {event : PeerEvent snow}
    {used : Slot}
    {session : Session snow}
    {counter : UInt64}
    {ciphertext : Bytes}
    (step : PeerStep entry event entry')
    (reaches : event.reached = some (used, session, counter, ciphertext)) :
    entry.slot used = some session := by
  cases step with
  | decrypt held =>
      cases reaches
      exact held
  | promote held =>
      cases reaches
      exact held
  | _ =>
      cases reaches

/--
What holds of the deliveries so far, the keys negotiated so far and the
sessions stored now.
-/
structure DeliveryInvariant
    (deliveries : List (snow.StatelessTransportState × UInt64))
    (keys : List snow.StatelessTransportState)
    (table : PeerTable snow) :
    Prop extends KeyInvariant keys table where
  /-- Nothing is delivered twice. -/
  once : deliveries.Nodup
  /-- Deliveries are under negotiated keys. -/
  known : ∀ {key counter}, (key, counter) ∈ deliveries → key ∈ keys
  /-- The window of a session has recorded the deliveries under its keys. -/
  recorded :
    ∀ ⦃peerName slot session⦄,
      table.Holds peerName slot session →
      ∃ seen : Set UInt64,
        session.replay.Represents seen ∧
          ∀ counter,
            (session.transport, counter) ∈ deliveries → counter ∈ seen

namespace DeliveryInvariant

variable
  {deliveries : List (snow.StatelessTransportState × UInt64)}
  {keys : List snow.StatelessTransportState}
  {table table' : PeerTable snow}
  {peerName : PeerName}
  {event : PeerEvent snow}

/-- Before the first call nothing was negotiated or delivered. -/
theorem new :
    DeliveryInvariant [] []
      (SessionState.new : SessionState snow).table := by
  have nothing {peerName slot session}
      (held :
        (SessionState.new : SessionState snow).table.Holds peerName slot
          session) :
      False := by
    rw [PeerTable.Holds, SessionState.table_new] at held
    cases slot <;> cases held
  exact
    { negotiated := fun _ _ _ held => (nothing held).elim
      distinct := fun _ _ _ _ _ _ held => (nothing held).elim
      once := List.nodup_nil
      known := fun member => absurd member List.not_mem_nil
      recorded := fun _ _ _ held => (nothing held).elim }

/-- A new session has recorded nothing. -/
theorem recorded_entered
    (invariant : DeliveryInvariant deliveries keys table)
    {session : Session snow}
    (fresh : session.transport ∉ keys)
    (isNew : session.replay = ReplayWindow.new) :
    ∃ seen : Set UInt64,
      session.replay.Represents seen ∧
        ∀ counter,
          (session.transport, counter) ∈ deliveries → counter ∈ seen := by
  refine ⟨∅, isNew ▸ ReplayWindow.represents_new, ?_⟩
  intro counter member
  exact absurd (invariant.known member) fresh

/-- Events that no packet causes keep the deliveries as they are. -/
theorem step_unreached
    (invariant : DeliveryInvariant deliveries keys table)
    (taken : TableStep table (peerName, event) table')
    (unreached : event.reached = none)
    (fresh :
      ∀ session,
        event.introduced = some session →
        session.transport ∉ keys ∧ session.replay = ReplayWindow.new) :
    DeliveryInvariant deliveries
      (keys ++ (event.introduced.map Session.transport).toList) table' := by
  have keyInvariant :=
    taken.keyInvariant invariant.toKeyInvariant fun session introduced =>
      (fresh session introduced).1
  refine ⟨keyInvariant, invariant.once, ?_, ?_⟩
  · intro key counter member
    exact List.mem_append_left _ (invariant.known member)
  · intro queried slot session held
    rcases taken.holds_cases held with
      ⟨_, _, entering⟩ | ⟨origin, earlier, _, stored, carried⟩
    · obtain ⟨negotiated, introduced, _, sameKey, _, sameReplay⟩ :=
        PeerEvent.entered_eq_some entering
      obtain ⟨unused, isNew⟩ := fresh negotiated introduced
      exact invariant.recorded_entered (sameKey ▸ unused)
        (sameReplay.trans isNew)
    · have sameReplay : session.replay = earlier.replay := by
        rw [carried]
        split
        · exact PeerEvent.advance_replay unreached origin earlier
        · rfl
      have sameKey : session.transport = earlier.transport := by
        rw [carried]
        split <;> simp
      rw [sameReplay, sameKey]
      exact invariant.recorded stored

/-- A packet that reaches a session changes no other. -/
theorem stored_of_reached
    (invariant : DeliveryInvariant deliveries keys table)
    (taken : TableStep table (peerName, event) table')
    {used : Slot}
    {session : Session snow}
    {counter : UInt64}
    {ciphertext : Bytes}
    (reaches : event.reached = some (used, session, counter, ciphertext))
    {queried : PeerName}
    {slot : Slot}
    {stored : Session snow}
    (storedHeld : table'.Holds queried slot stored) :
    (∃ origin,
        table.Holds queried origin stored ∧
          stored.transport ≠ session.transport) ∨
      stored =
        (session.decrypt session.sessionId counter ciphertext).2 := by
  have entersNot : event.entered = none := by
    cases event <;> first | rfl | cases reaches
  have held : table.Holds peerName used session :=
    taken.peerStep.reached_held reaches
  rcases taken.holds_cases storedHeld with
    ⟨_, _, entering⟩ | ⟨origin, earlier, _, earlierHeld, carried⟩
  · rw [entersNot] at entering
    cases entering
  · by_cases sameKey : earlier.transport = session.transport
    · obtain ⟨samePeer, sameSlot⟩ :=
        invariant.distinct earlierHeld held sameKey
      subst samePeer sameSlot
      have sameSession : earlier = session :=
        Option.some.inj (earlierHeld.symm.trans held)
      subst sameSession
      rw [if_pos rfl, PeerEvent.advance_of_reached reaches,
        if_pos rfl] at carried
      exact Or.inr carried
    · have unchanged : stored = earlier := by
        rw [carried]
        split
        case isFalse => rfl
        case isTrue isPeer =>
          subst isPeer
          rw [PeerEvent.advance_of_reached reaches, if_neg]
          rintro rfl
          exact sameKey
            (congrArg Session.transport
              (Option.some.inj (earlierHeld.symm.trans held)))
      subst unchanged
      exact Or.inl ⟨origin, earlierHeld, sameKey⟩

/-- A packet is delivered at most once and recorded when it is delivered. -/
theorem step_reached
    (invariant : DeliveryInvariant deliveries keys table)
    (taken : TableStep table (peerName, event) table')
    {used : Slot}
    {session : Session snow}
    {counter : UInt64}
    {ciphertext : Bytes}
    (reaches : event.reached = some (used, session, counter, ciphertext)) :
    DeliveryInvariant (deliveries ++ event.delivered.toList) keys table' := by
  have nothingEnters : event.introduced = none := by
    cases event <;> first | rfl | cases reaches
  have keyInvariant :=
    taken.keyInvariant invariant.toKeyInvariant (by simp [nothingEnters])
  rw [nothingEnters, Option.map_none, Option.toList_none,
    List.append_nil] at keyInvariant
  have held : table.Holds peerName used session :=
    taken.peerStep.reached_held reaches
  obtain ⟨seen, represents, recorded⟩ := invariant.recorded held
  rcases session.decrypt_cases session.sessionId counter ciphertext with
    ⟨_, error, rejected⟩ | ⟨plaintext, opened, accepted⟩
  · have notDelivered : event.delivered = none := by
      simp [PeerEvent.delivered, reaches, rejected]
    rw [notDelivered, Option.toList_none, List.append_nil]
    refine ⟨keyInvariant, invariant.once, invariant.known, ?_⟩
    intro queried slot stored storedHeld
    rcases invariant.stored_of_reached taken reaches storedHeld with
      ⟨origin, earlierHeld, _⟩ | isSession
    · exact invariant.recorded earlierHeld
    · rw [rejected] at isSession
      exact isSession ▸ ⟨seen, represents, recorded⟩
  · have unseen : counter ∉ seen :=
      ((represents.wouldAccept_iff counter).mp opened.2.1).1
    have marked := (represents.markAuthenticated opened.2.1).2
    have atMostHere :
        ∀ delivery ∈ event.delivered.toList,
          delivery = (session.transport, counter) := by
      intro delivery member
      rw [Option.mem_toList, PeerEvent.delivered, reaches] at member
      simp only [Option.bind_some] at member
      split at member <;> simp_all
    refine ⟨keyInvariant, ?_, ?_, ?_⟩
    · refine List.nodup_append.mpr ⟨invariant.once, ?_, ?_⟩
      · cases event.delivered <;> simp
      · intro earlier earlierMember later laterMember same
        have isHere := same.trans (atMostHere later laterMember)
        exact unseen (recorded counter (isHere ▸ earlierMember))
    · intro key other member
      rcases List.mem_append.mp member with earlier | here
      · exact invariant.known earlier
      · have isHere := atMostHere _ here
        rw [(Prod.mk.inj isHere).1]
        exact invariant.negotiated held
    · intro queried slot stored storedHeld
      rcases invariant.stored_of_reached taken reaches storedHeld with
        ⟨origin, earlierHeld, otherKey⟩ | isSession
      · obtain ⟨otherSeen, otherRepresents, otherRecorded⟩ :=
          invariant.recorded earlierHeld
        refine ⟨otherSeen, otherRepresents, ?_⟩
        intro other member
        rcases List.mem_append.mp member with earlier | here
        · exact otherRecorded other earlier
        · exact absurd (Prod.mk.inj (atMostHere _ here)).1 otherKey
      · rw [accepted] at isSession
        subst isSession
        refine ⟨insert counter seen, marked, ?_⟩
        intro other member
        rcases List.mem_append.mp member with earlier | here
        · exact Set.mem_insert_of_mem _ (recorded other earlier)
        · rw [(Prod.mk.inj (atMostHere _ here)).2]
          exact Set.mem_insert _ _

/-- Every event keeps the invariant if the keys it brings in are fresh. -/
theorem step
    (invariant : DeliveryInvariant deliveries keys table)
    (taken : TableStep table (peerName, event) table')
    (fresh :
      ∀ session,
        event.introduced = some session →
        session.transport ∉ keys ∧ session.replay = ReplayWindow.new) :
    DeliveryInvariant (deliveries ++ event.delivered.toList)
      (keys ++ (event.introduced.map Session.transport).toList) table' := by
  cases reaches : event.reached with
  | none =>
      have notDelivered : event.delivered = none := by
        simp [PeerEvent.delivered, reaches]
      rw [notDelivered, Option.toList_none, List.append_nil]
      exact invariant.step_unreached taken reaches fresh
  | some packet =>
      have nothingEnters : event.introduced = none := by
        cases event <;> first | rfl | cases reaches
      rw [nothingEnters, Option.map_none, Option.toList_none,
        List.append_nil]
      exact invariant.step_reached taken reaches

end DeliveryInvariant

/-- The delivery invariant is kept by runs whose negotiated keys are fresh. -/
theorem DeliveryInvariant.keyed :
    @KeyedInvariant snow _ PeerEvent.delivered
      (fun _ => none)
      (fun session => session.replay = ReplayWindow.new)
      DeliveryInvariant where
  start := .new
  step := .step
  discard := by
    intro records keys table session invariant _ _
    rw [Option.toList_none, List.append_nil]
    refine ⟨⟨?_, invariant.distinct⟩, invariant.once, ?_,
      invariant.recorded⟩
    · intro peerName slot stored held
      exact List.mem_append_left _ (invariant.negotiated held)
    · intro key counter member
      exact List.mem_append_left _ (invariant.known member)

/-- The delivery invariant holds at the end of every run. -/
theorem ManagerRun.deliveryInvariant
    {run : List (Transition snow)}
    {final : SessionState snow}
    (execution : ManagerRun run final)
    (fresh : FreshKeys run) :
    DeliveryInvariant (run.filterMap Transition.delivered)
      ((run.filterMap Transition.negotiated).map Session.transport)
      final.table := by
  refine DeliveryInvariant.keyed.run (fun _ _ _ => rfl) ?_ execution fresh
  intro transition events account
  rcases account.sealed with
    ⟨_, introduced⟩ | ⟨session, sealing, negotiated, _, introduced⟩
  · exact Or.inl ⟨account.delivered, introduced⟩
  · have notDelivered : transition.delivered = none := by
      unfold Transition.delivered
      cases called : transition.call with
      | decryptTransport =>
          rw [called] at negotiated
          cases negotiated
      | _ =>
          rfl
    refine Or.inr ⟨session, negotiated, notDelivered, ?_, introduced⟩
    have delivered := account.delivered
    rw [show transition.before.delivering transition.call = none from
      notDelivered] at delivered
    exact delivered

/-- A session after it was given a list of messages to encrypt. -/
def Noise.Session.encryptAll
    (session : Session snow)
    (given : List (Auth.MsgType × Bytes)) :
    Session snow :=
  given.foldl
    (fun session message => (session.encrypt message.1 message.2).2) session

/--
The remote end of a negotiated session: the new session there and the messages
its `encrypt` is given, in order.
-/
structure RemoteEnd (snow : Snow) where
  session : Session snow
  given : List (Auth.MsgType × Bytes)
  isNew : session.sendCounter = 0

/-- The remote `encrypt` was given a message for a counter and encrypted it. -/
def RemoteEnd.Gave
    (remote : RemoteEnd snow)
    (counter : UInt64)
    (message : Auth.MsgType × Bytes) :
    Prop :=
  ∃ earlier later,
    remote.given = earlier ++ message :: later ∧
      (remote.session.encryptAll earlier).sendCounter = counter ∧
      ∃ frame,
        ((remote.session.encryptAll earlier).encrypt message.1 message.2).1 =
          .ok frame

/--
The AEAD is ideal under the keys of one negotiated session: a packet of the
run that opens under these keys holds what their remote end was given for its
counter.  Nothing is said of any other keys.
-/
def IdealAead
    (remote : RemoteEnd snow)
    (key : snow.StatelessTransportState)
    (run : List (Transition snow)) :
    Prop :=
  ∀ transition ∈ run, ∀ sessionId counter ciphertext now,
    transition.call = .decryptTransport sessionId counter ciphertext now →
    ∀ capacity plaintext,
      snow.readMessage key counter ciphertext capacity = .ok plaintext →
      ∃ message : Auth.MsgType × Bytes,
        remote.Gave counter message ∧
          plaintext = Auth.encodeTransportPlaintext message.1 message.2

/-- The counter of a session that only encrypts counts the messages. -/
theorem toNat_sendCounter_encryptAll
    {session : Session snow}
    (isNew : session.sendCounter = 0)
    (given : List (Auth.MsgType × Bytes)) :
    (session.encryptAll given).sendCounter.toNat =
      min given.length u64Max.toNat := by
  induction given using List.reverseRecOn with
  | nil =>
      simp [Session.encryptAll, isNew]
  | append_singleton earlier message inductionHypothesis =>
      have unfolded :
          session.encryptAll (earlier ++ [message]) =
            ((session.encryptAll earlier).encrypt message.1 message.2).2 := by
        simp [Session.encryptAll]
      rw [unfolded, List.length_append, List.length_singleton]
      by_cases exhausted :
          (session.encryptAll earlier).sendCounter = u64Max
      · have stuck :
            ((session.encryptAll earlier).encrypt message.1
              message.2).2.sendCounter = u64Max := by
          simp [Session.encrypt, checkedSucc, exhausted]
        rw [exhausted] at inductionHypothesis
        rw [stuck]
        omega
      · have notMax :
            (session.encryptAll earlier).sendCounter.toNat ≠
              u64Max.toNat := fun same =>
          exhausted (UInt64.toNat_inj.mp same)
        have maxValue : u64Max.toNat = 2 ^ 64 - 1 := rfl
        have one : (1 : UInt64).toNat = 1 := rfl
        rw [Session.encrypt_sendCounter exhausted, UInt64.toNat_add]
        omega

/-- For each counter there is one message at most. -/
theorem RemoteEnd.Gave.unique
    {remote : RemoteEnd snow}
    {counter : UInt64}
    {first second : Auth.MsgType × Bytes}
    (firstGiven : remote.Gave counter first)
    (secondGiven : remote.Gave counter second) :
    first = second := by
  obtain ⟨firstEarlier, firstLater, firstSplit, firstCounter, _, firstSealed⟩ :=
    firstGiven
  obtain ⟨secondEarlier, secondLater, secondSplit, secondCounter, _,
    secondSealed⟩ := secondGiven
  have unexhausted := (Session.encrypt_ok firstSealed).1
  rw [firstCounter] at unexhausted
  have notMax : counter.toNat ≠ u64Max.toNat := fun same =>
    unexhausted (UInt64.toNat_inj.mp same)
  have firstLength :=
    toNat_sendCounter_encryptAll remote.isNew firstEarlier
  have secondLength :=
    toNat_sendCounter_encryptAll remote.isNew secondEarlier
  rw [firstCounter] at firstLength
  rw [secondCounter] at secondLength
  have sameLength : firstEarlier.length = secondEarlier.length := by
    omega
  have sameSplit := firstSplit.symm.trans secondSplit
  exact (List.cons.inj (List.append_inj sameSplit sameLength).2).1

namespace SessionState

/-- A returned packet was opened by an unexpired session of its identifier. -/
theorem decryptTransport_some
    {state : SessionState snow}
    {sessionId : SessionId}
    {counter : UInt64}
    {ciphertext : Bytes}
    {now : Instant}
    {packet : DecryptedTransport}
    (returned :
      (state.decryptTransport sessionId counter ciphertext now).1 =
        .ok (some packet)) :
    ∃ slot session,
      state.table.Holds packet.peerName slot session ∧
        state.located sessionId now = some (packet.peerName, session) ∧
        session.sessionId = sessionId ∧
        session.isExpired now = false ∧
        (session.decrypt sessionId counter ciphertext).1 =
          .ok (packet.msgType, packet.payload) := by
  obtain ⟨_, _, _, _, outcome⟩ :=
    state.decryptTransport_execution sessionId counter ciphertext now
  generalize resultEq :
    (state.decryptTransport sessionId counter ciphertext now).1 = result
    at outcome returned
  cases outcome with
  | unknown =>
      cases returned
  | @inPlace peerName slot session held unexpired sameId located =>
      unfold decryptedInPlace at returned
      cases opened : (session.decrypt sessionId counter ciphertext).1 with
      | error error =>
          rw [opened] at returned
          cases returned
      | ok decrypted =>
          rw [opened] at returned
          cases returned
          exact ⟨slot, session, held, located, sameId, unexpired, opened⟩
  | @promoted peerName session msgType payload held unexpired sameId located
      opened =>
      cases returned
      exact ⟨.candidate, session, held, located, sameId, unexpired, opened⟩

end SessionState

/-- A decrypted message is the plaintext that the AEAD opened. -/
theorem Noise.Session.decrypt_ok
    {session : Session snow}
    {sessionId : SessionId}
    {counter : UInt64}
    {ciphertext : Bytes}
    {decrypted : Auth.MsgType × Bytes}
    (opened :
      (session.decrypt sessionId counter ciphertext).1 = .ok decrypted) :
    ∃ plaintext,
      session.Authenticates sessionId counter ciphertext plaintext ∧
        Auth.decodeTransportPlaintext plaintext = some decrypted := by
  rcases session.decrypt_cases sessionId counter ciphertext with
    ⟨_, error, rejected⟩ | ⟨plaintext, authenticated, accepted⟩
  · rw [rejected] at opened
    cases opened
  · refine ⟨plaintext, authenticated, ?_⟩
    rw [accepted] at opened
    cases decoded : Auth.decodeTransportPlaintext plaintext with
    | none =>
        rw [decoded] at opened
        cases opened
    | some message =>
        rw [decoded] at opened
        cases opened
        rfl

/-- What a run returns is opened by a stored session that is not too old. -/
theorem ManagerRun.opened
    {run : List (Transition snow)}
    {final : SessionState snow}
    (execution : ManagerRun run final)
    {transition : Transition snow}
    (member : transition ∈ run)
    {sessionId : SessionId}
    {counter : UInt64}
    {ciphertext : Bytes}
    {now : Instant}
    {packet : DecryptedTransport}
    (called :
      transition.call = .decryptTransport sessionId counter ciphertext now)
    (returned : transition.outcome = .decrypted (.ok (some packet))) :
    ∃ session,
      transition.before.located sessionId now =
          some (packet.peerName, session) ∧
        transition.delivered = some (session.transport, counter) ∧
        session.sessionId = sessionId ∧
        now - session.createdAt < rejectAfterTime ∧
        (session.decrypt sessionId counter ciphertext).1 =
          .ok (packet.msgType, packet.payload) := by
  have performed := congrArg Prod.fst (execution.performed member)
  rw [called, returned] at performed
  have result :
      (transition.before.decryptTransport sessionId counter ciphertext
        now).1 = .ok (some packet) :=
    Outcome.decrypted.inj performed
  obtain ⟨slot, session, held, located, sameId, unexpired, opened⟩ :=
    SessionState.decryptTransport_some result
  refine ⟨session, located, ?_, sameId, ?_, opened⟩
  · simp only [Transition.delivered, called, SessionState.delivering, result,
      located, Option.map_some]
  · simp only [Session.isExpired, Bool.or_eq_false_iff,
      decide_eq_false_iff_not] at unexpired
    exact Nat.not_le.mp unexpired.1

/--
In every run, no counter of a negotiated session is delivered twice.  Whatever
`decrypt_transport` returns comes from a session that was negotiated in the run
and has not reached its reject deadline; and where the AEAD is ideal under the
keys of this session, it is the one message that its remote end was given for
that counter.
-/
theorem reachable_delivery_authentic_once
    {run : List (Transition snow)}
    {final : SessionState snow}
    (execution : ManagerRun run final)
    (fresh : FreshKeys run) :
    (run.filterMap Transition.delivered).Nodup ∧
      ∀ transition ∈ run, ∀ sessionId counter ciphertext now packet,
        transition.call =
          .decryptTransport sessionId counter ciphertext now →
        transition.outcome = .decrypted (.ok (some packet)) →
        ∃ session,
          transition.before.located sessionId now =
              some (packet.peerName, session) ∧
            session.transport ∈
              (run.filterMap Transition.negotiated).map Session.transport ∧
            transition.delivered = some (session.transport, counter) ∧
            session.sessionId = sessionId ∧
            now - session.createdAt < rejectAfterTime ∧
            ∀ remote : RemoteEnd snow,
              IdealAead remote session.transport run →
              remote.Gave counter (packet.msgType, packet.payload) ∧
                ∀ message,
                  remote.Gave counter message →
                  message = (packet.msgType, packet.payload) := by
  have invariant := execution.deliveryInvariant fresh
  refine ⟨invariant.once, ?_⟩
  intro transition member sessionId counter ciphertext now packet called
    returned
  obtain ⟨session, located, delivered, sameId, young, opened⟩ :=
    execution.opened member called returned
  have isDelivery :
      (session.transport, counter) ∈ run.filterMap Transition.delivered :=
    List.mem_filterMap.mpr ⟨transition, member, delivered⟩
  refine ⟨session, located, invariant.known isDelivery, delivered, sameId,
    young, ?_⟩
  intro remote ideal
  obtain ⟨plaintext, authenticated, decoded⟩ := Session.decrypt_ok opened
  obtain ⟨_, _, _, read⟩ := authenticated
  obtain ⟨message, given, plaintextEq⟩ :=
    ideal transition member _ _ _ _ called _ _ read
  rw [plaintextEq, Auth.decodeTransportPlaintext_encodeTransportPlaintext,
    Option.some.injEq] at decoded
  have messageEq : message = (packet.msgType, packet.payload) := decoded
  refine ⟨messageEq ▸ given, fun other otherGiven => ?_⟩
  exact (otherGiven.unique given).trans messageEq

namespace DeliveryExample

open NonceExample

/-- The initiator's end, which was given one keepalive probe. -/
def remote : RemoteEnd PlainNoise.snow where
  session := .new (.fill 8) key.flip 0
  given := [(.keepalive, Auth.keepaliveProbePayload)]
  isNew := rfl

/-- A frame under keys that were never negotiated, sealed by an attacker. -/
def foreign : Call PlainNoise.snow :=
  .decryptTransport (.fill 8) 1
    ([0, 9] ++ PlainNoise.tag { key.flip with initiatorEphemeral := 77 } 1) 0

/-- The candidate is promoted by a packet that is then replayed. -/
def replayed : List (Transition PlainNoise.snow) :=
  [SessionState.new.transition store, answered.transition confirm,
    confirmed.transition confirm,
    (confirmed.afterCall confirm).transition foreign]

theorem replayed_execution :
    ManagerRun replayed
      ((confirmed.afterCall confirm).afterCall foreign) :=
  .snoc
    (.snoc
      (.snoc (.single (.of_perform .new store))
        (.of_perform answered confirm))
      (.of_perform confirmed confirm))
    (.of_perform _ foreign)

theorem replayed_freshKeys : FreshKeys replayed where
  distinct := List.nodup_singleton key
  isNew := by
    intro session member
    rw [List.mem_singleton.mp member]
    exact ⟨_, _, _, rfl⟩

/-- Under the negotiated keys only what the remote end sealed opens. -/
theorem replayed_idealAead : IdealAead remote key replayed := by
  intro transition member sessionId counter ciphertext now called capacity
    plaintext opened
  have sealed := PlainNoise.writeMessage_of_readMessage opened
  simp only [replayed, List.mem_cons, List.not_mem_nil, or_false] at member
  have isConfirm :
      transition.call = confirm ∨ transition.call = foreign := by
    rcases member with rfl | rfl | rfl | rfl
    · cases called
    · exact .inl rfl
    · exact .inl rfl
    · exact .inr rfl
  rcases isConfirm with isConfirm | isForeign
  · rw [isConfirm] at called
    cases called
    obtain ⟨samePlaintext, _⟩ := List.append_inj' sealed rfl
    exact ⟨(.keepalive, Auth.keepaliveProbePayload),
      ⟨[], [], rfl, rfl, _, rfl⟩, samePlaintext.symm⟩
  · rw [isForeign] at called
    cases called
    obtain ⟨_, sameTag⟩ := List.append_inj' sealed rfl
    exact absurd (PlainNoise.tag_inj sameTag).1 (by decide)

end DeliveryExample

open DeliveryExample in
/--
The replayed confirmation is delivered once, the attacker's frame not at all,
and what was delivered is what the remote end was given.
-/
theorem reachable_delivery_authentic_once_example :
    (replayed.filterMap Transition.delivered).Nodup ∧
      replayed.filterMap Transition.delivered = [(NonceExample.key, 0)] ∧
      remote.Gave 0 (.keepalive, Auth.keepaliveProbePayload) := by
  have authentic :=
    reachable_delivery_authentic_once replayed_execution replayed_freshKeys
  refine ⟨authentic.1, by decide +kernel, ?_⟩
  obtain ⟨session, located, _, delivered, _, _, isGiven⟩ :=
    authentic.2 (NonceExample.answered.transition NonceExample.confirm)
      (by simp [replayed]) _ _ _ _
      ⟨"peer", .keepalive, Auth.keepaliveProbePayload, true⟩ rfl rfl
  have isKey :
      (NonceExample.answered.transition NonceExample.confirm).delivered =
        some (NonceExample.key, 0) := by
    decide +kernel
  have sameKey : session.transport = NonceExample.key :=
    congrArg Prod.fst (Option.some.inj (delivered.symm.trans isKey))
  exact (isGiven remote (sameKey ▸ replayed_idealAead)).1

end HushWire

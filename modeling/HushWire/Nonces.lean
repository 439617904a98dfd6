import HushWire.Accounts
import HushWire.PlainNoise

namespace HushWire

open Noise

/-!
# Nonce uniqueness

Every encryption of a run is an attempt under one negotiated session at the
counter that session has reached.  Under each key the attempted counters are
`0, 1, 2, …` in this order, wherever the session is kept and whether or not the
attempts succeed.

A negotiated session is identified by its transport keys.  The Noise layer is
assumed to derive fresh keys in every handshake (`FreshKeys`).
-/

variable {snow : Snow}

open Classical in
/-- The counters used under one key, in order. -/
noncomputable def countersUnder
    (nonces : List (Nonce snow))
    (key : snow.StatelessTransportState) :
    List Nat :=
  nonces.filterMap fun nonce =>
    if nonce.1 = key then some nonce.2.toNat else none

section CountersUnder

theorem countersUnder_append
    (earlier later : List (Nonce snow))
    (key : snow.StatelessTransportState) :
    countersUnder (earlier ++ later) key =
      countersUnder earlier key ++ countersUnder later key :=
  List.filterMap_append

@[simp] theorem countersUnder_nil (key : snow.StatelessTransportState) :
    countersUnder [] key = [] :=
  rfl

@[simp] theorem countersUnder_self
    (key : snow.StatelessTransportState)
    (counter : UInt64) :
    countersUnder [(key, counter)] key = [counter.toNat] := by
  simp [countersUnder]

theorem countersUnder_other
    {used key : snow.StatelessTransportState}
    (different : used ≠ key)
    (counter : UInt64) :
    countersUnder [(used, counter)] key = [] := by
  simp [countersUnder, different]

end CountersUnder

/--
What holds of the nonces used so far, the keys negotiated so far and the
sessions stored now.
-/
structure NonceInvariant
    (nonces : List (Nonce snow))
    (keys : List snow.StatelessTransportState)
    (table : PeerTable snow) :
    Prop extends KeyInvariant keys table where
  /-- A stored session has used exactly the counters below its own. -/
  current :
    ∀ ⦃peerName slot session⦄,
      table.Holds peerName slot session →
      countersUnder nonces session.transport =
        List.range session.sendCounter.toNat
  /-- Keys that were never negotiated were never used. -/
  unused :
    ∀ key, key ∉ keys → countersUnder nonces key = []
  /-- The counters used under a key are an initial segment. -/
  initial :
    ∀ key, ∃ count, count ≤ u64Max.toNat ∧
      countersUnder nonces key = List.range count

namespace NonceInvariant

variable
  {nonces : List (Nonce snow)}
  {keys : List snow.StatelessTransportState}
  {table table' : PeerTable snow}
  {peerName : PeerName}
  {event : PeerEvent snow}

/-- A counter below the maximum advances by one. -/
theorem toNat_succ
    {counter : UInt64}
    (unexhausted : counter ≠ u64Max) :
    (counter + 1).toNat = counter.toNat + 1 ∧
      counter.toNat < u64Max.toNat := by
  have bound : counter.toNat < 2 ^ 64 := counter.toNat_lt
  have notMax : counter.toNat ≠ u64Max.toNat := fun same =>
    unexhausted (UInt64.toNat_inj.mp same)
  have maxValue : u64Max.toNat = 2 ^ 64 - 1 := rfl
  refine ⟨?_, by omega⟩
  rw [UInt64.toNat_add]
  have one : (1 : UInt64).toNat = 1 := rfl
  omega

/-- An unexpired session has not reached the last counter. -/
theorem unexhausted_of_unexpired
    {session : Session snow}
    {now : Instant}
    (unexpired : session.isExpired now = false) :
    session.sendCounter ≠ u64Max := by
  intro exhausted
  simp [Session.isExpired, exhausted] at unexpired

/-- A nonce extends the initial segment of its own key only. -/
theorem initial_snoc
    (invariant : NonceInvariant nonces keys table)
    {used : snow.StatelessTransportState}
    {counter : UInt64}
    (next : countersUnder nonces used = List.range counter.toNat)
    (unexhausted : counter ≠ u64Max)
    (key : snow.StatelessTransportState) :
    ∃ count, count ≤ u64Max.toNat ∧
      countersUnder (nonces ++ [(used, counter)]) key = List.range count := by
  rw [countersUnder_append]
  by_cases sameKey : used = key
  · subst sameKey
    refine ⟨counter.toNat + 1, (toNat_succ unexhausted).2, ?_⟩
    rw [countersUnder_self, next, List.range_succ]
  · obtain ⟨count, bounded, segment⟩ := invariant.initial key
    exact ⟨count, bounded, by
      rw [countersUnder_other sameKey, List.append_nil, segment]⟩

/-- An encryption uses the next counter of the active session. -/
theorem step_encrypt
    {session : Session snow}
    {msgType : Auth.MsgType}
    {payload : Bytes}
    {now : Instant}
    (invariant : NonceInvariant nonces keys table)
    (taken :
      TableStep table (peerName, .encrypt session msgType payload now)
        table') :
    NonceInvariant (nonces ++ [session.nonce]) keys table' := by
  obtain ⟨held, unexpired, _⟩ := taken.peerStep.encrypt_inv
  have held : table.Holds peerName .active session := held
  have unexhausted := unexhausted_of_unexpired unexpired
  have next := invariant.current held
  have keyInvariant :=
    taken.keyInvariant invariant.toKeyInvariant
      (by simp [PeerEvent.introduced])
  simp only [PeerEvent.introduced, Option.map_none, Option.toList_none,
    List.append_nil] at keyInvariant
  refine ⟨keyInvariant, ?_, ?_, ?_⟩
  · intro queried slot stored storedHeld
    rcases taken.holds_cases storedHeld with
      ⟨_, _, entering⟩ | ⟨origin, earlier, _, earlierHeld, carried⟩
    · cases entering
    · by_cases sameKey : session.transport = earlier.transport
      · obtain ⟨samePeer, sameSlot⟩ :=
          invariant.distinct held earlierHeld sameKey
        subst samePeer sameSlot
        have sameSession : earlier = session :=
          Option.some.inj (earlierHeld.symm.trans held)
        subst sameSession
        rw [if_pos rfl] at carried
        subst carried
        simp only [PeerEvent.advance, Session.encrypt_transport,
          Session.encrypt_sendCounter unexhausted, Session.nonce]
        rw [countersUnder_append, countersUnder_self, next,
          (toNat_succ unexhausted).1, List.range_succ]
      · have unchanged : stored = earlier := by
          rw [carried]
          split
          case isFalse => rfl
          case isTrue isPeer =>
            subst isPeer
            cases origin with
            | active =>
                rw [Option.some.inj (earlierHeld.symm.trans held)] at sameKey
                exact absurd rfl sameKey
            | previous | candidate => rfl
        rw [unchanged, Session.nonce, countersUnder_append,
          countersUnder_other sameKey, List.append_nil,
          invariant.current earlierHeld]
  · intro key unnegotiated
    have otherKey : session.transport ≠ key := fun same =>
      unnegotiated (same ▸ invariant.negotiated held)
    rw [Session.nonce, countersUnder_append, countersUnder_other otherKey,
      invariant.unused key unnegotiated, List.append_nil]
  · exact invariant.initial_snoc next unexhausted

/-- A discarded session has used its first counter only. -/
theorem discard
    {session : Session snow}
    (invariant : NonceInvariant nonces keys table)
    (fresh : session.transport ∉ keys)
    (isNew : session.sendCounter = 0) :
    NonceInvariant (nonces ++ [session.nonce]) (keys ++ [session.transport])
      table := by
  have noneUsed := invariant.unused session.transport fresh
  have nonceEq : session.nonce = (session.transport, 0) := by
    rw [Session.nonce, isNew]
  rw [nonceEq]
  refine ⟨⟨?_, invariant.distinct⟩, ?_, ?_, ?_⟩
  · intro peerName slot stored held
    exact List.mem_append_left _ (invariant.negotiated held)
  · intro peerName slot stored held
    have otherKey : session.transport ≠ stored.transport := fun same =>
      fresh (same ▸ invariant.negotiated held)
    rw [countersUnder_append, countersUnder_other otherKey,
      List.append_nil, invariant.current held]
  · intro key unnegotiated
    rw [List.mem_append, not_or, List.mem_singleton] at unnegotiated
    rw [countersUnder_append, countersUnder_other (Ne.symm unnegotiated.2),
      invariant.unused key unnegotiated.1, List.append_nil]
  · exact invariant.initial_snoc (by simpa using noneUsed) (by decide)

/-- A completed handshake uses the first counter of its new session. -/
theorem step_finalize
    {session : Session snow}
    {response : Bytes}
    {clock : Instant}
    (invariant : NonceInvariant nonces keys table)
    (taken :
      TableStep table (peerName, .finalize session response clock) table')
    (fresh : session.transport ∉ keys)
    (isNew : session.sendCounter = 0) :
    NonceInvariant (nonces ++ [session.nonce]) (keys ++ [session.transport])
      table' := by
  have unexhausted : session.sendCounter ≠ u64Max := by
    rw [isNew]
    decide
  have discarded := invariant.discard fresh isNew
  have keyInvariant :=
    taken.keyInvariant invariant.toKeyInvariant (by
      rintro introduced ⟨⟩
      exact fresh)
  refine ⟨keyInvariant, ?_, discarded.unused, discarded.initial⟩
  intro queried slot stored storedHeld
  rcases taken.holds_cases storedHeld with
    ⟨_, _, entering⟩ | ⟨origin, earlier, _, earlierHeld, carried⟩
  · cases entering
    rw [Session.encrypt_transport, Session.encrypt_sendCounter unexhausted,
      (toNat_succ unexhausted).1, Session.nonce, countersUnder_append,
      countersUnder_self, invariant.unused _ fresh, isNew]
    rfl
  · have unchanged : stored = earlier := by
      rw [carried]
      split <;> rfl
    rw [unchanged]
    exact discarded.current earlierHeld

/-- Events that encrypt nothing use no counter. -/
theorem step_quiet
    (invariant : NonceInvariant nonces keys table)
    (taken : TableStep table (peerName, event) table')
    (quiet : event.sealed = none)
    (fresh :
      ∀ session,
        event.introduced = some session →
        session.transport ∉ keys ∧ session.sendCounter = 0) :
    NonceInvariant nonces
      (keys ++ (event.introduced.map Session.transport).toList) table' := by
  have keyInvariant :=
    taken.keyInvariant invariant.toKeyInvariant fun session introduced =>
      (fresh session introduced).1
  refine ⟨keyInvariant, ?_, ?_, invariant.initial⟩
  · intro queried slot stored storedHeld
    rcases taken.holds_cases storedHeld with
      ⟨_, _, entering⟩ | ⟨origin, earlier, _, earlierHeld, carried⟩
    · cases event with
      | store session =>
          cases entering
          obtain ⟨unused, isNew⟩ := fresh stored rfl
          rw [invariant.unused _ unused, isNew]
          rfl
      | finalize =>
          cases quiet
      | _ =>
          cases entering
    · have sameCounter : stored.sendCounter = earlier.sendCounter := by
        rw [carried]
        split
        case isFalse => rfl
        case isTrue =>
          cases event with
          | encrypt =>
              cases quiet
          | decrypt used =>
              simp only [PeerEvent.advance]
              split <;> simp
          | promote =>
              cases origin <;> simp [PeerEvent.advance]
          | _ =>
              rfl
      have sameKey : stored.transport = earlier.transport := by
        rw [carried]
        split <;> simp
      rw [sameCounter, sameKey]
      exact invariant.current earlierHeld
  · intro key unnegotiated
    exact invariant.unused key fun member =>
      unnegotiated (List.mem_append_left _ member)

/-- Every event keeps the invariant if the keys it brings in are fresh. -/
theorem step
    (invariant : NonceInvariant nonces keys table)
    (taken : TableStep table (peerName, event) table')
    (fresh :
      ∀ session,
        event.introduced = some session →
        session.transport ∉ keys ∧ session.sendCounter = 0) :
    NonceInvariant (nonces ++ event.sealed.toList)
      (keys ++ (event.introduced.map Session.transport).toList) table' := by
  cases event with
  | encrypt =>
      simpa [PeerEvent.introduced, PeerEvent.sealed] using
        invariant.step_encrypt taken
  | finalize session =>
      obtain ⟨unused, isNew⟩ := fresh session rfl
      exact invariant.step_finalize taken unused isNew
  | _ =>
      simpa [PeerEvent.sealed] using invariant.step_quiet taken rfl fresh

/-- Before the first call nothing was negotiated or used. -/
theorem new :
    NonceInvariant [] [] (SessionState.new : SessionState snow).table := by
  have nothing {peerName slot session}
      (held :
        (SessionState.new : SessionState snow).table.Holds peerName slot
          session) :
      False := by
    rw [PeerTable.Holds, SessionState.table_new] at held
    cases slot <;> cases held
  exact
    { negotiated := fun _ _ _ held => (nothing held).elim
      distinct := fun _ _ _ _ _ _ held => (nothing held).elim
      current := fun _ _ _ held => (nothing held).elim
      unused := fun _ _ => rfl
      initial := fun _ => ⟨0, Nat.zero_le _, rfl⟩ }

end NonceInvariant

/-- The frame that a method returns to be sent under a session. -/
def Outcome.frame : Outcome snow → Option Bytes
  | .encrypted (.ok frame) => frame
  | .finalized (.ok completed) => completed.map Prod.snd
  | _ => none

/-- What the encryption of a call came to, if the call performed one. -/
def Outcome.sealed : Outcome snow → Option (Except (NoiseError snow) Bytes)
  | .encrypted (.ok frame) => frame.map .ok
  | .encrypted (.error error) => some (.error error)
  | .finalized (.ok completed) => completed.map fun found => .ok found.2
  | .finalized (.error error) => some (.error error)
  | _ => none

/-- The plaintext that a call encrypts, if it encrypts at all. -/
def Call.plaintext : Call snow → Bytes
  | .encryptForPeer _ msgType payload _ =>
      Auth.encodeTransportPlaintext msgType payload
  | .finalizeInitiator _ _ _ =>
      Auth.encodeTransportPlaintext .keepalive Auth.keepaliveProbePayload
  | _ => []

/-- `write_message` under a nonce, framed with the identifier of a session. -/
def Nonce.write
    (nonce : Nonce snow)
    (sessionId : SessionId)
    (plaintext : Bytes) :
    Except (NoiseError snow) Bytes :=
  (fromSnow
      (snow.writeMessage nonce.1 nonce.2 plaintext
        (plaintext.length + aeadTagSize))).map
    (Auth.encodeTransport sessionId nonce.2)

/-- The nonces of all encryptions of a run, in order. -/
def nonces (run : List (Transition snow)) : List (Nonce snow) :=
  run.filterMap Transition.nonce

/-- The nonces of the encryptions whose frames were returned. -/
def frameNonces (run : List (Transition snow)) : List (Nonce snow) :=
  (run.filter fun transition => transition.outcome.frame.isSome).filterMap
    Transition.nonce

/-- The nonce invariant is kept by runs whose negotiated keys are fresh. -/
theorem NonceInvariant.keyed :
    @KeyedInvariant snow _ PeerEvent.sealed
      (fun session => some session.nonce)
      (fun session => session.sendCounter = 0) NonceInvariant where
  start := .new
  step := .step
  discard := .discard

/-- The nonce invariant holds at the end of every run. -/
theorem ManagerRun.nonceInvariant
    {run : List (Transition snow)}
    {final : SessionState snow}
    (execution : ManagerRun run final)
    (fresh : FreshKeys run) :
    NonceInvariant (nonces run)
      ((run.filterMap Transition.negotiated).map Session.transport)
      final.table := by
  refine NonceInvariant.keyed.run (fun _ _ _ => rfl) ?_ execution fresh
  intro transition events account
  rcases account.sealed with
    ⟨sealed, introduced⟩ | ⟨session, sealing, negotiated, sealed, introduced⟩
  · exact Or.inl ⟨sealed, introduced⟩
  · refine Or.inr ⟨session, negotiated, ?_, sealed, introduced⟩
    rw [Transition.nonce, Transition.sealing, sealing]
    rfl

namespace SessionState

/-- A returned frame was encrypted under the session the call seals with. -/
theorem sealing_of_frame
    {state : SessionState snow}
    {call : Call snow}
    {frame : Bytes}
    (returned : (state.perform call).1.frame = some frame) :
    ∃ session msgType payload,
      state.sealing call = some session ∧
        (session.encrypt msgType payload).1 = .ok frame := by
  cases call with
  | encryptForPeer peerName msgType payload now =>
      obtain ⟨_, _, _, _, outcome⟩ :=
        state.encryptForPeer_execution peerName msgType payload now
      rcases outcome with
        ⟨_, _, result⟩ | ⟨session, stored, unexpired, _, result⟩
      · simp [perform, result, Outcome.frame] at returned
      · refine ⟨session, msgType, payload, ?_, ?_⟩
        · simp [sealing, stored, unexpired, Option.filter_some]
        · cases sealed : (session.encrypt msgType payload).1 with
          | error error =>
              simp [perform, result, sealed, Outcome.frame, Except.map]
                at returned
          | ok sealedFrame =>
              simp only [perform, result, sealed, Outcome.frame, Except.map,
                Prod.map_fst, Option.some.injEq] at returned
              rw [returned]
  | finalizeInitiator handshakeId response clock =>
      obtain ⟨_, _, outcome⟩ :=
        state.finalizeInitiator_execution handshakeId response clock
      simp only [perform, Prod.map_fst] at returned
      generalize
        (state.finalizeInitiator handshakeId response clock).1 = result
        at outcome returned
      cases outcome with
      | completed matched completed unused confirmed =>
          simp only [Outcome.frame, Option.map_some, Option.some.injEq]
            at returned
          subst returned
          exact ⟨_, _, _, sealing_finalizeInitiator matched completed unused,
            confirmed⟩
      | _ =>
          simp [Outcome.frame] at returned
  | _ =>
      simp [perform, Outcome.frame] at returned

/-- The active session of a peer encrypts, if it has not expired. -/
theorem encryptForPeer_active
    {state : SessionState snow}
    {peerName : PeerName}
    {session : Session snow}
    {now : Instant}
    (stored : state.sessions.lookup peerName = some session)
    (unexpired : session.isExpired now = false)
    (msgType : Auth.MsgType)
    (payload : Bytes) :
    (state.encryptForPeer peerName msgType payload now).1 =
        (session.encrypt msgType payload).1.map some ∧
      (state.encryptForPeer peerName msgType payload now).2.sessions.lookup
          peerName =
        some (session.encrypt msgType payload).2 := by
  simp [encryptForPeer, dropExpiredSession, dropExpiredPrevious, stored,
    unexpired]

/-- Encrypting is one `write_message` under the nonce of the session. -/
theorem encrypt_eq_write
    {session : Session snow}
    (unexhausted : session.sendCounter ≠ u64Max)
    (msgType : Auth.MsgType)
    (payload : Bytes) :
    (session.encrypt msgType payload).1 =
      session.nonce.write session.sessionId
        (Auth.encodeTransportPlaintext msgType payload) := by
  unfold Session.encrypt Nonce.write Session.nonce
  simp only [checkedSucc, unexhausted, ↓reduceIte]
  split
  next error failed =>
    rw [failed]
    rfl
  next ciphertext written =>
    rw [written]
    rfl

/-- What a call seals is written under the nonce of its session. -/
theorem sealed_of_sealing
    {state : SessionState snow}
    {call : Call snow}
    {session : Session snow}
    (sealing : state.sealing call = some session) :
    (state.perform call).1.sealed =
      some (session.nonce.write session.sessionId call.plaintext) := by
  cases call with
  | encryptForPeer peerName msgType payload now =>
      obtain ⟨stored, unexpired⟩ := Option.filter_eq_some_iff.mp sealing
      rw [Bool.not_eq_true'] at unexpired
      have unexhausted :=
        NonceInvariant.unexhausted_of_unexpired unexpired
      have result :=
        (encryptForPeer_active stored unexpired msgType payload).1
      have written := encrypt_eq_write unexhausted msgType payload
      simp only [perform, Prod.map_fst, result, Outcome.sealed,
        Call.plaintext, written]
      cases session.nonce.write session.sessionId _ <;> rfl
  | finalizeInitiator handshakeId response clock =>
      unfold SessionState.sealing at sealing
      dsimp only at sealing
      split at sealing
      · cases sealing
      next _ peerName pending matched =>
        split at sealing
        · cases sealing
        next found completed =>
          split at sealing
          · cases sealing
          next unused =>
            cases sealing
            obtain ⟨_, _, _, _, _, _, _, isNew⟩ :=
              initiatorFinalize_ok completed
            have startsAtZero : session.sendCounter = 0 := by
              rw [isNew]
              rfl
            have unexhausted : session.sendCounter ≠ u64Max := by
              rw [startsAtZero]
              decide
            have free :
                ({ state with
                   pendingInit := state.pendingInit.erase peerName } :
                  SessionState snow).sessionIdInUse session.sessionId =
                  false :=
              Bool.eq_false_iff.mpr unused
            have written :=
              encrypt_eq_write unexhausted .keepalive
                Auth.keepaliveProbePayload
            rw [Call.plaintext, ← written]
            simp only [perform, Prod.map_fst, finalizeInitiator, matched,
              completed, free, Bool.false_eq_true, ↓reduceIte]
            rcases session.encrypt .keepalive Auth.keepaliveProbePayload with
              ⟨error | confirmation, _⟩ <;> rfl
  | _ =>
      cases sealing

/-- `encrypt_for_peer` never meets an exhausted counter. -/
theorem encryptForPeer_ne_counterExhausted
    (state : SessionState snow)
    (peerName : PeerName)
    (msgType : Auth.MsgType)
    (payload : Bytes)
    (now : Instant) :
    (state.encryptForPeer peerName msgType payload now).1 ≠
      .error .counterExhausted := by
  obtain ⟨_, _, _, _, outcome⟩ :=
    state.encryptForPeer_execution peerName msgType payload now
  rcases outcome with ⟨_, _, result⟩ | ⟨session, _, unexpired, _, result⟩
  · rw [result]
    simp
  · have unexhausted := NonceInvariant.unexhausted_of_unexpired unexpired
    have notExhausted :=
      Session.encrypt_ne_counterExhausted unexhausted msgType payload
    rw [result]
    cases sealed : (session.encrypt msgType payload).1 with
    | error error =>
        rw [sealed] at notExhausted
        simpa [Except.map] using notExhausted
    | ok frame =>
        simp [Except.map]

end SessionState

/-- The frames of a key use some of its counters, in the same order. -/
theorem countersUnder_frameNonces
    (run : List (Transition snow))
    (key : snow.StatelessTransportState) :
    (countersUnder (frameNonces run) key).Sublist
      (countersUnder (nonces run) key) :=
  (List.filter_sublist.filterMap _).filterMap _

/-- An initial segment that is not used from zero on misses zero itself. -/
theorem exists_unframed_zero
    {run : List (Transition snow)}
    {key : snow.StatelessTransportState}
    {count first : Nat}
    {rest : List Nat}
    (segment : countersUnder (nonces run) key = List.range count)
    (frames : countersUnder (frameNonces run) key = first :: rest)
    (notZero : first ≠ 0) :
    ∃ transition ∈ run,
      transition.nonce = some (key, 0) ∧ transition.outcome.frame = none := by
  have ordered : (first :: rest).Pairwise (· < ·) := by
    rw [← frames]
    exact List.Pairwise.sublist (countersUnder_frameNonces run key)
      (segment ▸ List.pairwise_lt_range)
  have zeroUnframed : 0 ∉ countersUnder (frameNonces run) key := by
    rw [frames, List.mem_cons]
    rintro (isFirst | isLater)
    · exact notZero isFirst.symm
    · exact Nat.not_lt_zero _ (List.rel_of_pairwise_cons ordered isLater)
  have zeroUsed : 0 ∈ countersUnder (nonces run) key := by
    have firstUsed : first ∈ countersUnder (nonces run) key :=
      (countersUnder_frameNonces run key).subset (by simp [frames])
    rw [segment, List.mem_range] at firstUsed ⊢
    exact Nat.zero_lt_of_lt firstUsed
  have mem_countersUnder {log : List (Nonce snow)} :
      0 ∈ countersUnder log key ↔ (key, (0 : UInt64)) ∈ log := by
    rw [countersUnder, List.mem_filterMap]
    constructor
    · rintro ⟨⟨used, counter⟩, member, isZero⟩
      split at isZero
      case isFalse => cases isZero
      case isTrue sameKey =>
        rw [Option.some.injEq] at isZero
        have counterZero : counter = 0 := UInt64.toNat_inj.mp isZero
        rwa [← sameKey, ← counterZero]
    · intro member
      exact ⟨_, member, by simp⟩
  obtain ⟨transition, member, used⟩ :=
    List.mem_filterMap.mp (mem_countersUnder.mp zeroUsed)
  refine ⟨transition, member, used, ?_⟩
  by_contra framed
  refine zeroUnframed (mem_countersUnder.mpr (List.mem_filterMap.mpr
    ⟨transition, List.mem_filter.mpr ⟨member, ?_⟩, used⟩))
  exact Option.isSome_iff_ne_none.mpr framed

/--
Under each negotiated key the encryptions of a run use the counters
`0, 1, 2, …` in order and none of them twice, and never the last counter.  Such
a counter is the nonce that `write_message` is given, whether or not it fails,
and the one that the returned frame carries; the frames start at zero unless
the encryption at zero failed.  Exhaustion is never reported.
-/
theorem reachable_nonces_unique
    {run : List (Transition snow)}
    {final : SessionState snow}
    (execution : ManagerRun run final)
    (fresh : FreshKeys run) :
    (∀ key, ∃ count,
      count ≤ u64Max.toNat ∧
        countersUnder (nonces run) key = List.range count) ∧
    (∀ key,
      (countersUnder (frameNonces run) key).Pairwise (· < ·) ∧
        ∀ first rest,
          countersUnder (frameNonces run) key = first :: rest →
          first = 0 ∨
            ∃ transition ∈ run,
              transition.nonce = some (key, 0) ∧
                transition.outcome.frame = none) ∧
    (∀ transition ∈ run,
      (transition.nonce = none → transition.outcome.frame = none) ∧
        ∀ nonce,
          transition.nonce = some nonce →
          ∃ session,
            transition.sealing = some session ∧
              transition.outcome.sealed =
                some
                  (nonce.write session.sessionId
                    transition.call.plaintext)) ∧
    ∀ transition ∈ run,
      transition.outcome ≠ .encrypted (.error .counterExhausted) := by
  have invariant := execution.nonceInvariant fresh
  refine ⟨invariant.initial, ?_, ?_, ?_⟩
  · intro key
    obtain ⟨count, _, segment⟩ := invariant.initial key
    refine ⟨List.Pairwise.sublist (countersUnder_frameNonces run key)
      (segment ▸ List.pairwise_lt_range), ?_⟩
    intro first rest frames
    by_cases isZero : first = 0
    · exact Or.inl isZero
    · exact Or.inr (exists_unframed_zero segment frames isZero)
  · intro transition member
    have isOutcome :
        (transition.before.perform transition.call).1 = transition.outcome :=
      congrArg Prod.fst (execution.performed member)
    constructor
    · intro noNonce
      have noSealing : transition.before.sealing transition.call = none :=
        Option.map_eq_none_iff.mp noNonce
      rw [Option.eq_none_iff_forall_ne_some]
      intro frame returned
      rw [← isOutcome] at returned
      obtain ⟨session, _, _, sealing, _⟩ :=
        SessionState.sealing_of_frame returned
      rw [noSealing] at sealing
      cases sealing
    · rintro nonce isNonce
      obtain ⟨session, sealing, rfl⟩ := Option.map_eq_some_iff.mp isNonce
      have sealed := SessionState.sealed_of_sealing sealing
      rw [isOutcome] at sealed
      exact ⟨session, sealing, sealed⟩
  · intro transition member exhausted
    have performed := congrArg Prod.fst (execution.performed member)
    rw [exhausted] at performed
    cases called : transition.call with
    | encryptForPeer peerName msgType payload now =>
        rw [called] at performed
        exact transition.before.encryptForPeer_ne_counterExhausted peerName
          msgType payload now (Outcome.encrypted.inj performed)
    | _ =>
        rw [called] at performed
        cases performed

namespace NonceExample

/-- The keys of the responder's end. -/
def key : PlainNoise.Transport where
  isInitiator := false
  initiatorEphemeral := 4
  responderEphemeral := 5

/-- The candidate of an answered initiation. -/
def candidate : Session PlainNoise.snow :=
  .new (.fill 8) key 0

/-- A packet too long for one Noise message. -/
def oversized : Bytes :=
  List.replicate 65535 0

def store : Call PlainNoise.snow :=
  .storeResponderCandidate "peer" candidate (.fill 7) [1] [2] 0

/-- The initiator's first packet, which promotes the candidate. -/
def confirm : Call PlainNoise.snow :=
  .decryptTransport (.fill 8) 0 ([1, 1] ++ PlainNoise.tag key.flip 0) 0

def send (payload : Bytes) : Call PlainNoise.snow :=
  .encryptForPeer "peer" .data payload 0

def answered : SessionState PlainNoise.snow :=
  SessionState.new.afterCall store

def confirmed : SessionState PlainNoise.snow :=
  answered.afterCall confirm

def failed : SessionState PlainNoise.snow :=
  confirmed.afterCall (send oversized)

/-- Answer, promotion, a packet that is too long and one that is not. -/
def run : List (Transition PlainNoise.snow) :=
  [SessionState.new.transition store, answered.transition confirm,
    confirmed.transition (send oversized), failed.transition (send [])]

theorem run_execution : ManagerRun run (failed.afterCall (send [])) :=
  .snoc
    (.snoc
      (.snoc (.single (.of_perform .new store))
        (.of_perform answered confirm))
      (.of_perform confirmed (send oversized)))
    (.of_perform failed (send []))

theorem run_freshKeys : FreshKeys run where
  distinct := List.nodup_singleton key
  isNew := by
    intro session member
    rw [List.mem_singleton.mp member]
    exact ⟨_, _, _, rfl⟩

/-- The candidate is active with its send counter at zero. -/
theorem confirmed_session :
    ∃ session,
      confirmed.sessions.lookup "peer" = some session ∧
        session.nonce = (key, 0) ∧
        session.isExpired 0 = false := by
  have sameKey :
      (confirmed.sessions.lookup "peer").map
        (fun session => (session.transport : PlainNoise.Transport)) =
          some key := by
    decide +kernel
  have isZero :
      (confirmed.sessions.lookup "peer").map
        (fun session => session.sendCounter) = some 0 := by
    decide +kernel
  have unexpired :
      (confirmed.sessions.lookup "peer").map
        (fun session => session.isExpired 0) = some false := by
    decide +kernel
  obtain ⟨session, stored, keyEq⟩ := Option.map_eq_some_iff.mp sameKey
  rw [stored, Option.map_some] at isZero unexpired
  exact ⟨session, stored, Prod.ext keyEq (Option.some.inj isZero),
    Option.some.inj unexpired⟩

/-- The packet that is too long uses counter zero, the next one counter one. -/
theorem failed_then_sent
    {state : SessionState PlainNoise.snow}
    {session : Session PlainNoise.snow}
    (stored : state.sessions.lookup "peer" = some session)
    (sessionNonce : session.nonce = (key, 0))
    (unexpired : session.isExpired 0 = false) :
    (state.transition (send oversized)).nonce = some (key, 0) ∧
      (state.transition (send oversized)).outcome.frame = none ∧
      ((state.afterCall (send oversized)).transition (send [])).nonce =
        some (key, 1) ∧
      ((state.afterCall (send oversized)).transition
          (send [])).outcome.frame.isSome =
        true := by
  obtain ⟨sameKey, isZero⟩ := Prod.mk.inj sessionNonce
  have unexhausted : session.sendCounter ≠ u64Max := by
    rw [isZero]
    decide
  obtain ⟨failedResult, failedStored⟩ :=
    SessionState.encryptForPeer_active stored unexpired .data oversized
  have tooLong :
      ∃ error, (session.encrypt .data oversized).1 = .error error := by
    cases sealed : (session.encrypt .data oversized).1 with
    | error error =>
        exact ⟨error, rfl⟩
    | ok frame =>
        have fits := (PlainNoise.encrypt_isOk unexhausted .data oversized).mp
          ⟨frame, sealed⟩
        rw [oversized, List.length_replicate, aeadTagSize,
          maxNoiseMessageSize] at fits
        omega
  have reservedNonce :
      (session.encrypt .data oversized).2.nonce = (key, 1) := by
    refine Prod.ext ?_ ?_
    · exact (session.encrypt_transport .data oversized).trans sameKey
    · refine (Session.encrypt_sendCounter unexhausted .data oversized).trans ?_
      rw [isZero]
      rfl
  have counterOne : (session.encrypt .data oversized).2.sendCounter = 1 :=
    congrArg Prod.snd reservedNonce
  have reservedUnexpired :
      (session.encrypt .data oversized).2.isExpired 0 = false := by
    simp [Session.isExpired, counterOne, rejectAfterTime, fromSecs, u64Max]
  obtain ⟨frame, sealed⟩ :
      ∃ frame, ((session.encrypt .data oversized).2.encrypt .data []).1 =
        .ok frame := by
    refine (PlainNoise.encrypt_isOk ?_ .data []).mpr (by decide)
    rw [counterOne]
    decide
  obtain ⟨sentResult, _⟩ :=
    SessionState.encryptForPeer_active failedStored reservedUnexpired .data []
  refine ⟨?_, ?_, ?_, ?_⟩
  · simp only [Transition.nonce, Transition.sealing, SessionState.transition,
      send, SessionState.sealing_encryptForPeer stored unexpired,
      Option.map_some, sessionNonce]
  · obtain ⟨error, failed⟩ := tooLong
    simp only [SessionState.transition, send, SessionState.perform,
      Prod.map_fst, failedResult, failed]
    rfl
  · simp only [Transition.nonce, Transition.sealing, SessionState.transition,
      send, SessionState.afterCall, SessionState.perform, Prod.map_snd, id,
      SessionState.sealing_encryptForPeer failedStored reservedUnexpired,
      Option.map_some, reservedNonce]
  · simp only [SessionState.transition, send, SessionState.afterCall,
      SessionState.perform, Prod.map_snd, id, Prod.map_fst, sentResult,
      sealed]
    rfl

/-- Two counters are used and only the second frame is returned. -/
theorem run_nonces :
    nonces run = [(key, 0), (key, 1)] ∧ frameNonces run = [(key, 1)] := by
  obtain ⟨session, stored, sessionNonce, unexpired⟩ := confirmed_session
  obtain ⟨firstNonce, notReturned, secondNonce, returned⟩ :=
    failed_then_sent stored sessionNonce unexpired
  have first : (SessionState.new.transition store).nonce = none := rfl
  have second : (answered.transition confirm).nonce = none := rfl
  have handshakeSilent :
      (SessionState.new.transition store).outcome.frame.isSome = false ∧
        (answered.transition confirm).outcome.frame.isSome = false :=
    ⟨rfl, rfl⟩
  rw [← failed] at secondNonce returned
  constructor
  · rw [nonces, run, List.filterMap_cons_none first,
      List.filterMap_cons_none second, List.filterMap_cons_some firstNonce,
      List.filterMap_cons_some secondNonce, List.filterMap_nil]
  · rw [frameNonces, run, List.filter_cons_of_neg (by simp [handshakeSilent]),
      List.filter_cons_of_neg (by simp [handshakeSilent]),
      List.filter_cons_of_neg (by simp [notReturned]),
      List.filter_cons_of_pos (by simp [returned]), List.filter_nil,
      List.filterMap_cons_some secondNonce, List.filterMap_nil]

end NonceExample

open NonceExample in
/-- The run with a failed encryption uses two counters of one key. -/
theorem reachable_nonces_unique_example :
    ∃ count,
      count ≤ u64Max.toNat ∧
        countersUnder (nonces run) key = List.range count :=
  (reachable_nonces_unique run_execution run_freshKeys).1 key

open NonceExample in
/-- The first frame returned under a key can carry counter one. -/
theorem first_frame_not_zero :
    (∃ final, ManagerRun run final) ∧
      FreshKeys run ∧
      countersUnder (frameNonces run) key = [1] := by
  refine ⟨⟨_, run_execution⟩, run_freshKeys, ?_⟩
  rw [run_nonces.2]
  exact @countersUnder_self PlainNoise.snow key 1

end HushWire

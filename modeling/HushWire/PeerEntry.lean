import HushWire.Library.Execution
import HushWire.SessionManager

namespace HushWire

open Noise

/-!
# The state of one peer and its events

A manager state is a table of peer entries: the three session slots, the
pending initiation, the cached response and the recovery preference of one
peer.  `PeerStep` lists everything that can happen to an entry.  Every method
of the session manager is, for each peer, a short sequence of such events;
later invariants argue about events and not about method bodies.
-/

/-- The three places a manager keeps a session of a peer. -/
inductive Slot where
  | active
  | previous
  | candidate
  deriving Repr, DecidableEq

/-- What the manager holds for one peer. -/
structure PeerEntry (snow : Snow) where
  session : Option (Session snow)
  previous : Option (Session snow)
  candidate : Option (Session snow)
  pending : Option (PendingInitiator snow)
  cached : Option CachedResponderHandshake
  prefersInbound : Prop

namespace PeerEntry

variable {snow : Snow}

/-- The session in a slot. -/
def slot (entry : PeerEntry snow) : Slot → Option (Session snow)
  | .active => entry.session
  | .previous => entry.previous
  | .candidate => entry.candidate

/-- Replace the session in a slot. -/
def setSlot
    (entry : PeerEntry snow)
    (slot : Slot)
    (session : Option (Session snow)) :
    PeerEntry snow :=
  match slot with
  | .active => { entry with session }
  | .previous => { entry with previous := session }
  | .candidate => { entry with candidate := session }

@[simp] theorem slot_active (entry : PeerEntry snow) :
    entry.slot .active = entry.session :=
  rfl

@[simp] theorem slot_previous (entry : PeerEntry snow) :
    entry.slot .previous = entry.previous :=
  rfl

@[simp] theorem slot_candidate (entry : PeerEntry snow) :
    entry.slot .candidate = entry.candidate :=
  rfl

@[simp] theorem setSlot_active
    (entry : PeerEntry snow)
    (session : Option (Session snow)) :
    entry.setSlot .active session = { entry with session } :=
  rfl

@[simp] theorem setSlot_previous
    (entry : PeerEntry snow)
    (session : Option (Session snow)) :
    entry.setSlot .previous session = { entry with previous := session } :=
  rfl

@[simp] theorem setSlot_candidate
    (entry : PeerEntry snow)
    (session : Option (Session snow)) :
    entry.setSlot .candidate session = { entry with candidate := session } :=
  rfl

/-- Only the replaced slot changes. -/
theorem slot_setSlot
    (entry : PeerEntry snow)
    (slot queried : Slot)
    (session : Option (Session snow)) :
    (entry.setSlot slot session).slot queried =
      if queried = slot then session else entry.slot queried := by
  cases slot <;> cases queried <;> rfl

@[simp] theorem setSlot_slot (entry : PeerEntry snow) (slot : Slot) :
    entry.setSlot slot (entry.slot slot) = entry := by
  cases slot <;> rfl

/-- The entry without the session in a slot, if that session has expired. -/
def withoutExpired
    (entry : PeerEntry snow)
    (slot : Slot)
    (now : Instant) :
    PeerEntry snow :=
  entry.setSlot slot
    ((entry.slot slot).filter fun session => !session.isExpired now)

/-- Only an expired session is removed. -/
theorem withoutExpired_ne
    {entry : PeerEntry snow}
    {slot : Slot}
    {now : Instant}
    (changed : entry.withoutExpired slot now ≠ entry) :
    ∃ session,
      entry.slot slot = some session ∧ session.isExpired now = true := by
  unfold withoutExpired at changed
  cases stored : entry.slot slot with
  | none =>
      rw [stored, Option.filter_none, ← stored, setSlot_slot] at changed
      exact absurd rfl changed
  | some session =>
      cases expired : session.isExpired now with
      | true =>
          exact ⟨session, rfl, expired⟩
      | false =>
          rw [stored, Option.filter_some, expired, Bool.not_false, if_pos rfl,
            ← stored, setSlot_slot] at changed
          exact absurd rfl changed

/-- Install an active session; the one it replaces becomes the previous one. -/
def install
    (entry : PeerEntry snow)
    (session : Session snow) :
    PeerEntry snow where
  session := some session
  previous := entry.session.or entry.previous
  candidate := none
  pending := none
  cached := none
  prefersInbound := False

/-- No state at all, as right after `invalidate_peer` or at the start. -/
def empty (prefersInbound : Prop) : PeerEntry snow where
  session := none
  previous := none
  candidate := none
  pending := none
  cached := none
  prefersInbound := prefersInbound

end PeerEntry

/-- The entry of one peer in the manager state. -/
def SessionState.entry
    {snow : Snow}
    (state : SessionState snow)
    (peerName : PeerName) :
    PeerEntry snow where
  session := state.sessions.lookup peerName
  previous := state.previousSessions.lookup peerName
  candidate := state.responderCandidates.lookup peerName
  pending := state.pendingInit.lookup peerName
  cached := state.responderCache.lookup peerName
  prefersInbound := peerName ∈ state.inboundRecoveryPreference

/-- What can happen to the entry of one peer, with the values involved. -/
inductive PeerEvent (snow : Snow) where
  /-- A session that reached its reject deadline is dropped. -/
  | expire (slot : Slot) (now : Instant)
  /-- The cached response is dropped with an expired candidate. -/
  | forgetCached
  /-- An expired cache entry is dropped together with the candidate. -/
  | expireCached (clock : Instant)
  /-- A pending initiation that reached its lifetime is dropped. -/
  | lapse (time : Instant)
  /-- A pending initiation gives way to a remote one with a smaller id. -/
  | yield (remoteHandshakeId : SessionId)
  /-- After invalidation the first inbound initiation of a passive peer wins. -/
  | recover
  /-- A new initiation is created. -/
  | start
      (localStatic remoteStaticPub psk : Key)
      (draw : Draw snow)
      (now : Instant)
  /-- The pending initiation is sent again. -/
  | retransmit (now : Instant)
  /-- An answered initiation leaves its session as a candidate. -/
  | store
      (session : Session snow)
      (handshakeId : SessionId)
      (request response : Bytes)
      (clock : Instant)
  /-- The response completes the pending initiation with a new session. -/
  | finalize
      (session : Session snow)
      (response : Bytes)
      (clock : Instant)
  /-- The response does not complete the pending initiation. -/
  | abandon
  /-- The active session encrypts, or tries to. -/
  | encrypt
      (session : Session snow)
      (msgType : Auth.MsgType)
      (payload : Bytes)
      (now : Instant)
  /-- A session decrypts, or tries to, and stays where it is. -/
  | decrypt
      (slot : Slot)
      (session : Session snow)
      (counter : UInt64)
      (ciphertext : Bytes)
      (now : Instant)
  /-- The candidate authenticates a packet and becomes the active session. -/
  | promote
      (session : Session snow)
      (counter : UInt64)
      (ciphertext : Bytes)
      (now : Instant)
  | invalidate

/-- The effect of an event on the entry, and when the event is possible. -/
inductive PeerStep {snow : Snow} :
    PeerEntry snow → PeerEvent snow → PeerEntry snow → Prop where
  | expire
      {entry : PeerEntry snow}
      {slot : Slot}
      {session : Session snow}
      {now : Instant} :
      entry.slot slot = some session →
      session.isExpired now = true →
      PeerStep entry (.expire slot now) (entry.setSlot slot none)
  | forgetCached
      {entry : PeerEntry snow} :
      entry.candidate = none →
      PeerStep entry .forgetCached { entry with cached := none }
  | expireCached
      {entry : PeerEntry snow}
      {cached : CachedResponderHandshake}
      {clock : Instant} :
      entry.cached = some cached →
      handshakeCacheLifetime ≤ clock - cached.createdAt →
      PeerStep entry (.expireCached clock)
        { entry with cached := none, candidate := none }
  | lapse
      {entry : PeerEntry snow}
      {pending : PendingInitiator snow}
      {time : Instant} :
      entry.pending = some pending →
      handshakeAttemptLifetime ≤ time - pending.createdAt →
      PeerStep entry (.lapse time) { entry with pending := none }
  | yield
      {entry : PeerEntry snow}
      {pending : PendingInitiator snow}
      {remoteHandshakeId : SessionId} :
      entry.pending = some pending →
      ¬ pending.handshakeId ≤ remoteHandshakeId →
      PeerStep entry (.yield remoteHandshakeId)
        { entry with pending := none }
  | recover
      {entry : PeerEntry snow} :
      entry.prefersInbound →
      PeerStep entry .recover
        { entry with pending := none, prefersInbound := False }
  | start
      {entry : PeerEntry snow}
      {localStatic remoteStaticPub psk : Key}
      {draw : Draw snow}
      {now : Instant}
      {handshake : InitiatorHandshake snow} :
      entry.pending = none →
      entry.candidate = none →
      (∀ session,
        entry.session = some session →
        session.isExpired now = false ∧ session.shouldRekey now = true) →
      initiatorStart localStatic remoteStaticPub psk draw =
        .ok handshake →
      PeerStep entry (.start localStatic remoteStaticPub psk draw now)
        { entry with
          pending := some (.ofHandshake handshake now) }
  | retransmit
      {entry : PeerEntry snow}
      {pending : PendingInitiator snow}
      {now : Instant} :
      entry.pending = some pending →
      handshakeRetryInterval ≤ now - pending.lastSent →
      now - pending.createdAt < handshakeAttemptLifetime →
      PeerStep entry (.retransmit now)
        { entry with pending := some { pending with lastSent := now } }
  | store
      {entry : PeerEntry snow}
      {session : Session snow}
      {handshakeId : SessionId}
      {request response : Bytes}
      {clock : Instant} :
      PeerStep entry (.store session handshakeId request response clock)
        { entry with
          pending := none
          candidate := some session
          cached :=
            some { handshakeId, request, response, createdAt := clock } }
  | finalize
      {entry : PeerEntry snow}
      {pending : PendingInitiator snow}
      {response : Bytes}
      {clock : Instant}
      {session : Session snow}
      {confirmation : Bytes} :
      entry.pending = some pending →
      initiatorFinalize pending.state response clock = .ok session →
      (session.encrypt .keepalive Auth.keepaliveProbePayload).1 =
        .ok confirmation →
      PeerStep entry (.finalize session response clock)
        (entry.install
          (session.encrypt .keepalive Auth.keepaliveProbePayload).2)
  | abandon
      {entry : PeerEntry snow} :
      PeerStep entry .abandon { entry with pending := none }
  | encrypt
      {entry : PeerEntry snow}
      {session : Session snow}
      {msgType : Auth.MsgType}
      {payload : Bytes}
      {now : Instant} :
      entry.session = some session →
      session.isExpired now = false →
      PeerStep entry (.encrypt session msgType payload now)
        { entry with session := some (session.encrypt msgType payload).2 }
  | decrypt
      {entry : PeerEntry snow}
      {slot : Slot}
      {session : Session snow}
      {counter : UInt64}
      {ciphertext : Bytes}
      {now : Instant} :
      entry.slot slot = some session →
      session.isExpired now = false →
      PeerStep entry (.decrypt slot session counter ciphertext now)
        (entry.setSlot slot
          (some (session.decrypt session.sessionId counter ciphertext).2))
  | promote
      {entry : PeerEntry snow}
      {session : Session snow}
      {counter : UInt64}
      {ciphertext : Bytes}
      {now : Instant}
      {decrypted : Auth.MsgType × Bytes} :
      entry.candidate = some session →
      session.isExpired now = false →
      (session.decrypt session.sessionId counter ciphertext).1 =
        .ok decrypted →
      PeerStep entry (.promote session counter ciphertext now)
        (entry.install
          (session.decrypt session.sessionId counter ciphertext).2)
  | invalidate
      {entry : PeerEntry snow} :
      PeerStep entry .invalidate (.empty True)

namespace PeerStep

variable {snow : Snow} {entry entry' : PeerEntry snow}

/-- What an encryption event says about the entry. -/
theorem encrypt_inv
    {session : Session snow}
    {msgType : Auth.MsgType}
    {payload : Bytes}
    {now : Instant}
    (step : PeerStep entry (.encrypt session msgType payload now) entry') :
    entry.session = some session ∧
      session.isExpired now = false ∧
      entry' =
        { entry with session := some (session.encrypt msgType payload).2 } := by
  cases step with
  | encrypt active unexpired =>
      exact ⟨active, unexpired, rfl⟩

/-- What a promotion says about the entry. -/
theorem promote_inv
    {session : Session snow}
    {counter : UInt64}
    {ciphertext : Bytes}
    {now : Instant}
    (step :
      PeerStep entry (.promote session counter ciphertext now) entry') :
    entry.candidate = some session ∧
      session.isExpired now = false ∧
      (∃ decrypted,
        (session.decrypt session.sessionId counter ciphertext).1 =
          .ok decrypted) ∧
      entry' =
        entry.install
          (session.decrypt session.sessionId counter ciphertext).2 := by
  cases step with
  | promote candidate unexpired opened =>
      exact ⟨candidate, unexpired, ⟨_, opened⟩, rfl⟩

/-- What a completed handshake says about the entry. -/
theorem finalize_inv
    {session : Session snow}
    {response : Bytes}
    {clock : Instant}
    (step : PeerStep entry (.finalize session response clock) entry') :
    (∃ pending,
      entry.pending = some pending ∧
        initiatorFinalize pending.state response clock = .ok session) ∧
      (∃ confirmation,
        (session.encrypt .keepalive Auth.keepaliveProbePayload).1 =
          .ok confirmation) ∧
      entry' =
        entry.install
          (session.encrypt .keepalive Auth.keepaliveProbePayload).2 := by
  cases step with
  | finalize pending completed confirmed =>
      exact ⟨⟨_, pending, completed⟩, ⟨_, confirmed⟩, rfl⟩

end PeerStep

/-- The entry of a peer after a sequence of events. -/
abbrev PeerExecution {snow : Snow} :
    PeerEntry snow → List (PeerEvent snow) → PeerEntry snow → Prop :=
  Execution PeerStep

end HushWire

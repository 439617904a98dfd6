import HushWire.Delivery
import HushWire.LinkRecovery

namespace HushWire

open Noise

/-!
# Packets in flight over a rekey

A rekey replaces the session that packets in flight were encrypted under.  The
replaced session is kept beside the new one, so that these packets still open:
a packet of the session that is active now is delivered after every run in
which its peer gets one new session at most and is not given up, as long as the
session does not expire and the packet is neither repeated nor overtaken by a
whole replay window.
-/

variable {snow : Snow}

namespace ReplayWindow

/-- Recording a counter that is not too far ahead spares another one. -/
theorem Represents.wouldAccept_markAuthenticated
    {window : ReplayWindow}
    {seen : Set UInt64}
    {counter other : UInt64}
    (represents : window.Represents seen)
    (accepts : window.wouldAccept counter = true)
    (acceptsOther : window.wouldAccept other = true)
    (different : other ≠ counter)
    (close : other.toNat < counter.toNat + defaultWindowSize) :
    (window.markAuthenticated other).2.wouldAccept counter = true := by
  obtain ⟨unseen, within⟩ := (represents.wouldAccept_iff counter).mp accepts
  have marked := (represents.markAuthenticated acceptsOther).2
  apply (marked.wouldAccept_iff counter).mpr
  constructor
  · simp [unseen, different.symm]
  · intro highest isHighest
    by_cases newer : highest < counter
    · exact Or.inl newer
    · have older := UInt64.not_lt.mp newer
      have olderNat := UInt64.le_iff_toNat_le.mp older
      refine Or.inr ?_
      rw [toNat_distance older]
      rcases (marked.highestSeen isHighest).1 with rfl | member
      · omega
      · cases former : window.highest with
        | none =>
            rw [(represents.fresh former).1] at member
            cases member
        | some top =>
            have below := (represents.highestSeen former).2 highest member
            have counterLe := UInt64.le_trans older below
            rcases within top former with less | inside
            · exact absurd counterLe (UInt64.not_le.mpr less)
            · rw [toNat_distance counterLe] at inside
              have belowNat := UInt64.le_iff_toNat_le.mp below
              omega

end ReplayWindow

/-! ### A session that was active keeps its place or moves back -/

namespace PeerEvent

/-- The event makes another session the active one. -/
def installs : PeerEvent snow → Bool
  | .finalize _ _ _ => true
  | .promote _ _ _ _ => true
  | _ => false

/-- The event reserves a counter of the active session. -/
def encrypts : PeerEvent snow → Bool
  | .encrypt _ _ _ _ => true
  | _ => false

end PeerEvent

/-- Where a session is that was active before so many installations. -/
def Slot.afterInstalls : Nat → Slot
  | 0 => .active
  | _ + 1 => .previous

namespace PeerStep

variable {entry entry' : PeerEntry snow} {event : PeerEvent snow}

/-- Until the second installation a session is not lost. -/
theorem keeps
    (step : PeerStep entry event entry')
    {installs : Nat}
    {session : Session snow}
    (held : entry.slot (.afterInstalls installs) = some session)
    (few : installs + event.installs.toNat ≤ 1)
    (notInvalidated : event ≠ .invalidate)
    (unexpired :
      ∀ slot now,
        event = .expire slot now → session.isExpired now = false) :
    entry'.slot (.afterInstalls (installs + event.installs.toNat)) =
      some (event.advance (.afterInstalls installs) session) := by
  cases step with
  | @expire slot expired now stored isExpired =>
      have different : Slot.afterInstalls installs ≠ slot := by
        rintro rfl
        cases held.symm.trans stored
        rw [unexpired _ _ rfl] at isExpired
        cases isExpired
      simpa [PeerEvent.installs, PeerEvent.advance, PeerEntry.slot_setSlot,
        different] using held
  | forgetCached | lapse | yield | recover | start | retransmit | abandon =>
      exact held
  | expireCached | store =>
      cases installs <;> exact held
  | invalidate =>
      exact absurd rfl notInvalidated
  | encrypt active =>
      cases installs with
      | zero =>
          cases held.symm.trans active
          rfl
      | succ =>
          exact held
  | @decrypt slot reached counter ciphertext now stored =>
      by_cases same : Slot.afterInstalls installs = slot
      · subst same
        cases held.symm.trans stored
        simp [PeerEvent.installs, PeerEvent.advance, PeerEntry.slot_setSlot]
      · simpa [PeerEvent.installs, PeerEvent.advance, PeerEntry.slot_setSlot,
          same] using held
  | finalize | promote =>
      have isFirst : installs = 0 := by
        simp only [PeerEvent.installs, Bool.toNat_true] at few
        omega
      subst isFirst
      have active : entry.session = some session := held
      simp [PeerEvent.installs, PeerEvent.advance, Slot.afterInstalls,
        PeerEntry.slot, PeerEntry.install, active]

end PeerStep

/-! ### What the session keeps -/

/-- A session that can still open the packet of a counter. -/
structure CanOpen
    (origin : Session snow)
    (counter : UInt64)
    (sends : Nat)
    (session : Session snow) :
    Prop where
  sameId : session.sessionId = origin.sessionId
  sameKeys : session.transport = origin.transport
  sameAge : session.createdAt = origin.createdAt
  sent :
    session.sendCounter.toNat ≤ origin.sendCounter.toNat + sends
  accepts : session.replay.wouldAccept counter = true
  represented : ∃ seen, session.replay.Represents seen

/-- An event that does not make the packet of a counter unreadable. -/
structure PeerEvent.Spares
    (origin : Session snow)
    (counter : UInt64)
    (event : PeerEvent snow) :
    Prop where
  notInvalidated : event ≠ .invalidate
  inTime :
    ∀ slot now,
      event = .expire slot now → now - origin.createdAt < rejectAfterTime
  /-- What the session opens is another packet, and not too far ahead. -/
  others :
    ∀ slot session other ciphertext now,
      event = .decrypt slot session other ciphertext now →
      session.sessionId = origin.sessionId →
      ∀ capacity plaintext,
        snow.readMessage origin.transport other ciphertext capacity =
          .ok plaintext →
        other ≠ counter ∧
          other.toNat < counter.toNat + defaultWindowSize

namespace CanOpen

variable
  {origin session : Session snow}
  {counter : UInt64}
  {sends : Nat}

theorem isExpired
    (canOpen : CanOpen origin counter sends session)
    (unexhausted : origin.sendCounter.toNat + sends < u64Max.toNat)
    {now : Instant}
    (inTime : now - origin.createdAt < rejectAfterTime) :
    session.isExpired now = false := by
  have sent := canOpen.sent
  have notMax : session.sendCounter ≠ u64Max := by
    rintro isMax
    rw [isMax] at sent
    omega
  simp only [Session.isExpired, canOpen.sameAge, Bool.or_eq_false_iff,
    decide_eq_false_iff_not]
  exact ⟨Nat.not_le.mpr inTime, notMax⟩

/-- Encrypting reserves one counter. -/
theorem encrypt
    (canOpen : CanOpen origin counter sends session)
    (unexhausted : origin.sendCounter.toNat + sends < u64Max.toNat)
    (msgType : Auth.MsgType)
    (payload : Bytes) :
    CanOpen origin counter (sends + 1) (session.encrypt msgType payload).2 := by
  have sent := canOpen.sent
  have notMax : session.sendCounter ≠ u64Max := by
    rintro isMax
    rw [isMax] at sent
    omega
  constructor
  · simpa using canOpen.sameId
  · simpa using canOpen.sameKeys
  · simpa using canOpen.sameAge
  · have maxValue : u64Max.toNat = 2 ^ 64 - 1 := rfl
    have one : (1 : UInt64).toNat = 1 := rfl
    rw [Session.encrypt_sendCounter notMax, UInt64.toNat_add]
    omega
  · simpa using canOpen.accepts
  · simpa using canOpen.represented

/-- Decrypting another packet leaves this one acceptable. -/
theorem decrypt
    (canOpen : CanOpen origin counter sends session)
    {other : UInt64}
    {ciphertext : Bytes}
    (apart :
      ∀ capacity plaintext,
        snow.readMessage origin.transport other ciphertext capacity =
          .ok plaintext →
        other ≠ counter ∧
          other.toNat < counter.toNat + defaultWindowSize) :
    CanOpen origin counter sends
      (session.decrypt session.sessionId other ciphertext).2 := by
  rcases session.decrypt_cases session.sessionId other ciphertext with
    ⟨_, _, unchanged⟩ | ⟨plaintext, authentic, changed⟩
  · rw [unchanged]
    exact canOpen
  · obtain ⟨_, acceptsOther, _, opened⟩ := authentic
    rw [canOpen.sameKeys] at opened
    obtain ⟨different, close⟩ := apart _ _ opened
    obtain ⟨seen, represents⟩ := canOpen.represented
    rw [changed]
    exact
      { canOpen with
        accepts :=
          represents.wouldAccept_markAuthenticated canOpen.accepts
            acceptsOther different close
        represented :=
          ⟨_, (represents.markAuthenticated acceptsOther).2⟩ }

/-- No event that spares the packet takes the session's ability away. -/
theorem advance
    {entry entry' : PeerEntry snow}
    {event : PeerEvent snow}
    {installs : Nat}
    (canOpen : CanOpen origin counter sends session)
    (unexhausted : origin.sendCounter.toNat + sends < u64Max.toNat)
    (step : PeerStep entry event entry')
    (held : entry.slot (.afterInstalls installs) = some session)
    (spares : event.Spares origin counter) :
    CanOpen origin counter (sends + event.encrypts.toNat)
      (event.advance (.afterInstalls installs) session) := by
  cases step with
  | encrypt =>
      cases installs with
      | zero =>
          exact canOpen.encrypt unexhausted _ _
      | succ =>
          exact { canOpen with sent := Nat.le_succ_of_le canOpen.sent }
  | @decrypt slot reached other ciphertext now stored =>
      by_cases same : Slot.afterInstalls installs = slot
      · subst same
        cases held.symm.trans stored
        rw [PeerEvent.advance, if_pos rfl]
        exact
          canOpen.decrypt
            (spares.others _ _ _ _ _ rfl canOpen.sameId)
      · rw [PeerEvent.advance, if_neg same]
        exact canOpen
  | promote =>
      cases installs <;> exact canOpen
  | _ =>
      exact canOpen

end CanOpen

/--
The peer still has the session that was active before so many installations
and so many encryptions.
-/
def PeerEntry.Awaits
    (origin : Session snow)
    (counter : UInt64)
    (installs sends : Nat)
    (entry : PeerEntry snow) :
    Prop :=
  ∃ session,
    entry.slot (.afterInstalls installs) = some session ∧
      CanOpen origin counter sends session

namespace PeerEvent

/-- How many events of a peer have a property. -/
def count
    (peerName : PeerName)
    (property : PeerEvent snow → Bool)
    (events : List (PeerName × PeerEvent snow)) :
    Nat :=
  events.countP fun event => event.1 = peerName && property event.2

theorem count_snoc
    (peerName : PeerName)
    (property : PeerEvent snow → Bool)
    (events : List (PeerName × PeerEvent snow))
    (event : PeerName × PeerEvent snow) :
    count peerName property (events ++ [event]) =
      count peerName property events +
        if event.1 = peerName then (property event.2).toNat else 0 := by
  by_cases isPeer : event.1 = peerName <;>
    cases holds : property event.2 <;>
      simp [count, isPeer, holds]

end PeerEvent

/-- Events that spare the packet keep a session that can open it. -/
theorem TableExecution.awaits
    {table table' : PeerTable snow}
    {events : List (PeerName × PeerEvent snow)}
    {origin : Session snow}
    {counter : UInt64}
    {installs sends : Nat}
    {peerName : PeerName}
    (execution : TableExecution table events table')
    (awaits : (table peerName).Awaits origin counter installs sends)
    (spared :
      ∀ event ∈ events,
        event.1 = peerName → event.2.Spares origin counter)
    (few : installs + PeerEvent.count peerName PeerEvent.installs events ≤ 1)
    (unexhausted :
      origin.sendCounter.toNat + sends +
          PeerEvent.count peerName PeerEvent.encrypts events <
        u64Max.toNat) :
    (table' peerName).Awaits origin counter
      (installs + PeerEvent.count peerName PeerEvent.installs events)
      (sends + PeerEvent.count peerName PeerEvent.encrypts events) := by
  induction execution with
  | nil =>
      exact awaits
  | @snoc events middle final event earlier taken inductionHypothesis =>
      rw [PeerEvent.count_snoc] at few unexhausted
      obtain ⟨session, held, canOpen⟩ :=
        inductionHypothesis
          (fun event member =>
            spared event (List.mem_append_left _ member))
          (by omega) (by omega)
      rw [PeerEvent.count_snoc, PeerEvent.count_snoc]
      obtain ⟨queried, event⟩ := event
      by_cases isPeer : queried = peerName
      · subst isPeer
        simp only [if_true, ← Nat.add_assoc] at few unexhausted ⊢
        have step := taken.peerStep
        have spares := spared _ (List.mem_append_right _ (.head _)) rfl
        refine
          ⟨_,
            step.keeps held (by omega) spares.notInvalidated ?_,
            canOpen.advance (by omega) step held spares⟩
        intro slot now isExpire
        exact canOpen.isExpired (by omega) (spares.inTime _ _ isExpire)
      · have unchanged := taken.frame (Ne.symm isPeer)
        simp only [isPeer, if_false, Nat.add_zero]
        rw [unchanged]
        exact ⟨session, held, canOpen⟩

/-! ### The calls of a run -/

namespace Transition

/-- What a call returns says that it installed a session for a peer. -/
def installs (transition : Transition snow) (peerName : PeerName) : Bool :=
  match transition.outcome with
  | .decrypted (.ok (some decrypted)) =>
      decrypted.promotedResponderSession && decrypted.peerName = peerName
  | .finalized (.ok (some (completed, _))) => completed = peerName
  | _ => false

/-- A call encrypts for a peer. -/
def encryptsFor (transition : Transition snow) (peerName : PeerName) : Bool :=
  match transition.call with
  | .encryptForPeer queried _ _ _ => queried = peerName
  | _ => false

end Transition

namespace PeerEvent

variable
  {peerName : PeerName}
  {property : PeerEvent snow → Bool}
  {events : List (PeerName × PeerEvent snow)}

theorem count_eq_zero
    (without : ∀ event ∈ events, property event.2 = false) :
    count peerName property events = 0 := by
  apply List.countP_eq_zero.mpr
  intro event member
  simp [without event member]

/-- Dropping expired sessions is neither an installation nor a sending. -/
theorem count_expired
    {now : Instant}
    (onlyDrops : ∀ event ∈ events, ∃ slot, event.2 = .expire slot now)
    (quiet : ∀ slot, property (.expire slot now) = false) :
    count peerName property events = 0 := by
  apply count_eq_zero
  intro event member
  obtain ⟨slot, isExpire⟩ := onlyDrops event member
  rw [isExpire]
  exact quiet slot

theorem count_append
    (earlier later : List (PeerName × PeerEvent snow)) :
    count peerName property (earlier ++ later) =
      count peerName property earlier + count peerName property later :=
  List.countP_append

/-- Only two kinds of calls install a session. -/
theorem IssuedBy.installs_eq_false
    {call : Call snow}
    {outcome : Outcome snow}
    {event : PeerEvent snow}
    (issued : event.IssuedBy peerName call outcome)
    (notDecrypt :
      ∀ sessionId counter ciphertext now,
        call ≠ .decryptTransport sessionId counter ciphertext now)
    (notFinalize :
      ∀ handshakeId response clock,
        call ≠ .finalizeInitiator handshakeId response clock) :
    event.installs = false := by
  cases event with
  | finalize =>
      obtain ⟨_, isCall⟩ := issued
      exact absurd isCall (notFinalize _ _ _)
  | promote =>
      exact absurd issued (notDecrypt _ _ _ _)
  | _ =>
      rfl

/-- Only one kind of call encrypts under the active session. -/
theorem IssuedBy.encrypts_eq_false
    {call : Call snow}
    {outcome : Outcome snow}
    {event : PeerEvent snow}
    (issued : event.IssuedBy peerName call outcome)
    (notEncrypt :
      ∀ queried msgType payload now,
        call ≠ .encryptForPeer queried msgType payload now) :
    event.encrypts = false := by
  cases event with
  | encrypt =>
      exact absurd issued (notEncrypt _ _ _ _)
  | _ =>
      rfl

end PeerEvent

/-- A step of the manager with what it does to the sessions of one peer. -/
structure Accounted
    (peerName : PeerName)
    (table table' : PeerTable snow)
    (transition : Transition snow)
    (events : List (PeerName × PeerEvent snow)) :
    Prop where
  execution : TableExecution table events table'
  issued :
    ∀ event ∈ events,
      event.2.IssuedBy event.1 transition.call transition.outcome
  installs :
    PeerEvent.count peerName PeerEvent.installs events ≤
      if transition.installs peerName then 1 else 0
  encrypts :
    PeerEvent.count peerName PeerEvent.encrypts events ≤
      if transition.encryptsFor peerName then 1 else 0

namespace SessionState

variable (state : SessionState snow) (peerName : PeerName)

theorem encryptForPeer_accounted
    (queried : PeerName)
    (msgType : Auth.MsgType)
    (payload : Bytes)
    (now : Instant) :
    ∃ events,
      Accounted peerName state.table
        (state.encryptForPeer queried msgType payload now).2.table
        (state.transition (.encryptForPeer queried msgType payload now))
        events := by
  obtain ⟨drops, acts, execution, onlyDrops, outcome⟩ :=
    state.encryptForPeer_execution queried msgType payload now
  have isDrop :
      ∀ event ∈ drops, ∃ slot, event.2 = .expire slot now := by
    intro event member
    rcases onlyDrops event member with previous | active
    · exact ⟨_, previous⟩
    · rw [active]
      exact ⟨_, rfl⟩
  have onlyActs :
      acts = [] ∨
        ∃ session,
          acts = [(queried, .encrypt session msgType payload now)] := by
    rcases outcome with ⟨_, nothing, _⟩ | ⟨session, _, _, isEncrypt, _⟩
    · exact Or.inl nothing
    · exact Or.inr ⟨session, isEncrypt⟩
  refine ⟨_, execution, ?_, ?_, ?_⟩
  · intro event member
    rcases List.mem_append.mp member with dropped | acted
    · obtain ⟨slot, isExpire⟩ := isDrop event dropped
      rw [isExpire]
      rfl
    · rcases onlyActs with rfl | ⟨session, rfl⟩
      · cases acted
      · rw [List.mem_singleton.mp acted]
        rfl
  · rw [PeerEvent.count_append, PeerEvent.count_expired isDrop fun _ => rfl]
    rcases onlyActs with rfl | ⟨session, rfl⟩ <;>
      simp [PeerEvent.count, PeerEvent.installs]
  · rw [PeerEvent.count_append, PeerEvent.count_expired isDrop fun _ => rfl]
    rcases onlyActs with rfl | ⟨session, rfl⟩
    · simp [PeerEvent.count]
    · by_cases isPeer : queried = peerName <;>
        simp [PeerEvent.count, PeerEvent.encrypts, transition,
          Transition.encryptsFor, isPeer]

theorem decryptTransport_accounted
    (sessionId : SessionId)
    (counter : UInt64)
    (ciphertext : Bytes)
    (now : Instant) :
    ∃ events,
      Accounted peerName state.table
        (state.decryptTransport sessionId counter ciphertext now).2.table
        (state.transition
          (.decryptTransport sessionId counter ciphertext now))
        events := by
  obtain ⟨drops, acts, execution, onlyDrops, outcome⟩ :=
    state.decryptTransport_execution sessionId counter ciphertext now
  have isOutcome :
      (state.transition
          (.decryptTransport sessionId counter ciphertext now)).outcome =
        .decrypted
          (state.decryptTransport sessionId counter ciphertext now).1 :=
    rfl
  generalize
    (state.decryptTransport sessionId counter ciphertext now).1 = result
    at outcome isOutcome
  refine ⟨_, execution, ?_, ?_, ?_⟩
  · intro event member
    rcases List.mem_append.mp member with dropped | acted
    · obtain ⟨slot, isExpire⟩ := onlyDrops event dropped
      rw [isExpire]
      rfl
    · cases outcome with
      | unknown =>
          cases acted
      | inPlace _ _ sameId | promoted _ _ sameId =>
          rw [List.mem_singleton.mp acted]
          exact congrArg (Call.decryptTransport · counter ciphertext now)
            sameId.symm
  · rw [PeerEvent.count_append, PeerEvent.count_expired onlyDrops fun _ => rfl]
    cases outcome with
    | unknown | inPlace =>
        simp [PeerEvent.count, PeerEvent.installs]
    | @promoted installed =>
        by_cases isPeer : installed = peerName <;>
          simp [PeerEvent.count, PeerEvent.installs, Transition.installs,
            isOutcome, isPeer]
  · rw [PeerEvent.count_append, PeerEvent.count_expired onlyDrops fun _ => rfl]
    cases outcome <;> simp [PeerEvent.count, PeerEvent.encrypts]

theorem finalizeInitiator_accounted
    (handshakeId : SessionId)
    (response : Bytes)
    (clock : Instant) :
    ∃ events,
      Accounted peerName state.table
        (state.finalizeInitiator handshakeId response clock).2.table
        (state.transition (.finalizeInitiator handshakeId response clock))
        events := by
  obtain ⟨acts, execution, outcome⟩ :=
    state.finalizeInitiator_execution handshakeId response clock
  have isOutcome :
      (state.transition
          (.finalizeInitiator handshakeId response clock)).outcome =
        .finalized (state.finalizeInitiator handshakeId response clock).1 :=
    rfl
  generalize
    (state.finalizeInitiator handshakeId response clock).1 = result
    at outcome isOutcome
  refine ⟨_, execution, ?_, ?_, ?_⟩
  · intro event acted
    cases outcome with
    | unknown =>
        cases acted
    | abandoned =>
        rw [List.mem_singleton.mp acted]
        exact ⟨_, _, _, rfl⟩
    | completed =>
        rw [List.mem_singleton.mp acted]
        exact ⟨_, rfl⟩
  · cases outcome with
    | unknown | abandoned =>
        simp [PeerEvent.count, PeerEvent.installs]
    | @completed completed =>
        by_cases isPeer : completed = peerName <;>
          simp [PeerEvent.count, PeerEvent.installs, Transition.installs,
            isOutcome, isPeer]
  · cases outcome <;> simp [PeerEvent.count, PeerEvent.encrypts]

/-- Every call is accounted for by what it was given and what it returned. -/
theorem perform_accounted (call : Call snow) :
    ∃ events,
      Accounted peerName state.table (state.afterCall call).table
        (state.transition call) events := by
  have quiet
      (notEncrypt :
        ∀ queried msgType payload now,
          call ≠ .encryptForPeer queried msgType payload now)
      (notDecrypt :
        ∀ sessionId counter ciphertext now,
          call ≠ .decryptTransport sessionId counter ciphertext now)
      (notFinalize :
        ∀ handshakeId response clock,
          call ≠ .finalizeInitiator handshakeId response clock) :
      ∃ events,
        Accounted peerName state.table (state.afterCall call).table
          (state.transition call) events := by
    obtain ⟨events, execution, issued⟩ := state.perform_execution call
    refine ⟨events, execution, issued, ?_, ?_⟩
    · rw [PeerEvent.count_eq_zero fun event member =>
        (issued event member).installs_eq_false notDecrypt notFinalize]
      exact Nat.zero_le _
    · rw [PeerEvent.count_eq_zero fun event member =>
        (issued event member).encrypts_eq_false notEncrypt]
      exact Nat.zero_le _
  cases call with
  | encryptForPeer =>
      exact state.encryptForPeer_accounted peerName _ _ _ _
  | decryptTransport =>
      exact state.decryptTransport_accounted peerName _ _ _ _
  | finalizeInitiator =>
      exact state.finalizeInitiator_accounted peerName _ _ _
  | _ =>
      exact quiet (by simp) (by simp) (by simp)

end SessionState

/-- Every step is accounted for, in whatever order the maps are iterated. -/
theorem ManagerStep.accounted
    {state next : SessionState snow}
    {transition : Transition snow}
    (step : ManagerStep state transition next)
    (peerName : PeerName) :
    ∃ events,
      Accounted peerName state.table next.table transition events := by
  obtain ⟨before, call, outcome, after⟩ := transition
  obtain ⟨sameEntries, performed, rfl⟩ := step
  dsimp only at sameEntries performed ⊢
  obtain ⟨events, accounted⟩ := before.perform_accounted peerName call
  rw [SessionState.transition, SessionState.afterCall, performed]
    at accounted
  rw [sameEntries.table_eq]
  exact ⟨events, accounted⟩

/-- A run that leaves a session able to open the packet of a counter. -/
structure Undisturbed
    (peerName : PeerName)
    (origin : Session snow)
    (counter : UInt64)
    (run : List (Transition snow)) :
    Prop where
  notInvalidated :
    ∀ transition ∈ run, transition.call ≠ .invalidatePeer peerName
  oneRekey : run.countP (·.installs peerName) ≤ 1
  inTime :
    ∀ transition ∈ run, ∀ now,
      transition.call.time = some now →
      now - origin.createdAt < rejectAfterTime
  unexhausted :
    origin.sendCounter.toNat + run.countP (·.encryptsFor peerName) <
      u64Max.toNat
  /-- What the session opens is another packet, and not too far ahead. -/
  others :
    ∀ transition ∈ run, ∀ other ciphertext now,
      transition.call =
        .decryptTransport origin.sessionId other ciphertext now →
      ∀ capacity plaintext,
        snow.readMessage origin.transport other ciphertext capacity =
          .ok plaintext →
        other ≠ counter ∧ other.toNat < counter.toNat + defaultWindowSize

namespace Undisturbed

variable
  {peerName : PeerName}
  {origin : Session snow}
  {counter : UInt64}
  {run : List (Transition snow)}

/-- The events of an undisturbed run spare the packet. -/
theorem spares
    (undisturbed : Undisturbed peerName origin counter run)
    {transition : Transition snow}
    (member : transition ∈ run)
    {event : PeerEvent snow}
    (issued :
      event.IssuedBy peerName transition.call transition.outcome) :
    event.Spares origin counter where
  notInvalidated := by
    rintro rfl
    exact undisturbed.notInvalidated _ member issued
  inTime := by
    rintro slot now rfl
    exact undisturbed.inTime _ member now issued
  others := by
    rintro slot session other ciphertext now rfl sameId capacity plaintext
      opened
    have isCall :
        transition.call =
          .decryptTransport session.sessionId other ciphertext now :=
      issued
    rw [sameId] at isCall
    exact undisturbed.others _ member _ _ _ isCall _ _ opened

/-- A run that is undisturbed was so before its last call. -/
theorem of_snoc
    {transition : Transition snow}
    (undisturbed :
      Undisturbed peerName origin counter (run ++ [transition])) :
    Undisturbed peerName origin counter run := by
  have rekeys := undisturbed.oneRekey
  have sends := undisturbed.unexhausted
  rw [List.countP_append] at rekeys sends
  constructor
  · exact fun earlier member =>
      undisturbed.notInvalidated earlier (List.mem_append_left _ member)
  · omega
  · exact fun earlier member =>
      undisturbed.inTime earlier (List.mem_append_left _ member)
  · omega
  · exact fun earlier member =>
      undisturbed.others earlier (List.mem_append_left _ member)

end Undisturbed

/-- Whether and where a session that was active is after a run. -/
theorem Undisturbed.awaits
    {state final : SessionState snow}
    {run : List (Transition snow)}
    {peerName : PeerName}
    {origin : Session snow}
    {counter : UInt64}
    (execution : Execution ManagerStep state run final)
    (undisturbed : Undisturbed peerName origin counter run)
    (active : state.sessions.lookup peerName = some origin)
    (accepts : origin.replay.wouldAccept counter = true)
    (represented : ∃ seen, origin.replay.Represents seen) :
    ∃ installs ≤ run.countP (·.installs peerName),
      ∃ sends ≤ run.countP (·.encryptsFor peerName),
        (final.table peerName).Awaits origin counter installs sends := by
  induction execution with
  | nil =>
      refine ⟨0, Nat.zero_le _, 0, Nat.zero_le _, origin, active, ?_⟩
      exact
        { sameId := rfl
          sameKeys := rfl
          sameAge := rfl
          sent := Nat.le_refl _
          accepts
          represented }
  | @snoc run middle final transition _ taken inductionHypothesis =>
      obtain ⟨installs, fewInstalls, sends, fewSends, awaits⟩ :=
        inductionHypothesis undisturbed.of_snoc
      obtain ⟨events, accounted⟩ := taken.accounted peerName
      have rekeys := undisturbed.oneRekey
      have unexhausted := undisturbed.unexhausted
      have installed := accounted.installs
      have encrypted := accounted.encrypts
      simp only [List.countP_append, List.countP_singleton]
        at rekeys unexhausted ⊢
      refine
        ⟨_, ?_, _, ?_,
          accounted.execution.awaits awaits ?_ ?_ ?_⟩
      · omega
      · omega
      · rintro ⟨queried, event⟩ member rfl
        exact
          undisturbed.spares (List.mem_append_right _ (.head _))
            (accounted.issued _ member)
      · omega
      · omega

/-- A packet opens under the session of its identifier, in whatever slot. -/
theorem SessionState.decryptTransport_of_held
    {state : SessionState snow}
    (distinct : state.table.DistinctBy Session.sessionId)
    {peerName : PeerName}
    {slot : Slot}
    {session : Session snow}
    {counter : UInt64}
    {msgType : Auth.MsgType}
    {payload ciphertext : Bytes}
    {now : Instant}
    (held : state.table.Holds peerName slot session)
    (notCandidate : slot ≠ .candidate)
    (unexpired : session.isExpired now = false)
    (opens :
      (session.decrypt session.sessionId counter ciphertext).1 =
        .ok (msgType, payload)) :
    (state.decryptTransport session.sessionId counter ciphertext now).1 =
      .ok
        (some
          { peerName, msgType, payload,
            promotedResponderSession := false }) := by
  obtain ⟨_, acts, _, _, outcome⟩ :=
    state.decryptTransport_execution session.sessionId counter ciphertext now
  generalize
    (state.decryptTransport session.sessionId counter ciphertext now).1 =
      result
    at outcome
  cases outcome with
  | unknown unused =>
      exact absurd rfl (unused (holds_dropExpired.mpr ⟨held, unexpired⟩))
  | inPlace otherHeld _ sameId =>
      obtain ⟨rfl, rfl⟩ := distinct otherHeld held sameId
      cases otherHeld.symm.trans held
      rw [decryptedInPlace, opens]
      rfl
  | promoted otherHeld _ sameId =>
      exact absurd (distinct otherHeld held sameId).2.symm notCandidate

/--
A packet of the session that is active now opens after every run that keeps
the session alive and installs one other session for its peer at most.
-/
theorem in_flight_packet_opens
    (ideal : IdealNoise snow)
    {earlier later : List (Transition snow)}
    {state final : SessionState snow}
    {peerName : PeerName}
    {session : Session snow}
    {counter : UInt64}
    {msgType : Auth.MsgType}
    {payload ciphertext : Bytes}
    {now : Instant}
    (reached : ManagerRun earlier state)
    (fresh : FreshKeys earlier)
    (active : state.sessions.lookup peerName = some session)
    (accepts : session.replay.wouldAccept counter = true)
    (written :
      snow.writeMessage (ideal.flip session.transport) counter
          (Auth.encodeTransportPlaintext msgType payload)
          ((Auth.encodeTransportPlaintext msgType payload).length +
            aeadTagSize) =
        .ok ciphertext)
    (onward : Execution ManagerStep state later final)
    (undisturbed : Undisturbed peerName session counter later)
    (inTime : now - session.createdAt < rejectAfterTime) :
    (final.decryptTransport session.sessionId counter ciphertext now).1 =
      .ok
        (some
          { peerName, msgType, payload,
            promotedResponderSession := false }) := by
  have isHeld : state.table.Holds peerName .active session := active
  obtain ⟨seen, represents, _⟩ :=
    (reached.deliveryInvariant fresh).recorded isHeld
  obtain ⟨installs, _, sends, fewSends, kept, held, canOpen⟩ :=
    undisturbed.awaits onward active accepts ⟨seen, represents⟩
  have whole : ManagerRun (earlier ++ later) final := reached.append onward
  have distinct := whole.distinctIds
  have unexhausted := undisturbed.unexhausted
  have opposite :
      kept.transport = ideal.flip (ideal.flip session.transport) := by
    rw [ideal.flip_flip]
    exact canOpen.sameKeys
  rw [← canOpen.sameId]
  apply SessionState.decryptTransport_of_held distinct held
  · cases installs <;> simp [Slot.afterInstalls]
  · exact canOpen.isExpired (by omega) inTime
  · rw [Session.decrypt_written ideal written opposite canOpen.accepts]

namespace InFlightExample

open NonceExample

/-- The session that is replaced, after its first packet. -/
def replaced : Session PlainNoise.snow :=
  (candidate.decrypt (.fill 8) 0 ([1, 1] ++ PlainNoise.tag key.flip 0)).2

/-- The keys of the next exchange. -/
def nextKey : PlainNoise.Transport where
  isInitiator := false
  initiatorEphemeral := 6
  responderEphemeral := 7

def storeNext : Call PlainNoise.snow :=
  .storeResponderCandidate "peer" (.new (.fill 10) nextKey 2) (.fill 9) [3]
    [4] 2

def confirmNext : Call PlainNoise.snow :=
  .decryptTransport (.fill 10) 0 ([1, 1] ++ PlainNoise.tag nextKey.flip 0) 3

def answeredNext : SessionState PlainNoise.snow :=
  confirmed.afterCall storeNext

def exchange : List (Transition PlainNoise.snow) :=
  [SessionState.new.transition store, answered.transition confirm]

def rekey : List (Transition PlainNoise.snow) :=
  [confirmed.transition storeNext, answeredNext.transition confirmNext]

theorem exchange_run : ManagerRun exchange confirmed :=
  .snoc (.single (.of_perform .new store)) (.of_perform answered confirm)

theorem rekey_run :
    Execution ManagerStep confirmed rekey
      (answeredNext.afterCall confirmNext) :=
  .snoc (.single (.of_perform confirmed storeNext))
    (.of_perform answeredNext confirmNext)

theorem exchange_freshKeys : FreshKeys exchange where
  distinct := List.nodup_singleton key
  isNew := by
    intro session member
    rw [List.mem_singleton.mp member]
    exact ⟨_, _, _, rfl⟩

theorem rekey_undisturbed : Undisturbed "peer" replaced 1 rekey where
  notInvalidated := by
    intro transition member
    simp only [rekey, List.mem_cons, List.not_mem_nil, or_false] at member
    rcases member with rfl | rfl <;>
      simp [SessionState.transition, storeNext, confirmNext]
  oneRekey := by decide +kernel
  inTime := by
    intro transition member now isTime
    simp only [rekey, List.mem_cons, List.not_mem_nil, or_false] at member
    rcases member with rfl | rfl <;> cases isTime <;> decide
  unexhausted := by decide +kernel
  others := by
    intro transition member other ciphertext now isCall
    simp only [rekey, List.mem_cons, List.not_mem_nil, or_false] at member
    rcases member with rfl | rfl <;> cases isCall

end InFlightExample

open InFlightExample in
/-- The replaced session opens the packet that the rekey overtook. -/
theorem in_flight_packet_opens_example :
    ((NonceExample.confirmed.sessions.lookup "peer").map
          fun session => session.sessionId) =
        some (.fill 8) ∧
      (((answeredNext.afterCall confirmNext).sessions.lookup "peer").map
          fun session => session.sessionId) =
        some (.fill 10) ∧
      ((answeredNext.afterCall confirmNext).decryptTransport (.fill 8) 1
          ([0, 9] ++ PlainNoise.tag NonceExample.key.flip 1) 5).1 =
        .ok
          (some
            { peerName := "peer"
              msgType := .data
              payload := [9]
              promotedResponderSession := false }) :=
  ⟨by decide +kernel, by decide +kernel,
    in_flight_packet_opens PlainNoise.ideal exchange_run exchange_freshKeys
      rfl (by decide +kernel) rfl rekey_run rekey_undisturbed (by decide)⟩

end HushWire

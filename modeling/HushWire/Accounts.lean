import HushWire.ManagerRun

namespace HushWire

open Noise

/-!
# What calls seal, negotiate and deliver

Three things a run is judged by: the encryptions it performs, the sessions it
negotiates and the packets it delivers.  Each is read off a call and the state
it works on, and agrees with the peer events of the call.
-/

variable {snow : Snow}

/-- The keys and the counter of one encryption. -/
abbrev Nonce (snow : Snow) := snow.StatelessTransportState × UInt64

/-- The keys and the counter that the next encryption of a session uses. -/
def Noise.Session.nonce (session : Session snow) : Nonce snow :=
  (session.transport, session.sendCounter)

namespace PeerEvent

/-- The nonce of the encryption an event performs. -/
def sealed : PeerEvent snow → Option (Nonce snow)
  | .encrypt session _ _ _ => some session.nonce
  | .finalize session _ _ => some session.nonce
  | _ => none

/-- The slot and the session that a packet reaches, with the packet. -/
def reached :
    PeerEvent snow → Option (Slot × Session snow × UInt64 × Bytes)
  | .decrypt slot session counter ciphertext _ =>
      some (slot, session, counter, ciphertext)
  | .promote session counter ciphertext _ =>
      some (.candidate, session, counter, ciphertext)
  | _ => none

/-- The keys and the counter under which an event delivers a packet. -/
def delivered (event : PeerEvent snow) :
    Option (snow.StatelessTransportState × UInt64) :=
  event.reached.bind fun (_, session, counter, ciphertext) =>
    match (session.decrypt session.sessionId counter ciphertext).1 with
    | .error _ => none
    | .ok _ => some (session.transport, counter)

end PeerEvent

/-- The nonces of a sequence of events. -/
def sealedBy (events : List (PeerName × PeerEvent snow)) :
    List (Nonce snow) :=
  events.filterMap fun event => event.2.sealed

/-- The keys and counters delivered by a sequence of events. -/
def deliveredBy (events : List (PeerName × PeerEvent snow)) :
    List (snow.StatelessTransportState × UInt64) :=
  events.filterMap fun event => event.2.delivered

@[simp] theorem sealedBy_append
    (earlier later : List (PeerName × PeerEvent snow)) :
    sealedBy (earlier ++ later) = sealedBy earlier ++ sealedBy later :=
  List.filterMap_append

@[simp] theorem introducedBy_append
    (earlier later : List (PeerName × PeerEvent snow)) :
    introducedBy (earlier ++ later) =
      introducedBy earlier ++ introducedBy later :=
  List.filterMap_append

@[simp] theorem deliveredBy_append
    (earlier later : List (PeerName × PeerEvent snow)) :
    deliveredBy (earlier ++ later) =
      deliveredBy earlier ++ deliveredBy later :=
  List.filterMap_append

/-- An event that seals, brings in and delivers nothing. -/
def PeerEvent.Quiet (event : PeerEvent snow) : Prop :=
  event.sealed = none ∧ event.introduced = none ∧ event.delivered = none

/-- Quiet events leave no trace in the accounts. -/
theorem accounts_of_quiet
    {events : List (PeerName × PeerEvent snow)}
    (onlyQuiet : ∀ event ∈ events, event.2.Quiet) :
    sealedBy events = [] ∧ introducedBy events = [] ∧
      deliveredBy events = [] :=
  ⟨List.filterMap_eq_nil_iff.mpr fun event member =>
      (onlyQuiet event member).1,
    List.filterMap_eq_nil_iff.mpr fun event member =>
      (onlyQuiet event member).2.1,
    List.filterMap_eq_nil_iff.mpr fun event member =>
      (onlyQuiet event member).2.2⟩

namespace SessionState

/--
The session whose `Session::encrypt` a call invokes, as it is at that moment.
-/
def sealing (state : SessionState snow) : Call snow → Option (Session snow)
  | .encryptForPeer peerName _ _ now =>
      (state.sessions.lookup peerName).filter fun session =>
        !session.isExpired now
  | .finalizeInitiator handshakeId response clock =>
      match state.pendingInit.findFirst? fun pending =>
          pending.handshakeId = handshakeId with
      | none => none
      | some (_, pending) =>
          match initiatorFinalize pending.state response clock with
          | .error _ => none
          | .ok session =>
              if state.sessionIdInUse session.sessionId then
                none
              else
                some session
  | _ => none

/-- The session that becomes the manager's own in a call. -/
def negotiated (state : SessionState snow) :
    Call snow → Option (Session snow)
  | .storeResponderCandidate _ session _ _ _ _ =>
      if state.sessionIdInUse session.sessionId then none else some session
  | .finalizeInitiator handshakeId response clock =>
      state.sealing (.finalizeInitiator handshakeId response clock)
  | _ => none

/-- The keys and the counter under which a call returns a packet. -/
def delivering (state : SessionState snow) :
    Call snow → Option (snow.StatelessTransportState × UInt64)
  | .decryptTransport sessionId counter ciphertext now =>
      match (state.decryptTransport sessionId counter ciphertext now).1 with
      | .ok (some _) =>
          (state.located sessionId now).map fun found =>
            (found.2.transport, counter)
      | _ => none
  | _ => none

theorem sealing_encryptForPeer
    {state : SessionState snow}
    {peerName : PeerName}
    {session : Session snow}
    {now : Instant}
    (stored : state.sessions.lookup peerName = some session)
    (unexpired : session.isExpired now = false)
    {msgType : Auth.MsgType}
    {payload : Bytes} :
    state.sealing (.encryptForPeer peerName msgType payload now) =
      some session := by
  simp [sealing, stored, unexpired, Option.filter_some]

theorem sealing_finalizeInitiator
    {state : SessionState snow}
    {handshakeId : SessionId}
    {response : Bytes}
    {clock : Instant}
    {peerName : PeerName}
    {pending : PendingInitiator snow}
    {session : Session snow}
    (matched : state.Matches handshakeId peerName pending)
    (completed : initiatorFinalize pending.state response clock = .ok session)
    (unused : state.table.Unused session.sessionId) :
    state.sealing (.finalizeInitiator handshakeId response clock) =
      some session := by
  rw [Matches] at matched
  simp [sealing, matched, completed, sessionIdInUse_eq_false.mpr unused]

/--
How the events of a call relate to what the call seals, negotiates and
delivers.  A negotiated session whose confirmation cannot be encrypted is
discarded; no event shows it.
-/
structure Account
    (state : SessionState snow)
    (call : Call snow)
    (events : List (PeerName × PeerEvent snow)) :
    Prop where
  delivered : deliveredBy events = (state.delivering call).toList
  sealed :
    (sealedBy events = ((state.sealing call).map Session.nonce).toList ∧
        introducedBy events = (state.negotiated call).toList) ∨
      ∃ session,
        state.sealing call = some session ∧
          state.negotiated call = some session ∧
          sealedBy events = [] ∧
          introducedBy events = []

/-- A call all of whose events are quiet, and that does nothing else. -/
theorem account_of_quiet
    {state : SessionState snow}
    {call : Call snow}
    {events : List (PeerName × PeerEvent snow)}
    (onlyQuiet : ∀ event ∈ events, event.2.Quiet)
    (sealsNothing : state.sealing call = none)
    (negotiatesNothing : state.negotiated call = none)
    (deliversNothing : state.delivering call = none) :
    state.Account call events := by
  obtain ⟨sealed, introduced, delivered⟩ := accounts_of_quiet onlyQuiet
  refine ⟨?_, Or.inl ⟨?_, ?_⟩⟩
  · rw [delivered, deliversNothing]
    rfl
  · rw [sealed, sealsNothing]
    rfl
  · rw [introduced, negotiatesNothing]
    rfl

/-- Quiet events before the others do not change the account. -/
theorem Account.append_quiet
    {state : SessionState snow}
    {call : Call snow}
    {drops acts : List (PeerName × PeerEvent snow)}
    (onlyQuiet : ∀ event ∈ drops, event.2.Quiet)
    (account : state.Account call acts) :
    state.Account call (drops ++ acts) := by
  obtain ⟨sealed, introduced, delivered⟩ := accounts_of_quiet onlyQuiet
  obtain ⟨deliveredActs, sealedActs⟩ := account
  exact ⟨by rw [deliveredBy_append, delivered, deliveredActs]; rfl,
    by rw [sealedBy_append, introducedBy_append, sealed, introduced]
       exact sealedActs⟩

/-- What `decrypt_transport` delivers is what its event delivers. -/
theorem delivering_decryptTransport
    {state : SessionState snow}
    {sessionId : SessionId}
    {counter : UInt64}
    {ciphertext : Bytes}
    {now : Instant}
    {acts : List (PeerName × PeerEvent snow)}
    (outcome :
      DecryptOutcome state sessionId counter ciphertext now acts
        (state.decryptTransport sessionId counter ciphertext now).1) :
    deliveredBy acts =
      (state.delivering
        (.decryptTransport sessionId counter ciphertext now)).toList := by
  unfold delivering
  simp only
  generalize
    (state.decryptTransport sessionId counter ciphertext now).1 = result
    at outcome
  cases outcome with
  | unknown =>
      rfl
  | inPlace held unexpired sameId located notCandidate =>
      subst sameId
      rw [located]
      unfold decryptedInPlace
      rcases opened : (_ : Session snow).decrypt _ counter ciphertext with
        ⟨error | decrypted, updated⟩
      · simp [deliveredBy, PeerEvent.delivered, PeerEvent.reached, opened,
          Except.map]
      · simp [deliveredBy, PeerEvent.delivered, PeerEvent.reached, opened,
          Except.map]
  | promoted held unexpired sameId located opened =>
      subst sameId
      simp [located, deliveredBy, PeerEvent.delivered, PeerEvent.reached,
        opened]

/-- The events of a call account for what the call does. -/
theorem perform_account
    (state : SessionState snow)
    (call : Call snow) :
    ∃ events,
      TableExecution state.table events (state.afterCall call).table ∧
        state.Account call events := by
  cases call with
  | encryptForPeer peerName msgType payload now =>
      obtain ⟨drops, acts, run, onlyDrops, outcome⟩ :=
        state.encryptForPeer_execution peerName msgType payload now
      refine ⟨_, run, .append_quiet ?_ ?_⟩
      · intro event member
        rcases onlyDrops event member with previous | active
        · rw [previous]
          exact ⟨rfl, rfl, rfl⟩
        · rw [active]
          exact ⟨rfl, rfl, rfl⟩
      · rcases outcome with
          ⟨allExpired, rfl, _⟩ | ⟨session, stored, unexpired, rfl, _⟩
        · refine account_of_quiet (by simp) ?_ rfl rfl
          rw [sealing, Option.filter_eq_none_iff]
          intro session stored
          simpa using allExpired session stored
        · exact ⟨rfl, Or.inl
            ⟨by rw [sealing_encryptForPeer stored unexpired]; rfl, rfl⟩⟩
  | decryptTransport sessionId counter ciphertext now =>
      obtain ⟨drops, acts, run, onlyDrops, outcome⟩ :=
        state.decryptTransport_execution sessionId counter ciphertext now
      refine ⟨_, run, .append_quiet ?_
        ⟨delivering_decryptTransport outcome, Or.inl ?_⟩⟩
      · intro event member
        obtain ⟨slot, expire⟩ := onlyDrops event member
        rw [expire]
        exact ⟨rfl, rfl, rfl⟩
      · generalize
          (state.decryptTransport sessionId counter ciphertext now).1 = result
          at outcome
        cases outcome <;> exact ⟨rfl, rfl⟩
  | storeResponderCandidate peerName session handshakeId request response
        clock =>
      rcases state.storeResponderCandidate_execution peerName session
        handshakeId request response clock with
        ⟨used, refused⟩ | ⟨unused, _, run⟩
      · refine ⟨[], ?_, account_of_quiet (by simp) rfl ?_ rfl⟩
        · simpa [afterCall, perform, refused] using Execution.nil
        · have inUse : state.sessionIdInUse session.sessionId = true := by
            rw [← Bool.not_eq_false]
            exact fun free => used (sessionIdInUse_eq_false.mp free)
          simp [negotiated, inUse]
      · refine ⟨_, run, rfl, Or.inl ⟨rfl, ?_⟩⟩
        simp [negotiated, sessionIdInUse_eq_false.mpr unused, introducedBy,
          PeerEvent.introduced]
  | cachedResponderResponse peerName handshakeId request clock =>
      rcases state.cachedResponderResponse_execution peerName handshakeId
        request clock with
        ⟨_, _, _, _, _, found⟩ | ⟨_, ⟨_, _, _, run⟩ | ⟨_, unchanged⟩⟩
      · exact ⟨[], by simpa [afterCall, perform, found] using Execution.nil,
          account_of_quiet (by simp) rfl rfl rfl⟩
      · exact ⟨_, run, rfl, Or.inl ⟨rfl, rfl⟩⟩
      · exact ⟨[],
          by simpa [afterCall, perform, unchanged] using Execution.nil,
          account_of_quiet (by simp) rfl rfl rfl⟩
  | acceptInboundInitiation peerName remoteHandshakeId passivePeer clock =>
      obtain ⟨drops, acts, run, onlyDrops, outcome⟩ :=
        state.acceptInboundInitiation_execution peerName remoteHandshakeId
          passivePeer clock
      refine ⟨_, run, .append_quiet ?_ ?_⟩
      · intro event member
        rw [(onlyDrops event member).1]
        exact ⟨rfl, rfl, rfl⟩
      · generalize
          (state.acceptInboundInitiation peerName remoteHandshakeId
            passivePeer clock).1 = result
          at outcome
        cases outcome <;> exact ⟨rfl, Or.inl ⟨rfl, rfl⟩⟩
  | startOrRetryHandshake peerName localStatic remoteStaticPub psk draw
        now =>
      obtain ⟨drops, acts, run, onlyDrops, outcome⟩ :=
        state.startOrRetryHandshake_execution peerName localStatic
          remoteStaticPub psk draw now
      refine ⟨_, run, .append_quiet ?_ ?_⟩
      · intro event member
        rcases onlyDrops event member with
          ⟨lapse, _⟩ | candidate | forget | active
        · rw [lapse]
          exact ⟨rfl, rfl, rfl⟩
        · rw [candidate]
          exact ⟨rfl, rfl, rfl⟩
        · rw [forget]
          exact ⟨rfl, rfl, rfl⟩
        · rw [active]
          exact ⟨rfl, rfl, rfl⟩
      · generalize
          (state.startOrRetryHandshake peerName localStatic remoteStaticPub
            psk draw now).1 = result
          at outcome
        cases outcome with
        | due _ _ _ started =>
            rcases started with ⟨_, _, rfl, _⟩ | ⟨_, _, rfl, _⟩ <;>
              exact ⟨rfl, Or.inl ⟨rfl, rfl⟩⟩
        | _ =>
            exact ⟨rfl, Or.inl ⟨rfl, rfl⟩⟩
  | finalizeInitiator handshakeId response clock =>
      obtain ⟨acts, run, outcome⟩ :=
        state.finalizeInitiator_execution handshakeId response clock
      refine ⟨acts, run, ?_⟩
      generalize
        (state.finalizeInitiator handshakeId response clock).1 = result
        at outcome
      cases outcome with
      | completed matched completed unused confirmed =>
          have sealed := sealing_finalizeInitiator matched completed unused
          refine ⟨rfl, Or.inl ⟨?_, ?_⟩⟩
          · rw [sealed]
            rfl
          · rw [negotiated, sealed]
            rfl
      | _ =>
          cases sealed :
              state.sealing
                (.finalizeInitiator handshakeId response clock) with
          | none =>
              refine ⟨rfl, Or.inl ⟨?_, ?_⟩⟩
              · rw [sealed]
                rfl
              · rw [negotiated, sealed]
                rfl
          | some session =>
              exact ⟨rfl, Or.inr ⟨session, sealed, sealed, rfl, rfl⟩⟩
  | invalidatePeer peerName =>
      exact ⟨_, state.invalidatePeer_execution peerName, rfl,
        Or.inl ⟨rfl, rfl⟩⟩

end SessionState

/-- The session whose `Session::encrypt` a transition invokes. -/
def Transition.sealing (transition : Transition snow) :
    Option (Session snow) :=
  transition.before.sealing transition.call

/-- The session that becomes the manager's own in a transition. -/
def Transition.negotiated (transition : Transition snow) :
    Option (Session snow) :=
  transition.before.negotiated transition.call

/--
The Noise layer derives fresh keys in every handshake, and a session is handed
to the manager as `Session::new` made it.
-/
structure FreshKeys (run : List (Transition snow)) : Prop where
  distinct :
    ((run.filterMap Transition.negotiated).map Session.transport).Nodup
  isNew :
    ∀ session ∈ run.filterMap Transition.negotiated,
      ∃ sessionId transport clock,
        session = Session.new sessionId transport clock

/--
The keys and the counter that the encryption of a transition gives to
`write_message` (`SessionState.sealed_of_sealing`).
-/
def Transition.nonce (transition : Transition snow) : Option (Nonce snow) :=
  transition.sealing.map Session.nonce

/-- The keys and the counter under which a transition returns a packet. -/
def Transition.delivered (transition : Transition snow) :
    Option (snow.StatelessTransportState × UInt64) :=
  transition.before.delivering transition.call

/--
A property of the records so far, the keys negotiated so far and the table
that holds at the start and is kept by every event that brings in fresh keys.
A session that is negotiated and discarded leaves its keys behind.
-/
structure KeyedInvariant
    {Record : Type}
    (record : PeerEvent snow → Option Record)
    (discarded : Session snow → Option Record)
    (IsNew : Session snow → Prop)
    (holds :
      List Record → List snow.StatelessTransportState → PeerTable snow →
        Prop) :
    Prop where
  start : holds [] [] (SessionState.new : SessionState snow).table
  step :
    ∀ {records keys table peerName event table'},
      holds records keys table →
      TableStep table (peerName, event) table' →
      (∀ session,
        event.introduced = some session →
        session.transport ∉ keys ∧ IsNew session) →
      holds (records ++ (record event).toList)
        (keys ++ (event.introduced.map Session.transport).toList) table'
  discard :
    ∀ {records keys table session},
      holds records keys table →
      session.transport ∉ keys →
      IsNew session →
      holds (records ++ (discarded session).toList)
        (keys ++ [session.transport]) table

namespace KeyedInvariant

variable
  {Record : Type}
  {record : PeerEvent snow → Option Record}
  {discarded : Session snow → Option Record}
  {IsNew : Session snow → Prop}
  {holds :
    List Record → List snow.StatelessTransportState → PeerTable snow → Prop}

/-- Executions whose new keys are fresh keep the property. -/
theorem execution
    (invariant : KeyedInvariant record discarded IsNew holds)
    {records : List Record}
    {keys : List snow.StatelessTransportState}
    {table table' : PeerTable snow}
    {events : List (PeerName × PeerEvent snow)}
    (atStart : holds records keys table)
    (execution : TableExecution table events table')
    (fresh :
      (keys ++ (introducedBy events).map Session.transport).Nodup)
    (isNew : ∀ session ∈ introducedBy events, IsNew session) :
    holds (records ++ events.filterMap fun event => record event.2)
      (keys ++ (introducedBy events).map Session.transport) table' := by
  induction execution with
  | nil =>
      simpa [introducedBy] using atStart
  | @snoc events _ _ event _ taken inductionHypothesis =>
      obtain ⟨peerName, event⟩ := event
      have recordSplit :
          ((events ++ [(peerName, event)]).filterMap fun event =>
              record event.2) =
            (events.filterMap fun event => record event.2) ++
              (record event).toList := by
        cases recorded : record event <;> simp [recorded]
      have introducedSplit :
          introducedBy (events ++ [(peerName, event)]) =
            introducedBy events ++ event.introduced.toList := by
        cases entering : event.introduced <;>
          simp [introducedBy, entering]
      rw [introducedSplit, List.map_append, ← List.append_assoc] at fresh
      rw [introducedSplit] at isNew
      have earlier := inductionHypothesis
        (List.nodup_append.mp fresh).1
        (fun session member => isNew session (List.mem_append_left _ member))
      rw [recordSplit, introducedSplit, List.map_append, ← List.append_assoc,
        ← List.append_assoc]
      have later := invariant.step earlier taken fun session introduced => by
        rw [introduced] at fresh isNew
        refine ⟨fun member => ?_, isNew session (by simp)⟩
        exact (List.nodup_append.mp fresh).2.2 _ member _ (by simp) rfl
      convert later using 2
      cases event.introduced <;> rfl

/-- The property holds at the end of every run with fresh keys. -/
theorem run
    (invariant : KeyedInvariant record discarded IsNew holds)
    (newIsNew :
      ∀ sessionId transport clock,
        IsNew (Session.new sessionId transport clock))
    {recordOf : Transition snow → Option Record}
    (accounted :
      ∀ {transition events},
        transition.before.Account transition.call events →
        ((events.filterMap fun event => record event.2) =
            (recordOf transition).toList ∧
          introducedBy events = transition.negotiated.toList) ∨
        ∃ session,
          transition.negotiated = some session ∧
            recordOf transition = discarded session ∧
            (events.filterMap fun event => record event.2) = [] ∧
            introducedBy events = [])
    {run : List (Transition snow)}
    {final : SessionState snow}
    (execution : ManagerRun run final)
    (fresh : FreshKeys run) :
    holds (run.filterMap recordOf)
      ((run.filterMap Transition.negotiated).map Session.transport)
      final.table := by
  induction execution with
  | nil =>
      exact invariant.start
  | @snoc run _ _ transition _ taken inductionHypothesis =>
      obtain ⟨distinct, isNew⟩ := fresh
      rw [List.filterMap_append, List.map_append] at distinct
      rw [List.filterMap_append] at isNew
      have earlier := inductionHypothesis
        ⟨(List.nodup_append.mp distinct).1,
          fun session member => isNew session (List.mem_append_left _ member)⟩
      obtain ⟨events, eventRun, account⟩ :=
        transition.before.perform_account transition.call
      rw [SessionState.afterCall, taken.performed] at eventRun
      rw [← taken.sameEntries.table_eq, ← taken.next_eq] at eventRun
      have newSession {session}
          (introduced : transition.negotiated = some session) :
          IsNew session := by
        obtain ⟨sessionId, transport, clock, rfl⟩ :=
          isNew session (List.mem_append_right _ (by simp [introduced]))
        exact newIsNew sessionId transport clock
      have recordSplit :
          (run ++ [transition]).filterMap recordOf =
            run.filterMap recordOf ++ (recordOf transition).toList := by
        cases recorded : recordOf transition <;> simp [recorded]
      have negotiatedSplit :
          [transition].filterMap Transition.negotiated =
            transition.negotiated.toList := by
        cases entering : transition.negotiated <;> simp [entering]
      rw [negotiatedSplit] at distinct
      rw [recordSplit, List.filterMap_append, negotiatedSplit,
        List.map_append]
      rcases accounted account with
        ⟨recorded, introduced⟩ |
        ⟨session, negotiated, recorded, recordedEvents, introducedEvents⟩
      · rw [← introduced] at distinct ⊢
        rw [← recorded]
        exact invariant.execution earlier eventRun distinct
          fun session member => newSession (by simpa [introduced] using member)
      · have unaffected := invariant.execution earlier eventRun
          (by simpa [introducedEvents] using (List.nodup_append.mp distinct).1)
          (by simp [introducedEvents])
        rw [recordedEvents, introducedEvents, List.append_nil, List.map_nil,
          List.append_nil] at unaffected
        rw [negotiated] at distinct ⊢
        rw [recorded]
        exact invariant.discard unaffected
          (fun member =>
            (List.nodup_append.mp distinct).2.2 _ member _ (by simp) rfl)
          (newSession negotiated)

end KeyedInvariant

end HushWire

import HushWire.InboundFrames
import HushWire.ManagerRun
import HushWire.PlainNoise

namespace HushWire

open Noise

/-!
# Candidates and their cached responses

In every reachable state a peer has a pending initiation or a candidate and
never both, and a candidate is cached with the response that was stored with
it: the response of the same `responder_respond`, when every store is given
such a pair.  A cached response may outlive its candidate, because
`decrypt_transport` drops expired candidates without their cache entries.
Whoever stores a session soon after negotiating it never sees that response
again: the cache entry reaches its lifetime first.
-/

variable {snow : Snow}

/-- The calls of a run read one clock, which never goes back. -/
def MonotoneTimes (run : List (Transition snow)) : Prop :=
  (run.filterMap fun transition => transition.call.time).Pairwise (· ≤ ·)

instance (run : List (Transition snow)) : Decidable (MonotoneTimes run) :=
  inferInstanceAs (Decidable (List.Pairwise _ _))

/-- A call of the run stored the session with what it answers. -/
def StoredIn
    (run : List (Transition snow))
    (peerName : PeerName)
    (session : Session snow)
    (cached : CachedResponderHandshake) :
    Prop :=
  ∃ transition ∈ run,
    transition.call =
        .storeResponderCandidate peerName session cached.handshakeId
          cached.request cached.response cached.createdAt ∧
      transition.outcome = .stored true

theorem StoredIn.append
    {run : List (Transition snow)}
    {peerName : PeerName}
    {session : Session snow}
    {cached : CachedResponderHandshake}
    (stored : StoredIn run peerName session cached)
    (later : List (Transition snow)) :
    StoredIn (run ++ later) peerName session cached := by
  obtain ⟨transition, member, call, outcome⟩ := stored
  exact ⟨transition, List.mem_append_left _ member, call, outcome⟩

/-- One call of `responder_respond` made the session and the response. -/
def ProducedTogether
    (session : Session snow)
    (cached : CachedResponderHandshake) :
    Prop :=
  ∃ localStatic remoteStatic psk draw clock answer,
    responderRespond localStatic remoteStatic psk cached.handshakeId
        cached.request draw clock = .ok answer ∧
      session = answer.session ∧
      cached.response =
        Auth.encodeHandshake .handshakeResponse cached.handshakeId
          answer.message

/--
Every store of the run is given the session of one `responder_respond` and its
encoded message, as `process_inbound_transport` does.
-/
def StoresAnswers (run : List (Transition snow)) : Prop :=
  ∀ transition ∈ run, ∀ peerName session cached,
    transition.call =
      .storeResponderCandidate peerName session cached.handshakeId
        cached.request cached.response cached.createdAt →
    ProducedTogether session cached

theorem StoredIn.producedTogether
    {run : List (Transition snow)}
    {peerName : PeerName}
    {session : Session snow}
    {cached : CachedResponderHandshake}
    (stored : StoredIn run peerName session cached)
    (answers : StoresAnswers run) :
    ProducedTogether session cached := by
  obtain ⟨transition, member, call, _⟩ := stored
  exact answers transition member peerName session cached call

/-- A candidate has sent nothing since its session was stored. -/
structure Noise.Session.Awaits
    (candidate session : Session snow) :
    Prop extends candidate.Continues session where
  sendCounter : candidate.sendCounter = session.sendCounter

namespace Noise.Session.Awaits

theorem refl (session : Session snow) : session.Awaits session where
  toContinues := .refl session
  sendCounter := rfl

/-- A candidate reaches its deadline when the stored session does. -/
theorem isExpired_eq
    {candidate session : Session snow}
    (awaits : candidate.Awaits session)
    (now : Instant) :
    candidate.isExpired now = session.isExpired now := by
  rw [Session.isExpired, Session.isExpired, awaits.createdAt,
    awaits.sendCounter]

/-- Packets that do not promote a candidate leave it waiting. -/
theorem decrypt
    {candidate session : Session snow}
    (awaits : candidate.Awaits session)
    (sessionId : SessionId)
    (counter : UInt64)
    (ciphertext : Bytes) :
    (candidate.decrypt sessionId counter ciphertext).2.Awaits session where
  toContinues :=
    (candidate.decrypt_continues sessionId counter ciphertext).trans
      awaits.toContinues
  sendCounter := by
    rw [Session.decrypt_sendCounter, awaits.sendCounter]

end Noise.Session.Awaits

/-- The session behind a cached response waits as the candidate or expired. -/
inductive Announced
    (run : List (Transition snow))
    (session : Session snow)
    (entry : PeerEntry snow) :
    Prop where
  | waiting
      {candidate : Session snow} :
      entry.candidate = some candidate →
      candidate.Awaits session →
      Announced run session entry
  | expired
      {transition : Transition snow}
      {now : Instant} :
      entry.candidate = none →
      transition ∈ run →
      transition.call.time = some now →
      session.isExpired now = true →
      Announced run session entry

namespace Announced

variable
  {run : List (Transition snow)}
  {session : Session snow}
  {entry entry' : PeerEntry snow}

theorem append
    (announced : Announced run session entry)
    (later : List (Transition snow)) :
    Announced (run ++ later) session entry := by
  cases announced with
  | waiting held awaits =>
      exact .waiting held awaits
  | expired gone member time expired =>
      exact .expired gone (List.mem_append_left _ member) time expired

theorem of_candidate_eq
    (announced : Announced run session entry)
    (candidate : entry'.candidate = entry.candidate) :
    Announced run session entry' := by
  cases announced with
  | waiting held awaits =>
      exact .waiting (candidate.trans held) awaits
  | expired gone member time expired =>
      exact .expired (candidate.trans gone) member time expired

/-- A stored candidate is the one that the response announces. -/
theorem awaits
    (announced : Announced run session entry)
    {candidate : Session snow}
    (held : entry.candidate = some candidate) :
    candidate.Awaits session := by
  cases announced with
  | waiting found awaits =>
      rwa [Option.some.inj (held.symm.trans found)]
  | expired gone =>
      exact absurd (gone.symm.trans held) (by simp)

end Announced

/-- How pending initiation, candidate and cached response are tied together. -/
structure HandshakeSlots
    (run : List (Transition snow))
    (peerName : PeerName)
    (entry : PeerEntry snow) :
    Prop where
  exclusive : entry.pending = none ∨ entry.candidate = none
  cached :
    ∀ candidate,
      entry.candidate = some candidate →
      ∃ cached, entry.cached = some cached
  announced :
    ∀ cached,
      entry.cached = some cached →
      ∃ session,
        StoredIn run peerName session cached ∧ Announced run session entry

namespace HandshakeSlots

variable
  {run : List (Transition snow)}
  {peerName : PeerName}
  {entry entry' : PeerEntry snow}

theorem empty (prefersInbound : Prop) :
    HandshakeSlots run peerName (.empty prefersInbound) where
  exclusive := Or.inl rfl
  cached := by
    rintro _ ⟨⟩
  announced := by
    rintro _ ⟨⟩

/-- The slots stay tied as the run goes on. -/
theorem append
    (slots : HandshakeSlots run peerName entry)
    (later : List (Transition snow)) :
    HandshakeSlots (run ++ later) peerName entry where
  exclusive := slots.exclusive
  cached := slots.cached
  announced := by
    intro cached stored
    obtain ⟨session, storedIn, announced⟩ := slots.announced cached stored
    exact ⟨session, storedIn.append later, announced.append later⟩

/-- Nothing but the three slots matters. -/
theorem of_eq
    (slots : HandshakeSlots run peerName entry)
    (exclusive : entry'.pending = none ∨ entry'.candidate = none)
    (candidate : entry'.candidate = entry.candidate)
    (cached : entry'.cached = entry.cached) :
    HandshakeSlots run peerName entry' where
  exclusive := exclusive
  cached := by
    rw [candidate, cached]
    exact slots.cached
  announced := by
    intro found stored
    rw [cached] at stored
    obtain ⟨session, storedIn, announced⟩ := slots.announced found stored
    exact ⟨session, storedIn, announced.of_candidate_eq candidate⟩

/-- Without candidate and cached response only the pending slot is left. -/
theorem of_none
    (candidate : entry.candidate = none)
    (cached : entry.cached = none) :
    HandshakeSlots run peerName entry where
  exclusive := Or.inr candidate
  cached := by
    simp [candidate]
  announced := by
    simp [cached]

/-- Every event that a call of the run issues keeps the slots tied. -/
theorem step
    {transition : Transition snow}
    {event : PeerEvent snow}
    (slots : HandshakeSlots run peerName entry)
    (member : transition ∈ run)
    (issued : event.IssuedBy peerName transition.call transition.outcome)
    (taken : PeerStep entry event entry') :
    HandshakeSlots run peerName entry' := by
  cases taken with
  | @expire slot session now held expired =>
      cases slot with
      | active | previous =>
          exact slots.of_eq slots.exclusive rfl rfl
      | candidate =>
          refine ⟨Or.inr rfl, by rintro _ ⟨⟩, ?_⟩
          intro cached stored
          obtain ⟨negotiated, storedIn, announced⟩ :=
            slots.announced cached stored
          have sessionExpired : negotiated.isExpired now = true :=
            ((announced.awaits held).isExpired_eq now).symm.trans expired
          exact ⟨negotiated, storedIn,
            .expired rfl member issued sessionExpired⟩
  | forgetCached noCandidate =>
      exact .of_none noCandidate rfl
  | expireCached =>
      exact .of_none rfl rfl
  | lapse | yield | recover | abandon =>
      exact slots.of_eq (Or.inl rfl) rfl rfl
  | start _ noCandidate =>
      exact slots.of_eq (Or.inr noCandidate) rfl rfl
  | retransmit stored =>
      have noCandidate : entry.candidate = none :=
        slots.exclusive.resolve_left (by simp [stored])
      exact slots.of_eq (Or.inr noCandidate) rfl rfl
  | @store session handshakeId request response clock =>
      refine ⟨Or.inl rfl, fun _ _ => ⟨_, rfl⟩, ?_⟩
      rintro cached ⟨⟩
      exact ⟨session, ⟨transition, member, issued⟩,
        .waiting rfl (.refl session)⟩
  | finalize | promote =>
      exact .of_none rfl rfl
  | encrypt =>
      exact slots.of_eq slots.exclusive rfl rfl
  | @decrypt slot session counter ciphertext now held unexpired =>
      cases slot with
      | active | previous =>
          exact slots.of_eq slots.exclusive rfl rfl
      | candidate =>
          have noPending : entry.pending = none :=
            slots.exclusive.resolve_right
              (by simp [show entry.candidate = some session from held])
          refine ⟨Or.inl noPending, fun _ _ => slots.cached session held, ?_⟩
          intro cached stored
          obtain ⟨negotiated, storedIn, announced⟩ :=
            slots.announced cached stored
          exact ⟨negotiated, storedIn,
            .waiting rfl ((announced.awaits held).decrypt _ _ _)⟩
  | invalidate =>
      exact .empty True

end HandshakeSlots

namespace ManagerRun

/-- The slots of every peer are tied in every reachable state. -/
theorem handshakeSlots
    {run : List (Transition snow)}
    {final : SessionState snow}
    (execution : ManagerRun run final)
    (peerName : PeerName) :
    HandshakeSlots run peerName (final.table peerName) := by
  induction execution with
  | nil =>
      rw [SessionState.table_new]
      exact .empty False
  | @snoc run middle final transition _ taken inductionHypothesis =>
      obtain ⟨events, eventRun, issued⟩ := taken.tableExecution
      refine (eventRun.peerExecution peerName).preserves
        (HandshakeSlots (run ++ [transition]) peerName)
        (inductionHypothesis.append [transition]) ?_
      intro entry event entry' member slots step
      rw [List.mem_filterMap] at member
      obtain ⟨⟨actor, issuedEvent⟩, member, same⟩ := member
      split at same
      · rename_i isPeer
        cases same
        have isIssued := issued _ member
        rw [isPeer] at isIssued
        exact slots.step (by simp) isIssued step
      · cases same

/-- A run up to any of its calls is a run. -/
theorem before
    {run earlier later : List (Transition snow)}
    {final : SessionState snow}
    {transition : Transition snow}
    (execution : ManagerRun run final)
    (order : run = earlier ++ transition :: later) :
    ∃ middle next,
      ManagerRun earlier middle ∧ ManagerStep middle transition next := by
  subst order
  obtain ⟨middle, first, rest⟩ := execution.split
  have whole : Execution ManagerStep middle ([transition] ++ later) final :=
    rest
  obtain ⟨next, single, _⟩ := whole.split
  exact ⟨middle, next, first, single.step_of_singleton⟩

end ManagerRun

/-- Earlier calls of a monotone run read earlier instants. -/
theorem MonotoneTimes.le
    {earlier later : List (Transition snow)}
    {first second : Transition snow}
    {firstTime secondTime : Instant}
    (monotone : MonotoneTimes (earlier ++ second :: later))
    (member : first ∈ earlier)
    (isFirst : first.call.time = some firstTime)
    (isSecond : second.call.time = some secondTime) :
    firstTime ≤ secondTime := by
  rw [MonotoneTimes, List.filterMap_append, List.pairwise_append] at monotone
  exact monotone.2.2 firstTime
    (List.mem_filterMap.mpr ⟨first, member, isFirst⟩) secondTime
    (List.mem_filterMap.mpr ⟨second, by simp, isSecond⟩)

/-- The session was new and stored well before its deadline. -/
structure StoredPromptly
    (session : Session snow)
    (cached : CachedResponderHandshake) :
    Prop where
  age : cached.createdAt - session.createdAt <
    rejectAfterTime - handshakeCacheLifetime
  unused : session.sendCounter ≠ u64Max

/-- Within the cache lifetime such a session does not reach its deadline. -/
theorem StoredPromptly.unexpired
    {session : Session snow}
    {cached : CachedResponderHandshake}
    (prompt : StoredPromptly session cached)
    {now clock : Instant}
    (ordered : now ≤ clock)
    (live : clock - cached.createdAt < handshakeCacheLifetime) :
    session.isExpired now = false := by
  have arithmetic (now clock stored created reject cache : Nat) :
      now ≤ clock → clock - stored < cache →
        stored - created < reject - cache → ¬ reject ≤ now - created := by
    omega
  have early : ¬ rejectAfterTime ≤ now - session.createdAt :=
    arithmetic _ _ _ _ _ _ ordered live prompt.age
  simp [Session.isExpired, early, prompt.unused]

/--
In every reachable state no peer has both a pending initiation and a
candidate, and a candidate is cached with the response it was stored with: the
one that was produced together with its session, when the run stores answers.
When a cached response is returned, the session it announces is still stored
and unexpired, provided that it was stored promptly.
-/
theorem reachable_candidates_answerable
    {run : List (Transition snow)}
    {final : SessionState snow}
    (execution : ManagerRun run final)
    (monotone : MonotoneTimes run) :
    (∀ peerName,
        final.pendingInit.lookup peerName = none ∨
          final.responderCandidates.lookup peerName = none) ∧
      (∀ peerName candidate,
        final.responderCandidates.lookup peerName = some candidate →
        ∃ session cached,
          final.responderCache.lookup peerName = some cached ∧
            StoredIn run peerName session cached ∧
            (StoresAnswers run → ProducedTogether session cached) ∧
            candidate.Awaits session) ∧
      ∀ transition ∈ run, ∀ peerName handshakeId request clock response,
        transition.call =
          .cachedResponderResponse peerName handshakeId request clock →
        transition.outcome = .cached (some response) →
        ∃ session cached,
          StoredIn run peerName session cached ∧
            (StoresAnswers run → ProducedTogether session cached) ∧
            cached.handshakeId = handshakeId ∧
            cached.request = request ∧
            cached.response = response ∧
            (StoredPromptly session cached →
              ∃ candidate,
                transition.after.responderCandidates.lookup peerName =
                    some candidate ∧
                  candidate.Awaits session ∧
                  candidate.isExpired clock = false) := by
  refine ⟨fun peerName => (execution.handshakeSlots peerName).exclusive,
    ?_, ?_⟩
  · intro peerName candidate held
    have slots := execution.handshakeSlots peerName
    obtain ⟨cached, stored⟩ := slots.cached candidate held
    obtain ⟨session, storedIn, announced⟩ := slots.announced cached stored
    exact ⟨session, cached, stored, storedIn, storedIn.producedTogether,
      announced.awaits held⟩
  · intro transition member peerName handshakeId request clock response
      called returned
    obtain ⟨earlier, later, order⟩ := List.append_of_mem member
    obtain ⟨middle, next, earlierRun, taken⟩ := execution.before order
    have slots := earlierRun.handshakeSlots peerName
    rw [taken.sameEntries.table_eq] at slots
    have performed := taken.performed
    rw [called, returned] at performed
    have isResult :
        (transition.before.cachedResponderResponse peerName handshakeId
          request clock) = (some response, transition.after) := by
      simpa [SessionState.perform, Prod.map, Prod.ext_iff] using performed
    rcases transition.before.cachedResponderResponse_execution peerName
      handshakeId request clock with
      ⟨cached, stored, sameId, sameRequest, live, found⟩ | ⟨missing, _⟩
    · rw [isResult, Prod.mk.injEq, Option.some.injEq] at found
      obtain ⟨sameResponse, unchanged⟩ := found
      obtain ⟨session, storedIn, announced⟩ := slots.announced cached stored
      have inRun : StoredIn run peerName session cached := by
        rw [order]
        exact storedIn.append _
      refine ⟨session, cached, inRun, inRun.producedTogether, sameId,
        sameRequest, sameResponse.symm, fun prompt => ?_⟩
      · cases announced with
        | waiting held awaits =>
            rw [unchanged]
            refine ⟨_, held, awaits, ?_⟩
            rw [awaits.isExpired_eq]
            exact prompt.unexpired (Nat.le_refl clock) live
        | expired gone dropMember dropTime expired =>
            rw [order] at monotone
            have ordered := monotone.le dropMember dropTime
              (by rw [called]; rfl)
            rw [prompt.unexpired ordered live] at expired
            cases expired
    · rw [isResult] at missing
      cases missing

namespace CandidatesExample

def draw : Draw PlainNoise.snow where
  id := .fill 8
  ephemeral := (5 : UInt8)

/-- The initiation of a peer with the key `2`, for an end with the key `1`. -/
def request : Bytes :=
  [4] ++ (Key.fill 2).bytes ++
    PlainNoise.binding (.fill 1) (.fill 3)
      (Auth.handshakePrologue (.fill 7))

/-- The keys of the responder's end. -/
def key : PlainNoise.Transport where
  isInitiator := false
  initiatorEphemeral := 4
  responderEphemeral := 5

/-- What the responder answers at instant zero. -/
def answer : ResponderHandshake PlainNoise.snow where
  message := [5] ++ request ++ (SessionId.fill 8).bytes
  session := .new (.fill 8) key 0

set_option maxRecDepth 8000 in
theorem answer_respond :
    responderRespond (.fill 1) (.fill 2) (.fill 3) (.fill 7) request draw 0 =
      .ok answer :=
  rfl

def response : Bytes :=
  Auth.encodeHandshake .handshakeResponse (.fill 7) answer.message

def storeAt (clock : Instant) : Call PlainNoise.snow :=
  .storeResponderCandidate "peer" answer.session (.fill 7) request response
    clock

/-- The call stores a session with the response that announces it. -/
theorem storeAt_producedTogether
    {clock : Instant}
    {peerName : PeerName}
    {session : Session PlainNoise.snow}
    {cached : CachedResponderHandshake}
    (call :
      storeAt clock =
        .storeResponderCandidate peerName session cached.handshakeId
          cached.request cached.response cached.createdAt) :
    ProducedTogether session cached := by
  simp only [storeAt, Call.storeResponderCandidate.injEq] at call
  obtain ⟨_, isSession, isId, isRequest, isResponse, _⟩ := call
  rw [ProducedTogether, ← isSession, ← isId, ← isRequest, ← isResponse]
  exact ⟨_, _, _, _, _, _, answer_respond, rfl, rfl⟩

def repeatAt (clock : Instant) : Call PlainNoise.snow :=
  .cachedResponderResponse "peer" (.fill 7) request clock

/-- A transport packet of an unknown session. -/
def packetAt (now : Instant) : Call PlainNoise.snow :=
  .decryptTransport (.fill 9) 0 [] now

def storedAt (clock : Instant) : SessionState PlainNoise.snow :=
  SessionState.new.afterCall (storeAt clock)

/-- The answer is stored at once and repeated. -/
def promptRun : List (Transition PlainNoise.snow) :=
  [SessionState.new.transition (storeAt 0),
    (storedAt 0).transition (repeatAt 1)]

theorem promptRun_execution :
    ManagerRun promptRun ((storedAt 0).afterCall (repeatAt 1)) :=
  .snoc (.single (.of_perform .new (storeAt 0)))
    (.of_perform (storedAt 0) (repeatAt 1))

def lateState : SessionState PlainNoise.snow :=
  (storedAt (fromSecs 130)).afterCall (packetAt (fromSecs 185))

/--
The answer is stored 130 s after its session was made; the candidate expires
55 s later, and its cached response is still repeated.
-/
def lateRun : List (Transition PlainNoise.snow) :=
  [SessionState.new.transition (storeAt (fromSecs 130)),
    (storedAt (fromSecs 130)).transition (packetAt (fromSecs 185)),
    lateState.transition (repeatAt (fromSecs 186))]

theorem lateRun_execution :
    ManagerRun lateRun (lateState.afterCall (repeatAt (fromSecs 186))) :=
  .snoc
    (.snoc (.single (.of_perform .new (storeAt (fromSecs 130))))
      (.of_perform (storedAt (fromSecs 130)) (packetAt (fromSecs 185))))
    (.of_perform lateState (repeatAt (fromSecs 186)))

theorem promptRun_storesAnswers : StoresAnswers promptRun := by
  intro transition member peerName session cached call
  simp only [promptRun, List.mem_cons, List.not_mem_nil, or_false] at member
  rcases member with rfl | rfl
  · exact storeAt_producedTogether call
  · cases call

theorem lateRun_storesAnswers : StoresAnswers lateRun := by
  intro transition member peerName session cached call
  simp only [lateRun, List.mem_cons, List.not_mem_nil, or_false] at member
  rcases member with rfl | rfl | rfl
  · exact storeAt_producedTogether call
  · cases call
  · cases call

end CandidatesExample

open CandidatesExample in
/-- A promptly stored answer is repeated while its candidate is stored. -/
theorem reachable_candidates_answerable_example :
    ∃ found cached candidate,
      ProducedTogether found cached ∧
        cached.response = response ∧
        ((storedAt 0).afterCall (repeatAt 1)).responderCandidates.lookup
            "peer" = some candidate ∧
        candidate.Awaits found ∧
        candidate.isExpired 1 = false := by
  obtain ⟨found, cached, storedIn, produced, _, _, isResponse, answerable⟩ :=
    (reachable_candidates_answerable promptRun_execution
      (by decide +kernel)).2.2
      ((storedAt 0).transition (repeatAt 1)) (by simp [promptRun]) "peer"
      (.fill 7) request 1 response rfl (by rfl)
  have prompt : StoredPromptly found cached := by
    obtain ⟨transition, member, call, _⟩ := storedIn
    simp only [promptRun, List.mem_cons, List.not_mem_nil, or_false] at member
    rcases member with rfl | rfl
    · simp only [SessionState.transition, storeAt,
        Call.storeResponderCandidate.injEq] at call
      obtain ⟨_, rfl, _, _, _, isClock⟩ := call
      exact ⟨by rw [← isClock]; decide, by decide⟩
    · cases call
  obtain ⟨candidate, held, awaits, unexpired⟩ := answerable prompt
  exact ⟨found, cached, candidate, produced promptRun_storesAnswers,
    isResponse, held, awaits, unexpired⟩

set_option maxRecDepth 8000 in
open CandidatesExample in
/--
The session and the response of one `responder_respond` are stored 130 s
later.  The session is dropped while the response is cached: the response is
repeated and announces a session that is gone.
-/
theorem late_candidate_counterexample :
    responderRespond (.fill 1) (.fill 2) (.fill 3) (.fill 7) request draw 0 =
        .ok answer ∧
      response =
        Auth.encodeHandshake .handshakeResponse (.fill 7) answer.message ∧
      StoresAnswers lateRun ∧
      (∃ final, ManagerRun lateRun final) ∧
      MonotoneTimes lateRun ∧
      ∃ transition ∈ lateRun,
        transition.call = repeatAt (fromSecs 186) ∧
          transition.outcome = .cached (some response) ∧
          transition.before.responderCandidates.lookup "peer" = none ∧
          transition.after.responderCandidates.lookup "peer" = none := by
  refine ⟨answer_respond, rfl, lateRun_storesAnswers, ⟨_, lateRun_execution⟩,
    by decide +kernel, lateState.transition (repeatAt (fromSecs 186)),
    by simp [lateRun], rfl, ?_, ?_, ?_⟩
  · rfl
  · rfl
  · rfl

end HushWire

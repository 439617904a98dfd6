import HushWire.Effects

namespace HushWire

open Noise

/-!
# Runs of the two ends of a link

Two ends perform operations in any order.  The network may lose, delay,
duplicate and reorder frames and deliver anything else; Noise is ideal in that
a frame verifies as one of the other end only if that end produced it, and
fresh in that no identifier of an attempt and no key pair is drawn twice.

A run is recorded as the list of its acts, each with the state it works on.
Every run of two engines is such a run.
-/

variable {snow : Snow}

/-- The two ends of a link. -/
inductive Side where
  | first
  | second
  deriving Repr, DecidableEq

namespace Side

def other : Side → Side
  | .first => .second
  | .second => .first

@[simp] theorem other_other (side : Side) : side.other.other = side := by
  cases side <;> rfl

@[simp] theorem other_ne (side : Side) : side.other ≠ side := by
  cases side <;> simp [other]

@[simp] theorem ne_other (side : Side) : side ≠ side.other := by
  cases side <;> simp [other]

end Side

/-- An operation of one end on its state. -/
structure Act (snow : Snow) where
  side : Side
  before : SessionState snow
  operation : Operation snow

namespace Act

def after (act : Act snow) : SessionState snow :=
  act.before.afterOperation act.operation

/-- The frames that an act produces, each with the peer it is for. -/
def frames (act : Act snow) : List (PeerName × Bytes) :=
  (act.before.operate act.operation).1

/-- The act begins a new attempt with a peer. -/
def Starts
    (act : Act snow)
    (peerName : PeerName)
    (handshake : InitiatorHandshake snow)
    (now : Instant) :
    Prop :=
  ∃ localStatic remoteStaticPub psk draw,
    act.operation =
        .start peerName localStatic remoteStaticPub psk draw now ∧
      initiatorStart localStatic remoteStaticPub psk draw =
        .ok handshake ∧
      (act.after.entry peerName).pending = some (.ofHandshake handshake now)

/-- The act answers an initiation and leaves the session as a candidate. -/
def Stores
    (act : Act snow)
    (peerName : PeerName)
    (handshake : ResponderHandshake snow)
    (handshakeId : SessionId)
    (request : Bytes) :
    Prop :=
  ∃ passivePeer clock,
    act.operation =
        .answer peerName handshake handshakeId request passivePeer clock ∧
      (act.after.entry peerName).candidate = some handshake.session

/-- `finalize_initiator` completes the pending attempt with a session. -/
def Finalizes
    (act : Act snow)
    (peerName : PeerName)
    (pending : PendingInitiator snow)
    (session : Session snow) :
    Prop :=
  ∃ handshakeId response clock confirmation,
    act.operation = .finalize handshakeId response clock ∧
      act.before.Matches handshakeId peerName pending ∧
      initiatorFinalize pending.state response clock = .ok session ∧
      (act.before.finalizeInitiator handshakeId response clock).1 =
        .ok (some (peerName, confirmation))

/-- `decrypt_transport` reports that it promoted the candidate of a peer. -/
def Promotes
    (act : Act snow)
    (peerName : PeerName)
    (session : Session snow) :
    Prop :=
  ∃ sessionId counter ciphertext now decrypted,
    act.operation = .decrypt sessionId counter ciphertext now ∧
      (act.before.decryptTransport sessionId counter ciphertext now).1 =
        .ok (some decrypted) ∧
      decrypted.promotedResponderSession = true ∧
      decrypted.peerName = peerName ∧
      act.before.responderCandidates.lookup peerName = some session

/-- An answered handshake is the result of `responder_respond`. -/
def Computed (act : Act snow) : Prop :=
  ∀ peerName handshake handshakeId message passivePeer clock,
    act.operation =
      .answer peerName handshake handshakeId message passivePeer clock →
    ∃ localStatic remoteStatic psk draw,
      responderRespond localStatic remoteStatic psk handshakeId message draw
        clock = .ok handshake

end Act

/-- One end has produced a frame for the other. -/
def Sent
    (names : Side → PeerName)
    (log : List (Act snow))
    (side : Side)
    (frame : Bytes) :
    Prop :=
  ∃ act ∈ log, act.side = side ∧ (names side, frame) ∈ act.frames

theorem Sent.append
    {names : Side → PeerName}
    {log : List (Act snow)}
    {side : Side}
    {frame : Bytes}
    (sent : Sent names log side frame)
    (later : List (Act snow)) :
    Sent names (log ++ later) side frame := by
  obtain ⟨act, member, sameSide, produced⟩ := sent
  exact ⟨act, List.mem_append_left _ member, sameSide, produced⟩

/--
What an act of one end may rely on, given the acts so far: fresh draws, and
that what verifies as a frame of the other end was produced there.
-/
structure Genuine
    (names : Side → PeerName)
    (log : List (Act snow))
    (act : Act snow) :
    Prop where
  freshAttempt :
    ∀ handshake now,
      act.Starts (names act.side) handshake now →
      ∀ earlier ∈ log,
        ∀ earlierHandshake earlierNow,
          earlier.Starts (names earlier.side) earlierHandshake earlierNow →
          earlierHandshake.handshakeId ≠ handshake.handshakeId
  freshSession :
    ∀ handshake handshakeId request,
      act.Stores (names act.side) handshake handshakeId request →
      ∀ earlier ∈ log,
        ∀ earlierHandshake earlierId earlierRequest,
          earlier.Stores (names earlier.side) earlierHandshake earlierId
            earlierRequest →
          earlierHandshake.session.transport ≠ handshake.session.transport
  initiation :
    ∀ handshake handshakeId message passivePeer clock,
      act.operation =
        .answer (names act.side) handshake handshakeId message passivePeer
          clock →
      Sent names log act.side.other
        (Auth.encodeHandshake .handshakeInit handshakeId message)
  response :
    ∀ handshakeId response clock pending session,
      act.operation = .finalize handshakeId response clock →
      act.before.Matches handshakeId (names act.side) pending →
      initiatorFinalize pending.state response clock = .ok session →
      Sent names log act.side.other
        (Auth.encodeHandshake .handshakeResponse handshakeId response)
  packet :
    ∀ sessionId counter ciphertext now session plaintext,
      act.operation = .decrypt sessionId counter ciphertext now →
      act.before.located sessionId now = some (names act.side, session) →
      session.Authenticates sessionId counter ciphertext plaintext →
      Sent names log act.side.other
        (Auth.encodeTransport sessionId counter ciphertext)

/-- A run of two ends that know each other by `names`, with its acts. -/
inductive LinkRun
    (names : Side → PeerName)
    (initial : Side → SessionState snow) :
    List (Act snow) → (Side → SessionState snow) → Prop where
  | nil : LinkRun names initial [] initial
  | snoc
      {log : List (Act snow)}
      {ends : Side → SessionState snow}
      {act : Act snow} :
      LinkRun names initial log ends →
      act.before = ends act.side →
      act.Computed →
      Genuine names log act →
      LinkRun names initial (log ++ [act])
        (Function.update ends act.side act.after)

namespace LinkRun

variable {names : Side → PeerName} {initial : Side → SessionState snow}

/-- Every act of a run followed a run of its own. -/
theorem before
    {log : List (Act snow)}
    {ends : Side → SessionState snow}
    (run : LinkRun names initial log ends)
    {earlier later : List (Act snow)}
    {act : Act snow}
    (order : log = earlier ++ act :: later) :
    ∃ middle,
      LinkRun names initial earlier middle ∧
        act.before = middle act.side ∧
        act.Computed ∧
        Genuine names earlier act := by
  induction run generalizing later with
  | nil =>
      simp at order
  | @snoc log ends last run isBefore computed genuine inductionHypothesis =>
      rcases List.eq_nil_or_concat later with rfl | ⟨rest, final, rfl⟩
      · obtain ⟨rfl, sameAct⟩ := List.append_inj' order rfl
        cases sameAct
        exact ⟨ends, run, isBefore, computed, genuine⟩
      · rw [List.concat_eq_append, ← List.cons_append,
          ← List.append_assoc] at order
        exact inductionHypothesis (List.append_inj' order rfl).1

/-- Every act of a run found the state its end was in. -/
theorem exists_before
    {log : List (Act snow)}
    {ends : Side → SessionState snow}
    (run : LinkRun names initial log ends)
    {act : Act snow}
    (member : act ∈ log) :
    ∃ earlier later middle,
      log = earlier ++ act :: later ∧
        LinkRun names initial earlier middle ∧
        act.before = middle act.side ∧
        act.Computed ∧
        Genuine names earlier act := by
  obtain ⟨earlier, later, order⟩ := List.append_of_mem member
  obtain ⟨middle, run, rest⟩ := run.before order
  exact ⟨earlier, later, middle, order, run, rest⟩

end LinkRun

/-- The acts of a sequence of operations of one end. -/
def actsOf
    (side : Side)
    (state : SessionState snow) :
    List (Operation snow) → List (Act snow)
  | [] => []
  | operation :: rest =>
      { side, before := state, operation } ::
        actsOf side (state.afterOperation operation) rest

/-- Each act of a sequence may rely on the acts before it. -/
def GenuineAll
    (names : Side → PeerName)
    (log acts : List (Act snow)) :
    Prop :=
  ∀ earlier act later,
    acts = earlier ++ act :: later → Genuine names (log ++ earlier) act

/-- A sequence of operations of one end extends a run. -/
theorem LinkRun.extend
    {names : Side → PeerName}
    {initial : Side → SessionState snow}
    {log : List (Act snow)}
    {ends : Side → SessionState snow}
    (run : LinkRun names initial log ends)
    (side : Side)
    (operations : List (Operation snow))
    (computed :
      ∀ operation ∈ operations,
        ∀ state, Act.Computed { side, before := state, operation })
    (genuine : GenuineAll names log (actsOf side (ends side) operations)) :
    LinkRun names initial (log ++ actsOf side (ends side) operations)
      (Function.update ends side
        ((ends side).afterOperations operations)) := by
  induction operations generalizing log ends with
  | nil =>
      simpa [actsOf, SessionState.afterOperations] using run
  | cons operation rest inductionHypothesis =>
      let act : Act snow := { side, before := ends side, operation }
      have extended :
          LinkRun names initial (log ++ [act])
            (Function.update ends side act.after) :=
        run.snoc rfl (computed operation (by simp) _)
          (by simpa [act] using genuine [] act _ rfl)
      have later :
          GenuineAll names (log ++ [act])
            (actsOf side
              (Function.update ends side act.after side) rest) := by
        intro earlier next following order
        have whole :=
          genuine (act :: earlier) next following
            (by rw [List.cons_append, ← order, Function.update_self]; rfl)
        simpa using whole
      have final :=
        inductionHypothesis extended
          (fun operation member => computed operation (by simp [member]))
          later
      simpa [actsOf, act, Act.after, SessionState.afterOperations] using final

/-- A run of two engines, with the acts of all their calls. -/
inductive EngineLinkRun (names : Side → PeerName) :
    List (Act snow) → (Side → Engine snow) → Prop where
  | start
      {localStatic : Side → Key}
      {router : Side → Router} :
      EngineLinkRun names []
        (fun side => .withRouter (localStatic side) (router side))
  | perform
      {log : List (Act snow)}
      {engines : Side → Engine snow}
      {side : Side}
      {call : EngineCall snow} :
      EngineLinkRun names log engines →
      GenuineAll names log
        (actsOf side (engines side).sessions
          ((engines side).operations call)) →
      EngineLinkRun names
        (log ++
          actsOf side (engines side).sessions
            ((engines side).operations call))
        (Function.update engines side ((engines side).perform call).2)

namespace Engine

/-- A verified initiation has passed `responder_respond`. -/
theorem decodeHandshakeInitFrom_some
    {engine : Engine snow}
    {handshakeId : SessionId}
    {message : Bytes}
    {draws : PeerName → Draw snow}
    {clock : Instant}
    {routes : List Route}
    {checked : List PeerName}
    {peerName : PeerName}
    {handshake : ResponderHandshake snow}
    (decoded :
      engine.decodeHandshakeInitFrom handshakeId message draws clock routes
        checked = some (peerName, handshake)) :
    ∃ route ∈ routes,
      route.peer.name = peerName ∧
        responderRespond engine.localStatic route.peer.publicKey
            route.peer.psk handshakeId message (draws peerName) clock =
          .ok handshake := by
  induction routes generalizing checked with
  | nil =>
      cases decoded
  | cons route rest inductionHypothesis =>
      unfold decodeHandshakeInitFrom at decoded
      split at decoded
      · obtain ⟨found, member, verified⟩ := inductionHypothesis decoded
        exact ⟨found, List.mem_cons_of_mem _ member, verified⟩
      · split at decoded
        · rename_i responded
          cases decoded
          exact ⟨route, by simp, rfl, responded⟩
        · obtain ⟨found, member, verified⟩ := inductionHypothesis decoded
          exact ⟨found, List.mem_cons_of_mem _ member, verified⟩

/-- Engines answer what `responder_respond` has verified. -/
theorem operations_computed
    {engine : Engine snow}
    {call : EngineCall snow}
    {operation : Operation snow}
    (member : operation ∈ engine.operations call)
    (side : Side)
    (state : SessionState snow) :
    Act.Computed { side, before := state, operation } := by
  intro peerName handshake handshakeId message passivePeer clock isAnswer
  simp only at isAnswer
  subst isAnswer
  have notOutbound (peer : Peer) (msgType : Auth.MsgType) (payload : Bytes)
      (draw : Draw snow) (now : Instant) :
      .answer peerName handshake handshakeId message passivePeer clock ∉
        engine.outboundOperations peer msgType payload draw now := by
    unfold outboundOperations initiateOperations
    split <;> split <;> simp
  cases call with
  | processInboundTransport frame source draws now received =>
      simp only [operations] at member
      cases decodedPacket : Auth.decodePacket frame with
      | none =>
          simp [decodedPacket] at member
      | some packet =>
          rw [decodedPacket] at member
          cases packet with
          | transport sessionId counter ciphertext =>
              simp only [inboundOperations, acknowledgeOperations] at member
              split at member
              · split at member <;> simp at member
              · simp at member
          | handshake kind id body =>
              cases kind with
              | transport | handshakeResponse =>
                  simp [inboundOperations] at member
              | handshakeInit =>
                  simp only [inboundOperations] at member
                  cases decoded :
                      engine.decodeHandshakeInit id body draws received with
                  | none =>
                      simp [decoded] at member
                  | some answer =>
                      obtain ⟨sender, answered⟩ := answer
                      simp only [decoded, List.mem_singleton,
                        Operation.answer.injEq] at member
                      obtain ⟨rfl, rfl, rfl, rfl, rfl, rfl⟩ := member
                      obtain ⟨route, _, _, responded⟩ :=
                        decodeHandshakeInitFrom_some decoded
                      exact ⟨_, _, _, _, responded⟩
  | processOutboundIp packet draw now =>
      simp only [operations] at member
      split at member
      · cases member
      · split at member
        · cases member
        · exact absurd member (notOutbound _ _ _ _ _)
  | createKeepalive recipient payload draw now =>
      simp only [operations] at member
      split at member
      · cases member
      · exact absurd member (notOutbound _ _ _ _ _)
  | initiateHandshake recipient draw now =>
      simp only [operations, initiateOperations] at member
      split at member
      · cases member
      · split at member <;> simp at member
  | updateResolvedEndpoint recipient endpoint =>
      simp only [operations] at member
      split at member <;> simp at member
  | recordTransportSent | invalidatePeer =>
      simp [operations] at member

end Engine

/-- Two engines are two ends: their calls are runs of operations. -/
theorem EngineLinkRun.linkRun
    {names : Side → PeerName}
    {log : List (Act snow)}
    {engines : Side → Engine snow}
    (run : EngineLinkRun names log engines) :
    LinkRun names (fun _ => .new) log
      fun side => (engines side).sessions := by
  induction run with
  | start =>
      exact .nil
  | @perform log engines side call run genuine inductionHypothesis =>
      have extended :=
        inductionHypothesis.extend side ((engines side).operations call)
          (fun operation member state =>
            Engine.operations_computed member side state)
          genuine
      convert extended using 1
      funext queried
      by_cases isSide : queried = side
      · subst isSide
        simp [Engine.perform_sessions]
      · simp [isSide]

end HushWire

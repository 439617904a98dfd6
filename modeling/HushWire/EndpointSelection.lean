import HushWire.RebindBroadcast

namespace HushWire

open Noise

/-!
# Which endpoint a peer is sent to

The engine learns where a peer is from the source of each frame that verifies
as one of the peer, and is told by the DNS updates, which also make it forget
what it had learned.  `candidateEndpoints` says this of the history alone: the
last source since the last update, the endpoint of that update, and the
configured endpoint.  What the engine sends goes to the first of them that is
usable.
-/

variable {snow : Snow}

/-- One call of an engine. -/
structure EngineTurn (snow : Snow) where
  before : Engine snow
  call : EngineCall snow

namespace EngineTurn

/-- What the call returns. -/
def result (turn : EngineTurn snow) :
    Except (EngineError snow) EngineOutput :=
  (turn.before.perform turn.call).1

def after (turn : EngineTurn snow) : Engine snow :=
  (turn.before.perform turn.call).2

end EngineTurn

/-- Calls of an engine, one after the other. -/
inductive EngineStep : Engine snow → EngineTurn snow → Engine snow → Prop where
  | perform (turn : EngineTurn snow) :
      EngineStep turn.before turn turn.after

theorem EngineStep.of_call (engine : Engine snow) (call : EngineCall snow) :
    EngineStep engine ⟨engine, call⟩ (engine.perform call).2 :=
  .perform ⟨engine, call⟩

/-! ## The history of a peer -/

/-- The peer whose frame `finalize_initiator` or `decrypt_transport` accepts. -/
def Engine.accepted
    (engine : Engine snow)
    (frame : Bytes)
    (now clock : Instant) :
    Option PeerName :=
  match Auth.decodePacket frame with
  | some (.handshake .handshakeResponse handshakeId message) =>
      match (engine.sessions.finalizeInitiator handshakeId message
          clock).1 with
      | .ok (some (peerName, _)) => some peerName
      | _ => none
  | some (.transport sessionId counter ciphertext) =>
      match (engine.sessions.decryptTransport sessionId counter ciphertext
          now).1 with
      | .ok (some decrypted) => some decrypted.peerName
      | _ => none
  | _ => none

namespace EngineTurn

/-- The source of a frame of the peer that the call accepts. -/
def heardFrom
    (turn : EngineTurn snow)
    (peerName : PeerName) :
    Option SocketAddr :=
  match turn.call with
  | .processInboundTransport frame source _ now clock =>
      if turn.before.accepted frame now clock = some peerName then
        some source
      else
        none
  | _ => none

/-- The endpoint of the peer in an update that returns `Ok(true)`. -/
def movedTo
    (turn : EngineTurn snow)
    (peerName : PeerName) :
    Option SocketAddr :=
  match turn.call with
  | .updateResolvedEndpoint updated endpoint =>
      match (turn.before.updateResolvedEndpoint updated endpoint).1 with
      | .ok true => if updated = peerName then some endpoint else none
      | _ => none
  | _ => none

end EngineTurn

/-- The endpoint of the last update of a peer. -/
def lastMove
    (turns : List (EngineTurn snow))
    (peerName : PeerName) :
    Option SocketAddr :=
  turns.reverse.findSome? fun turn => turn.movedTo peerName

/-- The source of the last accepted frame since the last update of a peer. -/
def lastHeard
    (turns : List (EngineTurn snow))
    (peerName : PeerName) :
    Option SocketAddr :=
  (turns.reverse.takeWhile fun turn =>
    (turn.movedTo peerName).isNone).findSome? fun turn =>
      turn.heardFrom peerName

/-- The endpoints of a peer, in the order in which they are preferred. -/
def candidateEndpoints
    (turns : List (EngineTurn snow))
    (peer : Peer) :
    List SocketAddr :=
  (lastHeard turns peer.name).toList ++ (lastMove turns peer.name).toList ++
    [peer.endpoint]

section History

variable
  (turns : List (EngineTurn snow))
  (turn : EngineTurn snow)
  (peerName : PeerName)

theorem lastMove_snoc :
    lastMove (turns ++ [turn]) peerName =
      (turn.movedTo peerName).or (lastMove turns peerName) := by
  simp only [lastMove, List.reverse_append, List.reverse_singleton,
    List.singleton_append, List.findSome?_cons]
  cases turn.movedTo peerName <;> rfl

theorem lastHeard_snoc :
    lastHeard (turns ++ [turn]) peerName =
      if (turn.movedTo peerName).isSome then
        none
      else
        (turn.heardFrom peerName).or (lastHeard turns peerName) := by
  simp only [lastHeard, List.reverse_append, List.reverse_singleton,
    List.singleton_append, List.takeWhile_cons]
  cases turn.movedTo peerName with
  | some endpoint =>
      simp
  | none =>
      simp only [Option.isNone_none, if_true, List.findSome?_cons,
        Option.isSome_none, Bool.false_eq_true, if_false]
      cases turn.heardFrom peerName <;> rfl

end History

/-! ## What one call does -/

namespace Engine

variable {engine : Engine snow}

/-- Where a frame of the peer last came from, unless that was forgotten. -/
def learnedEndpoint
    (engine : Engine snow)
    (peerName : PeerName) :
    Option SocketAddr :=
  (engine.peers.lookup peerName).bind PeerStats.currentEndpoint

/-- An engine that was told, or heard, where peers are. -/
structure Relocates
    (before after : Engine snow)
    (moved heard : PeerName → Option SocketAddr) :
    Prop where
  router : after.router = before.router
  resolved :
    ∀ peerName,
      after.resolvedEndpoints.lookup peerName =
        (moved peerName).or (before.resolvedEndpoints.lookup peerName)
  learned :
    ∀ peerName,
      after.learnedEndpoint peerName =
        if (moved peerName).isSome then
          none
        else
          (heard peerName).or (before.learnedEndpoint peerName)

/-- A change of the sessions says nothing of endpoints. -/
theorem Relocates.of_sessions
    {after : Engine snow}
    (same : ∃ sessions, after = { engine with sessions }) :
    Relocates engine after (fun _ => none) fun _ => none := by
  obtain ⟨sessions, rfl⟩ := same
  exact
    { router := rfl
      resolved := fun _ => rfl
      learned := fun _ => rfl }

theorem encryptAndInitiate_withSessions
    (engine : Engine snow)
    (peer : Peer)
    (msgType : Auth.MsgType)
    (payload : Bytes)
    (draw : Draw snow)
    (now : Instant) :
    ∃ sessions,
      (engine.encryptAndInitiate peer msgType payload draw now).2 =
        { engine with sessions } := by
  rcases engine.encryptAndInitiate_cases peer msgType payload draw now with
    isAfter | isAfter
  · rw [isAfter]
    exact initiatePeer_withSessions _ peer draw now
  · rw [isAfter]
    exact initiatePeer_withSessions _ peer draw now

theorem processOutboundIp_withSessions
    (engine : Engine snow)
    (packet : Bytes)
    (draw : Draw snow)
    (now : Instant) :
    ∃ sessions,
      (engine.processOutboundIp packet draw now).2 =
        { engine with sessions } := by
  unfold processOutboundIp
  cases Ipv4Packet.parse packet with
  | error error =>
      exact ⟨engine.sessions, rfl⟩
  | ok ipv4 =>
      dsimp only
      cases engine.router.lookup ipv4.destination with
      | none =>
          exact ⟨engine.sessions, rfl⟩
      | some route =>
          exact engine.encryptAndInitiate_withSessions route.peer .data packet
            draw now

theorem createKeepalive_withSessions
    (engine : Engine snow)
    (peerName : PeerName)
    (payload : Bytes)
    (draw : Draw snow)
    (now : Instant) :
    ∃ sessions,
      (engine.createKeepalive peerName payload draw now).2 =
        { engine with sessions } := by
  unfold createKeepalive
  cases engine.peer peerName with
  | none =>
      exact ⟨engine.sessions, rfl⟩
  | some peer =>
      exact engine.encryptAndInitiate_withSessions peer .keepalive payload
        draw now

theorem initiateHandshake_withSessions
    (engine : Engine snow)
    (peerName : PeerName)
    (draw : Draw snow)
    (now : Instant) :
    ∃ sessions,
      (engine.initiateHandshake peerName draw now).2 =
        { engine with sessions } := by
  rcases engine.initiateHandshake_cases peerName draw now with
    same | ⟨peer, _, isAfter⟩
  · exact ⟨engine.sessions, same⟩
  · rw [isAfter]
    exact engine.initiatePeer_withSessions peer draw now

/-- The source of an accepted frame, and nothing else, is noted. -/
structure Notes
    (before : Engine snow)
    (source : SocketAddr)
    (accepted : Option PeerName)
    (after : Engine snow) :
    Prop where
  router : after.router = before.router
  resolved : after.resolvedEndpoints = before.resolvedEndpoints
  noted :
    ∀ peerName,
      after.learnedEndpoint peerName =
        if accepted = some peerName then
          some source
        else
          before.learnedEndpoint peerName

theorem Notes.of_sessions (sessions : SessionState snow) (source : SocketAddr) :
    Notes engine source none { engine with sessions } where
  router := rfl
  resolved := rfl
  noted := fun _ => rfl

/-- Inserting statistics of the peer that name the source notes it. -/
theorem Notes.of_stats
    {peerName : PeerName}
    {source : SocketAddr}
    {stats : PeerStats}
    (sessions : SessionState snow)
    (isSource : stats.currentEndpoint = some source) :
    Notes engine source (some peerName)
      { engine with sessions, peers := engine.peers.insert peerName stats } where
  router := rfl
  resolved := rfl
  noted := by
    intro queried
    unfold learnedEndpoint
    by_cases isPeer : peerName = queried
    · subst isPeer
      simp [isSource]
    · have different : queried ≠ peerName := Ne.symm isPeer
      simp [isPeer, different]

theorem processHandshakeInit_notes
    (engine : Engine snow)
    (handshakeId : SessionId)
    (message : Bytes)
    (source : SocketAddr)
    (draws : PeerName → Draw snow)
    (clock : Instant) :
    Notes engine source none
      (engine.processHandshakeInit handshakeId message source draws
        clock).2 := by
  unfold processHandshakeInit
  cases engine.decodeHandshakeInit handshakeId message draws clock with
  | none =>
      exact .of_sessions engine.sessions source
  | some answer =>
      dsimp only
      split
      · exact .of_sessions _ source
      · split
        · exact .of_sessions _ source
        · split <;> exact .of_sessions _ source

/-- What is decrypted is noted, whatever it contains. -/
theorem processTransport_notes
    (engine : Engine snow)
    (sessionId : SessionId)
    (counter : UInt64)
    (ciphertext : Bytes)
    (source : SocketAddr)
    (now clock : Instant) :
    Notes engine source
      (match (engine.sessions.decryptTransport sessionId counter ciphertext
          now).1 with
        | .ok (some decrypted) => some decrypted.peerName
        | _ => none)
      (engine.processTransport sessionId counter ciphertext source now
        clock).2 := by
  unfold processTransport
  dsimp only
  cases opened :
      (engine.sessions.decryptTransport sessionId counter ciphertext
        now).1 with
  | error error =>
      exact .of_sessions _ source
  | ok decrypted =>
      cases decrypted with
      | none =>
          exact .of_sessions _ source
      | some decrypted =>
          dsimp only
          cases decrypted.msgType with
          | keepalive =>
              unfold processKeepalive
              dsimp only
              split
              · split <;> exact .of_stats _ rfl
              · exact .of_stats _ rfl
          | data =>
              unfold processData
              dsimp only
              split <;> exact .of_stats _ rfl

/-- A frame that is accepted is noted. -/
theorem processInboundTransport_notes
    (engine : Engine snow)
    (frame : Bytes)
    (source : SocketAddr)
    (draws : PeerName → Draw snow)
    (now clock : Instant) :
    Notes engine source (engine.accepted frame now clock)
      (engine.processInboundTransport frame source draws now clock).2 := by
  unfold accepted processInboundTransport
  cases Auth.decodePacket frame with
  | none =>
      exact .of_sessions engine.sessions source
  | some packet =>
      cases packet with
      | transport sessionId counter ciphertext =>
          exact engine.processTransport_notes sessionId counter ciphertext
            source now clock
      | handshake kind handshakeId message =>
          cases kind with
          | handshakeInit =>
              exact engine.processHandshakeInit_notes handshakeId message
                source draws clock
          | transport =>
              exact .of_sessions engine.sessions source
          | handshakeResponse =>
              unfold processHandshakeResponse
              dsimp only
              cases finalized :
                  (engine.sessions.finalizeInitiator handshakeId message
                    clock).1 with
              | error error =>
                  exact .of_sessions _ source
              | ok completed =>
                  cases completed with
                  | none =>
                      exact .of_sessions _ source
                  | some completed =>
                      exact .of_stats _ rfl

end Engine

namespace Engine

variable {engine : Engine snow}

/-- The engine after an update that was carried out. -/
def redirect
    (engine : Engine snow)
    (peerName : PeerName)
    (endpoint : SocketAddr) :
    Engine snow :=
  { engine with
    resolvedEndpoints := engine.resolvedEndpoints.insert peerName endpoint
    peers := engine.peers.clearEndpoint peerName
    sessions := (engine.sessions.invalidatePeer peerName).2 }

/-- An update is carried out, or it changes nothing. -/
theorem updateResolvedEndpoint_cases
    (engine : Engine snow)
    (peerName : PeerName)
    (endpoint : SocketAddr) :
    (∃ result,
        result ≠ .ok true ∧
          engine.updateResolvedEndpoint peerName endpoint =
            (result, engine)) ∨
      usablePeerEndpoint endpoint = true ∧
        engine.updateResolvedEndpoint peerName endpoint =
          (.ok true, engine.redirect peerName endpoint) := by
  unfold updateResolvedEndpoint
  split
  · exact Or.inl ⟨_, by simp, rfl⟩
  · rename_i usable
    cases engine.peer peerName with
    | none =>
        exact Or.inl ⟨_, by simp, rfl⟩
    | some peer =>
        dsimp only
        split
        · exact Or.inl ⟨_, by simp, rfl⟩
        · exact Or.inr ⟨by simpa using usable, rfl⟩

/-- An update forgets what was learned of its peer only. -/
theorem learnedEndpoint_redirect
    (peerName queried : PeerName)
    (endpoint : SocketAddr) :
    (engine.redirect peerName endpoint).learnedEndpoint queried =
      if peerName = queried then none else engine.learnedEndpoint queried := by
  unfold redirect learnedEndpoint PeerState.clearEndpoint
  by_cases isPeer : peerName = queried
  · subst isPeer
    rw [if_pos rfl]
    cases noted : engine.peers.lookup peerName with
    | none =>
        simp [noted]
    | some stats =>
        simp
  · rw [if_neg isPeer]
    have different : queried ≠ peerName := Ne.symm isPeer
    cases engine.peers.lookup peerName with
    | none =>
        rfl
    | some stats =>
        simp [different]

end Engine

open Engine in
/-- The endpoints after a call are those it is told, heard or had before. -/
theorem EngineTurn.relocates (turn : EngineTurn snow) :
    Relocates turn.before turn.after turn.movedTo turn.heardFrom := by
  obtain ⟨before, call⟩ := turn
  cases call with
  | processOutboundIp packet draw now =>
      exact .of_sessions (before.processOutboundIp_withSessions packet draw now)
  | createKeepalive peerName payload draw now =>
      exact .of_sessions
        (before.createKeepalive_withSessions peerName payload draw now)
  | initiateHandshake peerName draw now =>
      exact .of_sessions
        (before.initiateHandshake_withSessions peerName draw now)
  | invalidatePeer peerName =>
      exact .of_sessions ⟨_, rfl⟩
  | recordTransportSent peerName bytes =>
      refine ⟨rfl, fun _ => rfl, ?_⟩
      intro queried
      by_cases isPeer : queried = peerName
      · subst isPeer
        cases noted : before.peers.lookup queried <;>
          simp [after, perform, recordTransportSent, learnedEndpoint,
            PeerState.recordTx, PeerState.stats, PeerStats.empty, movedTo,
            heardFrom, noted]
      · simp [after, perform, recordTransportSent, learnedEndpoint,
          PeerState.recordTx, movedTo, heardFrom, isPeer]
  | processInboundTransport frame source draws now clock =>
      have notes :=
        before.processInboundTransport_notes frame source draws now clock
      refine ⟨notes.router, ?_, ?_⟩
      · intro queried
        exact congrArg (fun endpoints => endpoints.lookup queried)
          notes.resolved
      · intro queried
        refine (notes.noted queried).trans ?_
        simp only [movedTo, heardFrom, Option.isSome_none,
          Bool.false_eq_true, if_false]
        split <;> rfl
  | updateResolvedEndpoint peerName endpoint =>
      rcases before.updateResolvedEndpoint_cases peerName endpoint with
        ⟨result, notMoved, unchanged⟩ | ⟨_, isMoved⟩
      · have isAfter :
            (⟨before, .updateResolvedEndpoint peerName endpoint⟩ :
                EngineTurn snow).after =
              before := by
          simp [after, perform, unchanged]
        have isStill :
            (⟨before, .updateResolvedEndpoint peerName endpoint⟩ :
                EngineTurn snow).movedTo =
              fun _ => none := by
          funext queried
          unfold movedTo
          dsimp only
          rw [unchanged]
          dsimp only
          split
          · exact absurd rfl notMoved
          · rfl
        rw [isAfter, isStill]
        exact .of_sessions ⟨before.sessions, rfl⟩
      · have isAfter :
            (⟨before, .updateResolvedEndpoint peerName endpoint⟩ :
                EngineTurn snow).after =
              before.redirect peerName endpoint := by
          simp [after, perform, isMoved]
        have moves (queried : PeerName) :
            (⟨before, .updateResolvedEndpoint peerName endpoint⟩ :
                EngineTurn snow).movedTo queried =
              if peerName = queried then some endpoint else none := by
          simp [movedTo, isMoved]
        rw [isAfter]
        refine ⟨rfl, ?_, ?_⟩
        · intro queried
          rw [moves]
          by_cases isPeer : peerName = queried
          · subst isPeer
            simp [redirect]
          · have different : queried ≠ peerName := Ne.symm isPeer
            simp [redirect, isPeer, different]
        · intro queried
          rw [moves, learnedEndpoint_redirect]
          by_cases isPeer : peerName = queried
          · simp [isPeer]
          · simp [isPeer, heardFrom]

/-! ## What the calls of a run do -/

/-- An engine knows of endpoints what the history says. -/
structure EndpointInvariant
    (turns : List (EngineTurn snow))
    (engine : Engine snow) :
    Prop where
  resolved :
    ∀ peerName,
      engine.resolvedEndpoints.lookup peerName = lastMove turns peerName
  learned :
    ∀ peerName, engine.learnedEndpoint peerName = lastHeard turns peerName
  usable :
    ∀ peerName endpoint,
      lastMove turns peerName = some endpoint →
      usablePeerEndpoint endpoint = true

/-- The endpoint of an update that is carried out is usable. -/
theorem EngineTurn.usable_of_movedTo
    {turn : EngineTurn snow}
    {peerName : PeerName}
    {endpoint : SocketAddr}
    (moved : turn.movedTo peerName = some endpoint) :
    usablePeerEndpoint endpoint = true := by
  unfold movedTo at moved
  split at moved
  · rename_i updated address _
    rcases turn.before.updateResolvedEndpoint_cases updated address with
      ⟨result, notMoved, unchanged⟩ | ⟨isUsable, _⟩
    · rw [unchanged] at moved
      dsimp only at moved
      split at moved
      · exact absurd rfl notMoved
      · cases moved
    · split at moved
      · split at moved
        · rwa [← Option.some.inj moved]
        · cases moved
      · cases moved
  · cases moved

namespace EndpointInvariant

theorem start (localStatic : Key) (router : Router) :
    EndpointInvariant [] (.withRouter localStatic router : Engine snow) where
  resolved := fun _ => rfl
  learned := fun _ => rfl
  usable := by
    rintro _ _ ⟨⟩

theorem step
    {turns : List (EngineTurn snow)}
    {turn : EngineTurn snow}
    (invariant : EndpointInvariant turns turn.before) :
    EndpointInvariant (turns ++ [turn]) turn.after where
  resolved := by
    intro peerName
    rw [lastMove_snoc, turn.relocates.resolved, invariant.resolved]
  learned := by
    intro peerName
    rw [lastHeard_snoc, turn.relocates.learned, invariant.learned]
  usable := by
    intro peerName endpoint
    rw [lastMove_snoc]
    intro isLast
    rcases Option.or_eq_some_iff.mp isLast with moved | ⟨_, earlier⟩
    · exact EngineTurn.usable_of_movedTo moved
    · exact invariant.usable peerName endpoint earlier

/-- The invariant holds after every run. -/
theorem of_execution
    {localStatic : Key}
    {router : Router}
    {turns : List (EngineTurn snow)}
    {engine : Engine snow}
    (execution :
      Execution EngineStep (.withRouter localStatic router) turns engine) :
    EndpointInvariant turns engine := by
  refine execution.invariant EndpointInvariant (start localStatic router) ?_
  rintro _ _ _ _ _ held ⟨turn⟩
  exact held.step

/-- What the engine resolves is the first usable endpoint of the history. -/
theorem resolveEndpoint
    {turns : List (EngineTurn snow)}
    {engine : Engine snow}
    (invariant : EndpointInvariant turns engine)
    (peer : Peer) :
    engine.resolveEndpoint peer =
      (candidateEndpoints turns peer).find? usablePeerEndpoint := by
  have learned :
      (engine.peers.lookup peer.name).bind PeerStats.currentEndpoint =
        lastHeard turns peer.name :=
    invariant.learned peer.name
  have usable := invariant.usable peer.name
  unfold Engine.resolveEndpoint Engine.configuredEndpoint candidateEndpoints
  rw [learned, invariant.resolved]
  cases moved : lastMove turns peer.name with
  | none =>
      cases lastHeard turns peer.name with
      | none =>
          cases isUsable : usablePeerEndpoint peer.endpoint <;>
            simp [isUsable, Option.filter_some]
      | some source =>
          cases isUsable : usablePeerEndpoint source <;>
            cases isConfigured : usablePeerEndpoint peer.endpoint <;>
              simp [isUsable, isConfigured, Option.filter_some]
  | some endpoint =>
      have isUpdate := usable endpoint moved
      cases lastHeard turns peer.name with
      | none =>
          simp [isUpdate, Option.filter_some]
      | some source =>
          cases isUsable : usablePeerEndpoint source <;>
            simp [isUsable, isUpdate, Option.filter_some]

end EndpointInvariant

namespace Engine

variable {engine : Engine snow}

/-- An initiation goes to the endpoint of its peer. -/
theorem initiatePeer_action
    {peer : Peer}
    {draw : Draw snow}
    {now : Instant}
    {action : EngineAction}
    (initiated :
      (engine.initiatePeer peer draw now).1 = .ok (some action)) :
    ∃ endpoint frame,
      engine.resolveEndpoint peer = some endpoint ∧
        action = .sendTransport peer.name endpoint frame := by
  unfold initiatePeer at initiated
  cases resolved : engine.resolveEndpoint peer with
  | none =>
      rw [resolved] at initiated
      cases initiated
  | some endpoint =>
      rw [resolved] at initiated
      dsimp only at initiated
      cases started :
          (engine.sessions.startOrRetryHandshake peer.name engine.localStatic
            peer.publicKey peer.psk draw now).1 with
      | error error =>
          rw [started] at initiated
          cases initiated
      | ok frame =>
          rw [started] at initiated
          cases frame with
          | none =>
              cases initiated
          | some frame =>
              cases initiated
              exact ⟨endpoint, frame, rfl, rfl⟩

/-- What is encrypted, and what starts a handshake, goes there as well. -/
theorem encryptAndInitiate_actions
    {peer : Peer}
    {msgType : Auth.MsgType}
    {payload : Bytes}
    {draw : Draw snow}
    {now : Instant}
    {output : EngineOutput}
    (sent :
      (engine.encryptAndInitiate peer msgType payload draw now).1 =
        .ok output) :
    ∀ action ∈ output.actions,
      ∃ endpoint frame,
        engine.resolveEndpoint peer = some endpoint ∧
          action = .sendTransport peer.name endpoint frame := by
  have optional
      {sessions : SessionState snow}
      {initiated : Option EngineAction}
      (isInitiated :
        (initiatePeer { engine with sessions } peer draw now).1 =
          .ok initiated) :
      ∀ action ∈ initiated.toList,
        ∃ endpoint frame,
          engine.resolveEndpoint peer = some endpoint ∧
            action = .sendTransport peer.name endpoint frame := by
    intro action member
    rw [Option.mem_toList] at member
    subst member
    obtain ⟨endpoint, frame, resolved, isAction⟩ :=
      initiatePeer_action isInitiated
    exact ⟨endpoint, frame, resolved, isAction⟩
  unfold encryptAndInitiate at sent
  dsimp only at sent
  split at sent
  · split at sent
    · cases sent
    · rename_i initiated
      cases sent
      intro action member
      rcases List.mem_append.mp member with isInitiation | isFrame
      · exact optional initiated action isInitiation
      · rw [Option.mem_toList, Option.map_eq_some_iff] at isFrame
        obtain ⟨endpoint, resolved, rfl⟩ := isFrame
        obtain ⟨_, isAfter⟩ := initiatePeer_withSessions _ peer draw now
        rw [isAfter] at resolved
        exact ⟨endpoint, _, resolved, rfl⟩
  · split at sent
    · cases sent
    · rename_i initiated
      cases sent
      exact optional initiated
  · split at sent
    · cases sent
    · rename_i initiated
      cases sent
      exact optional initiated

end Engine

namespace EngineTurn

/-- The call encrypts for the peer or starts a handshake with it. -/
def Concerns (turn : EngineTurn snow) (peer : Peer) : Prop :=
  match turn.call with
  | .processOutboundIp packet _ _ =>
      ∃ ipv4 route,
        Ipv4Packet.parse packet = .ok ipv4 ∧
          turn.before.router.lookup ipv4.destination = some route ∧
          route.peer = peer
  | .createKeepalive peerName _ _ _ =>
      turn.before.peer peerName = some peer
  | .initiateHandshake peerName _ _ =>
      turn.before.peer peerName = some peer
  | _ => False

/-- The calls that encrypt or start a handshake. -/
def Sends (turn : EngineTurn snow) : Prop :=
  match turn.call with
  | .processOutboundIp _ _ _ => True
  | .createKeepalive _ _ _ _ => True
  | .initiateHandshake _ _ _ => True
  | _ => False

/-- What a call returns for a peer goes to the endpoint of the peer. -/
theorem Concerns.actions
    {turn : EngineTurn snow}
    {peer : Peer}
    {output : EngineOutput}
    (concerns : turn.Concerns peer)
    (returned : turn.result = .ok output) :
    ∀ action ∈ output.actions,
      ∃ endpoint frame,
        turn.before.resolveEndpoint peer = some endpoint ∧
          action = .sendTransport peer.name endpoint frame := by
  obtain ⟨before, call⟩ := turn
  cases call with
  | processOutboundIp packet draw now =>
      obtain ⟨ipv4, route, parsed, routed, rfl⟩ := concerns
      have isResult :=
        Engine.processOutboundIp_of_route parsed routed draw now
      have sent : (before.processOutboundIp packet draw now).1 = .ok output :=
        returned
      rw [isResult] at sent
      exact Engine.encryptAndInitiate_actions sent
  | createKeepalive peerName payload draw now =>
      have isPeer : before.peer peerName = some peer := concerns
      have sent :
          (before.createKeepalive peerName payload draw now).1 =
            .ok output :=
        returned
      unfold Engine.createKeepalive at sent
      rw [isPeer] at sent
      exact Engine.encryptAndInitiate_actions sent
  | initiateHandshake peerName draw now =>
      have isPeer : before.peer peerName = some peer := concerns
      have sent :
          (before.initiateHandshake peerName draw now).1 = .ok output :=
        returned
      unfold Engine.initiateHandshake at sent
      rw [isPeer] at sent
      dsimp only at sent
      split at sent
      · cases sent
      · rename_i action initiated
        cases sent
        intro sentAction member
        rw [Option.mem_toList] at member
        subst member
        exact Engine.initiatePeer_action initiated
  | processInboundTransport | recordTransportSent | invalidatePeer
  | updateResolvedEndpoint =>
      cases concerns

/-- A call that sends concerns a peer, unless it returns nothing. -/
theorem Sends.concerns
    {turn : EngineTurn snow}
    {output : EngineOutput}
    (sends : turn.Sends)
    (returned : turn.result = .ok output) :
    output.actions = [] ∨ ∃ peer, turn.Concerns peer := by
  obtain ⟨before, call⟩ := turn
  cases call with
  | processOutboundIp packet draw now =>
      have sent : (before.processOutboundIp packet draw now).1 = .ok output :=
        returned
      unfold Engine.processOutboundIp at sent
      cases parsed : Ipv4Packet.parse packet with
      | error error =>
          rw [parsed] at sent
          cases sent
      | ok ipv4 =>
          rw [parsed] at sent
          dsimp only at sent
          cases routed : before.router.lookup ipv4.destination with
          | none =>
              rw [routed] at sent
              cases sent
              exact Or.inl rfl
          | some route =>
              exact Or.inr ⟨route.peer, ipv4, route, parsed, routed, rfl⟩
  | createKeepalive peerName payload draw now =>
      have sent :
          (before.createKeepalive peerName payload draw now).1 =
            .ok output :=
        returned
      unfold Engine.createKeepalive at sent
      cases isPeer : before.peer peerName with
      | none =>
          rw [isPeer] at sent
          cases sent
      | some peer =>
          exact Or.inr ⟨peer, isPeer⟩
  | initiateHandshake peerName draw now =>
      have sent :
          (before.initiateHandshake peerName draw now).1 = .ok output :=
        returned
      unfold Engine.initiateHandshake at sent
      cases isPeer : before.peer peerName with
      | none =>
          rw [isPeer] at sent
          cases sent
      | some peer =>
          exact Or.inr ⟨peer, isPeer⟩
  | processInboundTransport | recordTransportSent | invalidatePeer
  | updateResolvedEndpoint =>
      cases sends

end EngineTurn

/--
What the calls of a run send to a peer goes to the first usable endpoint that
the history names for it; where there is none nothing is sent.  An update that
is not carried out changes nothing, the others leave the peer without keys.
-/
theorem endpoint_selected
    {localStatic : Key}
    {router : Router}
    {turns : List (EngineTurn snow)}
    {turn : EngineTurn snow}
    (execution :
      Execution EngineStep (.withRouter localStatic router) turns
        turn.before) :
    (∀ output,
        turn.Sends →
        turn.result = .ok output →
        ∀ action ∈ output.actions,
          ∃ peer endpoint frame,
            turn.Concerns peer ∧
              action = .sendTransport peer.name endpoint frame ∧
              (candidateEndpoints turns peer).find? usablePeerEndpoint =
                some endpoint) ∧
      (∀ peer output,
        turn.Concerns peer →
        turn.result = .ok output →
        (∀ endpoint ∈ candidateEndpoints turns peer,
          usablePeerEndpoint endpoint = false) →
        output.actions = []) ∧
      ∀ peerName endpoint,
        turn.call = .updateResolvedEndpoint peerName endpoint →
        ((turn.before.updateResolvedEndpoint peerName endpoint).1 ≠
              .ok true →
            turn.after = turn.before) ∧
          ((turn.before.updateResolvedEndpoint peerName endpoint).1 =
              .ok true →
            (turn.after.sessions.entry peerName).session = none ∧
              (turn.after.sessions.entry peerName).previous = none ∧
              (turn.after.sessions.entry peerName).candidate = none ∧
              (turn.after.sessions.entry peerName).pending = none) := by
  have invariant := EndpointInvariant.of_execution execution
  refine ⟨?_, ?_, ?_⟩
  · intro output sends returned action member
    rcases sends.concerns returned with empty | ⟨peer, concerns⟩
    · rw [empty] at member
      cases member
    · obtain ⟨endpoint, frame, resolved, isAction⟩ :=
        concerns.actions returned action member
      rw [invariant.resolveEndpoint] at resolved
      exact ⟨peer, endpoint, frame, concerns, isAction, resolved⟩
  · intro peer output concerns returned unusable
    refine List.eq_nil_iff_forall_not_mem.mpr ?_
    intro action member
    obtain ⟨endpoint, _, resolved, _⟩ :=
      concerns.actions returned action member
    rw [invariant.resolveEndpoint] at resolved
    have isCandidate := List.mem_of_find?_eq_some resolved
    have usable := List.find?_some resolved
    rw [unusable endpoint isCandidate] at usable
    cases usable
  · intro peerName endpoint isUpdate
    have isAfter :
        turn.after =
          (turn.before.updateResolvedEndpoint peerName endpoint).2 := by
      unfold EngineTurn.after
      rw [isUpdate]
      rfl
    rw [isAfter]
    rcases turn.before.updateResolvedEndpoint_cases peerName endpoint with
      ⟨result, notMoved, unchanged⟩ | ⟨_, isMoved⟩
    · rw [unchanged]
      exact ⟨fun _ => rfl, fun moved => absurd moved notMoved⟩
    · rw [isMoved]
      refine ⟨fun notMoved => absurd rfl notMoved, fun _ => ?_⟩
      simp [Engine.redirect, SessionState.entry, SessionState.invalidatePeer]

namespace RoamingExample

open TwoPeersExample (hub initiate afterInitiation respond)
open AgreementExample (sentFrame)

/-- Where the peer has moved to. -/
def roamed : SocketAddr where
  ip := .v4 0x0A000009
  port := 4500

/-- The response of the peer, which comes from there. -/
def answered : EngineCall PlainNoise.snow :=
  match respond (.fill 2) (sentFrame (hub.perform (initiate "second" 7))) 8
      0 with
  | .processInboundTransport frame _ draws now clock =>
      .processInboundTransport frame roamed draws now clock
  | call => call

def finished : Engine PlainNoise.snow :=
  (afterInitiation.perform answered).2

def turns : List (EngineTurn PlainNoise.snow) :=
  [⟨hub, initiate "second" 7⟩, ⟨afterInitiation, answered⟩]

def keepalive : EngineTurn PlainNoise.snow where
  before := finished
  call :=
    .createKeepalive "second" Auth.keepaliveProbePayload
      { id := .fill 9, ephemeral := (9 : UInt8) } 0

theorem finished_run :
    Execution EngineStep hub turns finished :=
  .snoc (.single (.of_call hub (initiate "second" 7)))
    (.of_call afterInitiation answered)

theorem run :
    Execution EngineStep (.withRouter (.fill 1) TwoPeersExample.router) turns
      keepalive.before := by
  simpa only [keepalive, hub] using finished_run

/-- The peer has been heard where it is, and is configured elsewhere. -/
theorem preferred :
    (candidateEndpoints turns
        (TwoPeersExample.peer "second" (.fill 2))).find?
        usablePeerEndpoint =
      some roamed := by
  decide +kernel

end RoamingExample

open RoamingExample in
/-- A keepalive goes to where the peer was heard last. -/
theorem endpoint_selected_example :
    ∃ output,
      keepalive.result = .ok output ∧
        ∀ action ∈ output.actions,
          ∃ frame, action = .sendTransport "second" roamed frame := by
  obtain ⟨selected, _⟩ := endpoint_selected run
  have succeeds : keepalive.result.toOption.isSome = true := by
    decide +kernel
  obtain ⟨output, isOutput⟩ := Option.isSome_iff_exists.mp succeeds
  have returned : keepalive.result = .ok output := by
    cases isResult : keepalive.result with
    | error error => rw [isResult] at isOutput; cases isOutput
    | ok output' => rw [isResult] at isOutput; cases isOutput; rfl
  refine ⟨output, returned, ?_⟩
  intro action member
  obtain ⟨peer, endpoint, frame, concerns, isAction, resolved⟩ :=
    selected output trivial returned action member
  have isPeer :
      keepalive.before.peer "second" =
        some (TwoPeersExample.peer "second" (.fill 2)) := by
    decide +kernel
  have samePeer : keepalive.before.peer "second" = some peer := concerns
  cases isPeer.symm.trans samePeer
  cases preferred.symm.trans resolved
  exact ⟨frame, isAction⟩

end HushWire

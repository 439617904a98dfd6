import HushWire.LinkDelivery
import HushWire.TunnelWorkers

namespace HushWire

open Noise

/-!
# Two daemons over a network

Each end of a link is a daemon, and the turns of the workers of both are
interleaved in any order.  Every packet that one end writes to its TUN device
was opened under a session, every packet opened was given to the other end's
session manager to be sealed, and every packet given was read from the other
end's TUN device and routed to this end.
-/

variable {snow : Snow}

namespace TunnelTurn

/-- The packet from a peer that a turn puts into the TUN device. -/
def delivered? (turn : TunnelTurn snow) (peerName : PeerName) : Option Bytes :=
  (turn.written? peerName).bind fun frame =>
    stripPacketInformation frame turn.before.packetInformation

/-- The packet for a peer that a turn takes out of the TUN device. -/
def entered? (turn : TunnelTurn snow) (peerName : PeerName) : Option Bytes :=
  match turn.event with
  | .read frame _ _ =>
      match stripPacketInformation frame turn.before.packetInformation with
      | none => none
      | some packet =>
          match Ipv4Packet.parse packet with
          | .error _ => none
          | .ok ipv4 =>
              match turn.before.engine.router.lookup ipv4.destination with
              | none => none
              | some route =>
                  if route.peer.name = peerName then some packet else none
  | _ => none

/-- What a turn does to the sessions of its end. -/
def acts (turn : TunnelTurn snow) (side : Side) : List (Act snow) :=
  match turn.before.call? turn.event with
  | none => []
  | some call =>
      actsOf side turn.before.engine.sessions
        (turn.before.engine.operations call)

end TunnelTurn

/-- What the turns of two ends do to their sessions, in order. -/
def logOf (turns : List (Side × TunnelTurn snow)) : List (Act snow) :=
  turns.flatMap fun taken => taken.2.acts taken.1

/-- The turns of one end. -/
def turnsOf (side : Side) (turns : List (Side × TunnelTurn snow)) :
    List (TunnelTurn snow) :=
  (turns.filter fun taken => taken.1 = side).map Prod.snd

/-- A run of two daemons, with their turns. -/
inductive TunnelLinkRun (names : Side → PeerName) :
    List (Side × TunnelTurn snow) → (Side → Tunnel snow) → Prop where
  | start
      {localStatic : Side → Key}
      {router : Side → Router}
      {packetInformation : Side → Bool} :
      TunnelLinkRun names []
        fun side =>
          .new (localStatic side) (router side) (packetInformation side)
  | snoc
      {turns : List (Side × TunnelTurn snow)}
      {tunnels : Side → Tunnel snow}
      {side : Side}
      {turn : TunnelTurn snow}
      {after : Tunnel snow} :
      TunnelLinkRun names turns tunnels →
      TunnelStep (tunnels side) turn after →
      GenuineAll names (logOf turns) (turn.acts side) →
      TunnelLinkRun names (turns ++ [(side, turn)])
        (Function.update tunnels side after)

/-- What was written to the TUN device of an end, from the other end. -/
def packetsOut
    (names : Side → PeerName)
    (turns : List (Side × TunnelTurn snow))
    (side : Side) :
    List Bytes :=
  (turnsOf side turns).filterMap fun turn => turn.delivered? (names side)

/-- What was read from the TUN device of an end, for the other end. -/
def packetsIn
    (names : Side → PeerName)
    (turns : List (Side × TunnelTurn snow))
    (side : Side) :
    List Bytes :=
  (turnsOf side turns).filterMap fun turn => turn.entered? (names side)

/-- The packet from a peer that an action writes. -/
def EngineAction.writes? (peerName : PeerName) : EngineAction → Option Bytes
  | .writeIpPacket sender _ packet =>
      if sender = peerName then some packet else none
  | _ => none

/-- What an end has still to write of the packets from a peer. -/
def Tunnel.unwritten (tunnel : Tunnel snow) (peerName : PeerName) :
    List Bytes :=
  (tunnel.actions .transportToTun).filterMap (EngineAction.writes? peerName)

theorem logOf_snoc
    (turns : List (Side × TunnelTurn snow))
    (side : Side)
    (turn : TunnelTurn snow) :
    logOf (turns ++ [(side, turn)]) = logOf turns ++ turn.acts side := by
  simp [logOf]

theorem actsOf_side
    {side : Side}
    {state : SessionState snow}
    {operations : List (Operation snow)}
    {act : Act snow}
    (member : act ∈ actsOf side state operations) :
    act.side = side := by
  induction operations generalizing state with
  | nil =>
      cases member
  | cons operation rest inductionHypothesis =>
      rcases List.mem_cons.mp member with rfl | later
      · rfl
      · exact inductionHypothesis later

theorem TunnelTurn.acts_side
    {turn : TunnelTurn snow}
    {side : Side}
    {act : Act snow}
    (member : act ∈ turn.acts side) :
    act.side = side := by
  unfold acts at member
  split at member
  · cases member
  · exact actsOf_side member

/-- Two daemons are two engines, called by their workers. -/
theorem TunnelLinkRun.engineLinkRun
    {names : Side → PeerName}
    {turns : List (Side × TunnelTurn snow)}
    {tunnels : Side → Tunnel snow}
    (run : TunnelLinkRun names turns tunnels) :
    EngineLinkRun names (logOf turns) fun side => (tunnels side).engine := by
  induction run with
  | start =>
      exact .start
  | @snoc turns tunnels side turn after run step genuine inductionHypothesis =>
      obtain ⟨isBefore, _, rfl⟩ := step
      rw [logOf_snoc]
      cases isCall : turn.before.call? turn.event with
      | none =>
          have unchanged :
              (fun queried =>
                  (Function.update tunnels side
                    ((tunnels side).after turn.event) queried).engine) =
                fun queried => (tunnels queried).engine := by
            funext queried
            by_cases isSide : queried = side
            · subst isSide
              rw [Function.update_self, ← isBefore, Tunnel.after,
                Tunnel.engineAfter, isCall]
            · rw [Function.update_of_ne isSide]
          rw [unchanged, TunnelTurn.acts, isCall, List.append_nil]
          exact inductionHypothesis
      | some call =>
          rw [TunnelTurn.acts, isCall, isBefore] at genuine ⊢
          have performed := inductionHypothesis.perform genuine
          convert performed using 1
          funext queried
          by_cases isSide : queried = side
          · subst isSide
            rw [Function.update_self, Function.update_self, ← isBefore,
              Tunnel.after, Tunnel.engineAfter, isCall]
          · rw [Function.update_of_ne isSide, Function.update_of_ne isSide]

section Sides

variable
  {names : Side → PeerName}
  {side : Side}

theorem opened_append (log acts : List (Act snow)) :
    opened names (log ++ acts) side =
      opened names log side ++ opened names acts side := by
  simp [opened]

theorem given_append (log acts : List (Act snow)) :
    given names (log ++ acts) side =
      given names log side ++ given names acts side := by
  simp [given]

theorem opened_cons
    {act : Act snow}
    {rest : List (Act snow)}
    (isSide : act.side = side) :
    opened names (act :: rest) side =
      (act.opened? (names side)).toList ++ opened names rest side := by
  cases isOpened : act.opened? (names side) <;>
    simp [opened, isSide, isOpened]

theorem given_cons
    {act : Act snow}
    {rest : List (Act snow)}
    (isSide : act.side = side) :
    given names (act :: rest) side =
      (act.given? (names side)).toList ++ given names rest side := by
  cases isGiven : act.given? (names side) <;>
    simp [given, isSide, isGiven]

/-- The acts of one end open nothing at the other. -/
theorem TunnelTurn.opened_of_ne
    {turn : TunnelTurn snow}
    {actor : Side}
    (different : actor ≠ side) :
    opened names (turn.acts actor) side = [] := by
  rw [opened, List.filter_eq_nil_iff.mpr, List.filterMap_nil]
  intro act member
  rw [turn.acts_side member]
  exact fun same => different (of_decide_eq_true same)

/-- The acts of one end give nothing to the other. -/
theorem TunnelTurn.given_of_ne
    {turn : TunnelTurn snow}
    {actor : Side}
    (different : actor ≠ side) :
    given names (turn.acts actor) side = [] := by
  rw [given, List.filter_eq_nil_iff.mpr, List.filterMap_nil]
  intro act member
  rw [turn.acts_side member]
  exact fun same => different (of_decide_eq_true same)

/-- An operation that seals data. -/
def Operation.SealsData : Operation snow → Prop
  | .encrypt _ .data _ _ => True
  | _ => False

/-- Only sealing is given data. -/
theorem given_eq_nil
    {state : SessionState snow}
    {operations : List (Operation snow)}
    (quiet : ∀ operation ∈ operations, ¬ operation.SealsData) :
    given names (actsOf side state operations) side = [] := by
  induction operations generalizing state with
  | nil =>
      rfl
  | cons operation rest inductionHypothesis =>
      rw [actsOf, given_cons rfl,
        inductionHypothesis fun later member => quiet later (.tail _ member),
        List.append_nil, Option.toList_eq_nil_iff]
      have notSealing := quiet operation (.head _)
      cases operation with
      | encrypt recipient msgType payload now =>
          cases msgType with
          | keepalive =>
              rfl
          | data =>
              exact absurd trivial notSealing
      | _ =>
          rfl

/-- Traffic to a peer is sealed once. -/
theorem Engine.outboundOperations_quiet
    {engine : Engine snow}
    {peer : Peer}
    {msgType : Auth.MsgType}
    {payload : Bytes}
    {draw : Draw snow}
    {now : Instant} :
    ∃ later,
      engine.outboundOperations peer msgType payload draw now =
          .encrypt peer.name msgType payload now :: later ∧
        ∀ operation ∈ later, ¬ operation.SealsData := by
  refine ⟨_, by rw [outboundOperations]; rfl, ?_⟩
  intro operation member
  rcases List.mem_append.mp member with invalidates | initiates
  · split at invalidates
    · rw [List.mem_singleton.mp invalidates]
      exact id
    · cases invalidates
  · rw [initiateOperations] at initiates
    split at initiates
    · rw [List.mem_singleton.mp initiates]
      exact id
    · cases initiates

/-- Calls of the scheduler and of the receiver seal no data. -/
theorem Engine.operations_quiet
    {engine : Engine snow}
    {call : EngineCall snow}
    (notOutbound :
      ∀ packet draw now, call ≠ .processOutboundIp packet draw now)
    {operation : Operation snow}
    (member : operation ∈ engine.operations call) :
    ¬ operation.SealsData := by
  cases call with
  | processOutboundIp packet draw now =>
      exact absurd rfl (notOutbound packet draw now)
  | processInboundTransport frame source draws now clock =>
      rw [operations] at member
      split at member
      · cases member
      · unfold inboundOperations at member
        split at member
        · split at member
          · cases member
          · rw [List.mem_singleton.mp member]
            exact id
        · rw [List.mem_singleton.mp member]
          exact id
        · cases member
        · rcases List.mem_append.mp member with decrypts | acknowledges
          · rw [List.mem_singleton.mp decrypts]
            exact id
          · unfold acknowledgeOperations at acknowledges
            split at acknowledges
            · split at acknowledges
              · rw [List.mem_singleton.mp acknowledges]
                exact id
              · cases acknowledges
            · cases acknowledges
  | recordTransportSent =>
      cases member
  | invalidatePeer =>
      rw [List.mem_singleton.mp member]
      exact id
  | updateResolvedEndpoint =>
      rw [operations] at member
      split at member
      · rw [List.mem_singleton.mp member]
        exact id
      · cases member
  | initiateHandshake =>
      rw [operations] at member
      split at member
      · cases member
      · rw [initiateOperations] at member
        split at member
        · rw [List.mem_singleton.mp member]
          exact id
        · cases member
  | createKeepalive peerName payload draw now =>
      rw [operations] at member
      split at member
      · cases member
      · obtain ⟨later, isWhole, quiet⟩ :=
          engine.outboundOperations_quiet
        rw [isWhole] at member
        rcases List.mem_cons.mp member with rfl | isLater
        · exact id
        · exact quiet operation isLater

/-- What a turn gives to seal was taken out of the TUN device. -/
theorem TunnelTurn.given_entered
    (turn : TunnelTurn snow)
    (enabled : turn.before.Enabled turn.event) :
    ((given names (turn.acts side) side).map Prod.snd).Sublist
      (turn.entered? (names side)).toList := by
  obtain ⟨before, event⟩ := turn
  have unsealed
      (notRead :
        ∀ call, before.call? event = some call →
          ∀ packet draw now, call ≠ .processOutboundIp packet draw now) :
      ((given names ((⟨before, event⟩ : TunnelTurn snow).acts side)
          side).map Prod.snd).Sublist
        ((⟨before, event⟩ : TunnelTurn snow).entered?
          (names side)).toList := by
    unfold acts
    split
    · exact List.nil_sublist _
    next call isCall =>
      rw [given_eq_nil fun operation member =>
        Engine.operations_quiet (notRead call isCall) member]
      exact List.nil_sublist _
  cases enabled with
  | @read frame draw now =>
      rw [acts, entered?]
      dsimp only [Tunnel.call?]
      cases stripPacketInformation frame before.packetInformation with
      | none =>
          exact List.nil_sublist _
      | some packet =>
          dsimp only
          cases isIpv4 : Ipv4Packet.parse packet with
          | error =>
              exact List.nil_sublist _
          | ok ipv4 =>
              simp only [Engine.operations, isIpv4]
              cases before.engine.router.lookup ipv4.destination with
              | none =>
                  exact List.nil_sublist _
              | some route =>
                  obtain ⟨later, isWhole, quiet⟩ :=
                    @Engine.outboundOperations_quiet _ before.engine
                      route.peer .data packet draw now
                  dsimp only
                  rw [isWhole, actsOf, given_cons rfl, given_eq_nil quiet,
                    List.append_nil, Act.given?]
                  dsimp only
                  split
                  · cases (before.engine.sessions.entry (names side)).session
                    · exact List.nil_sublist _
                    · exact .refl _
                  · exact List.nil_sublist _
  | received =>
      apply unsealed
      intro call isCall packet draw now isOutbound
      rw [Tunnel.call?] at isCall
      split at isCall <;> cases isCall
      cases isOutbound
  | scheduled isScheduled =>
      apply unsealed
      intro call isCall packet draw now isOutbound
      cases isCall
      rw [isOutbound] at isScheduled
      exact isScheduled
  | @carriedOut worker action rest succeeded =>
      apply unsealed
      intro call isCall packet draw now isOutbound
      rw [isOutbound] at isCall
      cases action with
      | writeIpPacket =>
          cases isCall
      | sendTransport =>
          cases succeeded <;> cases isCall

/-- What the receiver is given to write was opened. -/
theorem Engine.writes_opened
    {engine : Engine snow}
    {frame : Bytes}
    {source : SocketAddr}
    {draws : PeerName → Draw snow}
    {now clock : Instant} :
    ((Tunnel.actionsOf
          (engine.processInboundTransport frame source draws now
            clock).1).filterMap
        (EngineAction.writes? (names side))).Sublist
      ((opened names
        (actsOf side engine.sessions
          (engine.operations
            (.processInboundTransport frame source draws now clock)))
        side).map Prod.snd) := by
  cases succeeded :
      (engine.processInboundTransport frame source draws now clock).1 with
  | error error =>
      exact List.nil_sublist _
  | ok output =>
      rw [Tunnel.actionsOf]
      by_cases isWritten :
        ∃ origin packet,
          .writeIpPacket (names side) origin packet ∈ output.actions
      · obtain ⟨origin, packet, member⟩ := isWritten
        obtain ⟨sessionId, counter, ciphertext, decrypted, ipv4, isDecoded,
          isDecrypted, isData, isSender, isPayload, _, isWhole⟩ :=
          writes_cases succeeded member
        obtain ⟨_, session, _, located, _⟩ :=
          SessionState.decryptTransport_some isDecrypted
        have isOpened :
            (⟨side, engine.sessions,
                .decrypt sessionId counter ciphertext now⟩ :
                Act snow).opened? (names side) =
              some ((session.transport, counter), packet) := by
          simp [Act.opened?, isDecrypted, isData, isSender, isPayload, located]
        rw [isWhole, operations, isDecoded]
        dsimp only [inboundOperations]
        rw [List.singleton_append, actsOf, opened_cons rfl, isOpened]
        simp [EngineAction.writes?]
      · have nothing :
            output.actions.filterMap (EngineAction.writes? (names side)) =
              [] := by
          apply List.filterMap_eq_nil_iff.mpr
          intro action member
          cases action with
          | sendTransport =>
              rfl
          | writeIpPacket sender origin packet =>
              apply if_neg
              rintro rfl
              exact isWritten ⟨origin, packet, member⟩
        rw [nothing]
        exact List.nil_sublist _

/-- Only the packet that is written is put into the TUN device. -/
theorem TunnelTurn.delivered_carriedOut
    {peerName : PeerName}
    {action : EngineAction}
    (before : Tunnel snow)
    (succeeded : Bool) :
    ((⟨before, .carriedOut .transportToTun action succeeded⟩ :
        TunnelTurn snow).delivered? peerName).toList.Sublist
      (action.writes? peerName).toList := by
  cases action with
  | sendTransport =>
      exact List.nil_sublist _
  | writeIpPacket sender origin packet =>
      cases succeeded with
      | false =>
          exact List.nil_sublist _
      | true =>
          rw [delivered?, written?, EngineAction.writes?]
          dsimp only
          split
          · cases isWritten :
                addPacketInformation packet before.packetInformation
                  (maxPacketSize + packetInfoSize) with
            | none =>
                exact List.nil_sublist _
            | some written =>
                rw [Option.bind_some,
                  stripPacketInformation_addPacketInformation isWritten]
          · exact List.nil_sublist _

/--
What a turn puts into the TUN device and leaves to be written was left to be
written before or opened in the turn.
-/
theorem TunnelTurn.delivered_opened
    (turn : TunnelTurn snow)
    (enabled : turn.before.Enabled turn.event) :
    ((turn.delivered? (names side)).toList ++
        (turn.before.after turn.event).unwritten (names side)).Sublist
      (turn.before.unwritten (names side) ++
        (opened names (turn.acts side) side).map Prod.snd) := by
  obtain ⟨before, event⟩ := turn
  cases enabled with
  | @read frame draw now =>
      exact List.sublist_append_left _ _
  | @received frame source draws now clock =>
      have isLater :
          (before.after (.received frame source draws now clock)).unwritten
              (names side) =
            before.unwritten (names side) ++
              (before.given (.received frame source draws now
                clock)).filterMap (EngineAction.writes? (names side)) :=
        List.filterMap_append
      change
        ((before.after (.received frame source draws now clock)).unwritten
            (names side)).Sublist
          (before.unwritten (names side) ++ _)
      rw [isLater]
      refine (List.append_sublist_append_left _).mpr ?_
      rw [acts, Tunnel.given]
      dsimp only [Tunnel.call?]
      cases Auth.decodePacket frame with
      | none =>
          exact List.nil_sublist _
      | some =>
          exact Engine.writes_opened
  | scheduled =>
      exact List.sublist_append_left _ _
  | @carriedOut worker action rest succeeded isNext =>
      refine .trans ?_ (List.sublist_append_left _ _)
      cases worker with
      | transportToTun =>
          have isLater :
              (before.after
                  (.carriedOut .transportToTun action succeeded)).unwritten
                  (names side) =
                rest.filterMap (EngineAction.writes? (names side)) := by
            change
              (before.actions .transportToTun).tail.filterMap
                  (EngineAction.writes? (names side)) =
                _
            rw [isNext, List.tail_cons]
          have isEarlier :
              before.unwritten (names side) =
                (action.writes? (names side)).toList ++
                  rest.filterMap (EngineAction.writes? (names side)) := by
            rw [Tunnel.unwritten, isNext]
            cases isWrite : action.writes? (names side) <;> simp [isWrite]
          dsimp only
          rw [isLater, isEarlier]
          exact (delivered_carriedOut before succeeded).append_right _
      | _ =>
          exact .refl _

theorem packetsOut_snoc
    (turns : List (Side × TunnelTurn snow))
    (turn : TunnelTurn snow) :
    packetsOut names (turns ++ [(side, turn)]) side =
      packetsOut names turns side ++
        (turn.delivered? (names side)).toList := by
  cases isDelivered : turn.delivered? (names side) <;>
    simp [packetsOut, turnsOf, isDelivered]

theorem packetsIn_snoc
    (turns : List (Side × TunnelTurn snow))
    (turn : TunnelTurn snow) :
    packetsIn names (turns ++ [(side, turn)]) side =
      packetsIn names turns side ++ (turn.entered? (names side)).toList := by
  cases isEntered : turn.entered? (names side) <;>
    simp [packetsIn, turnsOf, isEntered]

theorem turnsOf_of_ne
    {actor : Side}
    (different : actor ≠ side)
    (turns : List (Side × TunnelTurn snow))
    (turn : TunnelTurn snow) :
    turnsOf side (turns ++ [(actor, turn)]) = turnsOf side turns := by
  simp [turnsOf, different]

/--
What an end has written and has still to write of the packets from the other
end was opened, in this order.
-/
theorem TunnelLinkRun.packetsOut_opened
    {turns : List (Side × TunnelTurn snow)}
    {tunnels : Side → Tunnel snow}
    (run : TunnelLinkRun names turns tunnels) :
    (packetsOut names turns side ++
        (tunnels side).unwritten (names side)).Sublist
      ((opened names (logOf turns) side).map Prod.snd) := by
  induction run with
  | start =>
      exact List.nil_sublist _
  | @snoc turns tunnels actor turn after run step genuine inductionHypothesis =>
      obtain ⟨isBefore, enabled, rfl⟩ := step
      rw [logOf_snoc, opened_append, List.map_append]
      by_cases isActor : actor = side
      · subst isActor
        rw [← isBefore] at enabled inductionHypothesis ⊢
        rw [packetsOut_snoc, Function.update_self, List.append_assoc]
        refine ((turn.delivered_opened enabled).append_left _).trans ?_
        rw [← List.append_assoc]
        exact inductionHypothesis.append_right _
      · have otherSide : side ≠ actor := fun same => isActor same.symm
        rw [packetsOut, turnsOf_of_ne isActor, turn.opened_of_ne isActor,
          Function.update_of_ne otherSide, List.map_nil, List.append_nil]
        exact inductionHypothesis

/-- What an end was given to seal was read from its TUN device, in order. -/
theorem TunnelLinkRun.given_packetsIn
    {turns : List (Side × TunnelTurn snow)}
    {tunnels : Side → Tunnel snow}
    (run : TunnelLinkRun names turns tunnels) :
    ((given names (logOf turns) side).map Prod.snd).Sublist
      (packetsIn names turns side) := by
  induction run with
  | start =>
      exact List.nil_sublist _
  | @snoc turns tunnels actor turn after run step genuine inductionHypothesis =>
      rw [logOf_snoc, given_append, List.map_append]
      by_cases isActor : actor = side
      · subst isActor
        obtain ⟨isBefore, enabled, _⟩ := step
        rw [← isBefore] at enabled
        rw [packetsIn_snoc]
        exact inductionHypothesis.append (turn.given_entered enabled)
      · rw [packetsIn, turnsOf_of_ne isActor, turn.given_of_ne isActor,
          List.map_nil, List.append_nil]
        exact inductionHypothesis

end Sides

/--
Whatever the network does and however the workers of both ends interleave, no
packet comes out of the TUN device of one end more often than it went into the
TUN device of the other end.
-/
theorem tunnel_link_delivers_at_most_once
    (ideal : IdealNoise snow)
    {names : Side → PeerName}
    {turns : List (Side × TunnelTurn snow)}
    {tunnels : Side → Tunnel snow}
    (run : TunnelLinkRun names turns tunnels)
    {side : Side}
    (fresh : FreshKeys (transitionsOf side (logOf turns))) :
    (packetsOut names turns side).Subperm
      (packetsIn names turns side.other) :=
  have isOpened :
      (packetsOut names turns side).Subperm
        ((opened names (logOf turns) side).map Prod.snd) :=
    ((List.sublist_append_left _ _).trans run.packetsOut_opened).subperm
  have isGiven :=
    link_opens_at_most_once ideal run.engineLinkRun.linkRun fresh
  (isOpened.trans isGiven).trans run.given_packetsIn.subperm

namespace TunnelLinkExample

open AgreementExample TunnelExample

def handshake : ResponderHandshake PlainNoise.snow where
  session :=
    .new (.fill 8)
      { isInitiator := false
        initiatorEphemeral := 4
        responderEphemeral := 5 }
      0
  message := response

def sealAct : Act PlainNoise.snow where
  side := .first
  before := completed.sessions
  operation := .encrypt "second" .data packet 0

def restartAct : Act PlainNoise.snow where
  side := .first
  before := sealAct.after
  operation :=
    .start "second" (.fill 1) (.fill 2) (.fill 3) forwardDraw 0

def openAct : Act PlainNoise.snow where
  side := .second
  before := answered.sessions
  operation :=
    .decrypt (.fill 8) 1 (packetFrame.drop Auth.transportHeaderSize) 0

/-- Nothing is asked of an act that brings in nothing from outside. -/
theorem sealAct_genuine (log : List (Act PlainNoise.snow)) :
    Genuine names log sealAct where
  freshAttempt := by
    rintro _ _ ⟨_, _, _, _, impossible, _⟩
    cases impossible
  freshSession := by
    rintro _ _ _ ⟨_, _, impossible, _⟩
    cases impossible
  initiation := by
    rintro _ _ _ _ _ ⟨⟩
  response := by
    rintro _ _ _ _ _ ⟨⟩
  packet := by
    rintro _ _ _ _ _ _ ⟨⟩

set_option maxRecDepth 8000 in
/-- With a session no attempt begins. -/
theorem restartAct_genuine (log : List (Act PlainNoise.snow)) :
    Genuine names log restartAct where
  freshAttempt := by
    rintro _ _ ⟨_, _, _, _, _, _, isPending⟩
    have notPending : (restartAct.after.entry "second").pending = none := rfl
    cases notPending.symm.trans isPending
  freshSession := by
    rintro _ _ _ ⟨_, _, impossible, _⟩
    cases impossible
  initiation := by
    rintro _ _ _ _ _ ⟨⟩
  response := by
    rintro _ _ _ _ _ ⟨⟩
  packet := by
    rintro _ _ _ _ _ _ ⟨⟩

theorem openAct_genuine
    {log : List (Act PlainNoise.snow)}
    (isSealed : sealAct ∈ log) :
    Genuine names log openAct where
  freshAttempt := by
    rintro _ _ ⟨_, _, _, _, impossible, _⟩
    cases impossible
  freshSession := by
    rintro _ _ _ ⟨_, _, impossible, _⟩
    cases impossible
  initiation := by
    rintro _ _ _ _ _ ⟨⟩
  response := by
    rintro _ _ _ _ _ ⟨⟩
  packet := by
    rintro _ _ _ _ _ _ ⟨⟩ _ _
    exact ⟨sealAct, isSealed, rfl, by decide +kernel⟩

/-- A run with the acts of its turns. -/
structure Reaches
    (turns : List (Side × TunnelTurn PlainNoise.snow))
    (log : List (Act PlainNoise.snow))
    (tunnels : Side → Tunnel PlainNoise.snow) :
    Prop where
  run : TunnelLinkRun names turns tunnels
  isLog : logOf turns = log

/-- An event of a known daemon extends a run. -/
theorem Reaches.extend
    {turns : List (Side × TunnelTurn PlainNoise.snow)}
    {log acts : List (Act PlainNoise.snow)}
    {tunnels : Side → Tunnel PlainNoise.snow}
    {tunnel : Tunnel PlainNoise.snow}
    (reaches : Reaches turns log tunnels)
    (side : Side)
    (event : TunnelEvent PlainNoise.snow)
    (isTunnel : tunnels side = tunnel)
    (enabled : tunnel.Enabled event)
    (isActs : (⟨tunnel, event⟩ : TunnelTurn _).acts side = acts)
    (genuine : GenuineAll names log acts) :
    Reaches (turns ++ [(side, ⟨tunnel, event⟩)]) (log ++ acts)
      (Function.update tunnels side (tunnel.after event)) where
  run := by
    subst isTunnel isActs
    refine reaches.run.snoc ⟨rfl, enabled, rfl⟩ ?_
    rw [reaches.isLog]
    exact genuine
  isLog := by
    rw [logOf_snoc, reaches.isLog, isActs]

def sendInitiation : TunnelEvent PlainNoise.snow :=
  .carriedOut .keepalive (.sendTransport "second" endpoint initiationFrame)
    true

def receiveResponse : TunnelEvent PlainNoise.snow :=
  .received responseFrame endpoint draws 0 0

def readPacket : TunnelEvent PlainNoise.snow :=
  .read packet forwardDraw 0

def sendPacket : TunnelEvent PlainNoise.snow :=
  .carriedOut .tunToTransport (.sendTransport "second" endpoint packetFrame)
    true

def writePacket : TunnelEvent PlainNoise.snow :=
  .carriedOut .transportToTun (.writeIpPacket "first" endpoint packet) true

def initiating : Tunnel PlainNoise.snow :=
  (daemon .first).after (.scheduled initiate)

def initiated : Tunnel PlainNoise.snow :=
  initiating.after sendInitiation

def connected : Tunnel PlainNoise.snow :=
  initiated.after receiveResponse

def sealing : Tunnel PlainNoise.snow :=
  connected.after readPacket

/-- A handshake, and a packet that crosses the link. -/
def crossing : List (Side × TunnelTurn PlainNoise.snow) :=
  [(.first, ⟨daemon .first, .scheduled initiate⟩),
    (.first, ⟨initiating, sendInitiation⟩),
    (.second, ⟨daemon .second, receiveInitiation⟩),
    (.second, ⟨responding, sendResponse⟩),
    (.first, ⟨initiated, receiveResponse⟩),
    (.first, ⟨connected, readPacket⟩),
    (.first, ⟨sealing, sendPacket⟩),
    (.second, ⟨responded, receivePacket⟩),
    (.second, ⟨opening, writePacket⟩)]

set_option maxRecDepth 8000 in
theorem initiate_acts :
    (⟨daemon .first, .scheduled initiate⟩ : TunnelTurn _).acts .first =
      [startAct] :=
  rfl

set_option maxRecDepth 8000 in
theorem receiveInitiation_acts :
    (⟨daemon .second, receiveInitiation⟩ : TunnelTurn _).acts .second =
      [answerAct handshake] :=
  rfl

set_option maxRecDepth 8000 in
theorem receiveResponse_acts :
    (⟨initiated, receiveResponse⟩ : TunnelTurn _).acts .first =
      [finalizeAct] :=
  rfl

set_option maxRecDepth 8000 in
theorem readPacket_acts :
    (⟨connected, readPacket⟩ : TunnelTurn _).acts .first =
      [sealAct, restartAct] :=
  rfl

set_option maxRecDepth 8000 in
theorem receivePacket_acts :
    (⟨responded, receivePacket⟩ : TunnelTurn _).acts .second = [openAct] :=
  rfl

set_option maxRecDepth 8000 in
theorem crossing_run :
    ∃ tunnels,
      Reaches crossing
        [startAct, answerAct handshake, finalizeAct, sealAct, restartAct,
          openAct]
        tunnels := by
  have reaches : Reaches [] [] daemon := ⟨.start, rfl⟩
  have reaches :=
    reaches.extend .first (.scheduled initiate) rfl (.scheduled trivial)
      initiate_acts (.cons startAct_genuine .nil)
  have reaches :=
    reaches.extend .first sendInitiation rfl (.carriedOut rfl) rfl .nil
  have reaches :=
    reaches.extend .second receiveInitiation rfl
      (.received rfl (by decide +kernel)) receiveInitiation_acts
      (.cons (answerAct_genuine handshake) .nil)
  have reaches :=
    reaches.extend .second sendResponse rfl (.carriedOut responding_actions)
      rfl .nil
  have answers :
      (idle .second).operations answer =
        [(answerAct handshake).operation] :=
    rfl
  have reaches :=
    reaches.extend .first receiveResponse rfl
      (.received rfl (by decide +kernel)) receiveResponse_acts
      (.cons (finalizeAct_genuine answers) .nil)
  have reaches :=
    reaches.extend .first readPacket rfl (.read rfl (by decide +kernel))
      readPacket_acts
      (.cons (sealAct_genuine _) (.cons (restartAct_genuine _) .nil))
  have reaches :=
    reaches.extend .first sendPacket rfl (.carriedOut rfl) rfl .nil
  have opens :
      Genuine names
        [startAct, answerAct handshake, finalizeAct, sealAct, restartAct]
        openAct :=
    openAct_genuine (by simp)
  have reaches :=
    reaches.extend .second receivePacket rfl
      (.received responded_actions (by decide +kernel)) receivePacket_acts
      (.cons opens .nil)
  have reaches :=
    reaches.extend .second writePacket rfl (.carriedOut opening_actions) rfl
      .nil
  exact ⟨_, reaches⟩

set_option maxRecDepth 8000 in
theorem crossing_negotiated :
    (transitionsOf .second
        [startAct, answerAct handshake, finalizeAct, sealAct, restartAct,
          openAct]).filterMap Transition.negotiated =
      [handshake.session] :=
  rfl

/-- One session is negotiated. -/
theorem crossing_freshKeys :
    FreshKeys
      (transitionsOf .second
        [startAct, answerAct handshake, finalizeAct, sealAct, restartAct,
          openAct]) where
  distinct := by
    rw [crossing_negotiated]
    exact List.nodup_singleton _
  isNew := by
    rw [crossing_negotiated]
    intro session member
    rw [List.mem_singleton.mp member]
    exact ⟨_, _, _, rfl⟩

end TunnelLinkExample

open TunnelExample TunnelLinkExample in
/-- The packet comes out of the other TUN device. -/
theorem tunnel_link_delivers_at_most_once_example :
    packetsOut AgreementExample.names crossing .second = [packet] ∧
      [packet].Subperm
        (packetsIn AgreementExample.names crossing .first) := by
  have isOut :
      packetsOut AgreementExample.names crossing .second = [packet] := by
    decide +kernel
  obtain ⟨tunnels, reaches⟩ := crossing_run
  have delivers :
      (packetsOut AgreementExample.names crossing .second).Subperm
        (packetsIn AgreementExample.names crossing .first) :=
    tunnel_link_delivers_at_most_once PlainNoise.ideal reaches.run
      (by rw [reaches.isLog]; exact crossing_freshKeys)
  rw [isOut] at delivers
  exact ⟨isOut, delivers⟩

end HushWire

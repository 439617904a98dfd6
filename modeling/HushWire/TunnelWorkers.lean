import HushWire.Agreement
import HushWire.Authentication
import HushWire.Delivery
import HushWire.EndpointSelection
import HushWire.Library.Execution
import HushWire.NoiseLimits

namespace HushWire

open Noise

/-!
# The worker threads of the daemon

Three threads share one engine.  One reads packets from the TUN interface, one
receives frames from the transport, and one keeps the sessions alive.  Each
calls the engine and then carries out the actions it got back, while the other
threads call the engine as well.

A call of the engine is one step, and so is sending a frame together with
recording it: between these steps the threads interleave in any way.  What
other threads do between two locks of one call is not modelled.
-/

/-- `PACKET_INFO_SIZE`. -/
def packetInfoSize : Nat := 4

/-- `MAX_PACKET_SIZE`. -/
def maxPacketSize : Nat := 65535

/-- The packet behind the packet information, if there is any. -/
def stripPacketInformation
    (frame : Bytes)
    (packetInformation : Bool) :
    Option Bytes :=
  if packetInformation then
    if packetInfoSize ≤ frame.length then
      some (frame.drop packetInfoSize)
    else
      none
  else
    some frame

/--
The packet as it is written, with a buffer of `output` bytes; `none` where the
buffer is indexed out of bounds.
-/
def addPacketInformation
    (frame : Bytes)
    (packetInformation : Bool)
    (output : Nat) :
    Option Bytes :=
  if packetInformation = false then
    some frame
  else if packetInfoSize + frame.length ≤ output then
    -- `AF_INET` is 2.
    some ([0, 0, 0, 2] ++ frame)
  else
    none

/-- What is written with packet information is read without it. -/
theorem stripPacketInformation_addPacketInformation
    {frame written : Bytes}
    {packetInformation : Bool}
    {output : Nat}
    (added :
      addPacketInformation frame packetInformation output = some written) :
    stripPacketInformation written packetInformation = some frame := by
  cases packetInformation with
  | false =>
      cases added
      rfl
  | true =>
      unfold addPacketInformation at added
      rw [if_neg Bool.noConfusion] at added
      split at added
      · cases added
        simp [stripPacketInformation, packetInfoSize]
      · cases added

/-- The threads that call the engine. -/
inductive Worker where
  | tunToTransport
  | transportToTun
  | keepalive
  deriving DecidableEq

/-- The daemon once its tunnel has started. -/
structure Tunnel (snow : Snow) where
  engine : Engine snow
  /-- Whether the TUN device puts packet information before every packet. -/
  packetInformation : Bool
  /-- What each worker has still to carry out. -/
  actions : Worker → List EngineAction

/-- Something that a worker does. -/
inductive TunnelEvent (snow : Snow) where
  /-- A packet was read from the TUN device. -/
  | read (packet : Bytes) (draw : Draw snow) (now : Instant)
  /-- A frame was received from the transport. -/
  | received
      (frame : Bytes)
      (source : SocketAddr)
      (draws : PeerName → Draw snow)
      (now clock : Instant)
  /-- The scheduler calls the engine. -/
  | scheduled (call : EngineCall snow)
  /-- An action is carried out, and may fail. -/
  | carriedOut (worker : Worker) (action : EngineAction) (succeeded : Bool)

variable {snow : Snow}

/-- The calls that the scheduler makes. -/
def EngineCall.IsScheduled : EngineCall snow → Prop
  | .initiateHandshake _ _ _ => True
  | .createKeepalive _ _ _ _ => True
  | .invalidatePeer _ => True
  | _ => False

namespace Tunnel

def new
    (localStatic : Key)
    (router : Router)
    (packetInformation : Bool) :
    Tunnel snow where
  engine := .withRouter localStatic router
  packetInformation := packetInformation
  actions := fun _ => []

/-- The worker of an event. -/
def workerOf : TunnelEvent snow → Worker
  | .read _ _ _ => .tunToTransport
  | .received _ _ _ _ _ => .transportToTun
  | .scheduled _ => .keepalive
  | .carriedOut worker _ _ => worker

/-- The call of the engine in an event. -/
def call? (tunnel : Tunnel snow) : TunnelEvent snow → Option (EngineCall snow)
  | .read packet draw now =>
      match stripPacketInformation packet tunnel.packetInformation with
      | none => none
      | some frame =>
          match Ipv4Packet.parse frame with
          | .error _ => none
          | .ok _ => some (.processOutboundIp frame draw now)
  | .received frame source draws now clock =>
      match Auth.decodePacket frame with
      | none => none
      | some _ => some (.processInboundTransport frame source draws now clock)
  | .scheduled call => some call
  -- `send_engine_frame`
  | .carriedOut _ (.sendTransport peerName _ frame) true =>
      some (.recordTransportSent peerName frame.length)
  | .carriedOut _ _ _ => none

/-- What a worker gets to carry out. -/
def actionsOf : Except (EngineError snow) EngineOutput → List EngineAction
  | .ok output => output.actions
  | .error _ => []

/-- What an event gives its worker to carry out. -/
def given (tunnel : Tunnel snow) (event : TunnelEvent snow) :
    List EngineAction :=
  match tunnel.call? event with
  | none => []
  | some call => actionsOf (tunnel.engine.perform call).1

/-- The engine after an event. -/
def engineAfter (tunnel : Tunnel snow) (event : TunnelEvent snow) :
    Engine snow :=
  match tunnel.call? event with
  | none => tunnel.engine
  | some call => (tunnel.engine.perform call).2

/-- What a worker has to carry out after an event. -/
def actionsAfter (tunnel : Tunnel snow) (event : TunnelEvent snow) :
    List EngineAction :=
  match event with
  | .carriedOut worker _ _ => (tunnel.actions worker).tail
  | _ => tunnel.actions (workerOf event) ++ tunnel.given event

def after (tunnel : Tunnel snow) (event : TunnelEvent snow) : Tunnel snow where
  engine := tunnel.engineAfter event
  packetInformation := tunnel.packetInformation
  actions :=
    Function.update tunnel.actions (workerOf event) (tunnel.actionsAfter event)

/--
What the workers may do.  A worker reads or receives when it has nothing to
carry out, and at most as much as its buffer holds.
-/
inductive Enabled (tunnel : Tunnel snow) : TunnelEvent snow → Prop where
  | read
      {packet : Bytes}
      {draw : Draw snow}
      {now : Instant} :
      tunnel.actions .tunToTransport = [] →
      packet.length ≤ maxPacketSize →
      Enabled tunnel (.read packet draw now)
  | received
      {frame : Bytes}
      {source : SocketAddr}
      {draws : PeerName → Draw snow}
      {now clock : Instant} :
      tunnel.actions .transportToTun = [] →
      frame.length ≤ maxPacketSize →
      Enabled tunnel (.received frame source draws now clock)
  | scheduled
      {call : EngineCall snow} :
      call.IsScheduled →
      Enabled tunnel (.scheduled call)
  | carriedOut
      {worker : Worker}
      {action : EngineAction}
      {rest : List EngineAction}
      {succeeded : Bool} :
      tunnel.actions worker = action :: rest →
      Enabled tunnel (.carriedOut worker action succeeded)

end Tunnel

/-- An event and the daemon in which it happens. -/
structure TunnelTurn (snow : Snow) where
  before : Tunnel snow
  event : TunnelEvent snow

namespace TunnelTurn

/-- What a turn writes to the TUN device of a packet from a peer. -/
def written? (turn : TunnelTurn snow) (peerName : PeerName) : Option Bytes :=
  match turn.event with
  | .carriedOut .transportToTun (.writeIpPacket sender _ packet) true =>
      if sender = peerName then
        addPacketInformation packet turn.before.packetInformation
          (maxPacketSize + packetInfoSize)
      else
        none
  | _ => none

/-- The length of a frame that a turn sends to a peer. -/
def sent? (turn : TunnelTurn snow) (peerName : PeerName) : Option Nat :=
  match turn.event with
  | .carriedOut _ (.sendTransport recipient _ frame) true =>
      if recipient = peerName then some frame.length else none
  | _ => none

end TunnelTurn

/-- A step of the daemon. -/
structure TunnelStep
    (before : Tunnel snow)
    (turn : TunnelTurn snow)
    (after : Tunnel snow) :
    Prop where
  isBefore : turn.before = before
  enabled : before.Enabled turn.event
  isAfter : after = before.after turn.event

namespace Engine

/-- Only an inbound data packet that parses is handed to the TUN device. -/
theorem writes_cases
    {engine : Engine snow}
    {frame : Bytes}
    {source : SocketAddr}
    {draws : PeerName → Draw snow}
    {now clock : Instant}
    {output : EngineOutput}
    (succeeded :
      (engine.processInboundTransport frame source draws now clock).1 =
        .ok output)
    {peerName : PeerName}
    {origin : SocketAddr}
    {packet : Bytes}
    (written : .writeIpPacket peerName origin packet ∈ output.actions) :
    ∃ sessionId counter ciphertext decrypted ipv4,
      Auth.decodePacket frame =
          some (.transport sessionId counter ciphertext) ∧
        (engine.sessions.decryptTransport sessionId counter ciphertext
          now).1 = .ok (some decrypted) ∧
        decrypted.msgType = .data ∧
        decrypted.peerName = peerName ∧
        decrypted.payload = packet ∧
        Ipv4Packet.parse packet = .ok ipv4 ∧
        output.actions = [.writeIpPacket peerName origin packet] := by
  unfold processInboundTransport at succeeded
  split at succeeded
  · cases succeeded
    cases written
  · unfold processHandshakeInit at succeeded
    split at succeeded
    · cases succeeded
      cases written
    · dsimp only at succeeded
      split at succeeded
      · cases succeeded
        cases written
      · split at succeeded
        · cases succeeded
          simp at written
        · split at succeeded <;> cases succeeded
          · simp at written
          · cases written
  · unfold processHandshakeResponse at succeeded
    dsimp only at succeeded
    split at succeeded
    · cases succeeded
    · cases succeeded
      cases written
    · cases succeeded
      simp at written
  · cases succeeded
    cases written
  next sessionId counter ciphertext isDecoded =>
    unfold processTransport at succeeded
    dsimp only at succeeded
    split at succeeded
    · cases succeeded
    · cases succeeded
      cases written
    next decrypted isDecrypted =>
      split at succeeded
      · unfold processKeepalive at succeeded
        dsimp only at succeeded
        split at succeeded
        · split at succeeded
          · cases succeeded
          · cases succeeded
            simp at written
        · cases succeeded
          cases written
      next isData =>
        unfold processData at succeeded
        dsimp only at succeeded
        split at succeeded
        · cases succeeded
        next ipv4 isIpv4 =>
          cases succeeded
          obtain ⟨rfl, rfl, rfl⟩ :=
            EngineAction.writeIpPacket.inj (List.mem_singleton.mp written)
          exact ⟨sessionId, counter, ciphertext, decrypted, ipv4, isDecoded,
            isDecrypted, isData, rfl, rfl, isIpv4, rfl⟩

/-- Outbound packets and scheduled calls only lead to frames. -/
theorem sends_of_outbound
    {engine : Engine snow}
    {call : EngineCall snow}
    (outbound :
      call.IsScheduled ∨
        ∃ packet draw now, call = .processOutboundIp packet draw now)
    {action : EngineAction}
    (member : action ∈ Tunnel.actionsOf (engine.perform call).1) :
    ∃ peerName endpoint frame,
      action = .sendTransport peerName endpoint frame := by
  have encrypted
      {peer : Peer}
      {msgType : Auth.MsgType}
      {payload : Bytes}
      {draw : Draw snow}
      {now : Instant}
      (member :
        action ∈
          Tunnel.actionsOf
            (engine.encryptAndInitiate peer msgType payload draw now).1) :
      ∃ peerName endpoint frame,
        action = .sendTransport peerName endpoint frame := by
    cases sent :
        (engine.encryptAndInitiate peer msgType payload draw now).1 with
    | error error =>
        rw [sent] at member
        cases member
    | ok output =>
        rw [sent] at member
        obtain ⟨endpoint, frame, _, isAction⟩ :=
          encryptAndInitiate_actions sent action member
        exact ⟨_, _, _, isAction⟩
  cases call with
  | processOutboundIp packet draw now =>
      rw [perform, processOutboundIp] at member
      split at member
      · cases member
      · split at member
        · cases member
        · exact encrypted member
  | createKeepalive peerName payload draw now =>
      rw [perform, createKeepalive] at member
      split at member
      · cases member
      · exact encrypted member
  | initiateHandshake peerName draw now =>
      rw [perform, initiateHandshake] at member
      split at member
      · cases member
      next peer _ =>
        dsimp only at member
        split at member
        · cases member
        next action isInitiated =>
          rw [Tunnel.actionsOf, Option.mem_toList] at member
          subst member
          obtain ⟨endpoint, frame, _, isAction⟩ :=
            initiatePeer_action isInitiated
          exact ⟨_, _, _, isAction⟩
  | invalidatePeer =>
      cases member
  | _ =>
      rcases outbound with scheduled | ⟨_, _, _, isOutbound⟩
      · cases scheduled
      · cases isOutbound

end Engine

/-- What is read out of a transport message fits the buffer it is read into. -/
def Snow.FillsBuffers (snow : Snow) : Prop :=
  ∀ {transport nonce message capacity plaintext},
    snow.readMessage transport nonce message capacity = .ok plaintext →
    plaintext.length ≤ capacity

namespace Auth

/-- The ciphertext is a part of the frame. -/
theorem length_ciphertext_le
    {frame : Bytes}
    {sessionId : SessionId}
    {counter : UInt64}
    {ciphertext : Bytes}
    (decoded :
      decodePacket frame = some (.transport sessionId counter ciphertext)) :
    ciphertext.length ≤ frame.length := by
  unfold decodePacket at decoded
  split at decoded
  · cases decoded
  · dsimp only at decoded
    split at decoded
    · cases decoded
    · split at decoded
      · cases decoded
      · split at decoded
        · split at decoded <;> cases decoded
        · split at decoded
          · cases decoded
          · cases decoded
            rw [List.length_drop]
            exact Nat.sub_le _ _

/-- The payload is a part of the plaintext. -/
theorem length_payload_le
    {plaintext payload : Bytes}
    {msgType : MsgType}
    (decoded :
      decodeTransportPlaintext plaintext = some (msgType, payload)) :
    payload.length ≤ plaintext.length := by
  unfold decodeTransportPlaintext at decoded
  split at decoded
  · cases decoded
  · obtain ⟨_, _, same⟩ := Option.map_eq_some_iff.mp decoded
    cases same
    exact Nat.le_succ _

end Auth

/-- What is opened is no longer than the ciphertext. -/
theorem SessionState.length_opened_le
    (fills : snow.FillsBuffers)
    {state : SessionState snow}
    {sessionId : SessionId}
    {counter : UInt64}
    {ciphertext : Bytes}
    {now : Instant}
    {decrypted : DecryptedTransport}
    (opened :
      (state.decryptTransport sessionId counter ciphertext now).1 =
        .ok (some decrypted)) :
    decrypted.payload.length ≤ ciphertext.length := by
  obtain ⟨_, session, _, _, _, _, decrypts⟩ := decryptTransport_some opened
  obtain ⟨plaintext, authentic, decoded⟩ := Session.decrypt_ok decrypts
  calc
    decrypted.payload.length ≤ plaintext.length :=
      Auth.length_payload_le decoded
    _ ≤ ciphertext.length - aeadTagSize := fills authentic.2.2.2
    _ ≤ ciphertext.length := Nat.sub_le _ _

namespace Tunnel

/-- The workers have only actions that they can carry out. -/
structure Workable (tunnel : Tunnel snow) : Prop where
  outward :
    ∀ worker ≠ Worker.transportToTun, ∀ action ∈ tunnel.actions worker,
      ∃ peerName endpoint frame,
        action = .sendTransport peerName endpoint frame
  inward :
    ∀ peerName source packet,
      .writeIpPacket peerName source packet ∈
        tunnel.actions .transportToTun →
      (∃ ipv4, Ipv4Packet.parse packet = .ok ipv4) ∧
        packet.length ≤ maxPacketSize

/-- What an event gives its worker is what that worker can carry out. -/
theorem Enabled.given_workable
    (fills : snow.FillsBuffers)
    {tunnel : Tunnel snow}
    {event : TunnelEvent snow}
    (enabled : tunnel.Enabled event)
    {action : EngineAction}
    (member : action ∈ tunnel.given event) :
    (∃ peerName endpoint frame,
      action = .sendTransport peerName endpoint frame) ∨
      (workerOf event = .transportToTun ∧
        ∃ peerName source packet ipv4,
          action = .writeIpPacket peerName source packet ∧
            Ipv4Packet.parse packet = .ok ipv4 ∧
            packet.length ≤ maxPacketSize) := by
  unfold given at member
  split at member
  · cases member
  next call isCall =>
    cases enabled with
    | read =>
        refine .inl (Engine.sends_of_outbound (.inr ?_) member)
        rw [call?] at isCall
        split at isCall
        · cases isCall
        · split at isCall
          · cases isCall
          · cases isCall
            exact ⟨_, _, _, rfl⟩
    | scheduled isScheduled =>
        cases isCall
        exact .inl (Engine.sends_of_outbound (.inl isScheduled) member)
    | @received frame source draws now clock idle short =>
        rw [call?] at isCall
        split at isCall
        · cases isCall
        · cases isCall
          cases action with
          | sendTransport peerName endpoint frame =>
              exact .inl ⟨peerName, endpoint, frame, rfl⟩
          | writeIpPacket peerName origin packet =>
              rw [Engine.perform] at member
              cases succeeded :
                  (tunnel.engine.processInboundTransport frame source draws
                    now clock).1 with
              | error error =>
                  rw [succeeded] at member
                  cases member
              | ok output =>
                  rw [succeeded] at member
                  obtain ⟨_, _, ciphertext, decrypted, ipv4, isDecoded, opened,
                    _, _, isPayload, isIpv4, _⟩ :=
                    Engine.writes_cases succeeded member
                  refine .inr ⟨rfl, peerName, origin, packet, ipv4, rfl, isIpv4,
                    ?_⟩
                  rw [← isPayload]
                  exact
                    (SessionState.length_opened_le fills opened).trans
                      ((Auth.length_ciphertext_le isDecoded).trans short)
    | @carriedOut worker action rest succeeded =>
        cases action with
        | sendTransport =>
            cases succeeded
            · cases isCall
            · cases isCall
              cases member
        | writeIpPacket =>
            cases isCall

/-- Every action was there before or has just been given. -/
theorem mem_actions_after
    {tunnel : Tunnel snow}
    {event : TunnelEvent snow}
    {worker : Worker}
    {action : EngineAction}
    (member : action ∈ (tunnel.after event).actions worker) :
    action ∈ tunnel.actions worker ∨
      (worker = workerOf event ∧ action ∈ tunnel.given event) := by
  change
    action ∈
      Function.update tunnel.actions (workerOf event)
        (tunnel.actionsAfter event) worker
    at member
  by_cases isWorker : worker = workerOf event
  · subst isWorker
    rw [Function.update_self] at member
    cases event with
    | carriedOut =>
        exact .inl (List.mem_of_mem_tail member)
    | _ =>
        rcases List.mem_append.mp member with earlier | isGiven
        · exact .inl earlier
        · exact .inr ⟨rfl, isGiven⟩
  · rw [Function.update_of_ne isWorker] at member
    exact .inl member

theorem Workable.new
    (localStatic : Key)
    (router : Router)
    (packetInformation : Bool) :
    Workable (.new localStatic router packetInformation : Tunnel snow) where
  outward := fun _ _ _ member => absurd member List.not_mem_nil
  inward := fun _ _ _ member => absurd member List.not_mem_nil

theorem Workable.step
    (fills : snow.FillsBuffers)
    {before after : Tunnel snow}
    {turn : TunnelTurn snow}
    (workable : before.Workable)
    (step : TunnelStep before turn after) :
    after.Workable := by
  obtain ⟨_, enabled, rfl⟩ := step
  constructor
  · intro worker isOutward action member
    rcases mem_actions_after member with earlier | ⟨rfl, isGiven⟩
    · exact workable.outward worker isOutward action earlier
    · rcases enabled.given_workable fills isGiven with sends | ⟨inward, _⟩
      · exact sends
      · exact absurd inward isOutward
  · intro peerName source packet member
    rcases mem_actions_after member with earlier | ⟨_, isGiven⟩
    · exact workable.inward peerName source packet earlier
    · rcases enabled.given_workable fills isGiven with
        ⟨_, _, _, isSend⟩ | ⟨_, _, _, _, ipv4, isWrite, isIpv4, short⟩
      · cases isSend
      · cases isWrite
        exact ⟨⟨ipv4, isIpv4⟩, short⟩

end Tunnel

/--
In every run the workers that read from the TUN device and keep sessions alive
only have frames to send, so that their warnings of an unexpected packet are
never reached.  Every packet that is to be written to the TUN device is an IPv4
packet, as the worker expects of it, and fits the buffer it is written from.
-/
theorem tunnel_workers_never_panic
    (fills : snow.FillsBuffers)
    {localStatic : Key}
    {router : Router}
    {packetInformation : Bool}
    {turns : List (TunnelTurn snow)}
    {tunnel : Tunnel snow}
    (execution :
      Execution TunnelStep (.new localStatic router packetInformation) turns
        tunnel) :
    (∀ worker ≠ Worker.transportToTun, ∀ action ∈ tunnel.actions worker,
      ∃ peerName endpoint frame,
        action = .sendTransport peerName endpoint frame) ∧
      ∀ peerName source packet,
        .writeIpPacket peerName source packet ∈
          tunnel.actions .transportToTun →
        (∃ ipv4, Ipv4Packet.parse packet = .ok ipv4) ∧
          ∃ written,
            addPacketInformation packet tunnel.packetInformation
              (maxPacketSize + packetInfoSize) = some written := by
  have workable :=
    execution.preserves Tunnel.Workable (.new _ _ _) fun _ holds step =>
      holds.step fills step
  refine ⟨workable.outward, fun peerName source packet member => ?_⟩
  obtain ⟨isIpv4, short⟩ := workable.inward peerName source packet member
  refine ⟨isIpv4, ?_⟩
  unfold addPacketInformation
  split
  · exact ⟨_, rfl⟩
  · rw [if_pos (by omega)]
    exact ⟨_, rfl⟩

/-- The stand-in reads no more than fits. -/
theorem PlainNoise.fillsBuffers : PlainNoise.snow.FillsBuffers := by
  intro transport nonce message capacity plaintext isRead
  change PlainNoise.readMessage transport nonce message capacity = _ at isRead
  unfold readMessage at isRead
  dsimp only at isRead
  split at isRead
  next readable =>
    cases isRead
    rw [List.length_take]
    exact (Nat.min_le_left _ _).trans readable.2
  · cases isRead

namespace TunnelExample

open AgreementExample

/-- An empty IPv4 packet. -/
def packet : Bytes :=
  0x45 :: List.replicate 19 0

def forwardDraw : Draw PlainNoise.snow where
  id := .fill 9
  ephemeral := (6 : UInt8)

/-- The first end after the handshake. -/
def completed : Engine PlainNoise.snow :=
  (started.perform complete).2

def initiationFrame : Bytes :=
  sentFrame ((idle .first).perform initiate)

def responseFrame : Bytes :=
  sentFrame ((idle .second).perform answer)

def packetFrame : Bytes :=
  sentFrame (completed.perform (.processOutboundIp packet forwardDraw 0))

def daemon (side : Side) : Tunnel PlainNoise.snow :=
  .new (localStatic side) (router side) false

def receiveInitiation : TunnelEvent PlainNoise.snow :=
  .received initiationFrame endpoint draws 0 0

def sendResponse : TunnelEvent PlainNoise.snow :=
  .carriedOut .transportToTun (.sendTransport "first" endpoint responseFrame)
    true

def receivePacket : TunnelEvent PlainNoise.snow :=
  .received packetFrame endpoint draws 0 0

def responding : Tunnel PlainNoise.snow :=
  (daemon .second).after receiveInitiation

def responded : Tunnel PlainNoise.snow :=
  responding.after sendResponse

def opening : Tunnel PlainNoise.snow :=
  responded.after receivePacket

/-- An initiation is answered, and a packet is opened. -/
def responderTurns : List (TunnelTurn PlainNoise.snow) :=
  [⟨daemon .second, receiveInitiation⟩, ⟨responding, sendResponse⟩,
    ⟨responded, receivePacket⟩]

set_option maxRecDepth 8000 in
theorem responding_actions :
    responding.actions .transportToTun =
      [.sendTransport "first" endpoint responseFrame] :=
  rfl

set_option maxRecDepth 8000 in
theorem responded_actions : responded.actions .transportToTun = [] :=
  rfl

set_option maxRecDepth 8000 in
theorem opening_actions :
    opening.actions .transportToTun =
      [.writeIpPacket "first" endpoint packet] :=
  rfl

theorem responder_execution :
    Execution TunnelStep (daemon .second) responderTurns opening := by
  have received :
      TunnelStep (daemon .second) ⟨daemon .second, receiveInitiation⟩
        responding :=
    ⟨rfl, .received rfl (by decide +kernel), rfl⟩
  have sent : TunnelStep responding ⟨responding, sendResponse⟩ responded :=
    ⟨rfl, .carriedOut responding_actions, rfl⟩
  have opened : TunnelStep responded ⟨responded, receivePacket⟩ opening :=
    ⟨rfl, .received responded_actions (by decide +kernel), rfl⟩
  exact .snoc (.snoc (.single received) sent) opened

end TunnelExample

open TunnelExample in
/-- The packet that was opened can be written. -/
theorem tunnel_workers_never_panic_example :
    (∃ ipv4, Ipv4Packet.parse packet = .ok ipv4) ∧
      ∃ written,
        addPacketInformation packet false (maxPacketSize + packetInfoSize) =
          some written := by
  apply
    (tunnel_workers_never_panic PlainNoise.fillsBuffers
      responder_execution).2 "first" AgreementExample.endpoint
  rw [opening_actions]
  exact .head _

end HushWire

import HushWire.TunnelWorkers

namespace HushWire

open Noise

/-!
# The traffic statistics of the daemon

The statistics of a peer count what was opened under its sessions and what was
sent to it.  A frame counts when the transport has taken it, a packet when it
was authenticated, also where it is no IPv4 packet.  The counters wrap around
at 64 bits.
-/

variable {snow : Snow}

namespace PeerState

variable {state : PeerState} {peerName queried : PeerName} {entry : PeerStats}

theorem stats_insert :
    stats (state.insert peerName entry) queried =
      if queried = peerName then entry else stats state queried := by
  unfold stats
  split
  next same =>
    rw [same, AList.lookup_insert, Option.getD_some]
  next different =>
    rw [AList.lookup_insert_ne different]

/-- The counters of the peers are those before and what was added. -/
structure Counts
    (before after : PeerState)
    (received sent : PeerName → Nat) :
    Prop where
  rxBytes :
    ∀ peerName,
      (stats after peerName).rxBytes =
        (stats before peerName).rxBytes + UInt64.ofNat (received peerName)
  txBytes :
    ∀ peerName,
      (stats after peerName).txBytes =
        (stats before peerName).txBytes + UInt64.ofNat (sent peerName)

/-- The bytes of one peer. -/
def bytesOf (peerName : PeerName) (bytes : Nat) (queried : PeerName) : Nat :=
  if queried = peerName then bytes else 0

theorem Counts.refl (state : PeerState) :
    Counts state state (fun _ => 0) fun _ => 0 where
  rxBytes := fun _ => (UInt64.add_zero _).symm
  txBytes := fun _ => (UInt64.add_zero _).symm

theorem counts_recordTx (bytes : Nat) :
    Counts state (recordTx state peerName bytes) (fun _ => 0)
      (bytesOf peerName bytes) where
  rxBytes := by
    intro queried
    rw [recordTx, stats_insert]
    split
    next same =>
      subst same
      exact (UInt64.add_zero _).symm
    · exact (UInt64.add_zero _).symm
  txBytes := by
    intro queried
    rw [recordTx, stats_insert, bytesOf]
    split
    next same =>
      subst same
      rfl
    · exact (UInt64.add_zero _).symm

theorem counts_recordRx (source : SocketAddr) (bytes : Nat) (clock : Instant) :
    Counts state (recordRx state peerName source bytes clock)
      (bytesOf peerName bytes) fun _ => 0 where
  rxBytes := by
    intro queried
    rw [recordRx, stats_insert, bytesOf]
    split
    next same =>
      subst same
      rfl
    · exact (UInt64.add_zero _).symm
  txBytes := by
    intro queried
    rw [recordRx, stats_insert]
    split
    next same =>
      subst same
      exact (UInt64.add_zero _).symm
    · exact (UInt64.add_zero _).symm

/-- An entry with the counters of the peer counts nothing. -/
theorem counts_insert
    (sameRx : entry.rxBytes = (stats state peerName).rxBytes)
    (sameTx : entry.txBytes = (stats state peerName).txBytes) :
    Counts state (state.insert peerName entry) (fun _ => 0) fun _ => 0 where
  rxBytes := by
    intro queried
    rw [stats_insert]
    split
    next same =>
      subst same
      exact sameRx.trans (UInt64.add_zero _).symm
    · exact (UInt64.add_zero _).symm
  txBytes := by
    intro queried
    rw [stats_insert]
    split
    next same =>
      subst same
      exact sameTx.trans (UInt64.add_zero _).symm
    · exact (UInt64.add_zero _).symm

theorem counts_recordKeepalive (source : SocketAddr) (clock : Instant) :
    Counts state (recordKeepalive state peerName source clock) (fun _ => 0)
      fun _ => 0 :=
  counts_insert rfl rfl

theorem counts_clearEndpoint :
    Counts state (clearEndpoint state peerName) (fun _ => 0) fun _ => 0 := by
  unfold clearEndpoint
  split
  · exact .refl state
  next entry isEntry =>
    have isStats : stats state peerName = entry := by
      rw [stats, isEntry, Option.getD_some]
    exact counts_insert (by rw [isStats]) (by rw [isStats])

end PeerState

open PeerState (Counts bytesOf)

namespace Engine

/-- The data that a call opens, with the peer it came from. -/
def openedData? (engine : Engine snow) :
    EngineCall snow → Option (PeerName × Bytes)
  | .processInboundTransport frame _ _ now _ =>
      match Auth.decodePacket frame with
      | some (.transport sessionId counter ciphertext) =>
          match (engine.sessions.decryptTransport sessionId counter ciphertext
              now).1 with
          | .ok (some decrypted) =>
              match decrypted.msgType with
              | .data => some (decrypted.peerName, decrypted.payload)
              | .keepalive => none
          | _ => none
      | _ => none
  | _ => none

/-- The bytes of a peer's data that a call opens. -/
def receivedBytes
    (engine : Engine snow)
    (call : EngineCall snow)
    (queried : PeerName) :
    Nat :=
  (engine.openedData? call).elim 0 fun data =>
    bytesOf data.1 data.2.length queried

/-- The bytes sent to a peer that a call records. -/
def recordedBytes (call : EngineCall snow) (queried : PeerName) : Nat :=
  match call with
  | .recordTransportSent peerName bytes => bytesOf peerName bytes queried
  | _ => 0

/-- A call that changes sessions only counts nothing. -/
theorem counts_of_sessions
    {engine after : Engine snow}
    (withSessions : ∃ sessions, after = { engine with sessions }) :
    Counts engine.peers after.peers (fun _ => 0) fun _ => 0 := by
  obtain ⟨sessions, rfl⟩ := withSessions
  exact .refl engine.peers

theorem receivedBytes_of_none
    {engine : Engine snow}
    {call : EngineCall snow}
    (isOpened : engine.openedData? call = none) :
    engine.receivedBytes call = fun _ => 0 := by
  funext queried
  rw [receivedBytes, isOpened]
  rfl

theorem receivedBytes_of_some
    {engine : Engine snow}
    {call : EngineCall snow}
    {peerName : PeerName}
    {payload : Bytes}
    (isOpened : engine.openedData? call = some (peerName, payload)) :
    engine.receivedBytes call = bytesOf peerName payload.length := by
  funext queried
  rw [receivedBytes, isOpened]
  rfl

/-- A packet counts the data that is opened under its session. -/
theorem processTransport_counts
    (engine : Engine snow)
    (frame : Bytes)
    (source : SocketAddr)
    (draws : PeerName → Draw snow)
    (now clock : Instant)
    {sessionId : SessionId}
    {counter : UInt64}
    {ciphertext : Bytes}
    (isDecoded :
      Auth.decodePacket frame =
        some (.transport sessionId counter ciphertext)) :
    Counts engine.peers
      (engine.processTransport sessionId counter ciphertext source now
        clock).2.peers
      (engine.receivedBytes
        (.processInboundTransport frame source draws now clock))
      fun _ => 0 := by
  unfold processTransport
  dsimp only
  split
  next error isError =>
    rw [receivedBytes_of_none (by simp [openedData?, isDecoded, isError])]
    exact .refl engine.peers
  next isNone =>
    rw [receivedBytes_of_none (by simp [openedData?, isDecoded, isNone])]
    exact .refl engine.peers
  next decrypted isDecrypted =>
    split
    next isKeepalive =>
      rw [receivedBytes_of_none
        (by simp [openedData?, isDecoded, isDecrypted, isKeepalive])]
      have noted :
          Counts engine.peers
            (engine.peers.recordKeepalive decrypted.peerName source clock)
            (fun _ => 0) fun _ => 0 :=
        PeerState.counts_recordKeepalive source clock
      unfold processKeepalive
      dsimp only
      split
      · split <;> exact noted
      · exact noted
    next isData =>
      have isOpened :
          engine.openedData?
              (.processInboundTransport frame source draws now clock) =
            some (decrypted.peerName, decrypted.payload) := by
        simp [openedData?, isDecoded, isDecrypted, isData]
      rw [receivedBytes_of_some isOpened]
      have noted :
          Counts engine.peers
            (engine.peers.recordRx decrypted.peerName source
              decrypted.payload.length clock)
            (bytesOf decrypted.peerName decrypted.payload.length)
            fun _ => 0 :=
        PeerState.counts_recordRx source _ clock
      unfold processData
      dsimp only
      split <;> exact noted

/-- An inbound frame counts the data that it brings. -/
theorem processInboundTransport_counts
    (engine : Engine snow)
    (frame : Bytes)
    (source : SocketAddr)
    (draws : PeerName → Draw snow)
    (now clock : Instant) :
    Counts engine.peers
      (engine.processInboundTransport frame source draws now clock).2.peers
      (engine.receivedBytes
        (.processInboundTransport frame source draws now clock))
      fun _ => 0 := by
  unfold processInboundTransport
  split
  next isDecoded =>
    rw [receivedBytes_of_none (by simp [openedData?, isDecoded])]
    exact .refl engine.peers
  next handshakeId message isDecoded =>
    rw [receivedBytes_of_none (by simp [openedData?, isDecoded])]
    unfold processHandshakeInit
    split
    · exact .refl engine.peers
    · dsimp only
      split
      · exact .refl engine.peers
      · split
        · exact .refl engine.peers
        · split <;> exact .refl engine.peers
  next handshakeId message isDecoded =>
    rw [receivedBytes_of_none (by simp [openedData?, isDecoded])]
    unfold processHandshakeResponse
    dsimp only
    split
    · exact .refl engine.peers
    · exact .refl engine.peers
    · exact PeerState.counts_recordKeepalive _ _
  next isDecoded =>
    rw [receivedBytes_of_none (by simp [openedData?, isDecoded])]
    exact .refl engine.peers
  next isDecoded =>
    exact engine.processTransport_counts frame source draws now clock isDecoded

/-- What a call counts. -/
theorem perform_counts (engine : Engine snow) (call : EngineCall snow) :
    Counts engine.peers (engine.perform call).2.peers
      (engine.receivedBytes call) (recordedBytes call) := by
  cases call with
  | processOutboundIp packet draw now =>
      exact counts_of_sessions
        (engine.processOutboundIp_withSessions packet draw now)
  | createKeepalive peerName payload draw now =>
      exact counts_of_sessions
        (engine.createKeepalive_withSessions peerName payload draw now)
  | initiateHandshake peerName draw now =>
      exact counts_of_sessions
        (engine.initiateHandshake_withSessions peerName draw now)
  | invalidatePeer peerName =>
      exact .refl engine.peers
  | recordTransportSent peerName bytes =>
      exact PeerState.counts_recordTx bytes
  | updateResolvedEndpoint peerName endpoint =>
      rw [perform]
      unfold updateResolvedEndpoint
      dsimp only
      split
      · exact .refl engine.peers
      · split
        · exact .refl engine.peers
        · split
          · exact .refl engine.peers
          · exact PeerState.counts_clearEndpoint
  | processInboundTransport frame source draws now clock =>
      exact engine.processInboundTransport_counts frame source draws now clock

end Engine

namespace TunnelTurn

/-- The length of a peer's data that a turn opens. -/
def received? (turn : TunnelTurn snow) (peerName : PeerName) : Option Nat :=
  match (turn.before.call? turn.event).bind turn.before.engine.openedData? with
  | some (sender, payload) =>
      if sender = peerName then some payload.length else none
  | none => none

/-- Only a frame that the transport has taken is recorded. -/
theorem sent_recorded
    (turn : TunnelTurn snow)
    (enabled : turn.before.Enabled turn.event)
    {call : EngineCall snow}
    (isCall : turn.before.call? turn.event = some call)
    (peerName : PeerName) :
    (turn.sent? peerName).getD 0 = Engine.recordedBytes call peerName := by
  obtain ⟨before, event⟩ := turn
  change before.call? event = some call at isCall
  cases enabled with
  | read =>
      rw [Tunnel.call?] at isCall
      split at isCall
      · cases isCall
      · split at isCall <;> cases isCall
        rfl
  | received =>
      rw [Tunnel.call?] at isCall
      split at isCall <;> cases isCall
      rfl
  | scheduled isScheduled =>
      cases isCall
      cases call with
      | recordTransportSent =>
          cases isScheduled
      | _ =>
          rfl
  | @carriedOut worker action rest succeeded =>
      cases action with
      | writeIpPacket =>
          cases isCall
      | sendTransport recipient endpoint frame =>
          cases succeeded
          · cases isCall
          · cases isCall
            by_cases same : recipient = peerName
            · simp [sent?, Engine.recordedBytes, bytesOf, same]
            · simp [sent?, Engine.recordedBytes, bytesOf, same, Ne.symm same]

/-- What a turn counts. -/
theorem counts
    (turn : TunnelTurn snow)
    (enabled : turn.before.Enabled turn.event) :
    Counts turn.before.engine.peers
      (turn.before.engineAfter turn.event).peers
      (fun peerName => (turn.received? peerName).getD 0)
      fun peerName => (turn.sent? peerName).getD 0 := by
  cases isCall : turn.before.call? turn.event with
  | none =>
      have noneReceived (peerName : PeerName) :
          turn.received? peerName = none := by
        rw [received?, isCall]
        rfl
      have noneSent (peerName : PeerName) : turn.sent? peerName = none := by
        rw [sent?]
        split
        next worker recipient endpoint frame isEvent =>
          rw [isEvent] at isCall
          cases isCall
        · rfl
      rw [Tunnel.engineAfter, isCall]
      simp only [noneReceived, noneSent, Option.getD_none]
      exact .refl turn.before.engine.peers
  | some call =>
      have isReceived (peerName : PeerName) :
          (turn.received? peerName).getD 0 =
            turn.before.engine.receivedBytes call peerName := by
        rw [received?, isCall, Option.bind_some, Engine.receivedBytes]
        cases turn.before.engine.openedData? call with
        | none =>
            rfl
        | some data =>
            by_cases same : data.1 = peerName
            · simp [bytesOf, same]
            · simp [bytesOf, same, Ne.symm same]
      have isSent (peerName : PeerName) :
          (turn.sent? peerName).getD 0 =
            Engine.recordedBytes call peerName := by
        exact turn.sent_recorded enabled isCall peerName
      rw [Tunnel.engineAfter, isCall]
      simp only [isReceived, isSent]
      exact turn.before.engine.perform_counts call

end TunnelTurn

/--
In every run the statistics of a peer are, modulo 2^64, the lengths of all data
opened under its sessions and the lengths of all frames that the transport has
taken for it.
-/
theorem tunnel_statistics_exact
    {localStatic : Key}
    {router : Router}
    {packetInformation : Bool}
    {turns : List (TunnelTurn snow)}
    {tunnel : Tunnel snow}
    (execution :
      Execution TunnelStep (.new localStatic router packetInformation) turns
        tunnel)
    (peerName : PeerName) :
    (tunnel.engine.peers.stats peerName).rxBytes =
        UInt64.ofNat (turns.filterMap (·.received? peerName)).sum ∧
      (tunnel.engine.peers.stats peerName).txBytes =
        UInt64.ofNat (turns.filterMap (·.sent? peerName)).sum := by
  refine execution.invariant
    (fun turns tunnel =>
      (tunnel.engine.peers.stats peerName).rxBytes =
          UInt64.ofNat (turns.filterMap (·.received? peerName)).sum ∧
        (tunnel.engine.peers.stats peerName).txBytes =
          UInt64.ofNat (turns.filterMap (·.sent? peerName)).sum)
    ⟨rfl, rfl⟩ ?_
  intro turns before turn after _ counted step
  obtain ⟨rfl, enabled, rfl⟩ := step
  have isCounted := turn.counts enabled
  refine ⟨(isCounted.rxBytes peerName).trans ?_,
    (isCounted.txBytes peerName).trans ?_⟩
  · rw [counted.1, List.filterMap_append, List.sum_append,
      UInt64.ofNat_add]
    cases isReceived : turn.received? peerName <;>
      simp [isReceived]
  · rw [counted.2, List.filterMap_append, List.sum_append,
      UInt64.ofNat_add]
    cases isSent : turn.sent? peerName <;> simp [isSent]

open TunnelExample in
/-- The packet that was opened and the response that was sent are counted. -/
theorem tunnel_statistics_exact_example :
    (opening.engine.peers.stats "first").rxBytes = 20 ∧
      (opening.engine.peers.stats "first").txBytes =
        UInt64.ofNat responseFrame.length := by
  obtain ⟨received, sent⟩ := tunnel_statistics_exact responder_execution "first"
  have isReceived :
      responderTurns.filterMap (·.received? "first") = [20] := by
    decide +kernel
  have isSent :
      responderTurns.filterMap (·.sent? "first") = [responseFrame.length] := by
    decide +kernel
  rw [isReceived] at received
  rw [isSent, List.sum_singleton] at sent
  exact ⟨received, sent⟩

end HushWire

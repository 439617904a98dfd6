import HushWire.ConfigurationPolicy
import HushWire.EndOfStream
import HushWire.Library.AssociationMap

namespace HushWire.PacketTunnel

/-!
# The transport of the packet tunnel

`HushWireNetworkTransport` owns one flow for each endpoint.  Everything it does
it does on its own queue: senders add blocks to the queue, and so do the
callbacks of the flows, which may come late and after the flow was given up.

A callback holds its flow weakly.  Once the flow is no longer in the table it
may be gone; the transport itself stays alive.
-/

/-- The identity of a `ConnectionState`: flows are numbered as they start. -/
abbrev FlowId := Nat

/-- The identity of a call of `send`. -/
abbrev SendId := Nat

/-- A `ConnectionState` and its connection. -/
structure Flow where
  endpoint : Endpoint
  tcpReadBuffer : Bytes
  /-- The calls of `receive` that have not come back. -/
  receives : Nat
  cancelled : Bool
  deriving DecidableEq

/-- What `stateUpdateHandler` is told. -/
inductive FlowUpdate where
  | failed (error : String)
  | waiting (error : String)
  | cancelled
  | other
  deriving DecidableEq

/-- A block on the queue. -/
inductive NetworkTransport.Item where
  | send (id : SendId) (frame : Bytes) (endpoint : Endpoint)
  | rebindUDP
  | reset
  | stop
  | received
      (flow : FlowId)
      (content : Option Bytes)
      (isComplete : Bool)
      (error : Option String)
  | contentProcessed (flow : FlowId) (id : SendId) (error : Option String)
  | stateUpdate (flow : FlowId) (update : FlowUpdate)
  deriving DecidableEq

/-- What a block hands to others. -/
inductive NetworkTransport.Output where
  /-- `frameHandler`. -/
  | frame (flow : FlowId) (endpoint : Endpoint) (frame : Bytes)
  /-- `eventHandler`. -/
  | event (message : String)
  /-- `connection.send`. -/
  | transmit (flow : FlowId) (id : SendId) (content : Bytes)
  | completion (id : SendId) (accepted : Bool)
  /-- The result of a call that waits for its block. -/
  | returned (result : Bool)
  deriving DecidableEq

structure NetworkTransport where
  mode : TransportKind
  queue : List NetworkTransport.Item
  connections : AssociationMap Endpoint FlowId
  running : Bool
  /-- Every flow that was started. -/
  flows : List Flow
  /-- The calls of `connection.send` that have not come back. -/
  sending : List (FlowId × SendId)
  /-- How often `send` was called. -/
  sendCount : Nat

namespace NetworkTransport

def new (mode : TransportKind) : NetworkTransport where
  mode := mode
  queue := []
  connections := ∅
  running := true
  flows := []
  sending := []
  sendCount := 0

/-- The flow is the one of its endpoint. -/
def current (transport : NetworkTransport) (flow : FlowId) : Option Flow :=
  transport.flows[flow]?.filter fun state =>
    transport.connections.lookup state.endpoint = some flow

def modifyFlow
    (transport : NetworkTransport)
    (flow : FlowId)
    (change : Flow → Flow) :
    NetworkTransport :=
  { transport with flows := transport.flows.modify flow change }

/-- `connection.cancel()`. -/
def cancel (flows : List Flow) (flow : FlowId) : List Flow :=
  flows.modify flow fun state => { state with cancelled := true }

def remove
    (transport : NetworkTransport)
    (flow : FlowId) :
    NetworkTransport :=
  match transport.current flow with
  | none => transport
  | some state =>
      { transport with
        connections := transport.connections.erase state.endpoint
        flows := cancel transport.flows flow }

def resetConnections (transport : NetworkTransport) : NetworkTransport :=
  { transport with
    connections := ∅
    flows :=
      (transport.connections.entries.map Sigma.snd).foldl cancel
        transport.flows }

def receiveNext
    (transport : NetworkTransport)
    (flow : FlowId) :
    NetworkTransport :=
  if transport.running ∧ (transport.current flow).isSome then
    transport.modifyFlow flow fun state =>
      { state with receives := state.receives + 1 }
  else
    transport

/-- `connection(for:)`. -/
def connectionFor
    (transport : NetworkTransport)
    (endpoint : Endpoint) :
    FlowId × NetworkTransport :=
  match transport.connections.lookup endpoint with
  | some existing => (existing, transport)
  | none =>
      let flow := transport.flows.length
      (flow,
        receiveNext
          { transport with
            connections := transport.connections.insert endpoint flow
            flows :=
              transport.flows ++
                [{ endpoint
                   tcpReadBuffer := []
                   receives := 0
                   cancelled := false }] }
          flow)

/-- What a callback hands to `frameHandler`, and what stays in the buffer. -/
def deliver
    (mode : TransportKind)
    (tcpReadBuffer : Bytes)
    (content : Option Bytes) :
    List Bytes × Bytes :=
  match mode with
  | .udp =>
      ((content.filter fun bytes => !bytes.isEmpty).toList, tcpReadBuffer)
  | .tcp => receiveContent tcpReadBuffer content

variable (foundation : Foundation)

/-- The block of `send`. -/
def runSend
    (transport : NetworkTransport)
    (id : SendId)
    (frame : Bytes)
    (endpoint : Endpoint) :
    List Output × NetworkTransport :=
  if transport.running = false then
    ([.completion id false], transport)
  else if
      ¬((endpoint.family = 4 ∨ endpoint.family = 6) ∧ endpoint.port ≠ 0) then
    ([.event s!"拒绝无效的 Peer endpoint：{endpoint.displayString foundation}",
        .completion id false],
      transport)
  else if ¬(transport.mode ≠ .tcp ∨ frame.length ≤ 65535) then
    ([.event "TCP 隧道帧超过 65535 字节，已丢弃。", .completion id false],
      transport)
  else
    let (flow, transport) := transport.connectionFor endpoint
    let content :=
      match transport.mode with
      | .tcp => tcpFrame frame
      | .udp => frame
    ([.transmit flow id content],
      { transport with sending := transport.sending ++ [(flow, id)] })

/-- The block of a `receive` that came back. -/
def runReceived
    (transport : NetworkTransport)
    (flow : FlowId)
    (content : Option Bytes)
    (isComplete : Bool)
    (error : Option String) :
    List Output × NetworkTransport :=
  match transport.running, transport.current flow with
  | true, some state =>
      let (frames, tcpReadBuffer) :=
        deliver transport.mode state.tcpReadBuffer content
      let outputs := frames.map (Output.frame flow state.endpoint)
      let peer := state.endpoint.displayString foundation
      let transport :=
        transport.modifyFlow flow fun state => { state with tcpReadBuffer }
      match error with
      | some error =>
          (outputs ++ [.event s!"从 {peer} 接收失败：{error}"],
            transport.remove flow)
      | none =>
          if transport.mode = .tcp ∧ isComplete then
            (outputs ++ [.event s!"Peer {peer} 已关闭 TCP 连接。"],
              transport.remove flow)
          else
            (outputs, transport.receiveNext flow)
  | _, _ => ([], transport)

/-- The block of a `send` of a flow that came back. -/
def runContentProcessed
    (transport : NetworkTransport)
    (flow : FlowId)
    (id : SendId)
    (error : Option String) :
    List Output × NetworkTransport :=
  match transport.flows[flow]?, error with
  | some state, some error =>
      ([.event s!"向 {state.endpoint.displayString foundation} 发送失败：{error}",
          .completion id false],
        transport.remove flow)
  | _, _ => ([.completion id true], transport)

/-- The block of `stateUpdateHandler`. -/
def runStateUpdate
    (transport : NetworkTransport)
    (flow : FlowId)
    (update : FlowUpdate) :
    List Output × NetworkTransport :=
  match transport.flows[flow]?, update with
  | some state, .failed error =>
      ([.event s!"到 {state.endpoint.displayString foundation} 的连接失败：{error}"],
        transport.remove flow)
  | some state, .waiting error =>
      ([.event
          s!"到 {state.endpoint.displayString foundation} 的连接正在等待网络：{error}"],
        transport)
  | some _, .cancelled => ([], transport.remove flow)
  | _, _ => ([], transport)

/-- A block of the queue. -/
def run
    (transport : NetworkTransport) :
    Item → List Output × NetworkTransport
  | .send id frame endpoint => transport.runSend foundation id frame endpoint
  | .rebindUDP =>
      if transport.running ∧ transport.mode = .udp then
        ([.event "UDP transport 已切换到新的本地流。", .returned true],
          transport.resetConnections)
      else
        ([.returned false], transport)
  | .reset =>
      if transport.running then
        ([.event "transport 已切换到重新解析的 Peer endpoint。", .returned true],
          transport.resetConnections)
      else
        ([.returned false], transport)
  | .stop =>
      if transport.running then
        ([], { transport.resetConnections with running := false })
      else
        ([], transport)
  | .received flow content isComplete error =>
      transport.runReceived foundation flow content isComplete error
  | .contentProcessed flow id error =>
      transport.runContentProcessed foundation flow id error
  | .stateUpdate flow update =>
      transport.runStateUpdate foundation flow update

/-- Something that happens to the transport. -/
inductive Event where
  /-- `send` is called. -/
  | send (frame : Bytes) (endpoint : Endpoint)
  /-- `rebindUDP`, `reset` or `stop` is called. -/
  | call (item : Item)
  /-- The first block of the queue is run. -/
  | ran (item : Item) (outputs : List Output)
  /-- The callback of `receive`. -/
  | received
      (flow : FlowId)
      (content : Option Bytes)
      (isComplete : Bool)
      (error : Option String)
  /-- The callback of `receive` finds its flow gone. -/
  | receivedLate (flow : FlowId)
  /-- The callback of `connection.send`. -/
  | contentProcessed (flow : FlowId) (id : SendId) (error : Option String)
  /-- The callback of `connection.send` finds its flow gone. -/
  | contentProcessedLate (flow : FlowId) (id : SendId)
  /-- The callback of `stateUpdateHandler`. -/
  | stateUpdate (flow : FlowId) (update : FlowUpdate)

/-- A receive of a flow has come back. -/
def receiveReturned
    (transport : NetworkTransport)
    (flow : FlowId) :
    NetworkTransport :=
  transport.modifyFlow flow fun state =>
    { state with receives := state.receives - 1 }

/-- A send of a flow has come back. -/
def sendReturned
    (transport : NetworkTransport)
    (flow : FlowId)
    (id : SendId) :
    NetworkTransport :=
  { transport with sending := transport.sending.erase (flow, id) }

/-- A block is added to the queue. -/
def enqueue (transport : NetworkTransport) (item : Item) : NetworkTransport :=
  { transport with queue := transport.queue ++ [item] }

/--
The steps of the transport.  A connection calls back once for each `receive`
and for each `send`; its state may change at any time.
-/
inductive Step : NetworkTransport → Event → NetworkTransport → Prop where
  | send
      {transport : NetworkTransport}
      {frame : Bytes}
      {endpoint : Endpoint} :
      Step transport (.send frame endpoint)
        { transport.enqueue (.send transport.sendCount frame endpoint) with
          sendCount := transport.sendCount + 1 }
  | call
      {transport : NetworkTransport}
      {item : Item} :
      item = .rebindUDP ∨ item = .reset ∨ item = .stop →
      Step transport (.call item) (transport.enqueue item)
  | ran
      {transport : NetworkTransport}
      {item : Item}
      {rest : List Item} :
      transport.queue = item :: rest →
      Step transport
        (.ran item (run foundation { transport with queue := rest } item).1)
        (run foundation { transport with queue := rest } item).2
  | received
      {transport : NetworkTransport}
      {flow : FlowId}
      {state : Flow}
      {content : Option Bytes}
      {isComplete : Bool}
      {error : Option String} :
      transport.flows[flow]? = some state →
      0 < state.receives →
      Step transport (.received flow content isComplete error)
        ((transport.receiveReturned flow).enqueue
          (.received flow content isComplete error))
  | receivedLate
      {transport : NetworkTransport}
      {flow : FlowId}
      {state : Flow} :
      transport.flows[flow]? = some state →
      0 < state.receives →
      transport.current flow = none →
      Step transport (.receivedLate flow) (transport.receiveReturned flow)
  | contentProcessed
      {transport : NetworkTransport}
      {flow : FlowId}
      {id : SendId}
      {error : Option String} :
      (flow, id) ∈ transport.sending →
      Step transport (.contentProcessed flow id error)
        ((transport.sendReturned flow id).enqueue
          (.contentProcessed flow id error))
  | contentProcessedLate
      {transport : NetworkTransport}
      {flow : FlowId}
      {id : SendId} :
      (flow, id) ∈ transport.sending →
      transport.current flow = none →
      Step transport (.contentProcessedLate flow id)
        (transport.sendReturned flow id)
  | stateUpdate
      {transport : NetworkTransport}
      {flow : FlowId}
      {state : Flow}
      {update : FlowUpdate} :
      transport.flows[flow]? = some state →
      Step transport (.stateUpdate flow update)
        (transport.enqueue (.stateUpdate flow update))

/-- What an event hands to others. -/
def Event.outputs : Event → List Output
  | .ran _ outputs => outputs
  | .contentProcessedLate _ id => [.completion id false]
  | _ => []

end NetworkTransport

end HushWire.PacketTunnel

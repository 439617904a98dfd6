import HushWire.Packet
import HushWire.TcpTransport

namespace HushWire

/-!
# The UDP transport and its socket

All clones of the UDP transport share a cell with the socket.  A call takes a
clone of the socket's `Arc` out of the cell, waits for the operating system and
drops the clone with the answer; a rebind puts another socket in the cell,
while others still wait at the old one.  A receiver that is woken without a
datagram takes the socket anew.  A socket is closed, with what waits there,
when its last clone is dropped.

Threads and sockets are numbered.  A rebind that puts its socket in the cell
returns by the same step, and the transport itself is never dropped.
-/

/-- A datagram, with where it comes from. -/
structure Datagram where
  bytes : Bytes
  source : SocketAddr
  deriving DecidableEq

/--
A socket, with what has arrived and was not read, and the strong count of its
`Arc`.  It is closed when the count is zero.
-/
structure UdpSocket where
  localAddr : SocketAddr
  queue : List Datagram
  strong : Nat
  deriving DecidableEq

namespace UdpSocket

/-- `Arc::clone`. -/
def clone (socket : UdpSocket) : UdpSocket :=
  { socket with strong := socket.strong + 1 }

/-- A clone is dropped, and the socket with the last one. -/
def drop (socket : UdpSocket) : UdpSocket :=
  if socket.strong ≤ 1 then
    { socket with queue := [], strong := 0 }
  else
    { socket with strong := socket.strong - 1 }

/-- A datagram arrives. -/
def push (datagram : Datagram) (socket : UdpSocket) : UdpSocket :=
  { socket with queue := socket.queue ++ [datagram] }

end UdpSocket

/-- The part of the buffer that was filled, and the source. -/
structure ReceivedPacket where
  bytes : Bytes
  source : SocketAddr
  deriving DecidableEq

structure RebindResult where
  previous : SocketAddr
  current : SocketAddr
  deriving DecidableEq

abbrev UdpThread := Nat

abbrev SocketId := Nat

/-- A call of the transport. -/
inductive UdpRequest where
  | sendTo (frame : Bytes) (endpoint : SocketAddr)
  | recvFrom (capacity : Nat)
  | localAddr
  | rebindToEphemeral
  deriving DecidableEq

/-- What a call returns. -/
inductive UdpReply where
  | sent (result : Except IoError Nat)
  | received (result : Except IoError ReceivedPacket)
  | address (result : Except IoError SocketAddr)
  | rebound (result : Except IoError RebindResult)
  deriving DecidableEq

/-- What the operating system answers a call at a socket. -/
inductive SocketAnswer where
  | sent (count : Nat)
  | datagram (datagram : Datagram)
  | address
  | failed (error : IoError)
  deriving DecidableEq

/-- A receiver that gets such an error goes on. -/
def ErrorKind.retried : ErrorKind → Bool
  | .wouldBlock | .timedOut | .interrupted => true
  | _ => false

/--
What is left of a socket's queue after an answer, if the system can give it:
a receiver is told to try again only where no datagram waits.
-/
def SocketAnswer.queueAfter
    (request : UdpRequest) :
    SocketAnswer → List Datagram → Option (List Datagram)
  | .datagram received, first :: rest =>
      if first = received then some rest else none
  | .datagram _, [] => none
  | .failed error, first :: rest =>
      match request with
      | .recvFrom _ =>
          if error.kind.retried then none else some (first :: rest)
      | _ => some (first :: rest)
  | _, queue => some queue

/-- How far a thread is with its call. -/
inductive UdpTask where
  | idle
  /-- The socket is to be taken out of the cell. -/
  | loads (request : UdpRequest)
  /-- The operating system has the call, at a socket. -/
  | waits (request : UdpRequest) (socket : SocketId)
  /-- A socket is to be bound to the address, but for the port. -/
  | binds (previous : SocketAddr)
  /-- The socket is to be put in the cell. -/
  | installs (previous : SocketAddr) (socket : SocketId)
  deriving DecidableEq

/-- What a call does with the answer at its socket. -/
def UdpRequest.answered
    (socket : UdpSocket) :
    UdpRequest → SocketAnswer → Option (UdpTask × Option UdpReply)
  | .sendTo _ _, .sent count => some (.idle, some (.sent (.ok count)))
  | .sendTo _ _, .failed error => some (.idle, some (.sent (.error error)))
  | .recvFrom capacity, .datagram datagram =>
      some
        (.idle,
          some
            (.received
              (.ok
                { bytes := datagram.bytes.take capacity
                  source := datagram.source })))
  | .recvFrom capacity, .failed error =>
      if error.kind.retried then
        some (.loads (.recvFrom capacity), none)
      else
        some (.idle, some (.received (.error error)))
  | .localAddr, .address =>
      some (.idle, some (.address (.ok socket.localAddr)))
  | .localAddr, .failed error =>
      some (.idle, some (.address (.error error)))
  | .rebindToEphemeral, .address => some (.binds socket.localAddr, none)
  | .rebindToEphemeral, .failed error =>
      some (.idle, some (.rebound (.error error)))
  | _, _ => none

structure UdpTransport where
  current : SocketId
  sockets : List UdpSocket
  tasks : UdpThread → UdpTask

/-- What happens to the transport. -/
inductive UdpEvent where
  | arrive (socket : SocketId) (datagram : Datagram)
  | call (thread : UdpThread) (request : UdpRequest)
  /-- The thread takes the socket out of the cell, `active_socket`. -/
  | load (thread : UdpThread)
  | answer (thread : UdpThread) (socket : SocketId) (answer : SocketAnswer)
  /-- The operating system binds a socket to a port of its choice. -/
  | bind (thread : UdpThread) (result : Except IoError SocketAddr)
  | install (thread : UdpThread) (socket : SocketId)
  deriving DecidableEq

/-- An event, with what a call returns by it. -/
structure UdpTurn where
  event : UdpEvent
  reply : Option UdpReply
  deriving DecidableEq

namespace UdpTransport

/-- `UdpTransport::bind`. -/
def bound (listen : SocketAddr) : UdpTransport where
  current := 0
  sockets := [{ localAddr := listen, queue := [], strong := 1 }]
  tasks _ := .idle

def setTask
    (transport : UdpTransport)
    (thread : UdpThread)
    (task : UdpTask) :
    UdpTransport :=
  { transport with tasks := Function.update transport.tasks thread task }

/-- The datagrams that wait at a socket. -/
def queueOf (transport : UdpTransport) (socket : SocketId) : List Datagram :=
  (transport.sockets[socket]?.map UdpSocket.queue).getD []

def modifySocket
    (transport : UdpTransport)
    (socket : SocketId)
    (change : UdpSocket → UdpSocket) :
    UdpTransport :=
  { transport with sockets := transport.sockets.modify socket change }

/-- Someone holds the socket. -/
def isOpen (transport : UdpTransport) (socket : SocketId) : Bool :=
  transport.sockets[socket]?.any fun found => found.strong ≠ 0

/-- The address of the socket in the cell. -/
def activeAddr (transport : UdpTransport) : Option SocketAddr :=
  transport.sockets[transport.current]?.map UdpSocket.localAddr

/-- What an event does, if it can happen, and what a call returns by it. -/
def next? (transport : UdpTransport) :
    UdpEvent → Option (Option UdpReply × UdpTransport)
  | .arrive socket datagram =>
      if transport.isOpen socket then
        some (none, transport.modifySocket socket (.push datagram))
      else
        none
  | .call thread request =>
      match transport.tasks thread with
      | .idle => some (none, transport.setTask thread (.loads request))
      | _ => none
  | .load thread =>
      match transport.tasks thread with
      | .loads request =>
          some
            (none,
              (transport.modifySocket transport.current .clone).setTask thread
                (.waits request transport.current))
      | _ => none
  | .answer thread socket answer =>
      match transport.tasks thread, transport.sockets[socket]? with
      | .waits request held, some found =>
          if held = socket then
            match request.answered found answer,
                answer.queueAfter request found.queue with
            | some (task, reply), some queue =>
                some
                  (reply,
                    (transport.modifySocket socket fun found =>
                      { found with queue }.drop).setTask thread task)
            | _, _ => none
          else
            none
      | _, _ => none
  | .bind thread result =>
      match transport.tasks thread, result with
      | .binds _, .error error =>
          some (some (.rebound (.error error)), transport.setTask thread .idle)
      | .binds previous, .ok current =>
          if current.ip = previous.ip then
            some
              (none,
                { transport.setTask thread
                    (.installs previous transport.sockets.length) with
                  sockets :=
                    transport.sockets ++
                      [{ localAddr := current, queue := [], strong := 1 }] })
          else
            none
      | _, _ => none
  | .install thread socket =>
      match transport.tasks thread, transport.sockets[socket]? with
      | .installs previous held, some found =>
          if held = socket then
            some
              (some
                  (.rebound (.ok { previous, current := found.localAddr })),
                { (transport.modifySocket transport.current .drop).setTask
                    thread .idle with
                  current := socket })
          else
            none
      | _, _ => none

/-- A turn of the transport. -/
def Step
    (transport : UdpTransport)
    (turn : UdpTurn)
    (next : UdpTransport) :
    Prop :=
  transport.next? turn.event = some (turn.reply, next)

/-- What a turn does. -/
inductive Turned (before : UdpTransport) : UdpTurn → UdpTransport → Prop where
  | arrive
      {socket : SocketId}
      {datagram : Datagram} :
      before.isOpen socket = true →
      Turned before ⟨.arrive socket datagram, none⟩
        (before.modifySocket socket (.push datagram))
  | call
      {thread : UdpThread}
      {request : UdpRequest} :
      before.tasks thread = .idle →
      Turned before ⟨.call thread request, none⟩
        (before.setTask thread (.loads request))
  | load
      {thread : UdpThread}
      {request : UdpRequest} :
      before.tasks thread = .loads request →
      Turned before ⟨.load thread, none⟩
        ((before.modifySocket before.current .clone).setTask thread
          (.waits request before.current))
  | answer
      {thread : UdpThread}
      {request : UdpRequest}
      {socket : SocketId}
      {found : UdpSocket}
      {answer : SocketAnswer}
      {task : UdpTask}
      {reply : Option UdpReply}
      {queue : List Datagram} :
      before.tasks thread = .waits request socket →
      before.sockets[socket]? = some found →
      request.answered found answer = some (task, reply) →
      answer.queueAfter request found.queue = some queue →
      Turned before ⟨.answer thread socket answer, reply⟩
        ((before.modifySocket socket fun found =>
          { found with queue }.drop).setTask thread task)
  | bindFailed
      {thread : UdpThread}
      {previous : SocketAddr}
      {error : IoError} :
      before.tasks thread = .binds previous →
      Turned before
        ⟨.bind thread (.error error), some (.rebound (.error error))⟩
        (before.setTask thread .idle)
  | bind
      {thread : UdpThread}
      {previous current : SocketAddr} :
      before.tasks thread = .binds previous →
      current.ip = previous.ip →
      Turned before ⟨.bind thread (.ok current), none⟩
        { before.setTask thread
            (.installs previous before.sockets.length) with
          sockets :=
            before.sockets ++
              [{ localAddr := current, queue := [], strong := 1 }] }
  | install
      {thread : UdpThread}
      {previous : SocketAddr}
      {socket : SocketId}
      {found : UdpSocket} :
      before.tasks thread = .installs previous socket →
      before.sockets[socket]? = some found →
      Turned before
        ⟨.install thread socket,
          some (.rebound (.ok { previous, current := found.localAddr }))⟩
        { (before.modifySocket before.current .drop).setTask thread .idle with
          current := socket }

theorem Step.turned
    {before after : UdpTransport}
    {turn : UdpTurn}
    (step : Step before turn after) :
    Turned before turn after := by
  obtain ⟨event, reply⟩ := turn
  unfold Step at step
  cases event with
  | arrive socket datagram =>
      simp only [next?] at step
      split at step
      case isTrue open' =>
        cases step
        exact .arrive open'
      case isFalse =>
        cases step
  | call thread request =>
      simp only [next?] at step
      split at step
      case h_1 isIdle =>
        cases step
        exact .call isIdle
      case h_2 =>
        cases step
  | load thread =>
      simp only [next?] at step
      split at step
      case h_1 request loads =>
        cases step
        exact .load loads
      case h_2 =>
        cases step
  | answer thread socket answer =>
      simp only [next?] at step
      split at step
      case h_2 =>
        cases step
      case h_1 request held found waits isFound =>
        split at step
        case isFalse =>
          cases step
        case isTrue isHeld =>
          subst isHeld
          split at step
          case h_2 =>
            cases step
          case h_1 task answered queue isAnswered isQueue =>
            cases step
            exact .answer waits isFound isAnswered isQueue
  | bind thread result =>
      simp only [next?] at step
      split at step
      case h_1 previous error binds =>
        cases step
        exact .bindFailed binds
      case h_2 previous current binds =>
        split at step
        case isTrue sameIp =>
          cases step
          exact .bind binds sameIp
        case isFalse =>
          cases step
      case h_3 =>
        cases step
  | install thread socket =>
      simp only [next?] at step
      split at step
      case h_2 =>
        cases step
      case h_1 previous held found installs isFound =>
        split at step
        case isFalse =>
          cases step
        case isTrue isHeld =>
          subst isHeld
          cases step
          exact .install installs isFound

end UdpTransport

end HushWire

import HushWire.Library.AssociationMap
import HushWire.Packet
import HushWire.TcpFraming

namespace HushWire

/-!
# The TCP connection map

The accept thread, the senders and the receiver share a map from addresses to
connections and lock it for one access at a time.  Between its lookup and its
insertion, or its snapshot and its removal, a thread holds no lock, and it
names a connection by its address only.  Only failed connections leave the map
as long as nothing has taken the place of what a thread saw.
-/

/-- The stream does not go on after this answer. -/
def WriteOutcome.Fails : WriteOutcome → Prop
  | .written count => count = 0
  | .failed error =>
      error.kind ≠ .interrupted ∧ error.kind ≠ .wouldBlock ∧
        error.kind ≠ .timedOut

/-- The stream does not go on after this answer. -/
def ReadOutcome.Fails : ReadOutcome → Prop
  | .data bytes => bytes = []
  | .failed error =>
      error.kind ≠ .interrupted ∧ error.kind ≠ .wouldBlock ∧
        error.kind ≠ .timedOut

/-- Flushing fails only where the stream does. -/
theorem PendingWrites.flushTo_error
    {pending : PendingWrites}
    {outcomes : List WriteOutcome}
    {error : IoError}
    (failed : (pending.flushTo outcomes).1 = .error error) :
    ∃ outcome ∈ outcomes, outcome.Fails := by
  induction outcomes generalizing pending with
  | nil =>
      unfold flushTo at failed
      split at failed <;> cases failed
  | cons outcome outcomes inductionHypothesis =>
      have later
          {rest : PendingWrites}
          (failsLater : (rest.flushTo outcomes).1 = .error error) :
          ∃ other ∈ outcome :: outcomes, other.Fails := by
        obtain ⟨other, member, fails⟩ := inductionHypothesis failsLater
        exact ⟨other, List.mem_cons_of_mem _ member, fails⟩
      unfold flushTo at failed
      split at failed
      · cases outcome with
        | written count =>
            cases count with
            | zero => exact ⟨_, List.mem_cons_self, rfl⟩
            | succ count => exact later failed
        | failed reason =>
            dsimp only at failed
            split at failed
            · exact later failed
            · cases failed
            · cases failed
            · rename_i notInterrupted notWouldBlock notTimedOut
              exact
                ⟨_, List.mem_cons_self, notInterrupted, notWouldBlock,
                  notTimedOut⟩
      · cases failed

namespace ConnState

/-- Reading fails only where the stream does. -/
theorem readAvailable_error
    {readBuf : Bytes}
    {outcomes : List ReadOutcome}
    {error : IoError}
    (failed : (readAvailable readBuf outcomes).1 = .error error) :
    ∃ outcome ∈ outcomes, outcome.Fails := by
  induction outcomes generalizing readBuf with
  | nil =>
      cases failed
  | cons outcome outcomes inductionHypothesis =>
      have later
          {buffer : Bytes}
          (failsLater : (readAvailable buffer outcomes).1 = .error error) :
          ∃ other ∈ outcome :: outcomes, other.Fails := by
        obtain ⟨other, member, fails⟩ := inductionHypothesis failsLater
        exact ⟨other, List.mem_cons_of_mem _ member, fails⟩
      cases outcome with
      | data bytes =>
          cases bytes with
          | nil => exact ⟨_, List.mem_cons_self, rfl⟩
          | cons byte bytes => exact later failed
      | failed reason =>
          unfold readAvailable at failed
          split at failed
          · cases failed
          · exact later failed
          · exact later failed
          · rename_i notWouldBlock notInterrupted notTimedOut
            exact
              ⟨_, List.mem_cons_self, notInterrupted, notWouldBlock,
                notTimedOut⟩

/-- A call fails only where the stream does. -/
theorem tryReadFrame_error
    {conn : ConnState}
    {writes : List WriteOutcome}
    {reads : List ReadOutcome}
    {error : IoError}
    (failed : (conn.tryReadFrame writes reads).1 = .error error) :
    (∃ outcome ∈ writes, outcome.Fails) ∨
      ∃ outcome ∈ reads, outcome.Fails := by
  unfold tryReadFrame at failed
  cases flushed : (conn.pendingWrites.flushTo writes).1 with
  | error reason =>
      exact .inl (PendingWrites.flushTo_error flushed)
  | ok =>
      cases available : (readAvailable conn.readBuf reads).1 with
      | error reason =>
          exact .inr (readAvailable_error available)
      | ok =>
          simp only [flushed, available, assemble_eq] at failed
          split at failed <;> cases failed

end ConnState

/-- Connections are numbered in the order in which they were made. -/
abbrev ConnectionId := Nat

abbrev ThreadId := Nat

/-- Where a thread stands in `send_to`. -/
inductive Sender where
  | idle
  /-- The lookup of `get_or_dial` has found nothing. -/
  | dialing (endpoint : SocketAddr)
  /-- The connection stands, and is not yet in the map. -/
  | dialed (endpoint : SocketAddr) (conn : ConnectionId)
  /-- `get_or_dial` has returned. -/
  | connected (endpoint : SocketAddr) (conn : ConnectionId)

/-- Where the receiver stands in `recv_from`. -/
inductive Receiver where
  | idle
  /-- The entries of the snapshot that are still to be read. -/
  | reading (entries : List (SocketAddr × ConnectionId))
  /-- A read has failed, and the entry is to be removed. -/
  | removing
      (address : SocketAddr)
      (conn : ConnectionId)
      (entries : List (SocketAddr × ConnectionId))

/-- What `recv_from` does after a call of `try_read_frame`. -/
def Receiver.next
    (address : SocketAddr)
    (conn : ConnectionId)
    (entries : List (SocketAddr × ConnectionId)) :
    Except IoError (Option Bytes) → Receiver
  | .ok (some _) => .idle
  | .ok none => .reading entries
  | .error _ => .removing address conn entries

structure TcpTransport where
  connections : AssociationMap SocketAddr ConnectionId
  /-- Every connection that was ever made. -/
  conns : List ConnState
  /-- The connections whose streams have failed or been closed. -/
  failed : List ConnectionId
  /-- What the accept thread has accepted and not yet inserted. -/
  accepted : Option (SocketAddr × ConnectionId)
  senders : ThreadId → Sender
  receiver : Receiver
  /-- The endpoints and connections on which frames were queued. -/
  queued : List (SocketAddr × ConnectionId)

namespace TcpTransport

/-- `TcpTransport::bind`. -/
def bind : TcpTransport where
  connections := ∅
  conns := []
  failed := []
  accepted := none
  senders := fun _ => .idle
  receiver := .idle
  queued := []

inductive Event where
  | accept (address : SocketAddr)
  | insertAccepted
  | lookup (thread : ThreadId) (endpoint : SocketAddr)
  | dial (thread : ThreadId)
  | dialFails (thread : ThreadId)
  | insertDialed (thread : ThreadId)
  | queueFrame
      (thread : ThreadId)
      (frame : Bytes)
      (earlier later : List WriteOutcome)
  | fail (conn : ConnectionId)
  | snapshot
  | tryReadFrame (writes : List WriteOutcome) (reads : List ReadOutcome)
  | poisoned
  | remove
  | sleep

/-- The sender of a thread is now there. -/
def setSender
    (transport : TcpTransport)
    (thread : ThreadId)
    (sender : Sender) :
    TcpTransport :=
  { transport with
    senders := Function.update transport.senders thread sender }

/--
The steps of all threads, each with at most one access to the map.  A stream
may fail at any time, and answers so only when it has failed.
-/
inductive Step : TcpTransport → Event → TcpTransport → Prop where
  | accept
      {before : TcpTransport}
      {address : SocketAddr} :
      before.accepted = none →
      Step before (.accept address)
        { before with
          conns := before.conns ++ [.new]
          accepted := some (address, before.conns.length) }
  | insertAccepted
      {before : TcpTransport}
      {address : SocketAddr}
      {conn : ConnectionId} :
      before.accepted = some (address, conn) →
      Step before .insertAccepted
        { before with
          connections := before.connections.insert address conn
          accepted := none }
  | found
      {before : TcpTransport}
      {thread : ThreadId}
      {endpoint : SocketAddr}
      {conn : ConnectionId} :
      before.senders thread = .idle →
      before.connections.lookup endpoint = some conn →
      Step before (.lookup thread endpoint)
        (before.setSender thread (.connected endpoint conn))
  | missed
      {before : TcpTransport}
      {thread : ThreadId}
      {endpoint : SocketAddr} :
      before.senders thread = .idle →
      before.connections.lookup endpoint = none →
      Step before (.lookup thread endpoint)
        (before.setSender thread (.dialing endpoint))
  | dial
      {before : TcpTransport}
      {thread : ThreadId}
      {endpoint : SocketAddr} :
      before.senders thread = .dialing endpoint →
      Step before (.dial thread)
        { before.setSender thread (.dialed endpoint before.conns.length) with
          conns := before.conns ++ [.new] }
  | dialFails
      {before : TcpTransport}
      {thread : ThreadId}
      {endpoint : SocketAddr} :
      before.senders thread = .dialing endpoint →
      Step before (.dialFails thread) (before.setSender thread .idle)
  | insertDialed
      {before : TcpTransport}
      {thread : ThreadId}
      {endpoint : SocketAddr}
      {conn : ConnectionId} :
      before.senders thread = .dialed endpoint conn →
      Step before (.insertDialed thread)
        { before.setSender thread (.connected endpoint conn) with
          connections := before.connections.insert endpoint conn }
  | queueFrame
      {before : TcpTransport}
      {thread : ThreadId}
      {endpoint : SocketAddr}
      {conn : ConnectionId}
      {state after : ConnState}
      {frame written : Bytes}
      {earlier later : List WriteOutcome}
      {result : Except IoError Unit} :
      before.senders thread = .connected endpoint conn →
      before.conns[conn]? = some state →
      ((∃ outcome ∈ earlier ++ later, outcome.Fails) →
        conn ∈ before.failed) →
      state.queueFrame frame earlier later = (result, after, written) →
      Step before (.queueFrame thread frame earlier later)
        { before.setSender thread .idle with
          conns := before.conns.set conn after
          queued :=
            match result with
            | .ok () => before.queued ++ [(endpoint, conn)]
            | .error _ => before.queued }
  | fail
      {before : TcpTransport}
      {conn : ConnectionId} :
      conn < before.conns.length →
      Step before (.fail conn) { before with failed := conn :: before.failed }
  | snapshot
      {before : TcpTransport}
      {entries : List (SocketAddr × ConnectionId)} :
      before.receiver = .idle →
      entries.Perm
        (before.connections.entries.map fun entry => (entry.1, entry.2)) →
      Step before .snapshot { before with receiver := .reading entries }
  | tryReadFrame
      {before : TcpTransport}
      {address : SocketAddr}
      {conn : ConnectionId}
      {entries : List (SocketAddr × ConnectionId)}
      {state after : ConnState}
      {writes : List WriteOutcome}
      {reads : List ReadOutcome}
      {result : Except IoError (Option Bytes)}
      {written : Bytes} :
      before.receiver = .reading ((address, conn) :: entries) →
      before.conns[conn]? = some state →
      ((∃ outcome ∈ writes, outcome.Fails) ∨
          (∃ outcome ∈ reads, outcome.Fails) →
        conn ∈ before.failed) →
      state.tryReadFrame writes reads = (result, after, written) →
      Step before (.tryReadFrame writes reads)
        { before with
          conns := before.conns.set conn after
          receiver := .next address conn entries result }
  | poisoned
      {before : TcpTransport}
      {entry : SocketAddr × ConnectionId}
      {entries : List (SocketAddr × ConnectionId)} :
      before.receiver = .reading (entry :: entries) →
      Step before .poisoned { before with receiver := .reading entries }
  | remove
      {before : TcpTransport}
      {address : SocketAddr}
      {conn : ConnectionId}
      {entries : List (SocketAddr × ConnectionId)} :
      before.receiver = .removing address conn entries →
      Step before .remove
        { before with
          connections := before.connections.erase address
          receiver := .reading entries }
  | sleep
      {before : TcpTransport} :
      before.receiver = .reading [] →
      Step before .sleep { before with receiver := .idle }

/-- An entry is removed or overwritten only if its connection has failed. -/
def OnlyFailedLeave (before after : TcpTransport) : Prop :=
  ∀ address conn, before.connections.lookup address = some conn →
    after.connections.lookup address = some conn ∨ conn ∈ before.failed

/-- The connection is in the map under its address, unless it has failed. -/
def Reads
    (transport : TcpTransport)
    (address : SocketAddr)
    (conn : ConnectionId) :
    Prop :=
  transport.connections.lookup address = some conn ∨ conn ∈ transport.failed

/--
What a thread saw still holds when it acts on it: a sender has found nothing
under its endpoint, the receiver has read the connection that it removes, and
what the accept thread was given is the only open connection from its address.
-/
def Undisturbed (before : TcpTransport) : Event → Prop
  | .accept address =>
      ∀ other, before.connections.lookup address = some other →
        other ∈ before.failed
  | .insertDialed thread =>
      ∀ endpoint conn, before.senders thread = .dialed endpoint conn →
        before.connections.lookup endpoint = none ∧
          ∀ other, before.accepted ≠ some (endpoint, other)
  | .remove =>
      ∀ address conn entries,
        before.receiver = .removing address conn entries →
          ∀ other, before.connections.lookup address = some other →
            other = conn
  | _ => True

/-- What the threads know of connections that they have used. -/
structure Tracked (transport : TcpTransport) : Prop where
  /-- Only a failed connection is replaced by an accepted one. -/
  accepted :
    ∀ address conn, transport.accepted = some (address, conn) →
      ∀ other, transport.connections.lookup address = some other →
        other ∈ transport.failed
  /-- Only a failed read leads to a removal. -/
  removing :
    ∀ address conn entries,
      transport.receiver = .removing address conn entries →
        conn ∈ transport.failed
  connected :
    ∀ thread endpoint conn,
      transport.senders thread = .connected endpoint conn →
        transport.Reads endpoint conn
  queued :
    ∀ endpoint conn, (endpoint, conn) ∈ transport.queued →
      transport.Reads endpoint conn

theorem Tracked.bind : Tracked bind where
  accepted := by
    intro address conn accepted
    cases accepted
  removing := by
    intro address conn entries removing
    cases removing
  connected := by
    intro thread endpoint conn connected
    cases connected
  queued := by
    intro endpoint conn member
    cases member

/-- A step without an insertion or removal leaves every entry. -/
theorem OnlyFailedLeave.of_eq
    {before after : TcpTransport}
    (same : after.connections = before.connections) :
    OnlyFailedLeave before after := by
  intro address conn isEntry
  rw [same]
  exact .inl isEntry

/-- Failed connections stay failed. -/
theorem Step.failed
    {before after : TcpTransport}
    {event : Event}
    (taken : Step before event after) :
    ∀ conn ∈ before.failed, conn ∈ after.failed := by
  intro conn member
  cases taken with
  | fail => exact List.mem_cons_of_mem _ member
  | _ => exact member

/-- A thread that acts on what still holds removes only failed connections. -/
theorem Step.onlyFailedLeave
    {before after : TcpTransport}
    {event : Event}
    (tracked : before.Tracked)
    (undisturbed : before.Undisturbed event)
    (taken : Step before event after) :
    OnlyFailedLeave before after := by
  cases taken with
  | @insertAccepted address conn accepted =>
      intro other entry isEntry
      by_cases same : other = address
      · subst same
        exact .inr (tracked.accepted _ _ accepted entry isEntry)
      · exact .inl ((AList.lookup_insert_ne same).trans isEntry)
  | @insertDialed thread endpoint conn dialed =>
      intro other entry isEntry
      by_cases same : other = endpoint
      · subst same
        rw [(undisturbed _ _ dialed).1] at isEntry
        cases isEntry
      · exact .inl ((AList.lookup_insert_ne same).trans isEntry)
  | @remove address conn entries removing =>
      intro other entry isEntry
      by_cases same : other = address
      · subst same
        rw [undisturbed _ _ _ removing _ isEntry]
        exact .inr (tracked.removing _ _ _ removing)
      · exact .inl ((AList.lookup_erase_ne same).trans isEntry)
  | _ => exact .of_eq rfl

/-- Entries that stay are read as before. -/
theorem OnlyFailedLeave.reads
    {before after : TcpTransport}
    {address : SocketAddr}
    {conn : ConnectionId}
    (onlyFailed : OnlyFailedLeave before after)
    (stayFailed : ∀ other ∈ before.failed, other ∈ after.failed)
    (reads : before.Reads address conn) :
    after.Reads address conn := by
  rcases reads with isEntry | failed
  · exact (onlyFailed address conn isEntry).imp_right (stayFailed conn)
  · exact .inr (stayFailed conn failed)

/-- Nothing is inserted under the address of an accepted connection. -/
theorem Tracked.accepted_step
    {before after : TcpTransport}
    {event : Event}
    (tracked : before.Tracked)
    (undisturbed : before.Undisturbed event)
    (taken : Step before event after)
    {address : SocketAddr}
    {conn other : ConnectionId}
    (accepted : after.accepted = some (address, conn))
    (isEntry : after.connections.lookup address = some other) :
    other ∈ after.failed := by
  cases taken with
  | accept =>
      obtain ⟨rfl, _⟩ := Prod.mk.inj (Option.some.inj accepted)
      exact undisturbed other isEntry
  | insertAccepted =>
      cases accepted
  | @insertDialed thread endpoint dialed isDialed =>
      have isOther : address ≠ endpoint := by
        rintro rfl
        exact (undisturbed _ _ isDialed).2 conn accepted
      exact
        tracked.accepted _ _ accepted other
          ((AList.lookup_insert_ne isOther).symm.trans isEntry)
  | @remove removed read entries removing =>
      have isOther : address ≠ removed := by
        rintro rfl
        rw [AList.lookup_erase] at isEntry
        cases isEntry
      exact
        tracked.accepted _ _ accepted other
          ((AList.lookup_erase_ne isOther).symm.trans isEntry)
  | fail =>
      exact List.mem_cons_of_mem _ (tracked.accepted _ _ accepted other isEntry)
  | _ =>
      exact tracked.accepted _ _ accepted other isEntry

/-- Only a failed read leads to a removal. -/
theorem Step.removing
    {before after : TcpTransport}
    {event : Event}
    (taken : Step before event after)
    {address : SocketAddr}
    {conn : ConnectionId}
    {entries : List (SocketAddr × ConnectionId)}
    (removes : after.receiver = .removing address conn entries) :
    before.receiver = .removing address conn entries ∨
      conn ∈ before.failed := by
  cases taken with
  | @tryReadFrame other read later state afterRead writes reads result written
      reading stored honest called =>
      right
      match result, called, removes with
      | .ok (some _), _, removes => cases removes
      | .ok none, _, removes => cases removes
      | .error error, called, removes =>
          obtain ⟨_, rfl, _⟩ := Receiver.removing.inj removes
          apply honest
          exact ConnState.tryReadFrame_error (congrArg Prod.fst called)
  | snapshot | poisoned | remove | sleep =>
      cases removes
  | _ =>
      exact .inl removes

/-- Where only one sender has moved, the others are where they were. -/
theorem connected_of_setSender
    {transport : TcpTransport}
    {thread other : ThreadId}
    {sender : Sender}
    {endpoint : SocketAddr}
    {conn : ConnectionId}
    (connected :
      (transport.setSender thread sender).senders other =
        .connected endpoint conn) :
    transport.senders other = .connected endpoint conn ∨
      sender = .connected endpoint conn := by
  by_cases same : other = thread
  · subst same
    right
    simpa [setSender] using connected
  · left
    simpa [setSender, same] using connected

/-- A sender gets its connection from the map, or puts it there. -/
theorem Step.connected
    {before after : TcpTransport}
    {event : Event}
    (taken : Step before event after)
    {thread : ThreadId}
    {endpoint : SocketAddr}
    {conn : ConnectionId}
    (connected : after.senders thread = .connected endpoint conn) :
    before.senders thread = .connected endpoint conn ∨
      after.connections.lookup endpoint = some conn := by
  cases taken with
  | @found mover target stored idle isEntry =>
      rcases connected_of_setSender connected with still | moved
      · exact .inl still
      · obtain ⟨rfl, rfl⟩ := Sender.connected.inj moved
        exact .inr isEntry
  | @insertDialed mover target dialed isDialed =>
      rcases connected_of_setSender connected with still | moved
      · exact .inl still
      · obtain ⟨rfl, rfl⟩ := Sender.connected.inj moved
        exact .inr (AList.lookup_insert _)
  | missed | dial | dialFails | queueFrame =>
      rcases connected_of_setSender connected with still | moved
      · exact .inl still
      · cases moved
  | _ =>
      exact .inl connected

/-- Frames are queued on the connection of a sender. -/
theorem Step.queued
    {before after : TcpTransport}
    {event : Event}
    (taken : Step before event after)
    {endpoint : SocketAddr}
    {conn : ConnectionId}
    (member : (endpoint, conn) ∈ after.queued) :
    (endpoint, conn) ∈ before.queued ∨
      ∃ thread, before.senders thread = .connected endpoint conn := by
  cases taken with
  | @queueFrame thread target used state afterQueue frame written earlier later
      result connected =>
      cases result with
      | error error => exact .inl member
      | ok =>
          rcases List.mem_append.mp member with already | isLast
          · exact .inl already
          · obtain ⟨rfl, rfl⟩ := Prod.mk.inj (List.mem_singleton.mp isLast)
            exact .inr ⟨thread, connected⟩
  | _ =>
      exact .inl member

theorem Tracked.step
    {before after : TcpTransport}
    {event : Event}
    (tracked : before.Tracked)
    (undisturbed : before.Undisturbed event)
    (taken : Step before event after) :
    after.Tracked := by
  have keeps
      {address : SocketAddr}
      {conn : ConnectionId}
      (reads : before.Reads address conn) :
      after.Reads address conn :=
    (taken.onlyFailedLeave tracked undisturbed).reads taken.failed reads
  refine ⟨?_, ?_, ?_, ?_⟩
  · intro address conn accepted other isEntry
    exact tracked.accepted_step undisturbed taken accepted isEntry
  · intro address conn entries removes
    apply taken.failed
    rcases taken.removing removes with still | failed
    · exact tracked.removing _ _ _ still
    · exact failed
  · intro thread endpoint conn connected
    rcases taken.connected connected with still | isEntry
    · exact keeps (tracked.connected _ _ _ still)
    · exact .inl isEntry
  · intro endpoint conn member
    rcases taken.queued member with already | ⟨thread, connected⟩
    · exact keeps (tracked.queued _ _ already)
    · exact keeps (tracked.connected _ _ _ connected)

/-- A step of a thread that acts on what still holds. -/
def UndisturbedStep
    (before : TcpTransport)
    (event : Event)
    (after : TcpTransport) :
    Prop :=
  before.Undisturbed event ∧ Step before event after

theorem Tracked.of_execution
    {events : List Event}
    {transport : TcpTransport}
    (execution : Execution UndisturbedStep .bind events transport) :
    transport.Tracked := by
  induction execution with
  | nil => exact .bind
  | snoc _ taken inductionHypothesis =>
      exact inductionHypothesis.step taken.1 taken.2

/--
In every run in which nothing takes the place of what a thread saw, only failed
connections leave the map, and a connection on which a sender has queued a
frame stays there until it fails.
-/
theorem only_failed_leave
    {events : List Event}
    {transport : TcpTransport}
    (execution : Execution UndisturbedStep .bind events transport) :
    (∀ event after, UndisturbedStep transport event after →
        OnlyFailedLeave transport after) ∧
      ∀ endpoint conn, (endpoint, conn) ∈ transport.queued →
        transport.Reads endpoint conn := by
  have tracked := Tracked.of_execution execution
  constructor
  · rintro event after ⟨undisturbed, taken⟩
    exact taken.onlyFailedLeave tracked undisturbed
  · exact tracked.queued

/-- The listener of a peer. -/
def peerListener : SocketAddr where
  ip := .v4 (.ofOctets 192 0 2 7)
  port := 51820

/-- Two senders have found nothing under the endpoint. -/
def bothDialing : TcpTransport :=
  (bind.setSender 0 (.dialing peerListener)).setSender 1
    (.dialing peerListener)

/-- One of them has a connection. -/
def oneDialed : TcpTransport :=
  { bothDialing.setSender 0 (.dialed peerListener 0) with conns := [.new] }

def oneConnected : TcpTransport :=
  { oneDialed.setSender 0 (.connected peerListener 0) with
    connections := AList.insert peerListener 0 ∅ }

/-- It has queued a frame on the connection, and the stream took it. -/
def oneSent : TcpTransport :=
  { oneConnected.setSender 0 .idle with queued := [(peerListener, 0)] }

theorem oneSent_execution :
    Execution UndisturbedStep bind
      ([.lookup 0 peerListener] ++ [.lookup 1 peerListener] ++ [.dial 0] ++
        [.insertDialed 0] ++ [.queueFrame 0 [7] [] [.written 3]])
      oneSent := by
  have firstLooksUp :
      UndisturbedStep bind (.lookup 0 peerListener)
        (bind.setSender 0 (.dialing peerListener)) :=
    ⟨trivial, .missed rfl rfl⟩
  have secondLooksUp :
      UndisturbedStep (bind.setSender 0 (.dialing peerListener))
        (.lookup 1 peerListener) bothDialing :=
    ⟨trivial, .missed rfl rfl⟩
  have dials : UndisturbedStep bothDialing (.dial 0) oneDialed :=
    ⟨trivial, .dial rfl⟩
  have nothingThere : oneDialed.Undisturbed (.insertDialed 0) := by
    intro endpoint conn isDialed
    exact ⟨rfl, fun other isAccepted => by cases isAccepted⟩
  have inserts : UndisturbedStep oneDialed (.insertDialed 0) oneConnected :=
    ⟨nothingThere, .insertDialed rfl⟩
  have queues :
      UndisturbedStep oneConnected (.queueFrame 0 [7] [] [.written 3])
        oneSent := by
    refine
      ⟨trivial,
        @Step.queueFrame oneConnected 0 peerListener 0 .new .new [7] [0, 1, 7]
          [] [.written 3] (.ok ()) rfl rfl ?_ rfl⟩
    simp [WriteOutcome.Fails]
  exact
    ((((Execution.single firstLooksUp).snoc secondLooksUp).snoc dials).snoc
      inserts).snoc queues

/-- The connection on which the frame was queued is in the map. -/
theorem only_failed_leave_example : oneSent.Reads peerListener 0 :=
  (only_failed_leave oneSent_execution).2 _ _ List.mem_cons_self

/-- The receiver has seen an accepted connection, which has failed since. -/
def seenFailed : TcpTransport :=
  { bind with
    connections := AList.insert peerListener 0 ∅
    conns := [.new]
    failed := [0]
    receiver := .reading [(peerListener, 0)] }

/-- The peer has connected again from the same address. -/
def acceptedAgain : TcpTransport :=
  { seenFailed with
    connections := seenFailed.connections.insert peerListener 1
    conns := [.new, .new] }

/-- The receiver has read the end of file of the first connection. -/
def readFailed : TcpTransport :=
  { acceptedAgain with receiver := .removing peerListener 0 [] }

theorem readFailed_execution :
    Execution Step bind
      ([.accept peerListener] ++ [.insertAccepted] ++ [.snapshot] ++
        [.fail 0] ++ [.accept peerListener] ++ [.insertAccepted] ++
        [.tryReadFrame [] [.data []]])
      readFailed := by
  have accepts :
      Step bind (.accept peerListener)
        { bind with conns := [.new], accepted := some (peerListener, 0) } :=
    .accept rfl
  have seen :
      Execution Step bind
        ([.accept peerListener] ++ [.insertAccepted] ++ [.snapshot] ++
          [.fail 0])
        seenFailed :=
    (((Execution.single accepts).snoc (.insertAccepted rfl)).snoc
      (.snapshot rfl (List.Perm.refl _))).snoc (.fail (Nat.zero_lt_one))
  have again :
      Execution Step bind
        ([.accept peerListener] ++ [.insertAccepted] ++ [.snapshot] ++
          [.fail 0] ++ [.accept peerListener] ++ [.insertAccepted])
        acceptedAgain :=
    (seen.snoc (.accept rfl)).snoc (.insertAccepted rfl)
  have reads :
      Step acceptedAgain (.tryReadFrame [] [.data []]) readFailed :=
    @Step.tryReadFrame acceptedAgain peerListener 0 [] .new .new [] [.data []]
      (.error { kind := .connectionReset, message := "peer closed" }) [] rfl rfl
      (fun _ => List.mem_cons_self) rfl
  exact again.snoc reads

/--
A sender overwrites the connection on which another has queued a frame, and
the receiver removes a connection instead of the one whose read has failed.
-/
theorem only_failed_leave_counterexample :
    (∃ events before after,
      Execution Step bind events before ∧
        Step before (.insertDialed 1) after ∧
        ¬OnlyFailedLeave before after ∧
        (peerListener, 0) ∈ after.queued ∧
        ¬after.Reads peerListener 0) ∧
      ∃ events before after,
        Execution Step bind events before ∧
          Step before .remove after ∧
          ¬OnlyFailedLeave before after := by
  constructor
  · have dials :
        Step oneSent (.dial 1)
          { oneSent.setSender 1 (.dialed peerListener 1) with
            conns := [.new, .new] } :=
      .dial rfl
    refine
      ⟨_, _, _, (oneSent_execution.mono And.right).snoc dials,
        .insertDialed rfl, ?_, List.mem_cons_self, ?_⟩
    · intro onlyFailed
      rcases onlyFailed peerListener 0 rfl with isEntry | failed
      · cases isEntry
      · cases failed
    · rintro (isEntry | failed)
      · cases isEntry
      · cases failed
  · refine ⟨_, _, _, readFailed_execution, .remove rfl, ?_⟩
    intro onlyFailed
    rcases onlyFailed peerListener 1 rfl with isEntry | failed
    · cases isEntry
    · simp [readFailed, acceptedAgain, seenFailed] at failed

end TcpTransport

end HushWire

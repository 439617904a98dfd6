import HushWire.Library.SharedCell
import HushWire.UdpSockets

namespace HushWire

/-!
# A rebind moves every clone of the UDP transport

Once a replacement socket is in the cell, every thread, whichever clone of the
transport it holds, has at most one more answer from a replaced socket: the
one it was already waiting for.  A receiver that is blocked at a replaced
socket where nothing waits gets what waits at the new one: it is woken without
a datagram, takes the socket anew and is answered there.
-/

/-- The socket that a task holds an answer for. -/
def UdpTask.waitsAt : UdpTask → Option SocketId
  | .waits _ socket => some socket
  | _ => none

namespace UdpTransport

variable
  {listen : SocketAddr}
  {transport before after final last : UdpTransport}
  {turn : UdpTurn}
  {turns : List UdpTurn}

section Queues

variable
  {thread : UdpThread}
  {task : UdpTask}
  {socket elsewhere : SocketId}
  {change : UdpSocket → UdpSocket}
  {first : Datagram}
  {rest : List Datagram}

@[simp] theorem setTask_queueOf :
    (transport.setTask thread task).queueOf socket =
      transport.queueOf socket :=
  rfl

theorem queueOf_of_getElem?
    {found : UdpSocket}
    (isFound : transport.sockets[socket]? = some found) :
    transport.queueOf socket = found.queue := by
  rw [queueOf, isFound]
  rfl

theorem modifySocket_queueOf_self
    {found : UdpSocket}
    (isFound : transport.sockets[socket]? = some found) :
    (transport.modifySocket socket change).queueOf socket =
      (change found).queue := by
  simp [modifySocket, queueOf, isFound]

theorem modifySocket_queueOf_ne (differs : elsewhere ≠ socket) :
    (transport.modifySocket socket change).queueOf elsewhere =
      transport.queueOf elsewhere := by
  simp [modifySocket, queueOf, differs.symm]

theorem modifySocket_localAddr
    (keeps : ∀ found, (change found).localAddr = found.localAddr) :
    (transport.modifySocket socket change).sockets[elsewhere]?.map
        UdpSocket.localAddr =
      transport.sockets[elsewhere]?.map UdpSocket.localAddr := by
  rw [modifySocket, List.getElem?_modify, Option.map_eq_map, Option.map_map]
  refine congrArg (Option.map · _) (funext fun found => ?_)
  by_cases same : socket = elsewhere
  · simp [same, keeps]
  · simp [same]

@[simp] theorem modifySocket_clone_queueOf :
    (transport.modifySocket socket .clone).queueOf elsewhere =
      transport.queueOf elsewhere := by
  by_cases same : elsewhere = socket
  · subst same
    simp only [modifySocket, queueOf, List.getElem?_modify_eq,
      Option.map_eq_map, Option.map_map]
    rfl
  · exact modifySocket_queueOf_ne same

/-- A socket that was just bound has no queue yet. -/
theorem queueOf_append
    {current : SocketAddr} :
    ((transport.sockets ++ [UdpSocket.mk current [] 1])[socket]?.map
        UdpSocket.queue).getD [] =
      transport.queueOf socket := by
  rw [List.getElem?_append]
  split
  case isTrue =>
    rfl
  case isFalse beyond =>
    rw [queueOf, List.getElem?_eq_none (Nat.le_of_not_lt beyond)]
    cases socket - transport.sockets.length <;> rfl

theorem exists_of_queueOf
    (queued : transport.queueOf socket = first :: rest) :
    ∃ found, transport.sockets[socket]? = some found ∧
      found.queue = first :: rest := by
  cases isFound : transport.sockets[socket]? with
  | none =>
      simp [queueOf, isFound] at queued
  | some found =>
      rw [queueOf, isFound] at queued
      exact ⟨found, rfl, queued⟩

end Queues

section Rebind

/-- The cell with the socket, and the sockets that threads wait at. -/
def cell (transport : UdpTransport) : SharedCell UdpThread SocketId where
  current := transport.current
  taken thread := (transport.tasks thread).waitsAt

/-- What a turn does with the cell. -/
def access : UdpTurn → Option (SharedCell.Access UdpThread SocketId)
  | ⟨.load thread, _⟩ => some (.take thread)
  | ⟨.answer thread socket _, _⟩ => some (.use thread socket)
  | ⟨.install _ socket, _⟩ => some (.publish socket)
  | _ => none

/-- The sockets that were put in the cell. -/
def installed (turns : List UdpTurn) : List SocketId :=
  SharedCell.published (turns.filterMap access)

/-- How often a thread has an answer from none of the sockets. -/
def answersElsewhere
    (thread : UdpThread)
    (sockets : List SocketId)
    (turns : List UdpTurn) :
    Nat :=
  SharedCell.staleUses thread sockets (turns.filterMap access)

/-- The thread waits for an answer from none of the sockets. -/
def waitsElsewhere
    (transport : UdpTransport)
    (thread : UdpThread)
    (sockets : List SocketId) :
    Bool :=
  transport.cell.holdsStale thread sockets

theorem setTask_cell
    {thread : UdpThread}
    {task : UdpTask} :
    (transport.setTask thread task).cell =
      { transport.cell with
        taken :=
          Function.update transport.cell.taken thread task.waitsAt } := by
  rw [cell, SharedCell.mk.injEq]
  refine ⟨rfl, ?_⟩
  funext user
  by_cases same : user = thread
  · subst same
    simp
  · simp [same, cell]

theorem setTask_cell_of_eq
    {thread : UdpThread}
    {task : UdpTask}
    (waits : (transport.tasks thread).waitsAt = task.waitsAt) :
    (transport.setTask thread task).cell = transport.cell := by
  have unchanged :
      Function.update transport.cell.taken thread task.waitsAt =
        transport.cell.taken := by
    rw [← waits]
    exact Function.update_eq_self thread transport.cell.taken
  rw [setTask_cell, unchanged]

@[simp] theorem modifySocket_cell
    {socket : SocketId}
    {change : UdpSocket → UdpSocket} :
    (transport.modifySocket socket change).cell = transport.cell :=
  rfl

/-- A turn is a step of the cell or leaves it alone. -/
theorem Turned.cell
    (turned : Turned before turn after) :
    before.cell.StepOrStay (access turn) after.cell := by
  cases turned with
  | arrive =>
      rfl
  | call isIdle =>
      apply setTask_cell_of_eq
      rw [isIdle]
      rfl
  | @load thread request loads =>
      have free : before.cell.taken thread = none := by
        simp only [UdpTransport.cell, loads]
        rfl
      simp only [access, setTask_cell]
      exact SharedCell.Step.take free
  | @answer thread request socket found answer task reply queue waits _
      isAnswered =>
      have held : before.cell.taken thread = some socket := by
        simp only [UdpTransport.cell, waits]
        rfl
      have done : task.waitsAt = none := by
        obtain ⟨rfl, -⟩ | ⟨rfl, -⟩ | ⟨-, rfl, -⟩ :=
          UdpRequest.answered_cases isAnswered <;> rfl
      simp only [access, setTask_cell, done]
      exact SharedCell.Step.use held
  | bindFailed binds =>
      apply setTask_cell_of_eq
      rw [binds]
      rfl
  | @bind thread previous current binds =>
      have unchanged :
          (before.setTask thread
              (.installs previous before.sockets.length)).cell =
            before.cell := by
        apply setTask_cell_of_eq
        rw [binds]
        rfl
      exact unchanged
  | @install thread previous socket found installs =>
      have unchanged :
          (before.setTask thread .idle).cell = before.cell := by
        apply setTask_cell_of_eq
        rw [installs]
        rfl
      rw [← unchanged]
      exact SharedCell.Step.publish

theorem answersElsewhere_le
    (run : Execution Step transport turns final)
    (thread : UdpThread) :
    answersElsewhere thread (transport.current :: installed turns) turns +
        (final.waitsElsewhere thread
          (transport.current :: installed turns)).toNat ≤
      (transport.waitsElsewhere thread
        (transport.current :: installed turns)).toNat := by
  have refined :
      Execution SharedCell.Step transport.cell (turns.filterMap access)
        final.cell :=
    SharedCell.of_execution (fun step => step.turned.cell) run
  exact SharedCell.staleUses_le refined (fun _ member => member) thread

end Rebind

section Receiving

variable
  {thread : UdpThread}
  {capacity taken : Nat}
  {blocked current : SocketId}
  {first : Datagram}

/-- The thread that an event is of. -/
def thread? : UdpEvent → Option UdpThread
  | .arrive _ _ => none
  | .call thread _ | .load thread | .answer thread _ _ | .bind thread _
  | .install thread _ => some thread

/-- The turns of a thread. -/
def turnsOf (thread : UdpThread) (turns : List UdpTurn) : List UdpTurn :=
  turns.filter fun turn => thread? turn.event = some thread

theorem turnsOf_concat :
    turnsOf thread (turns ++ [turn]) =
      if thread? turn.event = some thread then
        turnsOf thread turns ++ [turn]
      else
        turnsOf thread turns := by
  rw [turnsOf, turnsOf, List.filter_append, List.filter_singleton]
  by_cases isOwn : thread? turn.event = some thread
  · simp [isOwn]
  · simp [isOwn]

/-- What the calls of a thread return. -/
def repliesTo (thread : UdpThread) (turns : List UdpTurn) : List UdpReply :=
  (turnsOf thread turns).filterMap UdpTurn.reply

/-- What a call of `recvFrom` returns for a datagram. -/
def receivedReply (capacity : Nat) (datagram : Datagram) : UdpReply :=
  .received (.ok ⟨datagram.bytes.take capacity, datagram.source⟩)

/--
Nobody rebinds or reads at the current socket in place of the thread, nothing
arrives at a replaced socket where it is blocked, and it gets no error that it
returns.
-/
def Undisturbing (thread : UdpThread) (blocked current : SocketId) :
    UdpEvent → Prop
  | .install _ _ => False
  | .arrive socket _ => socket = blocked → blocked = current
  | .answer caller socket (.datagram _) => socket = current → caller = thread
  | .answer caller _ (.failed error) =>
      caller = thread → error.kind.retried = true
  | _ => True

/--
In every run that does not disturb it, the first that the thread returns is the
datagram; it does so by its third turn, and it can always take the next.
-/
def ReceivesNext
    (transport : UdpTransport)
    (thread : UdpThread)
    (blocked : SocketId)
    (capacity : Nat)
    (datagram : Datagram) :
    Prop :=
  ∀ turns last,
    Execution Step transport turns last →
    (∀ turn ∈ turns,
      Undisturbing thread blocked transport.current turn.event) →
    (repliesTo thread turns).head? = some (receivedReply capacity datagram) ∨
      repliesTo thread turns = [] ∧
        (turnsOf thread turns).length < 3 ∧
        ∃ turn next,
          Step last turn next ∧
            thread? turn.event = some thread ∧
            Undisturbing thread blocked transport.current turn.event

/--
The datagram is the next at the current socket, and the thread, after the turns
it has taken, is on its way there.
-/
structure Approaching
    (transport : UdpTransport)
    (thread : UdpThread)
    (capacity : Nat)
    (blocked current : SocketId)
    (first : Datagram)
    (taken : Nat) :
    Prop where
  isCurrent : transport.current = current
  queued : ∃ rest, transport.queueOf current = first :: rest
  place :
    (transport.tasks thread = .waits (.recvFrom capacity) current ∧
        taken ≤ 2) ∨
      (transport.tasks thread = .loads (.recvFrom capacity) ∧ taken ≤ 1) ∨
      transport.tasks thread = .waits (.recvFrom capacity) blocked ∧
        blocked ≠ current ∧
        transport.queueOf blocked = [] ∧
        taken = 0

/-- An answer takes the datagram that it is, and nothing else. -/
theorem queueAfter_cases
    {request : UdpRequest}
    {answer : SocketAnswer}
    {queue rest : List Datagram}
    (isRest : answer.queueAfter request queue = some rest) :
    (∃ received, answer = .datagram received ∧ queue = received :: rest) ∨
      (∀ received, answer ≠ .datagram received) ∧ rest = queue := by
  cases answer with
  | datagram received =>
      cases queue with
      | nil =>
          cases isRest
      | cons first later =>
          simp only [SocketAnswer.queueAfter] at isRest
          split at isRest
          case isTrue isFirst =>
            cases isRest
            exact .inl ⟨received, rfl, by rw [isFirst]⟩
          case isFalse =>
            cases isRest
  | failed error =>
      refine .inr ⟨fun _ => SocketAnswer.noConfusion, ?_⟩
      cases queue with
      | nil =>
          exact (Option.some.inj isRest).symm
      | cons first later =>
          simp only [SocketAnswer.queueAfter] at isRest
          split at isRest
          case h_1 =>
            split at isRest
            · cases isRest
            · exact (Option.some.inj isRest).symm
          case h_2 =>
            exact (Option.some.inj isRest).symm
  | sent | address =>
      exact
        .inr
          ⟨fun _ => SocketAnswer.noConfusion, (Option.some.inj isRest).symm⟩

/-- A receiver returns a datagram and goes on at an error that is retried. -/
theorem answered_recvFrom
    {found : UdpSocket}
    {answer : SocketAnswer}
    {task : UdpTask}
    {reply : Option UdpReply}
    (answered :
      (UdpRequest.recvFrom capacity).answered found answer =
        some (task, reply)) :
    (∃ datagram, answer = .datagram datagram ∧
        reply = some (receivedReply capacity datagram)) ∨
      ∃ error, answer = .failed error ∧
        (error.kind.retried = true →
          task = .loads (.recvFrom capacity) ∧ reply = none) := by
  cases answer with
  | datagram datagram =>
      cases answered
      exact .inl ⟨datagram, rfl, rfl⟩
  | failed error =>
      refine .inr ⟨error, rfl, fun retried => ?_⟩
      rw [UdpRequest.answered, if_pos retried] at answered
      cases answered
      exact ⟨rfl, rfl⟩
  | sent | address =>
      cases answered

section Answered

variable
  {found : UdpSocket}
  {answer : SocketAnswer}
  {task : UdpTask}
  {reply : Option UdpReply}
  {rest left : List Datagram}

/-- Where a datagram waits, it is what a receiver is answered. -/
theorem answered_of_queued
    (answered :
      (UdpRequest.recvFrom capacity).answered found answer =
        some (task, reply))
    (isRest :
      answer.queueAfter (.recvFrom capacity) (first :: rest) = some left)
    (goesOn :
      ∀ error, answer = .failed error → error.kind.retried = true) :
    reply = some (receivedReply capacity first) := by
  obtain ⟨datagram, rfl, isReply⟩ | ⟨error, rfl, -⟩ :=
    answered_recvFrom answered
  · obtain ⟨received, isReceived, isTaken⟩ | ⟨notDatagram, -⟩ :=
      queueAfter_cases isRest
    · cases isReceived
      cases isTaken
      exact isReply
    · exact absurd rfl (notDatagram datagram)
  · simp [SocketAnswer.queueAfter, goesOn error rfl] at isRest

/-- Where nothing waits, a receiver is told to try again. -/
theorem answered_of_empty
    (answered :
      (UdpRequest.recvFrom capacity).answered found answer =
        some (task, reply))
    (isRest : answer.queueAfter (.recvFrom capacity) [] = some left)
    (goesOn :
      ∀ error, answer = .failed error → error.kind.retried = true) :
    task = .loads (.recvFrom capacity) ∧ reply = none := by
  obtain ⟨datagram, rfl, -⟩ | ⟨error, rfl, retries⟩ :=
    answered_recvFrom answered
  · cases isRest
  · exact retries (goesOn error rfl)

end Answered

/-- A turn of somebody else leaves the task of a thread alone. -/
theorem Turned.tasks_of_other
    (turned : Turned before turn after)
    (isOther : thread? turn.event ≠ some thread) :
    after.tasks thread = before.tasks thread := by
  cases turned with
  | arrive =>
      rfl
  | call | load | answer | bindFailed | bind | install =>
      exact
        Function.update_of_ne (fun same => isOther (congrArg some same.symm))
          ..

/-- A turn that rebinds nothing leaves the cell alone. -/
theorem Turned.current_of_undisturbing
    (turned : Turned before turn after)
    (undisturbing : Undisturbing thread blocked current turn.event) :
    after.current = before.current := by
  cases turned with
  | install =>
      exact undisturbing.elim
  | arrive | call | load | answer | bindFailed | bind =>
      rfl

/-- The queue of the current socket only grows while nobody else reads. -/
theorem Turned.queued_of_other
    {rest : List Datagram}
    (turned : Turned before turn after)
    (counted : before.Counted)
    (isOther : thread? turn.event ≠ some thread)
    (undisturbing : Undisturbing thread blocked before.current turn.event)
    (queued : before.queueOf before.current = first :: rest) :
    ∃ rest, after.queueOf before.current = first :: rest := by
  cases turned with
  | @arrive socket datagram =>
      by_cases same : before.current = socket
      · subst same
        obtain ⟨found, isFound, isQueue⟩ := exists_of_queueOf queued
        refine ⟨rest ++ [datagram], ?_⟩
        rw [modifySocket_queueOf_self isFound, UdpSocket.push, isQueue]
        rfl
      · exact ⟨rest, (modifySocket_queueOf_ne same).trans queued⟩
  | call | bindFailed =>
      exact ⟨rest, queued⟩
  | load =>
      refine ⟨rest, ?_⟩
      rw [setTask_queueOf, modifySocket_clone_queueOf, queued]
  | @answer caller request socket found answer task reply queue waits isFound
      _ isQueue =>
      refine ⟨rest, ?_⟩
      rw [setTask_queueOf]
      by_cases same : before.current = socket
      · subst same
        -- The cell holds the socket as well, so the caller closes nothing.
        have isHeld : before.held caller = some before.current := by
          rw [held, waits]
          rfl
        have shared : 1 < found.strong := by
          have strong := counted.strong_pos isFound isHeld
          rwa [inCell, if_pos rfl] at strong
        rw [queueOf_of_getElem? isFound] at queued
        rw [modifySocket_queueOf_self isFound]
        refine Eq.trans (UdpSocket.drop_queue shared) ?_
        rcases queueAfter_cases isQueue with
          ⟨received, rfl, -⟩ | ⟨-, rfl⟩
        · exact absurd (congrArg some (undisturbing rfl)) isOther
        · exact queued
      · exact (modifySocket_queueOf_ne same).trans queued
  | bind =>
      exact ⟨rest, queueOf_append.trans queued⟩
  | install =>
      exact undisturbing.elim

/-- Nothing comes to the replaced socket where the thread is blocked. -/
theorem Turned.blocked_of_undisturbing
    (turned : Turned before turn after)
    (undisturbing : Undisturbing thread blocked before.current turn.event)
    (replaced : blocked ≠ before.current)
    (empty : before.queueOf blocked = []) :
    after.queueOf blocked = [] := by
  cases turned with
  | @arrive socket datagram =>
      by_cases same : blocked = socket
      · exact absurd (undisturbing same.symm) replaced
      · exact (modifySocket_queueOf_ne same).trans empty
  | call | bindFailed =>
      exact empty
  | load =>
      rw [setTask_queueOf, modifySocket_clone_queueOf, empty]
  | @answer caller request socket found answer task reply queue waits isFound
      _ isQueue =>
      rw [setTask_queueOf]
      by_cases same : blocked = socket
      · subst same
        rw [queueOf_of_getElem? isFound] at empty
        rw [modifySocket_queueOf_self isFound]
        apply UdpSocket.drop_queue_of_nil
        rcases queueAfter_cases isQueue with
          ⟨received, -, isTaken⟩ | ⟨-, isSame⟩
        · rw [empty] at isTaken
          cases isTaken
        · exact isSame.trans empty
      · exact (modifySocket_queueOf_ne same).trans empty
  | bind =>
      exact queueOf_append.trans empty
  | install =>
      exact undisturbing.elim

/-- While others take their turns, the thread stays where it is. -/
theorem Approaching.of_other
    (approaching :
      before.Approaching thread capacity blocked current first taken)
    (turned : Turned before turn after)
    (counted : before.Counted)
    (isOther : thread? turn.event ≠ some thread)
    (undisturbing : Undisturbing thread blocked current turn.event) :
    after.Approaching thread capacity blocked current first taken := by
  obtain ⟨rfl, ⟨rest, queued⟩, place⟩ := approaching
  refine
    ⟨turned.current_of_undisturbing undisturbing,
      turned.queued_of_other counted isOther undisturbing queued, ?_⟩
  rw [turned.tasks_of_other isOther]
  obtain near | loads | ⟨waits, replaced, empty, isFirst⟩ := place
  · exact .inl near
  · exact .inr (.inl loads)
  · exact
      .inr
        (.inr
          ⟨waits, replaced,
            turned.blocked_of_undisturbing undisturbing replaced empty,
            isFirst⟩)

/-- With a turn of its own the thread has the datagram or comes nearer. -/
theorem Approaching.of_own
    (approaching :
      before.Approaching thread capacity blocked current first taken)
    (turned : Turned before turn after)
    (isOwn : thread? turn.event = some thread)
    (undisturbing : Undisturbing thread blocked current turn.event) :
    turn.reply = some (receivedReply capacity first) ∨
      turn.reply = none ∧
        after.Approaching thread capacity blocked current first
          (taken + 1) := by
  obtain ⟨rfl, ⟨rest, queued⟩, place⟩ := approaching
  have sameCurrent := turned.current_of_undisturbing undisturbing
  cases turned with
  | arrive =>
      cases isOwn
  | call isIdle =>
      cases isOwn
      rw [isIdle] at place
      simp at place
  | bindFailed binds | bind binds =>
      cases isOwn
      rw [binds] at place
      simp at place
  | install =>
      exact undisturbing.elim
  | @load _ request loads =>
      cases isOwn
      rw [loads] at place
      have isReceiver : request = .recvFrom capacity ∧ taken ≤ 1 := by
        simpa using place
      obtain ⟨rfl, atMost⟩ := isReceiver
      refine .inr ⟨rfl, sameCurrent, ⟨rest, ?_⟩, .inl ⟨?_, ?_⟩⟩
      · rw [setTask_queueOf, modifySocket_clone_queueOf, queued]
      · exact Function.update_self ..
      · exact Nat.succ_le_succ atMost
  | @answer _ request socket found answer task reply queue waits isFound
      isAnswered isQueue =>
      cases isOwn
      rw [waits] at place
      have goesOn (error : IoError) (isFailed : answer = .failed error) :
          error.kind.retried = true := by
        subst isFailed
        exact undisturbing rfl
      obtain ⟨isNear, -⟩ | ⟨isLoad, -⟩ |
        ⟨isBlocked, replaced, empty, isFirst⟩ := place
      · cases isNear
        rw [queueOf_of_getElem? isFound] at queued
        rw [queued] at isQueue
        exact .inl (answered_of_queued isAnswered isQueue goesOn)
      · cases isLoad
      · cases isBlocked
        rw [queueOf_of_getElem? isFound] at empty
        rw [empty] at isQueue
        obtain ⟨rfl, rfl⟩ :=
          answered_of_empty isAnswered isQueue goesOn
        refine .inr ⟨rfl, sameCurrent, ⟨rest, ?_⟩, .inr (.inl ⟨?_, ?_⟩)⟩
        · rw [setTask_queueOf, modifySocket_queueOf_ne (Ne.symm replaced),
            queued]
        · exact Function.update_self ..
        · exact Nat.le_of_eq (congrArg Nat.succ isFirst)

/-- A receiver that has nothing yet has a next turn. -/
theorem Approaching.next
    {ip : IpAddr}
    (approaching :
      transport.Approaching thread capacity blocked current first taken)
    (valid : transport.Valid ip) :
    taken < 3 ∧
      ∃ turn next,
        Step transport turn next ∧
          thread? turn.event = some thread ∧
          Undisturbing thread blocked current turn.event := by
  obtain ⟨rfl, ⟨rest, queued⟩, place⟩ := approaching
  obtain ⟨waits, atMost⟩ | ⟨loads, atMost⟩ | ⟨waits, -, empty, rfl⟩ := place
  · obtain ⟨found, isFound, isQueue⟩ := exists_of_queueOf queued
    obtain ⟨next, step⟩ :
        ∃ next,
          Step transport
            ⟨.answer thread transport.current (.datagram first),
              some (receivedReply capacity first)⟩
            next := by
      simp [Step, next?, waits, isFound, isQueue, SocketAnswer.queueAfter,
        UdpRequest.answered, receivedReply]
    exact ⟨Nat.lt_succ_of_le atMost, _, next, step, rfl, fun _ => rfl⟩
  · obtain ⟨next, step⟩ :
        ∃ next, Step transport ⟨.load thread, none⟩ next := by
      simp [Step, next?, loads]
    exact
      ⟨Nat.lt_succ_of_le (Nat.le_succ_of_le atMost), _, next, step, rfl,
        trivial⟩
  · have isBound : blocked < transport.sockets.length := by
      have isValid := valid.tasks thread
      rwa [waits] at isValid
    rw [queueOf_of_getElem? (List.getElem?_eq_getElem isBound)] at empty
    obtain ⟨next, step⟩ :
        ∃ next,
          Step transport ⟨.answer thread blocked timeout, none⟩ next := by
      simp [Step, next?, waits, isBound, timeout, empty,
        SocketAnswer.queueAfter, UdpRequest.answered, ErrorKind.retried]
    exact ⟨Nat.zero_lt_succ 2, _, next, step, rfl, fun _ => rfl⟩

/-- Until the thread has the datagram, it is on its way. -/
theorem run_approaching
    {ip : IpAddr}
    (run : Execution Step transport turns last)
    (valid : transport.Valid ip)
    (counted : transport.Counted)
    (approaching :
      transport.Approaching thread capacity blocked current first 0)
    (undisturbed :
      ∀ turn ∈ turns, Undisturbing thread blocked current turn.event) :
    (repliesTo thread turns).head? = some (receivedReply capacity first) ∨
      repliesTo thread turns = [] ∧
        last.Approaching thread capacity blocked current first
          (turnsOf thread turns).length := by
  induction run with
  | nil =>
      exact .inr ⟨rfl, approaching⟩
  | @snoc turns middle last turn earlier step inductionHypothesis =>
      have undisturbedBefore :
          ∀ turn ∈ turns, Undisturbing thread blocked current turn.event :=
        fun turn member => undisturbed turn (List.mem_append_left _ member)
      have undisturbing : Undisturbing thread blocked current turn.event :=
        undisturbed turn (List.mem_append_right _ List.mem_cons_self)
      have countedBefore := (run_counted earlier valid counted).2
      rw [repliesTo, turnsOf_concat]
      obtain received | ⟨noReply, before⟩ :=
        inductionHypothesis undisturbedBefore
      · left
        split
        · rw [List.filterMap_append, List.head?_append]
          exact (congrArg (Option.or · _) received).trans rfl
        · exact received
      · split
        next isOwn =>
          rw [List.filterMap_append, List.length_append]
          refine (before.of_own step.turned isOwn undisturbing).imp ?_ ?_
          · intro isReply
            rw [← repliesTo, noReply, List.filterMap_cons_some isReply]
            rfl
          · rintro ⟨isNone, nearer⟩
            rw [← repliesTo, noReply, List.filterMap_cons_none isNone]
            exact ⟨rfl, nearer⟩
        next isOther =>
          exact
            .inr
              ⟨noReply,
                before.of_other step.turned countedBefore isOther
                  undisturbing⟩

/-- A receiver, wherever it waits, gets what waits at the current socket. -/
theorem receivesNext
    {ip : IpAddr}
    {rest : List Datagram}
    (valid : transport.Valid ip)
    (counted : transport.Counted)
    (waits : transport.tasks thread = .waits (.recvFrom capacity) blocked)
    (queued : transport.queueOf transport.current = first :: rest)
    (free :
      blocked = transport.current ∨ transport.queueOf blocked = []) :
    transport.ReceivesNext thread blocked capacity first := by
  have approaching :
      transport.Approaching thread capacity blocked transport.current first
        0 := by
    refine ⟨rfl, ⟨rest, queued⟩, ?_⟩
    by_cases isCurrent : blocked = transport.current
    · exact .inl ⟨isCurrent ▸ waits, Nat.zero_le 2⟩
    · exact
        .inr
          (.inr ⟨waits, isCurrent, free.resolve_left isCurrent, rfl⟩)
  intro turns last run undisturbed
  refine
    (run_approaching run valid counted approaching undisturbed).imp id ?_
  rintro ⟨noReply, nearer⟩
  exact ⟨noReply, nearer.next (run_counted run valid counted).1⟩

end Receiving

section Results

/-- What a finished rebind returns is about the socket it put in the cell. -/
theorem Turned.rebound
    {ip : IpAddr}
    {result : RebindResult}
    (turned : Turned before turn after)
    (valid : before.Valid ip)
    (returned : turn.reply = some (.rebound (.ok result))) :
    after.activeAddr = some result.current ∧
      result.current.ip = ip ∧ result.previous.ip = ip := by
  cases turned with
  | @install thread previous socket found installs isFound =>
      cases returned
      have isValid := valid.tasks thread
      rw [installs] at isValid
      refine ⟨?_, valid.sockets _ (List.mem_of_getElem? isFound), isValid.1⟩
      rw [activeAddr, setTask_sockets,
        modifySocket_localAddr fun _ => UdpSocket.drop_localAddr, isFound]
      rfl
  | answer _ _ isAnswered =>
      cases returned
      unfold UdpRequest.answered at isAnswered
      split at isAnswered
      case h_4 =>
        split at isAnswered <;> cases isAnswered
      all_goals
        cases isAnswered
  | arrive | call | load | bindFailed | bind =>
      cases returned

/--
Once a rebind has returned, each thread has at most one more answer from a
socket that was replaced, and only if it was already waiting there; a receiver
that waits at the current socket, or at a replaced one where nothing waits, gets
what waits at the current one.
-/
theorem rebind_moves_every_clone
    {earlier : List UdpTurn}
    {event : UdpEvent}
    {result : RebindResult}
    (reached : Execution Step (bound listen) earlier before)
    (rebound : Step before ⟨event, some (.rebound (.ok result))⟩ after)
    (later : Execution Step after turns final)
    (thread : UdpThread) :
    (after.activeAddr = some result.current ∧
        result.current.ip = listen.ip ∧
        result.previous.ip = listen.ip) ∧
      answersElsewhere thread (after.current :: installed turns) turns +
          (final.waitsElsewhere thread
            (after.current :: installed turns)).toNat ≤
        (after.waitsElsewhere thread
          (after.current :: installed turns)).toNat ∧
      ∀ capacity socket first rest,
        final.tasks thread = .waits (.recvFrom capacity) socket →
        final.queueOf final.current = first :: rest →
        socket = final.current ∨ final.queueOf socket = [] →
        final.ReceivesNext thread socket capacity first := by
  obtain ⟨valid, counted⟩ :=
    reachable_counted ((reached.snoc rebound).append later)
  refine
    ⟨rebound.turned.rebound (reachable_counted reached).1 rfl,
      answersElsewhere_le later thread, ?_⟩
  intro capacity socket first rest waits queued free
  exact receivesNext valid counted waits queued free

/-- The blocked receiver gets what arrives at the new socket. -/
theorem rebind_moves_every_clone_example :
    ∃ (after final : UdpTransport) (turns : List UdpTurn),
      answersElsewhere 0 (after.current :: installed turns) turns ≤ 1 ∧
        after.activeAddr = some (hostAddr 5001) ∧
        final.tasks 0 = .waits (.recvFrom 2) 0 ∧
        final.current = 1 ∧
        final.ReceivesNext 0 0 2 ⟨[7, 8, 9], hostAddr 6000⟩ := by
  obtain ⟨before, after, reached, rebound, isCurrent, waits, -, sockets⟩ :=
    exists_rebinding
  let datagram : Datagram := ⟨[7, 8, 9], hostAddr 6000⟩
  have later :
      Execution Step after [⟨.arrive 1 datagram, none⟩]
        (after.modifySocket 1 (.push datagram)) := by
    apply Execution.single
    simp [Step, next?, isOpen, sockets]
  obtain ⟨⟨isActive, -⟩, atMost, receives⟩ :=
    rebind_moves_every_clone reached rebound later 0
  have atMostOne :=
    (Nat.le_add_right _ _).trans (atMost.trans (Bool.toNat_le _))
  refine
    ⟨after, after.modifySocket 1 (.push datagram), _, atMostOne, isActive,
      waits, isCurrent, ?_⟩
  apply receives 2 0 _ [] waits
  · rw [modifySocket_current, isCurrent]
    simp [queueOf, modifySocket, sockets, UdpSocket.push, datagram]
  · right
    simp [queueOf, modifySocket, sockets]

end Results

end UdpTransport

end HushWire

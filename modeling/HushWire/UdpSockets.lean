import HushWire.Library.Execution
import HushWire.Library.ReferenceCount
import HushWire.UdpTransport

namespace HushWire

/-!
# The sockets of a UDP transport that are open

The strong count of a socket is the number of its holders: the cell, the calls
that wait at it, and the rebind that has bound it.  So a replaced socket is
closed when the last call that waits there is answered, and however often the
transport is rebound, there are never more open sockets than threads within a
call and one.
-/

/-- The socket that a task has a clone of. -/
def UdpTask.holds : UdpTask → Option SocketId
  | .waits _ socket | .installs _ socket => some socket
  | .idle | .loads _ | .binds _ => none

/-- The socket of a task is bound, and its address is one of the host's. -/
def UdpTask.Valid (ip : IpAddr) (count : Nat) : UdpTask → Prop
  | .idle | .loads _ => True
  | .waits _ socket => socket < count
  | .binds previous => previous.ip = ip
  | .installs previous socket => previous.ip = ip ∧ socket < count

theorem UdpTask.Valid.holds_lt
    {ip : IpAddr}
    {count : Nat}
    {task : UdpTask}
    {socket : SocketId}
    (valid : task.Valid ip count)
    (holds : task.holds = some socket) :
    socket < count := by
  cases task with
  | waits request held =>
      cases holds
      exact valid
  | installs previous held =>
      cases holds
      exact valid.2
  | idle | loads | binds =>
      cases holds

namespace UdpSocket

variable {socket : UdpSocket}

@[simp] theorem drop_localAddr : socket.drop.localAddr = socket.localAddr := by
  unfold drop
  split <;> rfl

@[simp] theorem drop_strong : socket.drop.strong = socket.strong - 1 := by
  unfold drop
  split
  · dsimp only
    omega
  · rfl

/-- While others hold the socket, what waits there stays. -/
theorem drop_queue
    (shared : 1 < socket.strong) :
    socket.drop.queue = socket.queue := by
  rw [drop, if_neg (Nat.not_le_of_lt shared)]

theorem drop_queue_of_nil
    (empty : socket.queue = []) :
    socket.drop.queue = [] := by
  unfold drop
  split
  · rfl
  · exact empty

end UdpSocket

section Answers

variable
  {ip : IpAddr}
  {request : UdpRequest}
  {found : UdpSocket}
  {answer : SocketAnswer}
  {task : UdpTask}
  {reply : Option UdpReply}
  {count : Nat}

theorem UdpTask.Valid.mono
    {more : Nat}
    (valid : task.Valid ip count)
    (atMost : count ≤ more) :
    task.Valid ip more := by
  cases task with
  | idle | loads | binds =>
      exact valid
  | waits =>
      exact Nat.lt_of_lt_of_le valid atMost
  | installs =>
      exact ⟨valid.1, Nat.lt_of_lt_of_le valid.2 atMost⟩

/-- What a call does with an answer. -/
theorem UdpRequest.answered_cases
    (answered : request.answered found answer = some (task, reply)) :
    (task = .idle ∧ ∃ returned, reply = some returned) ∨
      (task = .loads request ∧ reply = none) ∨
      (request = .rebindToEphemeral ∧ task = .binds found.localAddr ∧
        reply = none) := by
  unfold UdpRequest.answered at answered
  split at answered
  case h_4 capacity error =>
    split at answered
    case isTrue =>
      cases answered
      exact .inr (.inl ⟨rfl, rfl⟩)
    case isFalse =>
      cases answered
      exact .inl ⟨rfl, _, rfl⟩
  case h_7 =>
    cases answered
    exact .inr (.inr ⟨rfl, rfl, rfl⟩)
  case h_9 =>
    cases answered
  all_goals
    cases answered
    exact .inl ⟨rfl, _, rfl⟩

theorem UdpRequest.answered_valid
    (answered : request.answered found answer = some (task, reply))
    (isHost : found.localAddr.ip = ip) :
    task.Valid ip count := by
  obtain ⟨rfl, -⟩ | ⟨rfl, -⟩ | ⟨-, rfl, -⟩ := answered_cases answered
  · trivial
  · trivial
  · exact isHost

/-- A call drops its socket with the answer. -/
theorem UdpRequest.answered_holds
    (answered : request.answered found answer = some (task, reply)) :
    task.holds = none := by
  obtain ⟨rfl, -⟩ | ⟨rfl, -⟩ | ⟨-, rfl, -⟩ := answered_cases answered <;> rfl

end Answers

namespace UdpTransport

variable
  {listen : SocketAddr}
  {transport before after final : UdpTransport}
  {turn : UdpTurn}
  {turns : List UdpTurn}

section Accessors

variable
  {thread : UdpThread}
  {task : UdpTask}
  {socket elsewhere : SocketId}
  {change : UdpSocket → UdpSocket}

@[simp] theorem setTask_current :
    (transport.setTask thread task).current = transport.current :=
  rfl

@[simp] theorem setTask_sockets :
    (transport.setTask thread task).sockets = transport.sockets :=
  rfl

@[simp] theorem setTask_tasks :
    (transport.setTask thread task).tasks =
      Function.update transport.tasks thread task :=
  rfl

@[simp] theorem modifySocket_current :
    (transport.modifySocket socket change).current = transport.current :=
  rfl

@[simp] theorem modifySocket_tasks :
    (transport.modifySocket socket change).tasks = transport.tasks :=
  rfl

@[simp] theorem modifySocket_length :
    (transport.modifySocket socket change).sockets.length =
      transport.sockets.length :=
  List.length_modify ..

/-- A changed socket was there before it was changed. -/
theorem modifySocket_getElem
    {found : UdpSocket}
    (isFound :
      (transport.modifySocket socket change).sockets[elsewhere]? =
        some found) :
    ∃ earlier, transport.sockets[elsewhere]? = some earlier ∧
      found = if elsewhere = socket then change earlier else earlier := by
  rw [modifySocket, List.getElem?_modify, Option.map_eq_map,
    Option.map_eq_some_iff] at isFound
  obtain ⟨earlier, isEarlier, rfl⟩ := isFound
  refine ⟨earlier, isEarlier, ?_⟩
  by_cases same : socket = elsewhere
  · rw [if_pos same, if_pos same.symm]
  · rw [if_neg same, if_neg (Ne.symm same)]

end Accessors

section Validity

variable {ip : IpAddr}

/-- The sockets in use are bound, all of them to the one host address. -/
structure Valid (ip : IpAddr) (transport : UdpTransport) : Prop where
  current : transport.current < transport.sockets.length
  sockets : ∀ socket ∈ transport.sockets, socket.localAddr.ip = ip
  tasks :
    ∀ thread, (transport.tasks thread).Valid ip transport.sockets.length

theorem Valid.bound : (bound listen).Valid listen.ip where
  current := Nat.zero_lt_one
  sockets := by simp [UdpTransport.bound]
  tasks _ := trivial

theorem Valid.setTask
    {thread : UdpThread}
    {task : UdpTask}
    (valid : transport.Valid ip)
    (isValid : task.Valid ip transport.sockets.length) :
    (transport.setTask thread task).Valid ip where
  current := valid.current
  sockets := valid.sockets
  tasks other := by
    by_cases same : other = thread
    · subst same
      simpa using isValid
    · simpa [same] using valid.tasks other

theorem Valid.modifySocket
    {socket : SocketId}
    {change : UdpSocket → UdpSocket}
    (valid : transport.Valid ip)
    (keeps : ∀ found, (change found).localAddr = found.localAddr) :
    (transport.modifySocket socket change).Valid ip where
  current := by
    rw [modifySocket_length]
    exact valid.current
  sockets := by
    intro changed member
    obtain ⟨index, isFound⟩ := List.mem_iff_getElem?.mp member
    obtain ⟨earlier, isEarlier, rfl⟩ := modifySocket_getElem isFound
    have host := valid.sockets _ (List.mem_of_getElem? isEarlier)
    split
    · rwa [keeps]
    · exact host
  tasks := by
    rw [modifySocket_length]
    exact valid.tasks

theorem Turned.valid
    (turned : Turned before turn after)
    (valid : before.Valid ip) :
    after.Valid ip := by
  cases turned with
  | arrive =>
      exact valid.modifySocket fun _ => rfl
  | call =>
      exact valid.setTask trivial
  | load =>
      apply Valid.setTask
      · exact valid.modifySocket fun _ => rfl
      · rw [modifySocket_length]
        exact valid.current
  | answer _ isFound isAnswered =>
      apply Valid.setTask
      · exact valid.modifySocket fun _ => UdpSocket.drop_localAddr
      · exact
          UdpRequest.answered_valid isAnswered
            (valid.sockets _ (List.mem_of_getElem? isFound))
  | bindFailed =>
      exact valid.setTask trivial
  | @bind thread previous current binds sameIp =>
      have isHost : previous.ip = ip := by
        have isValid := valid.tasks thread
        rwa [binds] at isValid
      have grows :
          before.sockets.length ≤
            (before.sockets ++ [UdpSocket.mk current [] 1]).length := by
        simp
      refine ⟨Nat.lt_of_lt_of_le valid.current grows, ?_, ?_⟩
      · intro socket member
        rcases List.mem_append.mp member with earlier | isLast
        · exact valid.sockets socket earlier
        · cases List.mem_singleton.mp isLast
          exact sameIp.trans isHost
      · intro other
        by_cases same : other = thread
        · subst same
          simp [UdpTask.Valid, isHost]
        · simpa [same] using (valid.tasks other).mono grows
  | @install thread previous socket found installs isFound =>
      have isBound := (List.getElem?_eq_some_iff.mp isFound).1
      have others :
          ((before.modifySocket before.current .drop).setTask thread
              .idle).Valid ip :=
        (valid.modifySocket fun _ => UdpSocket.drop_localAddr).setTask trivial
      refine { others with current := ?_ }
      rw [setTask_sockets, modifySocket_length]
      exact isBound

end Validity

section Counting

open ReferenceCount (Holders)

/-- The sockets that the threads have clones of. -/
def held (transport : UdpTransport) (thread : UdpThread) : Option SocketId :=
  (transport.tasks thread).holds

/-- The clone that is in the cell. -/
def inCell (transport : UdpTransport) (socket : SocketId) : Nat :=
  if transport.current = socket then 1 else 0

/-- The strong count of a socket is the number of its holders. -/
def Counted (transport : UdpTransport) : Prop :=
  ∀ socket found,
    transport.sockets[socket]? = some found →
    ∃ count,
      Holders transport.held socket count ∧
        found.strong = count + transport.inCell socket

theorem setTask_held
    {thread : UdpThread}
    {task : UdpTask} :
    (transport.setTask thread task).held =
      Function.update transport.held thread task.holds := by
  funext other
  by_cases same : other = thread
  · subst same
    simp [held]
  · simp [held, same]

theorem Counted.bound : (bound listen).Counted := by
  intro socket found isFound
  refine ⟨0, Holders.of_none fun thread => ?_, ?_⟩
  · simp [held, UdpTransport.bound, UdpTask.holds]
  · cases socket with
    | zero =>
        cases isFound
        rfl
    | succ socket =>
        cases isFound

/-- A thread that holds a socket is counted. -/
theorem Counted.strong_pos
    {thread : UdpThread}
    {socket : SocketId}
    {found : UdpSocket}
    (counted : transport.Counted)
    (isFound : transport.sockets[socket]? = some found)
    (holds : transport.held thread = some socket) :
    transport.inCell socket < found.strong := by
  obtain ⟨count, holders, isStrong⟩ := counted socket found isFound
  have notZero := holders.ne_zero_iff.mpr ⟨thread, holds⟩
  rw [isStrong]
  exact Nat.lt_add_of_pos_left (Nat.pos_of_ne_zero notZero)

/-- The clones of one thread change, and with them the strong counts. -/
theorem counted_of_update
    {thread : UdpThread}
    {next : Option SocketId}
    (isHeld : after.held = Function.update before.held thread next)
    (balanced :
      ∀ socket changed,
        after.sockets[socket]? = some changed →
        ∃ count,
          Holders before.held socket count ∧
            changed.strong +
                (if before.held thread = some socket then 1 else 0) =
              count + (if next = some socket then 1 else 0) +
                after.inCell socket) :
    after.Counted := by
  intro socket changed isFound
  obtain ⟨count, holders, isStrong⟩ := balanced socket changed isFound
  refine ⟨_, by rw [isHeld]; exact holders.update thread next, ?_⟩
  have atLeast :
      (if before.held thread = some socket then 1 else 0) ≤ count := by
    split
    next holds =>
      exact Nat.pos_of_ne_zero (holders.ne_zero_iff.mpr ⟨thread, holds⟩)
    next =>
      exact Nat.zero_le count
  omega

/-- A task that holds what the one before it held changes no count. -/
theorem Counted.setTask
    {thread : UdpThread}
    {task : UdpTask}
    (counted : transport.Counted)
    (same : transport.held thread = task.holds) :
    (transport.setTask thread task).Counted := by
  have unchanged : (transport.setTask thread task).held = transport.held := by
    rw [setTask_held, ← same]
    exact Function.update_eq_self ..
  intro socket found isFound
  rw [unchanged]
  exact counted socket found isFound

/-- The socket that was just bound has one holder, the rebind. -/
theorem Counted.bind
    {ip : IpAddr}
    {thread : UdpThread}
    {previous current : SocketAddr}
    (counted : before.Counted)
    (valid : before.Valid ip)
    (binds : before.tasks thread = .binds previous) :
    Counted
      { before.setTask thread (.installs previous before.sockets.length) with
        sockets :=
          before.sockets ++
            [{ localAddr := current, queue := [], strong := 1 }] } := by
  have free : before.held thread = none := by
    rw [held, binds]
    rfl
  refine
    @counted_of_update before _ thread _ setTask_held
      fun socket changed isFound => ?_
  rw [free]
  rcases Nat.lt_or_ge socket before.sockets.length with earlier | isLast
  · rw [List.getElem?_append_left earlier] at isFound
    obtain ⟨count, holders, isStrong⟩ := counted socket changed isFound
    refine ⟨count, holders, ?_⟩
    simp only [UdpTask.holds, reduceCtorEq, ↓reduceIte, Option.some.injEq,
      Nat.ne_of_gt earlier, isStrong]
    rfl
  · rw [List.getElem?_append_right isLast, List.getElem?_singleton] at isFound
    split at isFound
    case isFalse =>
      cases isFound
    case isTrue isNew =>
      cases isFound
      have isLength : socket = before.sockets.length :=
        Nat.le_antisymm (Nat.sub_eq_zero_iff_le.mp isNew) isLast
      subst isLength
      refine ⟨0, Holders.of_none fun other holds => ?_, ?_⟩
      · exact absurd ((valid.tasks other).holds_lt holds) (Nat.lt_irrefl _)
      · simp [UdpTask.holds, inCell, Nat.ne_of_lt valid.current]

theorem Turned.counted
    {ip : IpAddr}
    (turned : Turned before turn after)
    (valid : before.Valid ip)
    (counted : before.Counted) :
    after.Counted := by
  cases turned with
  | @arrive socket datagram isOpen =>
      intro elsewhere changed isFound
      obtain ⟨earlier, isEarlier, rfl⟩ := modifySocket_getElem isFound
      obtain ⟨count, holders, isStrong⟩ := counted elsewhere earlier isEarlier
      refine ⟨count, holders, ?_⟩
      split
      · exact isStrong
      · exact isStrong
  | call isIdle =>
      apply counted.setTask
      rw [held, isIdle]
      rfl
  | @load thread request loads =>
      have free : before.held thread = none := by
        rw [held, loads]
        rfl
      refine
        @counted_of_update before _ thread _ setTask_held
          fun socket changed isFound => ?_
      obtain ⟨earlier, isEarlier, rfl⟩ := modifySocket_getElem isFound
      obtain ⟨count, holders, isStrong⟩ := counted socket earlier isEarlier
      refine ⟨count, holders, ?_⟩
      rw [free]
      by_cases isCurrent : socket = before.current
      · subst isCurrent
        simp [UdpTask.holds, UdpSocket.clone, inCell, isStrong]
      · simp [UdpTask.holds, isCurrent, Ne.symm isCurrent, inCell, isStrong]
  | @answer thread request socket found answer task reply queue waits isFound
      isAnswered =>
      have holds : before.held thread = some socket := by
        rw [held, waits]
        rfl
      refine
        @counted_of_update before _ thread _ setTask_held
          fun elsewhere changed isChanged => ?_
      obtain ⟨earlier, isEarlier, rfl⟩ := modifySocket_getElem isChanged
      obtain ⟨count, holders, isStrong⟩ := counted elsewhere earlier isEarlier
      refine ⟨count, holders, ?_⟩
      have sameCell :
          ((before.modifySocket socket fun found =>
              { found with queue }.drop).setTask thread task).inCell
              elsewhere =
            before.inCell elsewhere :=
        rfl
      rw [UdpRequest.answered_holds isAnswered, holds, sameCell]
      by_cases same : elsewhere = socket
      · subst same
        have positive := counted.strong_pos isEarlier holds
        simp only [↓reduceIte, UdpSocket.drop_strong, reduceCtorEq]
        omega
      · simp only [same, Ne.symm same, ↓reduceIte, Option.some.injEq,
          reduceCtorEq]
        omega
  | bindFailed binds =>
      apply counted.setTask
      rw [held, binds]
      rfl
  | bind binds =>
      exact counted.bind valid binds
  | @install thread previous socket found installs isFound =>
      have holds : before.held thread = some socket := by
        rw [held, installs]
        rfl
      refine
        @counted_of_update before _ thread _ setTask_held
          fun elsewhere changed isChanged => ?_
      obtain ⟨earlier, isEarlier, rfl⟩ := modifySocket_getElem isChanged
      obtain ⟨count, holders, isStrong⟩ := counted elsewhere earlier isEarlier
      refine ⟨count, holders, ?_⟩
      rw [holds]
      unfold inCell at isStrong ⊢
      by_cases isCurrent : elsewhere = before.current
      · subst isCurrent
        simp only [↓reduceIte, UdpSocket.drop_strong, UdpTask.holds,
          reduceCtorEq, Option.some.injEq] at isStrong ⊢
        omega
      · simp only [isCurrent, Ne.symm isCurrent, ↓reduceIte, UdpTask.holds,
          reduceCtorEq, Option.some.injEq] at isStrong ⊢
        omega

theorem run_counted
    {ip : IpAddr}
    (run : Execution Step transport turns final)
    (valid : transport.Valid ip)
    (counted : transport.Counted) :
    final.Valid ip ∧ final.Counted := by
  refine run.preserves (fun middle => middle.Valid ip ∧ middle.Counted)
    ⟨valid, counted⟩ ?_
  intro middle turn next _ both step
  exact ⟨step.turned.valid both.1, step.turned.counted both.1 both.2⟩

theorem reachable_counted
    (reached : Execution Step (bound listen) turns final) :
    final.Valid listen.ip ∧ final.Counted :=
  run_counted reached .bound .bound

/-- The socket was bound, and nobody has it any more. -/
def Released (transport : UdpTransport) (socket : SocketId) : Prop :=
  socket < transport.sockets.length ∧
    socket ≠ transport.current ∧
    ∀ thread, transport.held thread ≠ some socket

theorem isOpen_iff
    {socket : SocketId}
    (counted : transport.Counted)
    (isBound : socket < transport.sockets.length) :
    transport.isOpen socket = true ↔
      socket = transport.current ∨
        ∃ thread, transport.held thread = some socket := by
  obtain ⟨count, holders, isStrong⟩ :=
    counted socket _ (List.getElem?_eq_getElem isBound)
  rw [isOpen, List.getElem?_eq_getElem isBound, Option.any_some,
    decide_eq_true_eq, isStrong, ← holders.ne_zero_iff, inCell]
  by_cases isCurrent : socket = transport.current
  · simp [isCurrent]
  · simp [isCurrent, Ne.symm isCurrent]

theorem released_iff
    {socket : SocketId}
    (counted : transport.Counted)
    (isBound : socket < transport.sockets.length) :
    transport.Released socket ↔ transport.isOpen socket = false := by
  rw [← Bool.not_eq_true, isOpen_iff counted isBound, not_or, not_exists]
  exact and_iff_right isBound

/-- A thread that takes another socket leaves a released one alone. -/
theorem Released.update
    {socket : SocketId}
    {thread : UdpThread}
    {next : Option SocketId}
    (released : before.Released socket)
    (isHeld : after.held = Function.update before.held thread next)
    (differs : next ≠ some socket)
    (notCurrent : socket ≠ after.current)
    (grows : before.sockets.length ≤ after.sockets.length) :
    after.Released socket := by
  refine ⟨Nat.lt_of_lt_of_le released.1 grows, notCurrent, fun other => ?_⟩
  rw [isHeld]
  by_cases same : other = thread
  · subst same
    rwa [Function.update_self]
  · rw [Function.update_of_ne same]
    exact released.2.2 other

/-- Nobody gets hold of a released socket. -/
theorem Turned.released
    {socket : SocketId}
    (turned : Turned before turn after)
    (released : before.Released socket) :
    after.Released socket := by
  obtain ⟨isBound, notCurrent, free⟩ := released
  cases turned with
  | arrive =>
      exact
        ⟨Nat.lt_of_lt_of_eq isBound modifySocket_length.symm, notCurrent,
          free⟩
  | call | bindFailed =>
      exact
        Released.update ⟨isBound, notCurrent, free⟩ setTask_held
          (Option.some_ne_none _).symm notCurrent (Nat.le_refl _)
  | load =>
      refine
        Released.update ⟨isBound, notCurrent, free⟩ setTask_held ?_
          notCurrent (Nat.le_of_eq modifySocket_length.symm)
      exact fun same => notCurrent (Option.some.inj same).symm
  | answer _ _ isAnswered =>
      refine
        Released.update ⟨isBound, notCurrent, free⟩ setTask_held ?_
          notCurrent (Nat.le_of_eq modifySocket_length.symm)
      rw [UdpRequest.answered_holds isAnswered]
      exact (Option.some_ne_none _).symm
  | bind =>
      refine
        Released.update ⟨isBound, notCurrent, free⟩ setTask_held ?_
          notCurrent (by simp)
      exact fun same => Nat.ne_of_gt isBound (Option.some.inj same)
  | @install thread _ replacement _ installs =>
      have holds : before.held thread = some replacement := by
        rw [held, installs]
        rfl
      refine
        Released.update ⟨isBound, notCurrent, free⟩ setTask_held
          (Option.some_ne_none _).symm ?_
          (Nat.le_of_eq modifySocket_length.symm)
      rintro rfl
      exact free thread holds

end Counting

section Results

/--
In every run a socket is open exactly while it is in the cell or a call has a
clone of it, and one that is closed stays so; there are at most as many open
sockets as threads within a call, and one.
-/
theorem sockets_closed_when_released
    {later : List UdpTurn}
    {last : UdpTransport}
    (reached : Execution Step (bound listen) turns final)
    (run : Execution Step final later last) :
    (∀ socket < final.sockets.length,
        (final.isOpen socket = true ↔
          socket = final.current ∨
            ∃ thread, (final.tasks thread).holds = some socket) ∧
        (final.isOpen socket = false → last.isOpen socket = false)) ∧
      ∀ threads : List UdpThread,
        (∀ thread, final.tasks thread ≠ .idle → thread ∈ threads) →
        (List.range final.sockets.length).countP final.isOpen ≤
          threads.length + 1 := by
  obtain ⟨_, counted⟩ := reachable_counted reached
  constructor
  · intro socket isBound
    refine ⟨isOpen_iff counted isBound, fun isClosed => ?_⟩
    have released : last.Released socket := by
      apply run.preserves (Released · socket)
      · exact (released_iff counted isBound).mpr isClosed
      · intro middle turn next _ released step
        exact step.turned.released released
    exact
      (released_iff (reachable_counted (reached.append run)).2 released.1).mp
        released
  · intro threads isWithin
    have distinct :
        ((List.range final.sockets.length).filter final.isOpen).Nodup :=
      List.nodup_range.filter _
    have isHeld :
        ∀ socket ∈
            ((List.range final.sockets.length).filter final.isOpen).erase
              final.current,
          ∃ thread ∈ threads, final.held thread = some socket := by
      intro socket member
      obtain ⟨notCurrent, isMember⟩ := distinct.mem_erase_iff.mp member
      obtain ⟨inRange, isOpen⟩ := List.mem_filter.mp isMember
      obtain isCurrent | ⟨thread, holds⟩ :=
        (isOpen_iff counted (List.mem_range.mp inRange)).mp isOpen
      · exact absurd isCurrent notCurrent
      · refine ⟨thread, isWithin thread fun isIdle => ?_, holds⟩
        rw [held, isIdle] at holds
        cases holds
    have atMost :=
      ReferenceCount.length_le_of_held (distinct.erase final.current) isHeld
    rw [List.countP_eq_length_filter]
    exact Nat.sub_le_iff_le_add.mp (List.le_length_erase.trans atMost)

/-- The host address of a transport that is rebound. -/
def hostAddr (port : UInt16) : SocketAddr :=
  ⟨.v4 (.ofOctets 192 168 1 9), port⟩

/-- A receiver is blocked while another thread rebinds. -/
def rebinding : List UdpTurn :=
  [⟨.call 0 (.recvFrom 2), none⟩,
    ⟨.load 0, none⟩,
    ⟨.call 1 .rebindToEphemeral, none⟩,
    ⟨.load 1, none⟩,
    ⟨.answer 1 0 .address, none⟩,
    ⟨.bind 1 (.ok (hostAddr 5001)), none⟩]

theorem exists_rebinding :
    ∃ before after,
      Execution Step (bound (hostAddr 5000)) rebinding before ∧
        Step before
          ⟨.install 1 1,
            some (.rebound (.ok ⟨hostAddr 5000, hostAddr 5001⟩))⟩
          after ∧
        after.current = 1 ∧
        after.tasks 0 = .waits (.recvFrom 2) 0 ∧
        (∀ thread, thread ≠ 0 → after.tasks thread = .idle) ∧
        after.sockets =
          [⟨hostAddr 5000, [], 1⟩, ⟨hostAddr 5001, [], 1⟩] := by
  have start :
      Execution Step (bound (hostAddr 5000)) [] (bound (hostAddr 5000)) :=
    .nil
  have called :=
    start.snoc (show Step _ ⟨.call 0 (.recvFrom 2), none⟩ _ from rfl)
  have blocked := called.snoc (show Step _ ⟨.load 0, none⟩ _ from rfl)
  have rebinds :=
    blocked.snoc (show Step _ ⟨.call 1 .rebindToEphemeral, none⟩ _ from rfl)
  have loaded := rebinds.snoc (show Step _ ⟨.load 1, none⟩ _ from rfl)
  have answered :=
    loaded.snoc (show Step _ ⟨.answer 1 0 .address, none⟩ _ from rfl)
  have isBound :=
    answered.snoc
      (show Step _ ⟨.bind 1 (.ok (hostAddr 5001)), none⟩ _ from rfl)
  refine ⟨_, _, isBound, rfl, rfl, rfl, fun thread notReceiver => ?_, rfl⟩
  by_cases rebinder : thread = 1
  · subst rebinder
    rfl
  · simp [UdpTransport.bound, setTask, modifySocket, notReceiver, rebinder]

/-- The answer of the operating system after the read timeout. -/
def timeout : SocketAnswer :=
  .failed ⟨.timedOut, "Resource temporarily unavailable"⟩

/-- The receiver gives up the replaced socket, which is closed for good. -/
theorem sockets_closed_when_released_example :
    ∃ final : UdpTransport,
      final.tasks 0 = .loads (.recvFrom 2) ∧
        (∀ turns last,
          Execution Step final turns last → last.isOpen 0 = false) ∧
        (List.range final.sockets.length).countP final.isOpen ≤ 2 := by
  obtain ⟨before, after, reached, rebound, -, waits, others, sockets⟩ :=
    exists_rebinding
  obtain ⟨final, woken, tasks, sockets⟩ :
      ∃ final,
        Step after ⟨.answer 0 0 timeout, none⟩ final ∧
          final.tasks =
            Function.update after.tasks 0 (.loads (.recvFrom 2)) ∧
          final.sockets =
            [⟨hostAddr 5000, [], 0⟩, ⟨hostAddr 5001, [], 1⟩] := by
    simp [Step, next?, waits, sockets, timeout, SocketAnswer.queueAfter,
      UdpRequest.answered, ErrorKind.retried, modifySocket, UdpSocket.drop,
      setTask]
  have moved := (reached.snoc rebound).snoc woken
  refine ⟨final, ?_, fun turns last run => ?_, ?_⟩
  · rw [tasks, Function.update_self]
  · have closes := (sockets_closed_when_released moved run).1 0
    rw [isOpen, sockets] at closes
    exact (closes (by decide)).2 rfl
  · apply (sockets_closed_when_released moved .nil).2 [0]
    intro thread isBusy
    by_contra notReceiver
    rw [List.mem_singleton] at notReceiver
    apply isBusy
    rw [tasks, Function.update_of_ne notReceiver, others thread notReceiver]

end Results

end UdpTransport

end HushWire

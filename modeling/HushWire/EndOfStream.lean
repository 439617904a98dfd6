import HushWire.TcpFraming

namespace HushWire

/-!
# The end of a TCP stream

The peer writes a stream and closes the connection.  The packet tunnel
delivers every whole frame of a chunk before it looks whether the stream is
complete.  The daemon reads, notices the end of file and splits off at most one
frame in the same call, so that frames which are still buffered when it meets
the end of file go with the connection.
-/

/-- The whole frames of a stream, in order. -/
def completeFrames (stream : Bytes) : List Bytes :=
  (PacketTunnel.deliverTcpFrames stream).1

theorem frames_completeFrames (stream : Bytes) :
    tcpFraming.Frames stream (completeFrames stream)
      (PacketTunnel.deliverTcpFrames stream).2 := by
  obtain ⟨valid, same, noSplit⟩ := PacketTunnel.deliverTcpFrames_spec stream
  exact ⟨valid, same, noSplit⟩

/-- Frames in front of a stream come first. -/
theorem completeFrames_append
    {frames : List Bytes}
    (valid : ∀ frame ∈ frames, tcpFraming.Valid frame)
    (rest : Bytes) :
    completeFrames (tcpFraming.encodeAll frames ++ rest) =
      frames ++ completeFrames rest :=
  ((frames_completeFrames _).unique
    ((frames_completeFrames rest).behind valid)).1

/-- Nothing is whole where no frame can be split off. -/
theorem completeFrames_eq_nil
    {buffer : Bytes}
    (noSplit : splitFrame? buffer = none) :
    completeFrames buffer = [] :=
  ((frames_completeFrames buffer).unique
    ⟨fun _ member => absurd member List.not_mem_nil, rfl, noSplit⟩).1

/-- A frame that can be split off is whole. -/
theorem completeFrames_of_split
    {buffer frame rest : Bytes}
    (split : splitFrame? buffer = some (frame, rest)) :
    completeFrames buffer = frame :: completeFrames rest := by
  obtain ⟨valid, isBuffer⟩ := tcpFraming.eq_of_split? _ _ _ split
  have whole :=
    completeFrames_append (List.forall_mem_singleton.mpr valid) rest
  rw [isBuffer]
  simpa using whole

namespace PacketTunnel

/-- What `receive` hands to its callback. -/
structure Received where
  content : Option Bytes
  isComplete : Bool
  failed : Bool

/-- The first half of the callback: the buffer takes the content, if any. -/
def receiveContent
    (tcpReadBuffer : Bytes) :
    Option Bytes → List Bytes × Bytes
  | none | some [] => ([], tcpReadBuffer)
  | some (byte :: content) =>
      deliverTcpFrames (tcpReadBuffer ++ byte :: content)

/--
`receiveNext` for TCP: the frames handed to `frameHandler` until the stream is
complete or fails.
-/
def receiveNext (tcpReadBuffer : Bytes) : List Received → List Bytes
  | [] => []
  | received :: later =>
      let (frames, tcpReadBuffer) :=
        receiveContent tcpReadBuffer received.content
      if received.failed ∨ received.isComplete then
        frames
      else
        frames ++ receiveNext tcpReadBuffer later

/-- A stream in chunks, the last of them with its end. -/
def chunks
    (contents : List (Option Bytes))
    (last : Option Bytes) :
    List Received :=
  contents.map (fun content => ⟨content, false, false⟩) ++
    [⟨last, true, false⟩]

/-- What is whole is delivered at once, the rest stays in the buffer. -/
theorem receiveContent_frames
    {tcpReadBuffer : Bytes}
    (drained : splitFrame? tcpReadBuffer = none)
    (content : Option Bytes) :
    tcpFraming.Frames (tcpReadBuffer ++ content.getD [])
      (receiveContent tcpReadBuffer content).1
      (receiveContent tcpReadBuffer content).2 := by
  match content with
  | none | some [] =>
      exact
        ⟨fun _ member => absurd member List.not_mem_nil,
          by simp [receiveContent], drained⟩
  | some (byte :: content) =>
      exact frames_completeFrames _

/-- The packet tunnel delivers every whole frame, whatever the chunks. -/
theorem receiveNext_chunks
    {tcpReadBuffer : Bytes}
    (drained : splitFrame? tcpReadBuffer = none)
    (contents : List (Option Bytes))
    (last : Option Bytes) :
    receiveNext tcpReadBuffer (chunks contents last) =
      completeFrames
        (tcpReadBuffer ++ (contents.flatMap (·.getD []) ++ last.getD [])) := by
  induction contents generalizing tcpReadBuffer with
  | nil =>
      have delivered := receiveContent_frames drained last
      exact (delivered.unique (frames_completeFrames _)).1
  | cons content contents inductionHypothesis =>
      have delivered := receiveContent_frames drained content
      have later := inductionHypothesis delivered.noSplit
      calc
        receiveNext tcpReadBuffer (chunks (content :: contents) last) =
            (receiveContent tcpReadBuffer content).1 ++
              receiveNext (receiveContent tcpReadBuffer content).2
                (chunks contents last) := by
          simp [chunks, receiveNext]
        _ = completeFrames
              (tcpReadBuffer ++ content.getD [] ++
                (contents.flatMap (·.getD []) ++ last.getD [])) := by
          rw [later, ← completeFrames_append delivered.valid,
            ← List.append_assoc, delivered.same]
        _ = _ := by
          simp

end PacketTunnel

/-- A connection whose peer wrote a stream and closed it. -/
structure Reception where
  readBuf : Bytes
  unread : Bytes
  returned : List Bytes

namespace Reception

def new (stream : Bytes) : Reception where
  readBuf := []
  unread := stream
  returned := []

/--
A call of `try_read_frame` that succeeds.  Senders may have queued anything
meanwhile, and the reads of the call split the stream anywhere.
-/
inductive Step : Reception → List ReadOutcome → Reception → Prop where
  | tryReadFrame
      {before : Reception}
      {pendingWrites : PendingWrites}
      {writes : List WriteOutcome}
      {reads : List ReadOutcome}
      {frame : Option Bytes}
      {conn : ConnState}
      {written unread : Bytes} :
      before.unread = ConnState.received reads ++ unread →
      ConnState.tryReadFrame { readBuf := before.readBuf, pendingWrites }
          writes reads =
        (.ok frame, conn, written) →
      Step before reads
        { readBuf := conn.readBuf
          unread
          returned := before.returned ++ frame.toList }

/--
The frames that were returned when a call drops the connection: it reads the
rest of the stream and meets the end of file, or it cannot write.
-/
inductive Dropped
    (stream : Bytes)
    (calls : List (List ReadOutcome)) :
    List Bytes → Prop where
  | endOfFile
      {last : Reception}
      {pendingWrites : PendingWrites}
      {writes : List WriteOutcome}
      {reads : List ReadOutcome}
      {conn : ConnState}
      {written : Bytes} :
      Execution Step (.new stream) calls last →
      last.unread = ConnState.received reads →
      ConnState.tryReadFrame { readBuf := last.readBuf, pendingWrites } writes
          (reads ++ [.data []]) =
        (.error { kind := .connectionReset, message := "peer closed" }, conn,
          written) →
      Dropped stream calls last.returned
  | writeFailed
      {last : Reception}
      {pendingWrites after : PendingWrites}
      {writes : List WriteOutcome}
      {error : IoError}
      {written : Bytes} :
      Execution Step (.new stream) calls last →
      pendingWrites.flushTo writes = (.error error, after, written) →
      Dropped stream calls last.returned

/-- The calls read the frames early enough to return one after the other. -/
def InTime (stream : Bytes) (calls : List (List ReadOutcome)) : Prop :=
  ∀ earlier later, calls = earlier ++ later →
    (completeFrames stream).length ≤
      (completeFrames (earlier.flatMap ConnState.received)).length +
        later.length

/-- What was returned and buffered is what was read. -/
structure Split
    (stream : Bytes)
    (calls : List (List ReadOutcome))
    (reception : Reception) :
    Prop where
  valid : ∀ frame ∈ reception.returned, tcpFraming.Valid frame
  read :
    tcpFraming.encodeAll reception.returned ++ reception.readBuf =
      calls.flatMap ConnState.received
  stream :
    calls.flatMap ConnState.received ++ reception.unread = stream

namespace Split

variable
  {stream : Bytes}
  {calls : List (List ReadOutcome)}
  {before after reception : Reception}
  {reads : List ReadOutcome}

theorem new (stream : Bytes) : Split stream [] (.new stream) where
  valid := fun _ member => absurd member List.not_mem_nil
  read := rfl
  stream := rfl

/-- What was returned are the first frames of the stream. -/
theorem returned_prefix (split : Split stream calls reception) :
    reception.returned <+: completeFrames stream := by
  have isStream :
      tcpFraming.encodeAll reception.returned ++
          (reception.readBuf ++ reception.unread) =
        stream := by
    rw [← List.append_assoc, split.read, split.stream]
  rw [← isStream, completeFrames_append split.valid]
  exact List.prefix_append _ _

/-- All frames were returned when as many were. -/
theorem returned_eq_iff (split : Split stream calls reception) :
    reception.returned = completeFrames stream ↔
      (completeFrames stream).length ≤ reception.returned.length := by
  constructor
  · intro same
    rw [same]
  · exact split.returned_prefix.eq_of_length_le

/-- A call returns the next frame if it has read it by then. -/
theorem step
    (split : Split stream calls before)
    (taken : Step before reads after) :
    Split stream (calls ++ [reads]) after ∧
      after.returned.length =
        min (before.returned.length + 1)
          (completeFrames
            ((calls ++ [reads]).flatMap ConnState.received)).length := by
  cases taken with
  | @tryReadFrame pendingWrites writes _ frame conn written unread isUnread
      succeeded =>
      have isRead :
          tcpFraming.encodeAll before.returned ++
              (before.readBuf ++ ConnState.received reads) =
            (calls ++ [reads]).flatMap ConnState.received := by
        rw [← List.append_assoc, split.read]
        simp
      have isStream :
          (calls ++ [reads]).flatMap ConnState.received ++ unread =
            stream := by
        rw [← split.stream, isUnread]
        simp
      have whole :
          completeFrames ((calls ++ [reads]).flatMap ConnState.received) =
            before.returned ++
              completeFrames (before.readBuf ++ ConnState.received reads) := by
        rw [← isRead, completeFrames_append split.valid]
      rw [whole]
      have assembled := ConnState.tryReadFrame_ok succeeded
      rcases TcpLink.splitFrame?_of_assemble assembled with
        ⟨rfl, isBuffer, noSplit⟩ | ⟨whole, rfl, isSplit⟩
      · dsimp only at isBuffer
        refine ⟨⟨by simpa using split.valid, ?_, isStream⟩, ?_⟩
        · simpa [isBuffer] using isRead
        · simp [completeFrames_eq_nil noSplit]
      · obtain ⟨valid, isBuffer⟩ := tcpFraming.eq_of_split? _ _ _ isSplit
        refine ⟨⟨?_, ?_, isStream⟩, ?_⟩
        · exact
            List.forall_mem_append.mpr
              ⟨split.valid, List.forall_mem_singleton.mpr valid⟩
        · rw [← isRead, isBuffer]
          simp
        · rw [completeFrames_of_split isSplit]
          simp

end Split

/-- As many frames were returned as every split of the calls allows. -/
theorem le_length_returned
    {stream : Bytes}
    {calls : List (List ReadOutcome)}
    {last : Reception}
    (execution : Execution Step (.new stream) calls last) :
    Split stream calls last ∧
      ∀ count,
        count ≤ last.returned.length ↔
          ∀ earlier later, calls = earlier ++ later →
            count ≤
              (completeFrames (earlier.flatMap ConnState.received)).length +
                later.length := by
  induction execution with
  | nil =>
      refine ⟨.new stream, fun count => ⟨?_, fun allowed => ?_⟩⟩
      · rintro none earlier later isNil
        exact none.trans (Nat.zero_le _)
      · have isNone := allowed [] [] rfl
        have noFrames : completeFrames [] = [] := completeFrames_eq_nil rfl
        simpa [noFrames, Reception.new] using isNone
  | @snoc calls before after reads _ taken inductionHypothesis =>
      obtain ⟨split, allowed⟩ := inductionHypothesis
      obtain ⟨splitAfter, isLength⟩ := split.step taken
      refine ⟨splitAfter, fun count => ?_⟩
      rw [isLength, Nat.le_min]
      constructor
      · rintro ⟨oneMore, isRead⟩ earlier later isCalls
        rcases List.eq_nil_or_concat later with rfl | ⟨later, other, rfl⟩
        · rw [List.append_nil] at isCalls
          rw [← isCalls]
          exact isRead
        · rw [List.concat_eq_append, ← List.append_assoc] at isCalls
          have fewer :=
            (allowed (count - 1)).mp (by omega) earlier later
              (List.append_inj' isCalls rfl).1
          rw [List.concat_eq_append, List.length_append,
            List.length_singleton]
          omega
      · intro allowedAfter
        constructor
        · have before : count - 1 ≤ before.returned.length := by
            apply (allowed (count - 1)).mpr
            intro earlier later isCalls
            have oneMore :=
              allowedAfter earlier (later ++ [reads])
                (by rw [isCalls, List.append_assoc])
            rw [List.length_append, List.length_singleton] at oneMore
            omega
          omega
        · exact allowedAfter (calls ++ [reads]) [] (List.append_nil _).symm

/--
The packet tunnel delivers all frames of a stream, however it is chunked.  The
daemon returns all of them before it drops the connection exactly when every
frame was read at least as many calls before as it has frames behind it.
-/
theorem end_of_stream_keeps_frames_iff
    {stream : Bytes}
    {calls : List (List ReadOutcome)}
    {frames : List Bytes}
    (dropped : Dropped stream calls frames) :
    (∀ contents last,
        contents.flatMap (·.getD []) ++ last.getD [] = stream →
          PacketTunnel.receiveNext [] (PacketTunnel.chunks contents last) =
            completeFrames stream) ∧
      (frames = completeFrames stream ↔ InTime stream calls) := by
  obtain ⟨last, execution, rfl⟩ :
      ∃ last, Execution Step (.new stream) calls last ∧
        last.returned = frames := by
    cases dropped with
    | endOfFile execution => exact ⟨_, execution, rfl⟩
    | writeFailed execution => exact ⟨_, execution, rfl⟩
  obtain ⟨split, allowed⟩ := le_length_returned execution
  constructor
  · rintro contents last rfl
    exact PacketTunnel.receiveNext_chunks rfl contents last
  · rw [split.returned_eq_iff, allowed]
    rfl

/-- Two frames that were read two calls before the end of file. -/
theorem end_of_stream_keeps_frames_iff_example :
    [[7], []] = completeFrames [0, 1, 7, 0, 0] := by
  have returnsFirst :
      Step (.new [0, 1, 7, 0, 0]) [.data [0, 1], .data [7, 0, 0]]
        { readBuf := [0, 0], unread := [], returned := [[7]] } :=
    @Step.tryReadFrame (.new [0, 1, 7, 0, 0]) (.new 0) []
      [.data [0, 1], .data [7, 0, 0]] (some [7]) _ _ [] rfl rfl
  have returnsSecond :
      Step { readBuf := [0, 0], unread := [], returned := [[7]] } []
        { readBuf := [], unread := [], returned := [[7], []] } :=
    @Step.tryReadFrame { readBuf := [0, 0], unread := [], returned := [[7]] }
      (.new 0) [] [] (some []) _ _ [] rfl rfl
  have dropped :
      Dropped [0, 1, 7, 0, 0] ([[.data [0, 1], .data [7, 0, 0]]] ++ [[]])
        [[7], []] :=
    @Dropped.endOfFile _ _ _ (.new 0) [] [] _ _
      ((Execution.single returnsFirst).snoc returnsSecond) rfl rfl
  apply (end_of_stream_keeps_frames_iff dropped).2.mpr
  intro earlier later isCalls
  match earlier, isCalls with
  | [], isCalls =>
      rw [List.nil_append] at isCalls
      subst isCalls
      simp [completeFrames, PacketTunnel.deliverTcpFrames]
  | [first], isCalls =>
      simp only [List.cons_append, List.nil_append, List.cons.injEq]
        at isCalls
      obtain ⟨rfl, rfl⟩ := isCalls
      simp [completeFrames, PacketTunnel.deliverTcpFrames,
        ConnState.received]
  | first :: second :: earlier, isCalls =>
      simp only [List.cons_append, List.nil_append, List.cons.injEq,
        List.nil_eq, List.append_eq_nil_iff] at isCalls
      obtain ⟨rfl, rfl, rfl, rfl⟩ := isCalls
      simp [completeFrames, PacketTunnel.deliverTcpFrames,
        ConnState.received]

/-- A frame that arrives together with the end of file is not returned. -/
theorem end_of_stream_keeps_frames_counterexample :
    Dropped [0, 1, 7] [] [] ∧ ([] : List Bytes) ≠ completeFrames [0, 1, 7] := by
  constructor
  · exact
      @Dropped.endOfFile _ _ _ (.new 0) [] [.data [0, 1, 7]] _ _ .nil rfl rfl
  · simp [completeFrames, PacketTunnel.deliverTcpFrames]

end Reception

end HushWire

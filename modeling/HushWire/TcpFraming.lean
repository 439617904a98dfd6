import HushWire.Library.Execution
import HushWire.TcpTransport

namespace HushWire

/-!
# Frames over TCP

The prefix of two bytes is a framing, and both receivers split frames off
their buffers by it: the daemon one in each call, the packet tunnel as many as
there are.  What a receiver has returned, what it has buffered, what is on the
way and what the sender still queues are together the frames that were sent,
in every state of the link.
-/

theorem prefixedLength_le (high low : UInt8) :
    prefixedLength high low ≤ 65535 := by
  have highBound := high.toNat_lt
  have lowBound := low.toNat_lt
  unfold prefixedLength
  omega

/-- A length of 16 bits is read back. -/
theorem prefixedLength_ofNat
    {length : Nat}
    (short : length ≤ 65535) :
    prefixedLength (UInt8.ofNat (length / 256)) (UInt8.ofNat length) =
      length := by
  simp only [prefixedLength, UInt8.toNat_ofNat']
  omega

/-- A prefix is written back. -/
theorem lengthPrefix_prefixedLength (high low : UInt8) :
    lengthPrefix (prefixedLength high low) = [high, low] := by
  have highBound := high.toNat_lt
  have lowBound := low.toNat_lt
  have sameHigh :
      UInt8.ofNat (prefixedLength high low / 256) = high := by
    apply UInt8.toNat_inj.mp
    simp only [prefixedLength, UInt8.toNat_ofNat']
    omega
  have sameLow : UInt8.ofNat (prefixedLength high low) = low := by
    apply UInt8.toNat_inj.mp
    simp only [prefixedLength, UInt8.toNat_ofNat']
    omega
  simp [lengthPrefix, sameHigh, sameLow]

/-- Split a frame off a buffer that begins with its length. -/
def splitFrame? : Bytes → Option (Bytes × Bytes)
  | high :: low :: payload =>
      if payload.length < prefixedLength high low then
        none
      else
        some
          (payload.take (prefixedLength high low),
            payload.drop (prefixedLength high low))
  | _ => none

/-- Frames of at most 65535 bytes behind a prefix of two bytes. -/
def tcpFraming : Framing Bytes UInt8 where
  Valid := fun frame => frame.length ≤ 65535
  encode := PacketTunnel.tcpFrame
  split? := splitFrame?
  split?_nil := rfl
  split?_encode := by
    intro frame rest short
    simp [PacketTunnel.tcpFrame, lengthPrefix, splitFrame?,
      prefixedLength_ofNat short]
  eq_of_split? := by
    intro buffer frame rest split
    match buffer with
    | [] => cases split
    | [_] => cases split
    | high :: low :: payload =>
        simp only [splitFrame?] at split
        split at split
        · cases split
        · rename_i complete
          obtain ⟨isFrame, isRest⟩ := Prod.mk.inj (Option.some.inj split)
          have isLength : frame.length = prefixedLength high low := by
            rw [← isFrame, List.length_take]
            exact Nat.min_eq_left (Nat.not_lt.mp complete)
          refine ⟨isLength ▸ prefixedLength_le high low, ?_⟩
          rw [PacketTunnel.tcpFrame, isLength, lengthPrefix_prefixedLength,
            ← isFrame, ← isRest]
          simp

/-- The length that the packet tunnel reads. -/
theorem shiftLeft_or (high low : UInt8) :
    high.toNat <<< 8 ||| low.toNat = prefixedLength high low := by
  rw [← Nat.shiftLeft_add_eq_or_of_lt low.toNat_lt, Nat.shiftLeft_eq]
  rfl

namespace ConnState

/-- The daemon splits off one frame, if there is one. -/
theorem assemble_eq (readBuf : Bytes) :
    assemble readBuf =
      match splitFrame? readBuf with
      | none => (.ok none, readBuf)
      | some (frame, rest) => (.ok (some frame), rest) := by
  match readBuf with
  | [] => rfl
  | [_] => rfl
  | high :: low :: payload =>
      have bound : ¬ 65535 < prefixedLength high low :=
        Nat.not_lt.mpr (prefixedLength_le high low)
      simp only [assemble, splitFrame?, List.length_cons]
      rw [if_neg bound]
      by_cases complete : payload.length < prefixedLength high low
      · rw [if_pos complete, if_pos]
        omega
      · rw [if_neg complete, if_neg]
        · simp [Nat.add_comm 2]
        · omega

/-- The bytes read until the stream would block. -/
def received : List ReadOutcome → Bytes
  | [] => []
  | .data bytes :: outcomes => bytes ++ received outcomes
  | .failed error :: outcomes =>
      match error.kind with
      | .wouldBlock => []
      | _ => received outcomes

/-- What was read is appended to the buffer. -/
theorem readAvailable_ok
    {readBuf after : Bytes}
    {outcomes : List ReadOutcome}
    (available : readAvailable readBuf outcomes = (.ok (), after)) :
    after = readBuf ++ received outcomes := by
  induction outcomes generalizing readBuf with
  | nil =>
      rw [← (Prod.mk.inj available).2, received, List.append_nil]
  | cons outcome outcomes inductionHypothesis =>
      cases outcome with
      | data bytes =>
          cases bytes with
          | nil => cases available
          | cons byte bytes =>
              rw [inductionHypothesis available, received,
                List.append_assoc]
      | failed error =>
          obtain ⟨kind, message⟩ := error
          cases kind with
          | wouldBlock =>
              rw [← (Prod.mk.inj available).2, received, List.append_nil]
          | interrupted | timedOut =>
              exact inductionHypothesis available
          | _ =>
              cases available

/-- A call that succeeds splits a frame off what it had and what it read. -/
theorem tryReadFrame_ok
    {conn after : ConnState}
    {writes : List WriteOutcome}
    {reads : List ReadOutcome}
    {frame : Option Bytes}
    {written : Bytes}
    (succeeded :
      conn.tryReadFrame writes reads = (.ok frame, after, written)) :
    assemble (conn.readBuf ++ received reads) = (.ok frame, after.readBuf) := by
  unfold tryReadFrame at succeeded
  rcases flushed : conn.pendingWrites.flushTo writes with
    ⟨error | ok, pendingWrites, bytes⟩
  · rw [flushed] at succeeded
    cases succeeded
  · rcases available : readAvailable conn.readBuf reads with
      ⟨error | ok, readBuf⟩
    · simp only [flushed, available] at succeeded
      cases succeeded
    · simp only [flushed, available] at succeeded
      obtain ⟨isFrame, isRest⟩ := Prod.mk.inj succeeded
      rw [← readAvailable_ok available, ← (Prod.mk.inj isRest).1, ← isFrame]

end ConnState

namespace PacketTunnel

/-- What is delivered stood in the buffer, and nothing is left to deliver. -/
theorem deliverTcpFrames_spec (tcpReadBuffer : Bytes) :
    (∀ frame ∈ (deliverTcpFrames tcpReadBuffer).1, tcpFraming.Valid frame) ∧
      tcpFraming.encodeAll (deliverTcpFrames tcpReadBuffer).1 ++
          (deliverTcpFrames tcpReadBuffer).2 =
        tcpReadBuffer ∧
      splitFrame? (deliverTcpFrames tcpReadBuffer).2 = none := by
  fun_induction deliverTcpFrames tcpReadBuffer with
  | case1 first second payload length incomplete =>
      refine ⟨by simp, rfl, ?_⟩
      simp only [length, shiftLeft_or] at incomplete
      simp [splitFrame?, incomplete]
  | case2 first second payload length complete frames rest isRest
      inductionHypothesis =>
      rw [isRest] at inductionHypothesis
      obtain ⟨valid, same, noSplit⟩ := inductionHypothesis
      have split :
          tcpFraming.split? (first :: second :: payload) =
            some (payload.take length, payload.drop length) := by
        simp only [length, shiftLeft_or] at complete ⊢
        simp [tcpFraming, splitFrame?, complete]
      obtain ⟨headValid, isBuffer⟩ := tcpFraming.eq_of_split? _ _ _ split
      refine ⟨List.forall_mem_cons.mpr ⟨headValid, valid⟩, ?_, noSplit⟩
      rw [Framing.encodeAll_cons, List.append_assoc]
      exact (congrArg _ same).trans isBuffer.symm
  | case3 buffer noPrefix =>
      refine ⟨by simp, rfl, ?_⟩
      match buffer, noPrefix with
      | [], _ => rfl
      | [_], _ => rfl
      | first :: second :: payload, noPrefix =>
          exact absurd rfl (noPrefix first second payload)

end PacketTunnel

/-- A sender, the bytes on the way, and both receivers of the same stream. -/
structure TcpLink where
  sender : PendingWrites
  /-- The frames that `enqueue_frame` has accepted. -/
  sent : List Bytes
  /-- Written, and not yet read by the daemon. -/
  unread : Bytes
  conn : ConnState
  returned : List Bytes
  /-- Written, and not yet received by the packet tunnel. -/
  unreceived : Bytes
  tcpReadBuffer : Bytes
  delivered : List Bytes

inductive TcpEvent where
  | enqueueFrame (frame : Bytes)
  | flush (outcomes : List WriteOutcome)
  | tryReadFrame
      (writes : List WriteOutcome)
      (reads : List ReadOutcome)
  | receive (content : Bytes)

namespace TcpLink

/-- A fresh connection whose sender queues up to `limit` bytes. -/
def new (limit : Nat) : TcpLink where
  sender := .new limit
  sent := []
  unread := []
  conn := .new
  returned := []
  unreceived := []
  tcpReadBuffer := []
  delivered := []

/--
The steps of a link, in any order.  The reads of one call and the chunks that
the packet tunnel receives split the stream anywhere.
-/
inductive Step : TcpLink → TcpEvent → TcpLink → Prop where
  | accept
      {before : TcpLink}
      {frame : Bytes}
      {sender : PendingWrites} :
      before.sender.enqueueFrame frame = (.ok (), sender) →
      Step before (.enqueueFrame frame)
        { before with sender, sent := before.sent ++ [frame] }
  | reject
      {before : TcpLink}
      {frame : Bytes}
      {error : IoError}
      {sender : PendingWrites} :
      before.sender.enqueueFrame frame = (.error error, sender) →
      Step before (.enqueueFrame frame) { before with sender }
  | flush
      {before : TcpLink}
      {outcomes : List WriteOutcome}
      {result : Except IoError Unit}
      {sender : PendingWrites}
      {written : Bytes} :
      before.sender.flushTo outcomes = (result, sender, written) →
      Step before (.flush outcomes)
        { before with
          sender
          unread := before.unread ++ written
          unreceived := before.unreceived ++ written }
  | tryReadFrame
      {before : TcpLink}
      {writes : List WriteOutcome}
      {reads : List ReadOutcome}
      {frame : Option Bytes}
      {conn : ConnState}
      {written unread : Bytes} :
      before.unread = ConnState.received reads ++ unread →
      before.conn.tryReadFrame writes reads = (.ok frame, conn, written) →
      Step before (.tryReadFrame writes reads)
        { before with
          unread
          conn
          returned := before.returned ++ frame.toList }
  | receive
      {before : TcpLink}
      {content unreceived tcpReadBuffer : Bytes}
      {frames : List Bytes} :
      content ≠ [] →
      before.unreceived = content ++ unreceived →
      PacketTunnel.deliverTcpFrames (before.tcpReadBuffer ++ content) =
        (frames, tcpReadBuffer) →
      Step before (.receive content)
        { before with
          unreceived
          tcpReadBuffer
          delivered := before.delivered ++ frames }

/-- What one receiver has given out, has buffered and will still get. -/
structure Lossless
    (sent given : List Bytes)
    (buffer underway queued : Bytes) :
    Prop where
  valid : ∀ frame ∈ given, tcpFraming.Valid frame
  same :
    tcpFraming.encodeAll given ++ (buffer ++ (underway ++ queued)) =
      tcpFraming.encodeAll sent

/-- Neither receiver has lost anything. -/
structure Intact (link : TcpLink) : Prop where
  sent : ∀ frame ∈ link.sent, tcpFraming.Valid frame
  daemon :
    Lossless link.sent link.returned link.conn.readBuf link.unread
      link.sender.rest
  packetTunnel :
    Lossless link.sent link.delivered link.tcpReadBuffer link.unreceived
      link.sender.rest
  /-- The packet tunnel delivers every whole frame at once. -/
  drained : splitFrame? link.tcpReadBuffer = none

namespace Lossless

variable {sent given : List Bytes} {buffer underway queued : Bytes}

/-- The frames given out are the first that were sent. -/
theorem exists_remaining
    (lossless : Lossless sent given buffer underway queued)
    (valid : ∀ frame ∈ sent, tcpFraming.Valid frame) :
    ∃ remaining,
      sent = given ++ remaining ∧
        buffer ++ (underway ++ queued) = tcpFraming.encodeAll remaining :=
  Framing.eq_append_of_encodeAll lossless.valid valid lossless.same

/-- A frame that is accepted is queued behind the others. -/
theorem accept
    {frame : Bytes}
    {after : Bytes}
    (lossless : Lossless sent given buffer underway queued)
    (isQueued : after = queued ++ PacketTunnel.tcpFrame frame) :
    Lossless (sent ++ [frame]) given buffer underway after where
  valid := lossless.valid
  same := by
    rw [Framing.encodeAll_append, ← lossless.same, isQueued]
    simp [tcpFraming]

/-- What is flushed is on its way. -/
theorem flush
    {written rest : Bytes}
    (lossless : Lossless sent given buffer underway queued)
    (isQueued : written ++ rest = queued) :
    Lossless sent given buffer (underway ++ written) rest where
  valid := lossless.valid
  same := by
    rw [← lossless.same, ← isQueued]
    simp

/-- What is read goes into the buffer, and frames leave it at its front. -/
theorem read
    {chunk unread rest : Bytes}
    {frames : List Bytes}
    (lossless : Lossless sent given buffer underway queued)
    (isUnderway : underway = chunk ++ unread)
    (valid : ∀ frame ∈ frames, tcpFraming.Valid frame)
    (isBuffer : tcpFraming.encodeAll frames ++ rest = buffer ++ chunk) :
    Lossless sent (given ++ frames) rest unread queued where
  valid := by
    intro frame member
    rcases List.mem_append.mp member with before | new
    · exact lossless.valid frame before
    · exact valid frame new
  same := by
    rw [← lossless.same, Framing.encodeAll_append, isUnderway,
      List.append_assoc, ← List.append_assoc _ rest, isBuffer]
    simp

end Lossless

/-- The frame of a call, if any, was split off the buffer. -/
theorem splitFrame?_of_assemble
    {buffer rest : Bytes}
    {frame : Option Bytes}
    (assembled : ConnState.assemble buffer = (.ok frame, rest)) :
    (frame = none ∧ rest = buffer ∧ splitFrame? buffer = none) ∨
      ∃ whole, frame = some whole ∧ splitFrame? buffer = some (whole, rest) := by
  rw [ConnState.assemble_eq] at assembled
  split at assembled
  · rename_i noSplit
    obtain ⟨isFrame, isRest⟩ := Prod.mk.inj assembled
    exact .inl ⟨(Except.ok.inj isFrame).symm, isRest.symm, noSplit⟩
  · rename_i whole remainder split
    obtain ⟨isFrame, isRest⟩ := Prod.mk.inj assembled
    exact .inr ⟨whole, (Except.ok.inj isFrame).symm, isRest ▸ split⟩

theorem Intact.new (limit : Nat) : Intact (.new limit) where
  sent := fun _ member => absurd member List.not_mem_nil
  daemon := ⟨fun _ member => absurd member List.not_mem_nil, rfl⟩
  packetTunnel := ⟨fun _ member => absurd member List.not_mem_nil, rfl⟩
  drained := rfl

theorem Intact.step
    {before after : TcpLink}
    {event : TcpEvent}
    (intact : before.Intact)
    (taken : Step before event after) :
    after.Intact := by
  cases taken with
  | @accept frame sender accepted =>
      obtain ⟨short, queued⟩ := PendingWrites.enqueueFrame_ok accepted
      refine
        ⟨?_, intact.daemon.accept queued, intact.packetTunnel.accept queued,
          intact.drained⟩
      intro other member
      rcases List.mem_append.mp member with earlier | isLast
      · exact intact.sent other earlier
      · rw [List.mem_singleton.mp isLast]
        exact short
  | reject rejected =>
      rw [PendingWrites.enqueueFrame_error rejected]
      exact ⟨intact.sent, intact.daemon, intact.packetTunnel, intact.drained⟩
  | @flush outcomes result sender written flushed =>
      have keeps := before.sender.flushTo_rest outcomes
      rw [flushed] at keeps
      exact
        ⟨intact.sent, intact.daemon.flush keeps,
          intact.packetTunnel.flush keeps, intact.drained⟩
  | tryReadFrame isUnread succeeded =>
      refine ⟨intact.sent, ?_, intact.packetTunnel, intact.drained⟩
      rcases splitFrame?_of_assemble (ConnState.tryReadFrame_ok succeeded)
        with ⟨rfl, isRest, _⟩ | ⟨whole, rfl, split⟩
      · exact intact.daemon.read isUnread
          (fun _ member => absurd member List.not_mem_nil) isRest
      · obtain ⟨valid, isBuffer⟩ := tcpFraming.eq_of_split? _ _ _ split
        refine intact.daemon.read isUnread ?_ ?_
        · intro frame member
          rw [List.mem_singleton.mp member]
          exact valid
        · rw [Option.toList_some, Framing.encodeAll_cons,
            Framing.encodeAll_nil, List.append_nil]
          exact isBuffer.symm
  | @receive content unreceived tcpReadBuffer frames _ isUnreceived
      delivered =>
      obtain ⟨valid, isBuffer, drained⟩ :=
        PacketTunnel.deliverTcpFrames_spec (before.tcpReadBuffer ++ content)
      rw [delivered] at valid isBuffer drained
      exact
        ⟨intact.sent, intact.daemon,
          intact.packetTunnel.read isUnreceived valid isBuffer, drained⟩

theorem Intact.of_execution
    {limit : Nat}
    {events : List TcpEvent}
    {link : TcpLink}
    (execution : Execution Step (.new limit) events link) :
    link.Intact :=
  execution.preserves Intact (.new limit) fun _ intact taken =>
    intact.step taken

/-- Everything was flushed, and the daemon has read all of it. -/
structure ReadOut (link : TcpLink) : Prop where
  intact : link.Intact
  flushed : link.sender.rest = []
  read : link.unread = []

/-- A further call of the daemon. -/
def TcpEvent.IsRead : TcpEvent → Prop
  | .tryReadFrame _ _ => True
  | _ => False

/-- Once all is read, each call returns the next frame. -/
theorem ReadOut.step
    {before after : TcpLink}
    {event : TcpEvent}
    (readOut : before.ReadOut)
    (isRead : TcpEvent.IsRead event)
    (taken : Step before event after) :
    after.ReadOut ∧
      after.sent = before.sent ∧
      after.returned = before.sent.take (before.returned.length + 1) := by
  have intact := readOut.intact.step taken
  cases taken with
  | accept | reject | flush | receive =>
      exact isRead.elim
  | @tryReadFrame writes reads frame conn written unread isUnread succeeded =>
      have bothNil := isUnread.symm.trans readOut.read
      obtain ⟨noReads, noUnread⟩ := List.append_eq_nil_iff.mp bothNil
      have assembled := ConnState.tryReadFrame_ok succeeded
      rw [noReads, List.append_nil] at assembled
      refine ⟨⟨intact, readOut.flushed, noUnread⟩, rfl, ?_⟩
      obtain ⟨remaining, isSent, isBuffer⟩ :=
        readOut.intact.daemon.exists_remaining readOut.intact.sent
      rw [readOut.read, readOut.flushed, List.append_nil, List.append_nil]
        at isBuffer
      rw [isBuffer] at assembled
      dsimp only
      rw [isSent, List.take_append, Nat.add_sub_cancel_left,
        List.take_of_length_le (Nat.le_succ _)]
      have remainingValid :
          ∀ frame ∈ remaining, tcpFraming.Valid frame := by
        intro other member
        apply readOut.intact.sent
        rw [isSent]
        exact List.mem_append_right _ member
      rcases splitFrame?_of_assemble assembled with
        ⟨rfl, _, noSplit⟩ | ⟨whole, rfl, split⟩
      · have isNil : remaining = [] :=
          Framing.eq_nil_of_split? remainingValid noSplit
        rw [isNil]
        rfl
      · cases remaining with
        | nil => cases split
        | cons head remaining =>
            have headSplit :=
              tcpFraming.split?_encode head (tcpFraming.encodeAll remaining)
                (remainingValid head List.mem_cons_self)
            have same := Option.some.inj (split.symm.trans headSplit)
            rw [(Prod.mk.inj same).1]
            rfl

/-- As many calls as there are frames return them all. -/
theorem ReadOut.returned
    {link final : TcpLink}
    {calls : List TcpEvent}
    (readOut : link.ReadOut)
    (calling : Execution Step link calls final)
    (onlyReads : ∀ call ∈ calls, TcpEvent.IsRead call) :
    final.ReadOut ∧
      final.sent = link.sent ∧
      link.sent.take (link.returned.length + calls.length) =
        final.returned := by
  induction calling with
  | nil =>
      refine ⟨readOut, rfl, ?_⟩
      obtain ⟨remaining, isSent, _⟩ :=
        readOut.intact.daemon.exists_remaining readOut.intact.sent
      rw [isSent]
      simp
  | @snoc events middle final event _ taken inductionHypothesis =>
      obtain ⟨middleOut, sameSent, isReturned⟩ :=
        inductionHypothesis fun call member =>
          onlyReads call (List.mem_append_left _ member)
      obtain ⟨finalOut, finalSent, isNext⟩ :=
        middleOut.step (onlyReads event (by simp)) taken
      refine ⟨finalOut, finalSent.trans sameSent, ?_⟩
      rw [isNext, sameSent, ← isReturned, List.length_append,
        List.length_singleton, List.length_take, List.take_eq_take_iff]
      omega

/-- Once all is read, the daemon can be called as often as one likes. -/
theorem ReadOut.exists_calls
    {link : TcpLink}
    (readOut : link.ReadOut)
    (count : Nat) :
    ∃ calls final,
      Execution Step link calls final ∧
        calls.length = count ∧
        ∀ call ∈ calls, TcpEvent.IsRead call := by
  induction count with
  | zero =>
      exact ⟨[], link, .nil, rfl,
        fun _ member => absurd member List.not_mem_nil⟩
  | succ count inductionHypothesis =>
      obtain ⟨calls, final, calling, isCount, onlyReads⟩ := inductionHypothesis
      obtain ⟨finalOut, _, _⟩ := readOut.returned calling onlyReads
      have assembled := ConnState.assemble_eq final.conn.readBuf
      obtain ⟨frame, rest, isFrame⟩ :
          ∃ frame rest,
            ConnState.assemble final.conn.readBuf = (.ok frame, rest) := by
        rw [assembled]
        split
        · exact ⟨_, _, rfl⟩
        · exact ⟨_, _, rfl⟩
      have called :
          final.conn.tryReadFrame [] [] =
            (.ok frame,
              { readBuf := rest
                pendingWrites := (final.conn.pendingWrites.flushTo []).2.1 },
              (final.conn.pendingWrites.flushTo []).2.2) := by
        have flushed : (final.conn.pendingWrites.flushTo []).1 = .ok () := by
          unfold PendingWrites.flushTo
          split <;> rfl
        unfold ConnState.tryReadFrame
        dsimp only
        rw [flushed]
        simp [ConnState.readAvailable, isFrame]
      refine
        ⟨calls ++ [.tryReadFrame [] []], _,
          calling.snoc (.tryReadFrame rfl called), by simp [isCount], ?_⟩
      intro call member
      rcases List.mem_append.mp member with earlier | isLast
      · exact onlyReads call earlier
      · rw [List.mem_singleton.mp isLast]
        trivial

/--
In every state both receivers have given out a prefix of the frames that were
sent.  Once everything was flushed, the packet tunnel has delivered all of
them as soon as it received the last byte, and the daemon returns all of them
when it is called as often as frames are missing.
-/
theorem tcp_framing_lossless
    {limit : Nat}
    {events : List TcpEvent}
    {link : TcpLink}
    (execution : Execution Step (.new limit) events link) :
    link.returned <+: link.sent ∧
      link.delivered <+: link.sent ∧
      (link.sender.pendingLen = 0 →
        (link.unreceived = [] → link.delivered = link.sent) ∧
          (link.unread = [] →
            (∀ calls final,
              Execution Step link calls final →
              (∀ call ∈ calls, TcpEvent.IsRead call) →
              link.sent.length ≤ link.returned.length + calls.length →
              final.returned = link.sent) ∧
            ∀ count, ∃ calls final,
              Execution Step link calls final ∧
                calls.length = count ∧
                ∀ call ∈ calls, TcpEvent.IsRead call)) := by
  have intact := Intact.of_execution execution
  obtain ⟨unreturned, isReturned, _⟩ :=
    intact.daemon.exists_remaining intact.sent
  obtain ⟨undelivered, isDelivered, isBuffer⟩ :=
    intact.packetTunnel.exists_remaining intact.sent
  refine
    ⟨⟨unreturned, isReturned.symm⟩, ⟨undelivered, isDelivered.symm⟩, ?_⟩
  intro allFlushed
  have flushed := PendingWrites.pendingLen_eq_zero.mp allFlushed
  constructor
  · intro allReceived
    rw [allReceived, flushed, List.append_nil, List.append_nil] at isBuffer
    have undeliveredValid :
        ∀ frame ∈ undelivered, tcpFraming.Valid frame := by
      intro frame member
      apply intact.sent
      rw [isDelivered]
      exact List.mem_append_right _ member
    have noneLeft : undelivered = [] :=
      Framing.eq_nil_of_split? undeliveredValid (isBuffer ▸ intact.drained)
    rw [isDelivered, noneLeft, List.append_nil]
  · intro allRead
    have readOut : link.ReadOut := ⟨intact, flushed, allRead⟩
    refine ⟨?_, readOut.exists_calls⟩
    intro calls final calling onlyReads enough
    obtain ⟨_, _, isFinal⟩ := readOut.returned calling onlyReads
    rw [← isFinal, List.take_of_length_le enough]

/-- A link after two frames, one of them empty, were queued and flushed. -/
def flushedExample : TcpLink :=
  { new 1024 with
    sent := [[7], []]
    unread := [0, 1, 7, 0, 0]
    unreceived := [0, 1, 7, 0, 0] }

theorem flushedExample_execution :
    Execution Step (.new 1024)
      ([.enqueueFrame [7]] ++ [.enqueueFrame []] ++
        [.flush
          [.written 2, .failed { kind := .interrupted, message := "" },
            .written 3]])
      flushedExample :=
  ((Execution.single (.accept rfl)).snoc (.accept rfl)).snoc (.flush rfl)

/-- The daemon reads all of it in one call and has one frame to return. -/
def readExample : TcpLink :=
  { flushedExample with
    unread := []
    conn := { ConnState.new with readBuf := [0, 0] }
    returned := [[7]] }

/-- The packet tunnel receives it in two chunks. -/
def receivedExample : TcpLink :=
  { readExample with
    unreceived := []
    delivered := [[7], []] }

theorem receivedExample_execution :
    Execution Step flushedExample
      ([.tryReadFrame [] [.data [0, 1, 7, 0, 0]]] ++ [.receive [0]] ++
        [.receive [1, 7, 0, 0]])
      receivedExample :=
  have nothingYet : PacketTunnel.deliverTcpFrames [0] = ([], [0]) := by
    simp [PacketTunnel.deliverTcpFrames]
  have both :
      PacketTunnel.deliverTcpFrames [0, 1, 7, 0, 0] = ([[7], []], []) := by
    simp [PacketTunnel.deliverTcpFrames]
  have reads :
      Step flushedExample (.tryReadFrame [] [.data [0, 1, 7, 0, 0]])
        readExample :=
    @Step.tryReadFrame flushedExample [] [.data [0, 1, 7, 0, 0]] (some [7])
      readExample.conn [] [] rfl rfl
  have receivesFirst :
      Step readExample (.receive [0])
        { readExample with
          unreceived := [1, 7, 0, 0]
          tcpReadBuffer := [0] } :=
    .receive (by decide) rfl nothingYet
  ((Execution.single reads).snoc receivesFirst).snoc
    (.receive (by decide) rfl both)

/-- All that was sent has been delivered, and half of it returned. -/
theorem tcp_framing_lossless_example :
    [[7]] <+: receivedExample.sent ∧
      receivedExample.delivered = receivedExample.sent :=
  have lossless :=
    tcp_framing_lossless
      (flushedExample_execution.append receivedExample_execution)
  ⟨lossless.1, (lossless.2.2 rfl).1 rfl⟩

end TcpLink

end HushWire

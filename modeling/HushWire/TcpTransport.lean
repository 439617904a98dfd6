import HushWire.Library.Framing
import HushWire.Auth

namespace HushWire

/-!
# TCP transport

Over TCP every frame has a prefix of two bytes with its length.  The sender
keeps what the stream does not take; a receiver keeps what is not yet a whole
frame.  There are two receivers, the one of the daemon and the one of the
packet tunnel.

What the stream answers to the reads and writes of one call is a list; when it
is used up the stream would block.
-/

inductive ErrorKind where
  | invalidInput
  | wouldBlock
  | writeZero
  | interrupted
  | timedOut
  | connectionReset
  | invalidData
  | other
  deriving Repr, DecidableEq

structure IoError where
  kind : ErrorKind
  message : String
  deriving Repr, DecidableEq

/-- The answer of a stream to one write. -/
inductive WriteOutcome where
  | written (count : Nat)
  | failed (error : IoError)
  deriving DecidableEq

/-- The answer of a stream to one read; nothing at all is the end of file. -/
inductive ReadOutcome where
  | data (bytes : Bytes)
  | failed (error : IoError)
  deriving DecidableEq

/-- `u16::to_be_bytes` of a length that was cut to 16 bits. -/
def lengthPrefix (length : Nat) : Bytes :=
  [UInt8.ofNat (length / 256), UInt8.ofNat length]

/-- `u16::from_be_bytes`, as a number. -/
def prefixedLength (high low : UInt8) : Nat :=
  high.toNat * 256 + low.toNat

structure PendingWrites where
  bytes : Bytes
  offset : Nat
  limit : Nat
  deriving DecidableEq

def maxPendingWriteBytes : Nat := 16 * 1024 * 1024

namespace PendingWrites

def new (limit : Nat) : PendingWrites where
  bytes := []
  offset := 0
  limit := limit

def pendingLen (pending : PendingWrites) : Nat :=
  pending.bytes.length - pending.offset

def compact (pending : PendingWrites) : PendingWrites :=
  if pending.offset = 0 then
    pending
  else if pending.pendingLen = 0 then
    { pending with bytes := [], offset := 0 }
  else
    { pending with bytes := pending.bytes.drop pending.offset, offset := 0 }

def enqueueFrame
    (pending : PendingWrites)
    (frame : Bytes) :
    Except IoError Unit × PendingWrites :=
  if 65535 < frame.length then
    (.error
      { kind := .invalidInput
        message := "TCP frame exceeds 65535 bytes" },
      pending)
  else if pending.limit < pending.pendingLen + (2 + frame.length) then
    (.error
      { kind := .wouldBlock
        message := "TCP pending-write queue is full" },
      pending)
  else
    let pending := pending.compact
    (.ok (),
      { pending with
        bytes := pending.bytes ++ lengthPrefix frame.length ++ frame })

/--
Flush as much as the stream takes; the last component is what it took.
`WouldBlock` is no error, the unwritten rest stays queued.
-/
def flushTo
    (pending : PendingWrites) :
    List WriteOutcome → Except IoError Unit × PendingWrites × Bytes
  | [] =>
      if pending.offset < pending.bytes.length then
        (.ok (), pending, [])
      else
        (.ok (), { pending with bytes := [], offset := 0 }, [])
  | outcome :: outcomes =>
      if pending.offset < pending.bytes.length then
        match outcome with
        | .written 0 =>
            (.error
              { kind := .writeZero
                message := "TCP stream accepted zero bytes" },
              pending, [])
        | .written count =>
            let accepted :=
              (pending.bytes.drop pending.offset).take count
            let (result, pending, written) :=
              flushTo { pending with offset := pending.offset + count }
                outcomes
            (result, pending, accepted ++ written)
        | .failed error =>
            match error.kind with
            | .interrupted => pending.flushTo outcomes
            | .wouldBlock | .timedOut => (.ok (), pending, [])
            | _ => (.error error, pending, [])
      else
        (.ok (), { pending with bytes := [], offset := 0 }, [])

/-- The bytes that were queued and not yet written. -/
def rest (pending : PendingWrites) : Bytes :=
  pending.bytes.drop pending.offset

@[simp] theorem rest_new (limit : Nat) : (new limit).rest = [] :=
  rfl

/-- Nothing is pending exactly when nothing is left to write. -/
theorem pendingLen_eq_zero
    {pending : PendingWrites} :
    pending.pendingLen = 0 ↔ pending.rest = [] := by
  rw [pendingLen, rest, ← List.length_drop, List.length_eq_zero_iff]

@[simp] theorem rest_compact (pending : PendingWrites) :
    pending.compact.rest = pending.rest := by
  unfold compact
  split
  · rfl
  · split
    case isTrue isEmpty =>
      exact (pendingLen_eq_zero.mp isEmpty).symm
    case isFalse =>
      rfl

@[simp] theorem offset_compact (pending : PendingWrites) :
    pending.compact.offset = 0 := by
  unfold compact
  split
  case isTrue isZero => exact isZero
  case isFalse => split <;> rfl

/-- An accepted frame is short enough and queued behind the others. -/
theorem enqueueFrame_ok
    {pending after : PendingWrites}
    {frame : Bytes}
    (queued : pending.enqueueFrame frame = (.ok (), after)) :
    frame.length ≤ 65535 ∧
      after.rest = pending.rest ++ (lengthPrefix frame.length ++ frame) := by
  unfold enqueueFrame at queued
  split at queued
  · cases queued
  · rename_i short
    split at queued
    · cases queued
    · refine ⟨Nat.not_lt.mp short, ?_⟩
      rw [← (Prod.mk.inj queued).2]
      have keeps := pending.rest_compact
      simp only [rest, offset_compact, List.drop_zero] at keeps ⊢
      rw [keeps, List.append_assoc]

/-- A rejected frame leaves the queue as it was. -/
theorem enqueueFrame_error
    {pending after : PendingWrites}
    {frame : Bytes}
    {error : IoError}
    (rejected : pending.enqueueFrame frame = (.error error, after)) :
    after = pending := by
  unfold enqueueFrame at rejected
  split at rejected
  · exact (Prod.mk.inj rejected).2.symm
  · split at rejected
    · exact (Prod.mk.inj rejected).2.symm
    · cases rejected

/-- Whatever the stream answers, no byte is lost, repeated or moved. -/
theorem flushTo_rest
    (pending : PendingWrites)
    (outcomes : List WriteOutcome) :
    (pending.flushTo outcomes).2.2 ++ (pending.flushTo outcomes).2.1.rest =
      pending.rest := by
  induction outcomes generalizing pending with
  | nil =>
      unfold flushTo
      split
      · rfl
      · rename_i flushed
        exact (List.drop_eq_nil_of_le (Nat.not_lt.mp flushed)).symm
  | cons outcome outcomes inductionHypothesis =>
      unfold flushTo
      split
      · cases outcome with
        | written count =>
            cases count with
            | zero => rfl
            | succ count =>
                let advanced :=
                  { pending with offset := pending.offset + (count + 1) }
                change
                  ((pending.bytes.drop pending.offset).take (count + 1) ++
                      (advanced.flushTo outcomes).2.2) ++
                    (advanced.flushTo outcomes).2.1.rest =
                  pending.rest
                have advancedRest :
                    advanced.rest =
                      (pending.bytes.drop pending.offset).drop (count + 1) :=
                  List.drop_drop.symm
                rw [List.append_assoc, inductionHypothesis advanced,
                  advancedRest]
                exact List.take_append_drop _ _
        | failed error =>
            dsimp only
            split
            · exact inductionHypothesis pending
            · rfl
            · rfl
            · rfl
      · rename_i flushed
        exact (List.drop_eq_nil_of_le (Nat.not_lt.mp flushed)).symm

end PendingWrites

structure ConnState where
  readBuf : Bytes
  pendingWrites : PendingWrites
  deriving DecidableEq

namespace ConnState

/-- `ConnState::new`. -/
def new : ConnState where
  readBuf := []
  pendingWrites := .new maxPendingWriteBytes

/-- The loop that reads what is available, until the stream would block. -/
def readAvailable
    (readBuf : Bytes) :
    List ReadOutcome → Except IoError Unit × Bytes
  | [] => (.ok (), readBuf)
  | .data [] :: _ =>
      (.error { kind := .connectionReset, message := "peer closed" }, readBuf)
  | .data bytes :: outcomes => readAvailable (readBuf ++ bytes) outcomes
  | .failed error :: outcomes =>
      match error.kind with
      | .wouldBlock => (.ok (), readBuf)
      | .interrupted | .timedOut => readAvailable readBuf outcomes
      | _ => (.error error, readBuf)

/-- Assemble a frame: two bytes with the length, and the payload. -/
def assemble (readBuf : Bytes) : Except IoError (Option Bytes) × Bytes :=
  match readBuf with
  | high :: low :: _ =>
      let frameLen := prefixedLength high low
      if 65535 < frameLen then
        (.error { kind := .invalidData, message := "frame too large" }, readBuf)
      else if readBuf.length < 2 + frameLen then
        (.ok none, readBuf)
      else
        (.ok (some ((readBuf.drop 2).take frameLen)),
          readBuf.drop (2 + frameLen))
  | _ => (.ok none, readBuf)

/-- Try to read a complete frame; the last component is what was written. -/
def tryReadFrame
    (conn : ConnState)
    (writes : List WriteOutcome)
    (reads : List ReadOutcome) :
    Except IoError (Option Bytes) × ConnState × Bytes :=
  let (flushed, pendingWrites, written) := conn.pendingWrites.flushTo writes
  let conn := { conn with pendingWrites }
  match flushed with
  | .error error => (.error error, conn, written)
  | .ok () =>
      let (received, readBuf) := readAvailable conn.readBuf reads
      match received with
      | .error error => (.error error, { conn with readBuf }, written)
      | .ok () =>
          let (frame, readBuf) := assemble readBuf
          (frame, { conn with readBuf }, written)

/--
Queue a frame between two attempts to flush, each with what the stream answers
to it; the last component is what was written.
-/
def queueFrame
    (conn : ConnState)
    (frame : Bytes)
    (earlier later : List WriteOutcome) :
    Except IoError Unit × ConnState × Bytes :=
  let (flushed, pendingWrites, written) :=
    conn.pendingWrites.flushTo earlier
  match flushed with
  | .error error => (.error error, { conn with pendingWrites }, written)
  | .ok () =>
      let (enqueued, pendingWrites) := pendingWrites.enqueueFrame frame
      match enqueued with
      | .error error => (.error error, { conn with pendingWrites }, written)
      | .ok () =>
          let (flushed, pendingWrites, rest) := pendingWrites.flushTo later
          (flushed, { conn with pendingWrites }, written ++ rest)

end ConnState

namespace PacketTunnel

/-- `tcpFrame`. -/
def tcpFrame (frame : Bytes) : Bytes :=
  lengthPrefix frame.length ++ frame

/--
`deliverTCPFrames`: the frames handed to `frameHandler`, and what stays in
`tcpReadBuffer`.
-/
def deliverTcpFrames (tcpReadBuffer : Bytes) : List Bytes × Bytes :=
  match tcpReadBuffer with
  | first :: second :: payload =>
      let length := first.toNat <<< 8 ||| second.toNat
      if payload.length < length then
        ([], first :: second :: payload)
      else
        let (frames, rest) := deliverTcpFrames (payload.drop length)
        (payload.take length :: frames, rest)
  | buffer => ([], buffer)
termination_by tcpReadBuffer.length
decreasing_by
  simp only [List.length_cons, List.length_drop]
  omega

end PacketTunnel

end HushWire

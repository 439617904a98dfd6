import HushWire.Library.Fifo
import HushWire.TcpFraming

namespace HushWire

/-!
# The queue of pending writes

The buffer of `PendingWrites` has a consumed prefix that is dropped later.
What is behind it is a queue of bytes: `enqueue_frame` appends the encoding of
a frame or nothing, and `flush_to` takes from the front what the writer takes,
whatever the writer answers.
-/

/--
A writer takes no more bytes than it is offered, as `Write::write` requires,
where this many are pending.
-/
def WriteOutcome.Taken : List WriteOutcome → Nat → Prop
  | [], _ => True
  | .written count :: outcomes, pending =>
      count ≤ pending ∧ WriteOutcome.Taken outcomes (pending - count)
  | .failed _ :: outcomes, pending => WriteOutcome.Taken outcomes pending

/-- A call on a queue, with the answers of the writer and the result. -/
inductive QueueCall where
  | enqueueFrame (frame : Bytes) (result : Except IoError Unit)
  | flushTo
      (outcomes : List WriteOutcome)
      (result : Except IoError Unit)
      (written : Bytes)

/-- The frame that a call has accepted. -/
def QueueCall.accepted : QueueCall → Option Bytes
  | .enqueueFrame frame (.ok ()) => some frame
  | _ => none

/-- The bytes that the writer has taken in a call. -/
def QueueCall.written : QueueCall → Bytes
  | .enqueueFrame _ _ => []
  | .flushTo _ _ written => written

namespace PendingWrites

/-- The offset is within the buffer, and no more is pending than allowed. -/
structure Within (pending : PendingWrites) : Prop where
  offset : pending.offset ≤ pending.bytes.length
  limit : pending.pendingLen ≤ pending.limit

/-- A call, whose writer keeps to its contract. -/
inductive Step : PendingWrites → QueueCall → PendingWrites → Prop where
  | enqueueFrame
      {before after : PendingWrites}
      {frame : Bytes}
      {result : Except IoError Unit} :
      before.enqueueFrame frame = (result, after) →
      Step before (.enqueueFrame frame result) after
  | flushTo
      {before after : PendingWrites}
      {outcomes : List WriteOutcome}
      {result : Except IoError Unit}
      {written : Bytes} :
      WriteOutcome.Taken outcomes before.pendingLen →
      before.flushTo outcomes = (result, after, written) →
      Step before (.flushTo outcomes result written) after

theorem within_new (limit : Nat) : (new limit).Within where
  offset := Nat.le_refl 0
  limit := Nat.zero_le limit

@[simp] theorem limit_compact (pending : PendingWrites) :
    pending.compact.limit = pending.limit := by
  unfold compact
  split
  · rfl
  · split <;> rfl

theorem length_rest (pending : PendingWrites) :
    pending.rest.length = pending.pendingLen := by
  rw [rest, List.length_drop, pendingLen]

/-- An accepted frame fits into what the limit leaves. -/
theorem Within.enqueueFrame
    {pending after : PendingWrites}
    {frame : Bytes}
    {result : Except IoError Unit}
    (within : pending.Within)
    (queued : pending.enqueueFrame frame = (result, after)) :
    after.Within ∧ after.limit = pending.limit := by
  cases result with
  | error error =>
      rw [enqueueFrame_error queued]
      exact ⟨within, rfl⟩
  | ok =>
      have whole := congrArg List.length (enqueueFrame_ok queued).2
      unfold PendingWrites.enqueueFrame at queued
      split at queued
      · cases queued
      · split at queued
        · cases queued
        · rename_i fits
          cases queued
          rw [length_rest, List.length_append, length_rest] at whole
          refine ⟨⟨by simp, ?_⟩, limit_compact pending⟩
          have short := Nat.not_lt.mp fits
          rw [whole, List.length_append]
          simpa [lengthPrefix, Nat.add_assoc] using short

/-- Flushing keeps the offset within the buffer, and queues nothing. -/
theorem Within.flushTo
    {pending : PendingWrites}
    {outcomes : List WriteOutcome}
    (within : pending.Within)
    (taken : WriteOutcome.Taken outcomes pending.pendingLen) :
    (pending.flushTo outcomes).2.1.Within ∧
      (pending.flushTo outcomes).2.1.limit = pending.limit := by
  have emptied : ({ pending with bytes := [], offset := 0 } :
      PendingWrites).Within :=
    ⟨Nat.le_refl 0, Nat.zero_le pending.limit⟩
  induction outcomes generalizing pending with
  | nil =>
      unfold PendingWrites.flushTo
      split
      · exact ⟨within, rfl⟩
      · exact ⟨emptied, rfl⟩
  | cons outcome outcomes inductionHypothesis =>
      unfold PendingWrites.flushTo
      split
      · cases outcome with
        | written count =>
            cases count with
            | zero =>
                exact ⟨within, rfl⟩
            | succ count =>
                obtain ⟨notMore, others⟩ := taken
                have bound := within.offset
                have allowed := within.limit
                unfold pendingLen at notMore others allowed
                refine inductionHypothesis ⟨?_, ?_⟩ ?_ emptied
                · dsimp only
                  omega
                · unfold pendingLen
                  dsimp only
                  omega
                · unfold pendingLen
                  dsimp only
                  rw [← Nat.sub_sub]
                  exact others
        | failed error =>
            dsimp only
            split
            · exact inductionHypothesis within taken emptied
            · exact ⟨within, rfl⟩
            · exact ⟨within, rfl⟩
            · exact ⟨within, rfl⟩
      · exact ⟨emptied, rfl⟩

theorem Within.step
    {before after : PendingWrites}
    {call : QueueCall}
    (within : before.Within)
    (step : Step before call after) :
    after.Within ∧ after.limit = before.limit := by
  cases step with
  | enqueueFrame queued =>
      exact within.enqueueFrame queued
  | flushTo taken flushed =>
      have kept := within.flushTo taken
      rw [flushed] at kept
      exact kept

/-- The queue stays within its bounds, and its limit is what it was. -/
theorem within_of_execution
    {limit : Nat}
    {calls : List QueueCall}
    {pending : PendingWrites}
    (execution : Execution Step (.new limit) calls pending) :
    pending.Within ∧ pending.limit = limit :=
  execution.preserves
    (fun pending => pending.Within ∧ pending.limit = limit)
    ⟨within_new limit, rfl⟩
    fun _ kept step =>
      ⟨(kept.1.step step).1, (kept.1.step step).2.trans kept.2⟩

end PendingWrites

/-- What a call does to the queue of bytes. -/
def QueueCall.move : QueueCall → Fifo.Move UInt8
  | .enqueueFrame frame (.ok ()) => .push (PacketTunnel.tcpFrame frame)
  | .enqueueFrame _ (.error _) => .push []
  | .flushTo _ _ written => .pop written

/-- The frames that were accepted, and their encodings. -/
theorem pushed_moves (calls : List QueueCall) :
    Fifo.pushed (calls.map QueueCall.move) =
      tcpFraming.encodeAll (calls.filterMap QueueCall.accepted) := by
  induction calls with
  | nil =>
      rfl
  | cons call calls inductionHypothesis =>
      rw [List.map_cons, ← List.singleton_append, Fifo.pushed_append,
        inductionHypothesis]
      cases call with
      | enqueueFrame frame result =>
          cases result with
          | error error =>
              rw [List.filterMap_cons_none rfl]
              simp [QueueCall.move]
          | ok =>
              have isAccepted :
                  (QueueCall.enqueueFrame frame (.ok ())).accepted =
                    some frame :=
                rfl
              rw [List.filterMap_cons_some isAccepted,
                Framing.encodeAll_cons]
              simp [QueueCall.move, tcpFraming]
      | flushTo outcomes result written =>
          rw [List.filterMap_cons_none rfl]
          simp [QueueCall.move]

/-- The bytes that the writer has taken. -/
theorem popped_moves (calls : List QueueCall) :
    Fifo.popped (calls.map QueueCall.move) =
      calls.flatMap QueueCall.written := by
  induction calls with
  | nil =>
      rfl
  | cons call calls inductionHypothesis =>
      rw [List.map_cons, ← List.singleton_append, Fifo.popped_append,
        inductionHypothesis, List.flatMap_cons]
      cases call with
      | enqueueFrame frame result =>
          cases result <;> simp [QueueCall.move, QueueCall.written]
      | flushTo outcomes result written =>
          simp [QueueCall.move, QueueCall.written]

namespace PendingWrites

/-- Every call is a move of the bytes behind the offset. -/
theorem Step.refines
    {before after : PendingWrites}
    {call : QueueCall}
    (step : Step before call after) :
    Fifo.Step before.rest call.move after.rest := by
  cases step with
  | @enqueueFrame _ frame result queued =>
      cases result with
      | error error =>
          rw [enqueueFrame_error queued]
          simpa [QueueCall.move] using
            (Fifo.Step.push : Fifo.Step before.rest (.push []) _)
      | ok =>
          rw [(enqueueFrame_ok queued).2]
          exact .push
  | @flushTo _ outcomes result written _ flushed =>
      have keeps := before.flushTo_rest outcomes
      rw [flushed] at keeps
      rw [← keeps]
      exact .pop

/--
`ConnState::queue_frame` is a run of the queue: a flush, and unless it fails a
frame, and unless that is rejected another flush.
-/
theorem queueFrame_execution
    {conn after : ConnState}
    {frame : Bytes}
    {earlier later : List WriteOutcome}
    {result : Except IoError Unit}
    {written : Bytes}
    (earlierTaken :
      WriteOutcome.Taken earlier conn.pendingWrites.pendingLen)
    (laterTaken :
      ∀ pending,
        (conn.pendingWrites.flushTo earlier).2.1.enqueueFrame frame =
          (.ok (), pending) →
        WriteOutcome.Taken later pending.pendingLen)
    (queued :
      conn.queueFrame frame earlier later = (result, after, written)) :
    ∃ calls,
      Execution Step conn.pendingWrites calls after.pendingWrites ∧
        calls.flatMap QueueCall.written = written := by
  unfold ConnState.queueFrame at queued
  rcases flushed : conn.pendingWrites.flushTo earlier with
    ⟨error | ok, middle, first⟩
  · rw [flushed] at queued
    cases queued
    exact ⟨_, .single (.flushTo earlierTaken flushed), by
      simp [QueueCall.written]⟩
  · have run := Execution.single (Step.flushTo earlierTaken flushed)
    simp only [flushed] at queued
    rcases enqueued : middle.enqueueFrame frame with ⟨error | ok, pending⟩
    · simp only [enqueued] at queued
      cases queued
      exact ⟨_, run.snoc (.enqueueFrame enqueued), by
        simp [QueueCall.written]⟩
    · have taken := laterTaken pending (by rw [flushed]; exact enqueued)
      simp only [enqueued] at queued
      cases queued
      exact ⟨_, (run.snoc (.enqueueFrame enqueued)).snoc
        (.flushTo taken rfl), by simp [QueueCall.written]⟩

/--
In every state that calls can reach, what the writer has taken and what is
pending are the encodings of the accepted frames, no more is pending than the
limit allows, the offset is within the buffer, and a frame that is rejected
changes nothing.
-/
theorem pending_writes_refine_queue
    {limit : Nat}
    {calls : List QueueCall}
    {pending : PendingWrites}
    (execution : Execution Step (.new limit) calls pending) :
    calls.flatMap QueueCall.written ++ pending.rest =
        tcpFraming.encodeAll (calls.filterMap QueueCall.accepted) ∧
      pending.pendingLen ≤ limit ∧
      pending.offset ≤ pending.bytes.length ∧
      ∀ frame error after,
        pending.enqueueFrame frame = (.error error, after) →
        after = pending := by
  obtain ⟨within, isLimit⟩ := within_of_execution execution
  refine ⟨?_, isLimit ▸ within.limit, within.offset,
    fun _ _ _ => enqueueFrame_error⟩
  have moved := Fifo.popped_append_queue
    (Fifo.of_execution (fun step => step.refines) execution)
  rwa [pushed_moves, popped_moves, rest_new, List.nil_append] at moved

/--
A frame of three bytes is written in part, an interruption follows, and the
writer blocks; a second frame does not fit.
-/
theorem pending_writes_refine_queue_example :
    ([0, 3, 7] : Bytes) ++ [8, 9] = tcpFraming.encodeAll [[7, 8, 9]] := by
  have execution :
      Execution Step (.new 5)
        ([.enqueueFrame [7, 8, 9] (.ok ())] ++
          [.flushTo
            [.written 3, .failed { kind := .interrupted, message := "" },
              .failed { kind := .wouldBlock, message := "" }]
            (.ok ()) [0, 3, 7]] ++
          [.enqueueFrame [1, 2, 3]
            (.error
              { kind := .wouldBlock
                message := "TCP pending-write queue is full" })])
        { bytes := [0, 3, 7, 8, 9], offset := 3, limit := 5 } :=
    ((Execution.single (.enqueueFrame rfl)).snoc
      (.flushTo (by simp [WriteOutcome.Taken]; decide) rfl)).snoc
        (.enqueueFrame rfl)
  exact (pending_writes_refine_queue execution).1

end PendingWrites

end HushWire

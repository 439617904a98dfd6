import HushWire.Effects
import HushWire.ManagerRun

namespace HushWire

open Noise

/-!
# Reachable engines as executions of peer events

Whatever is called on an engine, its sessions change by peer events only, so
what holds of the empty table and is kept by each event holds in every engine
that can be reached.
-/

variable {snow : Snow}

namespace SessionState

/-- Every operation is an execution of peer events. -/
theorem operation_tableExecution
    (state : SessionState snow)
    (operation : Operation snow) :
    ∃ events,
      TableExecution state.table events
        (state.afterOperation operation).table := by
  cases operation with
  | encrypt peerName msgType payload now =>
      obtain ⟨drops, acts, execution, _⟩ :=
        state.encryptForPeer_execution peerName msgType payload now
      exact ⟨drops ++ acts, execution⟩
  | decrypt sessionId counter ciphertext now =>
      obtain ⟨drops, acts, execution, _⟩ :=
        state.decryptTransport_execution sessionId counter ciphertext now
      exact ⟨drops ++ acts, execution⟩
  | start peerName localStatic remoteStaticPub psk draw now =>
      obtain ⟨drops, acts, execution, _⟩ :=
        state.startOrRetryHandshake_execution peerName localStatic
          remoteStaticPub psk draw now
      exact ⟨drops ++ acts, execution⟩
  | answer peerName handshake handshakeId message passivePeer clock =>
      obtain ⟨drops, middle, dropRun, _, same | ⟨step, _⟩⟩ :=
        state.answer_drops peerName handshake handshakeId message passivePeer
          clock
      · exact ⟨drops, same ▸ dropRun⟩
      · exact ⟨_, dropRun.snoc step⟩
  | finalize handshakeId response clock =>
      obtain ⟨acts, execution, _⟩ :=
        state.finalizeInitiator_execution handshakeId response clock
      exact ⟨acts, execution⟩
  | invalidate peerName =>
      exact ⟨_, state.invalidatePeer_execution peerName⟩

theorem operations_tableExecution
    (state : SessionState snow)
    (operations : List (Operation snow)) :
    ∃ events,
      TableExecution state.table events
        (state.afterOperations operations).table := by
  induction operations generalizing state with
  | nil =>
      exact ⟨[], .nil⟩
  | cons operation rest inductionHypothesis =>
      obtain ⟨first, firstRun⟩ := state.operation_tableExecution operation
      obtain ⟨later, laterRun⟩ :=
        inductionHypothesis (state.afterOperation operation)
      exact ⟨first ++ later, firstRun.append laterRun⟩

end SessionState

namespace Engine

/-- Every call is an execution of peer events. -/
theorem perform_tableExecution
    (engine : Engine snow)
    (call : EngineCall snow) :
    ∃ events,
      TableExecution engine.sessions.table events
        (engine.perform call).2.sessions.table := by
  rw [engine.perform_sessions]
  exact engine.sessions.operations_tableExecution _

/-- No two sessions of a reachable engine share an identifier. -/
theorem Reachable.distinctIds
    {localStatic : Key}
    {router : Router}
    {engine : Engine snow}
    (reachable : Reachable localStatic router engine) :
    engine.sessions.table.DistinctBy Session.sessionId := by
  induction reachable with
  | start =>
      exact SessionState.distinctIds_new
  | perform _ call distinct =>
      obtain ⟨events, execution⟩ := Engine.perform_tableExecution _ call
      exact execution.preserves
        (fun table => table.DistinctBy Session.sessionId) distinct
        fun _ held taken => taken.distinctIds held

end Engine

end HushWire
